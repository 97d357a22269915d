import Mathlib.Data.List.Basic
import Mathlib.Tactic

/-! XBee API frames: the wire encoding, escaping, and the incremental parser. -/

namespace PocoDDS.XBee

/-- The largest number of decoded bytes one frame may occupy on the wire. -/
def maxFrameLength : Nat := 1024

/-- The byte that opens every frame and is never escaped. -/
def startDelimiter : UInt8 := 0x7E

/-- The byte that announces an escaped successor. -/
def escapeMarker : UInt8 := 0x7D

/-- The frame type is an enumeration over a full byte, so every value can occur. -/
abbrev FrameType := UInt8

/-- The type of a default-constructed frame. -/
def FrameType.invalid : FrameType := 0xFF

/-- A frame admitted by the constructor's size check. -/
structure XBeeFrame where
  type : FrameType
  data : List UInt8
  admitted : data.length + 5 ≤ maxFrameLength

/-- The default constructor. -/
def XBeeFrame.default : XBeeFrame where
  type := FrameType.invalid
  data := []
  admitted := by decide

/-- The checking constructor, which rejects oversized payloads. -/
def XBeeFrame.create (type : FrameType) (data : List UInt8) : Except String XBeeFrame :=
  if admitted : data.length + 5 ≤ maxFrameLength then .ok ⟨type, data, admitted⟩
  else .error "XBee frame exceeds maximum size"

/-- Bytes that may not appear literally after the delimiter in escaped mode. -/
def requiresEscape (byte : UInt8) : Bool :=
  byte == 0x7E || byte == 0x7D || byte == 0x11 || byte == 0x13

/-- The byte sum accumulated by both the encoder and the parser. -/
def byteSum (bytes : List UInt8) : Nat :=
  -- At most 1021 bytes are ever added, so the 32-bit accumulator cannot wrap.
  bytes.foldl (fun sum byte => sum + byte.toNat) 0

/-- The unescaped wire image: delimiter, big-endian length, type, payload, checksum. -/
def XBeeFrame.raw (frame : XBeeFrame) : List UInt8 :=
  let length := frame.data.length + 1
  [startDelimiter, UInt8.ofNat (length >>> 8), UInt8.ofNat length, frame.type] ++ frame.data ++
    [UInt8.ofNat (0xFF - (byteSum (frame.type :: frame.data) &&& 0xFF))]

/-- Escaping of the bytes after the delimiter. -/
def escapeBytes : List UInt8 → List UInt8
  | [] => []
  | byte :: rest =>
    if requiresEscape byte then escapeMarker :: (byte ^^^ 0x20) :: escapeBytes rest
    else byte :: escapeBytes rest

/-- The bytes a port writes for one frame. -/
def XBeeFrame.encode (frame : XBeeFrame) (escaped : Bool) : List UInt8 :=
  if !escaped then frame.raw
  else match frame.raw with
    | [] => []
    -- The delimiter itself is copied, and only its successors are escaped.
    | first :: rest => first :: escapeBytes rest

/-- The unescaping loop after the first byte, carrying the pending-escape flag. -/
def unescapeFrom (escape : Bool) : List UInt8 → List UInt8
  | [] => []
  | byte :: rest =>
    if escape then (byte ^^^ 0x20) :: unescapeFrom false rest
    else if byte == escapeMarker then unescapeFrom true rest
    else byte :: unescapeFrom false rest

/-- Unescaping copies the first byte whatever it is. -/
def unescape : List UInt8 → List UInt8
  | [] => []
  | first :: rest => first :: unescapeFrom false rest

/-- The number of raw bytes after the first that carry the requested decoded bytes. -/
def rawPrefixFrom : List UInt8 → Nat → Nat
  | [], _ => 0
  | _ :: _, 0 => 0
  -- A trailing marker has no successor and counts as one byte.
  | [_], _ + 1 => 1
  | byte :: next :: rest, count + 1 =>
    if byte == escapeMarker then 2 + rawPrefixFrom rest count
    else 1 + rawPrefixFrom (next :: rest) count

/-- The number of raw bytes that carry the requested number of decoded bytes. -/
def rawPrefixForDecoded : List UInt8 → Nat → Nat
  | [], _ => 0
  | _ :: _, 0 => 0
  -- The first byte is never read as an escape marker.
  | _ :: rest, count + 1 => 1 + rawPrefixFrom rest count

/-- What one parse attempt reports. -/
inductive ParseStatus
  | ok
  | notEnoughData
  | notFound
  | badChecksum
  deriving DecidableEq, Repr

/-- The output arguments of a parse attempt. -/
structure ParseResult where
  status : ParseStatus
  frame : XBeeFrame
  consumed : Nat

/-- The bytes the parser scans: the buffer itself, or its unescaped image. -/
def decodeBuffer (escaped : Bool) (bytes : List UInt8) : List UInt8 :=
  if escaped then unescape bytes else bytes

/-- The number of buffered bytes to consume for a number of decoded bytes. -/
def consumedFor (escaped : Bool) (bytes : List UInt8) (count : Nat) : Nat :=
  if escaped then rawPrefixForDecoded bytes count else count

/-- One parse attempt over the buffered bytes; `frame` is the caller's output variable. -/
def XBeeFrame.parse (frame : XBeeFrame) (bytes : List UInt8) (escaped : Bool) :
    Except String ParseResult :=
  if bytes.isEmpty then .ok ⟨.notEnoughData, frame, 0⟩
  else
    let decoded := decodeBuffer escaped bytes
    let offset := decoded.findIdx (· == startDelimiter)
    if offset = decoded.length then .ok ⟨.notFound, frame, bytes.length⟩
    else if decoded.length - offset < 4 then
      .ok ⟨.notEnoughData, frame, if offset > 0 then consumedFor escaped bytes offset else 0⟩
    else
      let start := decoded.drop offset
      let length := (start.getD 1 0).toNat <<< 8 ||| (start.getD 2 0).toNat
      if length = 0 ∨ length + 4 > maxFrameLength then
        .ok ⟨.notFound, frame, consumedFor escaped bytes (offset + 1)⟩
      else
        let total := 3 + length + 1
        if decoded.length - offset < total then
          .ok ⟨.notEnoughData, frame, if offset > 0 then consumedFor escaped bytes offset else 0⟩
        else
          let consumed := consumedFor escaped bytes (offset + total)
          -- The checksum byte is part of the sum, so an intact frame adds up to 0xFF.
          if byteSum ((start.take total).drop 3) &&& 0xFF ≠ 0xFF then
            .ok ⟨.badChecksum, frame, consumed⟩
          else do
            let parsed ← XBeeFrame.create (start.getD 3 0) ((start.take (3 + length)).drop 4)
            return ⟨.ok, parsed, consumed⟩

end PocoDDS.XBee
