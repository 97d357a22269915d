import PocoDDS.Lib.Cdr

/-! The type support of the DDS envelope: what `serialize` writes, `deserialize` reads. -/

namespace PocoDDS.FastDDS

open CdrFormat

/-- An envelope as its type support sees it: numbers of a fixed width, and strings of bytes. -/
structure EnvelopeData where
  sequence : UInt64 := 0
  timestampMicroseconds : Int64 := 0
  kind : List UInt8 := []
  deviceId : List UInt8 := []
  operation : List UInt8 := []
  payload : List UInt8 := []
  correlationId : List UInt8 := []
  traceParent : List UInt8 := []
  traceState : List UInt8 := []
  businessName : List UInt8 := []
  businessInstanceId : List UInt8 := []
  status : Int32 := 0
  deriving DecidableEq, Repr

inductive DataRepresentationId
  | xcdrDataRepresentation
  | xcdr2DataRepresentation
  deriving DecidableEq, Repr

def DataRepresentationId.version : DataRepresentationId → Version
  | .xcdrDataRepresentation => .xcdr1
  | .xcdr2DataRepresentation => .xcdr2

/-- The payload of a sample: the buffer with its size, and the length of what was written. -/
structure SerializedPayload where
  bytes : List UInt8
  length : UInt32
  deriving DecidableEq, Repr

/-- The second byte of the header: the encoding, plain or delimited, and the order of the bytes. -/
def encapsulationKind (version : Version) (endianness : Endianness) : UInt8 :=
  (match version with
    | .xcdr1 => 0x00
    | .xcdr2 => 0x08) +
  match endianness with
    | .big => 0
    | .little => 1

/-- The header is written first, and alignment starts behind it. -/
def serializeEncapsulation (writer : Writer) : Option Writer :=
  (writer.put [0, encapsulationKind writer.version writer.endianness, 0, 0]).map fun writer =>
    { writer with origin := writer.bytes.length }

/-- The two option bytes of the header are set once everything is written. -/
def setDdsCdrOptions (bytes : List UInt8) : List UInt8 :=
  (bytes.set 2 0).set 3 0

def serialize (endianness : Endianness) (stale : Nat → UInt8) (maxSize : Nat)
    (value : EnvelopeData) (representation : DataRepresentationId) : Option SerializedPayload := do
  let serializer : Writer :=
    { version := representation.version, endianness, capacity := maxSize, stale }
  let serializer ← serializeEncapsulation serializer
  let serializer ← serializer.number 8 value.sequence.toNat
  let serializer ← serializer.number 8 value.timestampMicroseconds.toUInt64.toNat
  let serializer ← serializer.string value.kind
  let serializer ← serializer.string value.deviceId
  let serializer ← serializer.string value.operation
  let serializer ← serializer.string value.payload
  let serializer ← serializer.string value.correlationId
  let serializer ← serializer.string value.traceParent
  let serializer ← serializer.string value.traceState
  let serializer ← serializer.string value.businessName
  let serializer ← serializer.string value.businessInstanceId
  let serializer ← serializer.number 4 value.status.toUInt32.toNat
  let bytes := setDdsCdrOptions serializer.bytes
  return ⟨bytes, UInt32.ofNat bytes.length⟩

/-- The header decides how the rest is read; a kind that is not known is refused. -/
def readEncapsulation (bytes : List UInt8) : Option Reader :=
  match bytes with
  | _ :: kind :: _ :: _ :: rest =>
    let endianness := if kind % 2 = 1 then Endianness.little else .big
    if kind / 2 = 0 ∨ kind / 2 = 1 then some ⟨.xcdr1, endianness, 0, rest⟩
    else if kind / 2 = 3 ∨ kind / 2 = 4 ∨ kind / 2 = 5 then some ⟨.xcdr2, endianness, 0, rest⟩
    else none
  | _ => none

def deserialize (payload : SerializedPayload) : Option EnvelopeData := do
  let deserializer ← readEncapsulation (payload.bytes.take payload.length.toNat)
  let (sequence, deserializer) ← deserializer.number 8
  let (timestampMicroseconds, deserializer) ← deserializer.number 8
  let (kind, deserializer) ← deserializer.string
  let (deviceId, deserializer) ← deserializer.string
  let (operation, deserializer) ← deserializer.string
  let (payload, deserializer) ← deserializer.string
  let (correlationId, deserializer) ← deserializer.string
  let (traceParent, deserializer) ← deserializer.string
  let (traceState, deserializer) ← deserializer.string
  let (businessName, deserializer) ← deserializer.string
  let (businessInstanceId, deserializer) ← deserializer.string
  let (status, _) ← deserializer.number 4
  return {
    sequence := UInt64.ofNat sequence
    timestampMicroseconds := (UInt64.ofNat timestampMicroseconds).toInt64
    kind, deviceId, operation, payload, correlationId, traceParent, traceState, businessName
    businessInstanceId
    status := (UInt32.ofNat status).toInt32 }

def EnvelopeData.strings (value : EnvelopeData) : List (List UInt8) :=
  [value.kind, value.deviceId, value.operation, value.payload, value.correlationId,
    value.traceParent, value.traceState, value.businessName, value.businessInstanceId]

/-- The size that is estimated for a payload, whatever the representation. -/
def calculateSerializedSize (value : EnvelopeData) (_ : DataRepresentationId) : UInt32 :=
  let scalarAndEncapsulation : UInt32 := 4 + 8 + 8 + 4
  scalarAndEncapsulation + UInt32.ofNat (value.strings.map List.length).sum + 9 * 8 + 32

theorem serialize_eq (endianness : Endianness) (stale : Nat → UInt8) (maxSize : Nat)
    (value : EnvelopeData) (representation : DataRepresentationId) :
    serialize endianness stale maxSize value representation = (do
      let serializer ← serializeEncapsulation
        { version := representation.version, endianness, capacity := maxSize, stale }
      let serializer ← serializer.number 8 value.sequence.toNat
      let serializer ← serializer.number 8 value.timestampMicroseconds.toUInt64.toNat
      let serializer ← serializer.strings value.strings
      let serializer ← serializer.number 4 value.status.toUInt32.toNat
      let bytes := setDdsCdrOptions serializer.bytes
      return ⟨bytes, UInt32.ofNat bytes.length⟩) := by
  simp [serialize, EnvelopeData.strings, Writer.strings, Option.bind_assoc]

theorem deserialize_eq {payload : SerializedPayload} {value : EnvelopeData}
    {first second third fourth last : Reader}
    (header : readEncapsulation (payload.bytes.take payload.length.toNat) = some first)
    (sequence : first.number 8 = some (value.sequence.toNat, second))
    (timestamp : second.number 8 = some (value.timestampMicroseconds.toUInt64.toNat, third))
    (strings : third.strings 9 = some (value.strings, fourth))
    (status : fourth.number 4 = some (value.status.toUInt32.toNat, last)) :
    deserialize payload = some value := by
  simp only [EnvelopeData.strings, Reader.strings_succ_iff, Reader.strings_zero, Option.some.injEq,
    Prod.mk.injEq, true_and] at strings
  obtain ⟨_, kind, _, deviceId, _, operation, _, content, _, correlationId, _, traceParent, _,
    traceState, _, businessName, _, businessInstanceId, rfl⟩ := strings
  unfold deserialize
  refine Option.bind_eq_some_iff.mpr ⟨_, header, ?_⟩
  refine Option.bind_eq_some_iff.mpr ⟨_, sequence, ?_⟩
  refine Option.bind_eq_some_iff.mpr ⟨_, timestamp, ?_⟩
  refine Option.bind_eq_some_iff.mpr ⟨_, kind, ?_⟩
  refine Option.bind_eq_some_iff.mpr ⟨_, deviceId, ?_⟩
  refine Option.bind_eq_some_iff.mpr ⟨_, operation, ?_⟩
  refine Option.bind_eq_some_iff.mpr ⟨_, content, ?_⟩
  refine Option.bind_eq_some_iff.mpr ⟨_, correlationId, ?_⟩
  refine Option.bind_eq_some_iff.mpr ⟨_, traceParent, ?_⟩
  refine Option.bind_eq_some_iff.mpr ⟨_, traceState, ?_⟩
  refine Option.bind_eq_some_iff.mpr ⟨_, businessName, ?_⟩
  refine Option.bind_eq_some_iff.mpr ⟨_, businessInstanceId, ?_⟩
  refine Option.bind_eq_some_iff.mpr ⟨_, status, ?_⟩
  -- The numbers have kept their widths.
  simp

/-- The header takes four bytes, and alignment starts behind it. -/
theorem serializeEncapsulation_eq {writer : Writer} (empty : writer.bytes = [])
    (room : 4 ≤ writer.capacity) :
    serializeEncapsulation writer = some { writer with
      bytes := [0, encapsulationKind writer.version writer.endianness, 0, 0]
      origin := 4 } := by
  simp [serializeEncapsulation, Writer.put, empty, room]

theorem readEncapsulation_header (version : Version) (endianness : Endianness) (rest : List UInt8) :
    readEncapsulation ([0, encapsulationKind version endianness, 0, 0] ++ rest) =
      some ⟨version, endianness, 0, rest⟩ := by
  -- There are two versions and two orders of the bytes.
  cases version <;> cases endianness <;> rfl

/-- Setting the options changes nothing, for they are zero already. -/
theorem setDdsCdrOptions_header (kind : UInt8) (rest : List UInt8) :
    setDdsCdrOptions ([0, kind, 0, 0] ++ rest) = [0, kind, 0, 0] ++ rest :=
  rfl

/-- Below the limit the estimate does not wrap around. -/
theorem calculateSerializedSize_toNat {value : EnvelopeData}
    (total : (value.strings.map List.length).sum < 2 ^ 32 - 256)
    (representation : DataRepresentationId) :
    (calculateSerializedSize value representation).toNat =
      (value.strings.map List.length).sum + 128 := by
  have small : (UInt32.ofNat (value.strings.map List.length).sum).toNat =
      (value.strings.map List.length).sum := by
    refine UInt32.toNat_ofNat_of_lt' ?_
    rw [UInt32.size]
    omega
  simp only [calculateSerializedSize, UInt32.toNat_add, small]
  simp only [UInt32.reduceToNat, UInt32.reduceMul]
  omega

/-- No string is longer than all of them together. -/
theorem EnvelopeData.length_le {value : EnvelopeData} {text : List UInt8}
    (member : text ∈ value.strings) : text.length ≤ (value.strings.map List.length).sum :=
  List.single_le_sum (by simp) _ (List.mem_map.mpr ⟨text, member, rfl⟩)

/-- A number of eight bytes needs no padding at the offsets of the two numbers of an envelope. -/
theorem skipped_eight {writer : Writer} (aligned : (writer.bytes.length - writer.origin) % 8 = 0) :
    (writer.skipped 8).length = 0 := by
  rw [writer.length_skipped]
  refine padding_eq_zero ?_
  -- Eight bytes are aligned to eight or to four.
  cases writer.version with
  | xcdr1 => exact aligned
  | xcdr2 =>
    show (writer.bytes.length - writer.origin) % 4 = 0
    omega

/-- The writer behind the header of an envelope. -/
def headed (endianness : Endianness) (stale : Nat → UInt8) (maxSize : Nat)
    (representation : DataRepresentationId) : Writer where
  version := representation.version
  endianness
  capacity := maxSize
  stale
  bytes := [0, encapsulationKind representation.version endianness, 0, 0]
  origin := 4

/-- All five parts of an envelope fit where its estimated size fits. -/
theorem serialize_parts (endianness : Endianness) (stale : Nat → UInt8) {maxSize : Nat}
    {value : EnvelopeData} (representation : DataRepresentationId)
    (clean : ∀ text ∈ value.strings, (0 : UInt8) ∉ text)
    (total : (value.strings.map List.length).sum < 2 ^ 32 - 256)
    (room : (value.strings.map List.length).sum + 128 ≤ maxSize) :
    ∃ one two three four : Writer, ∃ sequence timestamp texts status : List UInt8,
      Writes (headed endianness stale maxSize representation) one (·.number 8)
        value.sequence.toNat sequence ∧
      Writes one two (·.number 8) value.timestampMicroseconds.toUInt64.toNat timestamp ∧
      Writes two three (Reader.strings 9) value.strings texts ∧
      Writes three four (·.number 4) value.status.toUInt32.toNat status ∧
      four.bytes.length ≤ (value.strings.map List.length).sum + 128 ∧
      serialize endianness stale maxSize value representation =
        some ⟨setDdsCdrOptions four.bytes, UInt32.ofNat (setDdsCdrOptions four.bytes).length⟩ := by
  -- The two numbers follow the header without padding.
  have plain : ((headed endianness stale maxSize representation).skipped 8).length = 0 :=
    skipped_eight (by simp [headed])
  have four : (headed endianness stale maxSize representation).bytes.length = 4 := rfl
  obtain ⟨one, sequence, wroteSequence, sequenceSize, first⟩ :=
    (headed endianness stale maxSize representation).number_writes
      (show value.sequence.toNat < 256 ^ 8 from value.sequence.toNat_lt) (by simp [headed])
      (by rw [plain]; simp [headed]; omega)
  have firstLength := first.length
  have firstOrigin : one.origin = 4 := by rw [first.continued]; rfl
  have firstCapacity : one.capacity = maxSize := first.capacity
  have aligned : (one.skipped 8).length = 0 := skipped_eight (by omega)
  obtain ⟨two, timestamp, wroteTimestamp, timestampSize, second⟩ := one.number_writes
    (show value.timestampMicroseconds.toUInt64.toNat < 256 ^ 8 from
      value.timestampMicroseconds.toUInt64.toNat_lt) (by omega) (by omega)
  have secondLength := second.length
  have secondCapacity := second.capacity
  have nine : value.strings.length = 9 := rfl
  -- Each of the nine strings may take eight bytes more than it has.
  obtain ⟨three, texts, wroteStrings, bound, third⟩ := two.strings_writes clean
    (fun text member => by have := EnvelopeData.length_le member; omega)
    (second.behind (by omega)) (by omega)
  have thirdLength := third.length
  have thirdCapacity := third.capacity
  have padded := three.length_skipped_four
  obtain ⟨last, status, wroteStatus, statusSize, fourth⟩ := three.number_writes
    (show value.status.toUInt32.toNat < 256 ^ 4 from value.status.toUInt32.toNat_lt)
    (third.behind (second.behind (by omega))) (by omega)
  have fourthLength := fourth.length
  refine ⟨one, two, three, last, sequence, timestamp, texts, status, first, second, third, fourth,
    by omega, ?_⟩
  rw [serialize_eq, serializeEncapsulation_eq rfl (by dsimp only; omega)]
  show (do
    let serializer ← (headed endianness stale maxSize representation).number 8 value.sequence.toNat
    _) = _
  rw [wroteSequence]
  simp [wroteTimestamp, wroteStrings, wroteStatus]

/-- An envelope whose strings hold no zero byte survives the wire: what is written is within the
estimated size, so that it fits a payload of that size, and it is read back as it was. -/
theorem envelope_survives_wire (endianness : Endianness) (stale : Nat → UInt8) (maxSize : Nat)
    (value : EnvelopeData) (representation : DataRepresentationId)
    (clean : ∀ text ∈ value.strings, (0 : UInt8) ∉ text)
    (total : (value.strings.map List.length).sum < 2 ^ 32 - 256)
    (room : (calculateSerializedSize value representation).toNat ≤ maxSize) :
    ∃ payload, serialize endianness stale maxSize value representation = some payload ∧
      payload.bytes.length ≤ (calculateSerializedSize value representation).toNat ∧
      payload.length.toNat = payload.bytes.length ∧ deserialize payload = some value := by
  have estimate := calculateSerializedSize_toNat total representation
  rw [estimate] at room ⊢
  obtain ⟨one, two, three, four, sequence, timestamp, texts, status, first, second, third, fourth,
    bound, wrote⟩ := serialize_parts endianness stale representation clean total room
  -- All that was written is the header and the four parts behind it.
  have whole : four.bytes = [0, encapsulationKind representation.version endianness, 0, 0] ++
      (sequence ++ (timestamp ++ (texts ++ (status ++ [])))) := by
    rw [fourth.continued, third.continued, second.continued, first.continued]
    simp [headed, List.append_assoc]
  have unchanged : setDdsCdrOptions four.bytes = four.bytes := by
    rw [whole, setDdsCdrOptions_header]
  rw [unchanged] at wrote
  have exact : (UInt32.ofNat four.bytes.length).toNat = four.bytes.length := by
    refine UInt32.toNat_ofNat_of_lt' ?_
    rw [UInt32.size]
    omega
  refine ⟨_, wrote, bound, exact, ?_⟩
  -- The reader follows the writer from part to part.
  refine deserialize_eq ?_ (first.readBack _) (second.readBack _) (third.readBack _)
    (fourth.readBack [])
  dsimp only
  rw [exact, List.take_length, whole, readEncapsulation_header]
  rfl

/-- A sample in the delimited encoding, with strings that shift the alignment of what follows. -/
theorem sample_envelope_survives_wire :
    ∃ payload, serialize .little (fun _ => 0xff) 135
        { sequence := 7, timestampMicroseconds := -1, kind := [99], deviceId := [100, 49]
          payload := [1, 2, 3, 4], status := -2 } .xcdr2DataRepresentation = some payload ∧
      payload.bytes.length ≤ 135 ∧ payload.length.toNat = payload.bytes.length ∧
      deserialize payload = some
        { sequence := 7, timestampMicroseconds := -1, kind := [99], deviceId := [100, 49]
          payload := [1, 2, 3, 4], status := -2 } :=
  envelope_survives_wire .little (fun _ => 0xff) 135
    { sequence := 7, timestampMicroseconds := -1, kind := [99], deviceId := [100, 49]
      payload := [1, 2, 3, 4], status := -2 } .xcdr2DataRepresentation
    (by decide) (by decide) (by decide)

end PocoDDS.FastDDS
