import Mathlib.Data.List.TakeWhile
import Mathlib.Tactic

/-!
Common data representation: aligned numbers and strings behind an encapsulation header.

A writer fills a buffer of a fixed capacity. Bytes that are skipped to align a number keep what the
buffer held before, and a reader skips them again.
-/

namespace CdrFormat

/-- The two encodings differ in the alignment of numbers of eight bytes. -/
inductive Version
  | xcdr1
  | xcdr2
  deriving DecidableEq, Repr

def Version.maximumAlignment : Version → Nat
  | .xcdr1 => 8
  | .xcdr2 => 4

inductive Endianness
  | big
  | little
  deriving DecidableEq, Repr

/-- The bytes of a number, the lowest first. -/
def littleBytes : (width value : Nat) → List UInt8
  | 0, _ => []
  | width + 1, value => UInt8.ofNat value :: littleBytes width (value / 256)

def ofLittleBytes : List UInt8 → Nat
  | [] => 0
  | byte :: rest => byte.toNat + 256 * ofLittleBytes rest

def numberBytes (endianness : Endianness) (width value : Nat) : List UInt8 :=
  match endianness with
  | .little => littleBytes width value
  | .big => (littleBytes width value).reverse

def ofNumberBytes (endianness : Endianness) (bytes : List UInt8) : Nat :=
  match endianness with
  | .little => ofLittleBytes bytes
  | .big => ofLittleBytes bytes.reverse

@[simp] theorem length_littleBytes (width value : Nat) : (littleBytes width value).length = width := by
  induction width generalizing value with
  | zero => rfl
  | succ width ih => simp [littleBytes, ih]

theorem ofLittleBytes_littleBytes (width value : Nat) (small : value < 256 ^ width) :
    ofLittleBytes (littleBytes width value) = value := by
  induction width generalizing value with
  | zero =>
    -- Only zero needs no byte at all.
    simp only [pow_zero] at small
    simp [littleBytes, ofLittleBytes]
    omega
  | succ width ih =>
    have rest : value / 256 < 256 ^ width := by
      rw [pow_succ] at small
      exact Nat.div_lt_of_lt_mul (by linarith)
    have lowest : (UInt8.ofNat value).toNat = value % 256 := by simp
    rw [littleBytes, ofLittleBytes, ih _ rest, lowest]
    omega

@[simp] theorem length_numberBytes (endianness : Endianness) (width value : Nat) :
    (numberBytes endianness width value).length = width := by
  cases endianness <;> simp [numberBytes]

/-- A number that fits its width survives in either order of the bytes. -/
theorem ofNumberBytes_numberBytes (endianness : Endianness) {width value : Nat}
    (small : value < 256 ^ width) :
    ofNumberBytes endianness (numberBytes endianness width value) = value := by
  cases endianness with
  | little => exact ofLittleBytes_littleBytes width value small
  | big =>
    simp only [ofNumberBytes, numberBytes, List.reverse_reverse]
    exact ofLittleBytes_littleBytes width value small

/-- How many bytes are skipped so that an offset becomes a multiple of an alignment. -/
def padding (alignment offset : Nat) : Nat :=
  (alignment - offset % alignment) % alignment

theorem padding_lt {alignment : Nat} (positive : 0 < alignment) (offset : Nat) :
    padding alignment offset < alignment :=
  Nat.mod_lt _ positive

/-- An offset that is aligned already needs no padding. -/
theorem padding_eq_zero {alignment offset : Nat} (aligned : offset % alignment = 0) :
    padding alignment offset = 0 := by
  rw [padding, aligned, Nat.sub_zero, Nat.mod_self]

def Version.alignment (version : Version) (width : Nat) : Nat :=
  min width version.maximumAlignment

/-- A buffer that is being filled. -/
structure Writer where
  version : Version
  endianness : Endianness
  capacity : Nat
  /-- What the buffer held before at each offset. -/
  stale : Nat → UInt8
  bytes : List UInt8 := []
  /-- Where offsets are counted from. -/
  origin : Nat := 0

/-- What a writer skips before a number. -/
def Writer.skipped (writer : Writer) (width : Nat) : List UInt8 :=
  let count := padding (writer.version.alignment width) (writer.bytes.length - writer.origin)
  (List.range count).map fun index => writer.stale (writer.bytes.length + index)

/-- Appending fails where the buffer is full. -/
def Writer.put (writer : Writer) (data : List UInt8) : Option Writer :=
  if writer.bytes.length + data.length ≤ writer.capacity then
    some { writer with bytes := writer.bytes ++ data }
  else none

def Writer.number (writer : Writer) (width value : Nat) : Option Writer :=
  writer.put (writer.skipped width ++ numberBytes writer.endianness width value)

/-- A string is read up to its first zero byte, and that byte is written too. -/
def cString (text : List UInt8) : List UInt8 :=
  text.takeWhile (· ≠ 0)

def Writer.string (writer : Writer) (text : List UInt8) : Option Writer := do
  let length := ((cString text).length + 1) % 2 ^ 32
  let writer ← writer.number 4 length
  writer.put ((cString text ++ [0]).take length)

def Writer.strings (writer : Writer) : List (List UInt8) → Option Writer
  | [] => some writer
  | text :: texts => do
    let writer ← writer.string text
    writer.strings texts

/-- The unread part of a buffer, and its offset from where offsets are counted. -/
structure Reader where
  version : Version
  endianness : Endianness
  offset : Nat
  rest : List UInt8
  deriving DecidableEq, Repr

def Reader.take (reader : Reader) (count : Nat) : Option (List UInt8 × Reader) :=
  if count ≤ reader.rest.length then
    some (reader.rest.take count,
      { reader with offset := reader.offset + count, rest := reader.rest.drop count })
  else none

def Reader.number (reader : Reader) (width : Nat) : Option (Nat × Reader) := do
  let skipped := padding (reader.version.alignment width) reader.offset
  let (bytes, reader) ← reader.take (skipped + width)
  return (ofNumberBytes reader.endianness (bytes.drop skipped), reader)

/-- A terminating zero byte does not belong to the string. -/
def Reader.string (reader : Reader) : Option (List UInt8 × Reader) := do
  let (length, reader) ← reader.number 4
  if length = 0 then return ([], reader)
  let (bytes, reader) ← reader.take length
  return (if bytes.getLast? = some 0 then bytes.dropLast else bytes, reader)

def Reader.strings : (count : Nat) → Reader → Option (List (List UInt8) × Reader)
  | 0, reader => some ([], reader)
  | count + 1, reader => do
    let (text, reader) ← reader.string
    let (texts, reader) ← Reader.strings count reader
    return (text :: texts, reader)

theorem Reader.strings_zero (reader : Reader) : reader.strings 0 = some ([], reader) :=
  rfl

/-- Reading several strings is reading the first and then the others. -/
theorem Reader.strings_succ_iff {count : Nat} {reader last : Reader} {text : List UInt8}
    {texts : List (List UInt8)} :
    reader.strings (count + 1) = some (text :: texts, last) ↔
      ∃ next, reader.string = some (text, next) ∧ next.strings count = some (texts, last) := by
  constructor
  · intro read
    simp only [Reader.strings, Option.bind_eq_bind, Option.bind_eq_some_iff, Prod.exists] at read
    obtain ⟨_, next, one, _, _, all, same⟩ := read
    cases same
    exact ⟨next, one, all⟩
  · rintro ⟨next, one, all⟩
    simp [Reader.strings, one, all]

/-- A reader that stands where a writer stands. -/
def Writer.reader (writer : Writer) (rest : List UInt8) : Reader :=
  ⟨writer.version, writer.endianness, writer.bytes.length - writer.origin, rest⟩

/-- One writer continues another by some bytes, which a reader at that place takes for a value. -/
structure Writes {α : Type} (before after : Writer) (read : Reader → Option (α × Reader))
    (value : α) (chunk : List UInt8) : Prop where
  continued : after = { before with bytes := before.bytes ++ chunk }
  readBack : ∀ more, read (before.reader (chunk ++ more)) = some (value, after.reader more)

section Writes

variable {α : Type} {before after : Writer} {read : Reader → Option (α × Reader)} {value : α}
  {chunk : List UInt8}

variable (writes : Writes before after read value chunk)
include writes

theorem Writes.length :
    after.bytes.length = before.bytes.length + chunk.length := by
  rw [writes.continued]
  simp

theorem Writes.capacity :
    after.capacity = before.capacity := by
  rw [writes.continued]

/-- Alignment keeps its origin. -/
theorem Writes.behind (behind : before.origin ≤ before.bytes.length) :
    after.origin ≤ after.bytes.length := by
  have longer := writes.length
  have same : after.origin = before.origin := by rw [writes.continued]
  omega

end Writes

theorem Writer.length_skipped (writer : Writer) (width : Nat) : (writer.skipped width).length =
    padding (writer.version.alignment width) (writer.bytes.length - writer.origin) := by
  simp [Writer.skipped]

/-- A number is written and read back, after at most as much padding as is skipped for it. -/
theorem Writer.number_writes (writer : Writer) {width value : Nat} (small : value < 256 ^ width)
    (behind : writer.origin ≤ writer.bytes.length)
    (room : writer.bytes.length + (writer.skipped width).length + width ≤ writer.capacity) :
    ∃ after chunk, writer.number width value = some after ∧
      chunk.length = (writer.skipped width).length + width ∧
      Writes writer after (·.number width) value chunk := by
  refine ⟨{ writer with bytes := writer.bytes ++
    (writer.skipped width ++ numberBytes writer.endianness width value) }, _, ?_, by simp, rfl, ?_⟩
  · unfold Writer.number Writer.put
    rw [if_pos]
    simp only [List.length_append, length_numberBytes]
    omega
  · intro more
    have skipped := writer.length_skipped width
    -- The reader skips as much as the writer did, because it stands at the same offset.
    simp only [Reader.number, Reader.take, Writer.reader, ← skipped, Option.bind_eq_bind]
    rw [if_pos (by simp)]
    have taken : ((writer.skipped width ++ numberBytes writer.endianness width value ++ more).take
        ((writer.skipped width).length + width)).drop (writer.skipped width).length =
        numberBytes writer.endianness width value := by
      rw [List.take_append_of_le_length (by simp), List.take_of_length_le (by simp), List.drop_left]
    have left : (writer.skipped width ++ numberBytes writer.endianness width value ++ more).drop
        ((writer.skipped width).length + width) = more := by
      have whole : (writer.skipped width).length + width =
          (writer.skipped width ++ numberBytes writer.endianness width value).length := by simp
      rw [whole, List.drop_left]
    -- Both have advanced by the same number of bytes.
    have offset : writer.bytes.length - writer.origin + ((writer.skipped width).length + width) =
        (writer.bytes ++ (writer.skipped width ++
          numberBytes writer.endianness width value)).length - writer.origin := by
      simp only [List.length_append, length_numberBytes]
      omega
    simp only [Option.bind_some, taken, left, pure, offset]
    rw [ofNumberBytes_numberBytes _ small]

/-- What precedes the first zero byte is the whole text if there is none. -/
theorem cString_eq {text : List UInt8} (clean : (0 : UInt8) ∉ text) : cString text = text := by
  unfold cString
  refine List.takeWhile_eq_self_iff.mpr fun byte member => ?_
  have nonzero : byte ≠ 0 := fun zero => clean (zero ▸ member)
  simpa using nonzero

/-- A number of four bytes is aligned to four bytes in both encodings. -/
theorem Writer.length_skipped_four (writer : Writer) : (writer.skipped 4).length ≤ 3 := by
  have aligned : writer.version.alignment 4 = 4 := by
    cases writer.version <;> rfl
  rw [writer.length_skipped, aligned]
  have bound := padding_lt (show 0 < 4 by norm_num) (writer.bytes.length - writer.origin)
  omega

/-- A string without zero bytes is written and read back; it takes at most eight bytes more than it
has itself. -/
theorem Writer.string_writes (writer : Writer) {text : List UInt8} (clean : (0 : UInt8) ∉ text)
    (short : text.length + 1 < 2 ^ 32) (behind : writer.origin ≤ writer.bytes.length)
    (room : writer.bytes.length + text.length + 8 ≤ writer.capacity) :
    ∃ after chunk, writer.string text = some after ∧ chunk.length ≤ text.length + 8 ∧
      Writes writer after Reader.string text chunk := by
  have fits : text.length + 1 < 256 ^ 4 := by
    have powers : (256 : Nat) ^ 4 = 2 ^ 32 := by norm_num
    omega
  have padded := writer.length_skipped_four
  obtain ⟨counted, prefixed, wrote, size, number⟩ :=
    writer.number_writes fits behind (show _ ≤ writer.capacity by omega)
  have length := number.length
  have capacity := number.capacity
  refine ⟨{ counted with bytes := counted.bytes ++ (text ++ [0]) }, prefixed ++ (text ++ [0]), ?_,
    ?_, ?_, ?_⟩
  · -- The length and the text fit one after the other.
    have enough : counted.bytes.length + (text ++ [0]).length ≤ counted.capacity := by
      simp only [List.length_append, List.length_singleton]
      omega
    simp only [Writer.string, cString_eq clean, Nat.mod_eq_of_lt short, wrote,
      Option.bind_eq_bind, Option.bind_some]
    rw [List.take_of_length_le (by simp), Writer.put, if_pos enough]
  · simp only [List.length_append, List.length_singleton]
    omega
  · rw [number.continued]
    simp [List.append_assoc]
  · intro more
    simp only [Reader.string, Option.bind_eq_bind]
    rw [List.append_assoc _ (text ++ [0]) more, number.readBack]
    simp only [Option.bind_some, Nat.add_eq_zero_iff, one_ne_zero, and_false, if_false,
      Reader.take, Writer.reader]
    rw [if_pos (by simp)]
    -- What is taken is the text with its terminating byte.
    have taken : (text ++ [0] ++ more).take (text.length + 1) = text ++ [0] := by
      rw [List.take_append_of_le_length (by simp), List.take_of_length_le (by simp)]
    have left : (text ++ [0] ++ more).drop (text.length + 1) = more := by
      rw [List.drop_append_of_le_length (by simp), List.drop_of_length_le (by simp),
        List.nil_append]
    have offset : counted.bytes.length - counted.origin + (text.length + 1) =
        (counted.bytes ++ (text ++ [0])).length - counted.origin := by
      have behind := number.behind behind
      simp only [List.length_append, List.length_singleton]
      omega
    simp only [Option.bind_some, taken, left, offset, pure]
    simp

/-- Several strings are written and read back one after the other. -/
theorem Writer.strings_writes (writer : Writer) {texts : List (List UInt8)}
    (clean : ∀ text ∈ texts, (0 : UInt8) ∉ text)
    (short : ∀ text ∈ texts, text.length + 1 < 2 ^ 32)
    (behind : writer.origin ≤ writer.bytes.length)
    (room : writer.bytes.length + (texts.map List.length).sum + 8 * texts.length ≤
      writer.capacity) :
    ∃ after chunk, writer.strings texts = some after ∧
      chunk.length ≤ (texts.map List.length).sum + 8 * texts.length ∧
      Writes writer after (Reader.strings texts.length) texts chunk := by
  induction texts generalizing writer with
  | nil => exact ⟨writer, [], rfl, by simp, by simp, fun more => rfl⟩
  | cons text texts ih =>
    simp only [List.map_cons, List.sum_cons, List.length_cons] at room ⊢
    obtain ⟨middle, first, wrote, little, one⟩ := writer.string_writes
      (clean text List.mem_cons_self) (short text List.mem_cons_self) behind (by omega)
    have length := one.length
    have capacity := one.capacity
    -- The rest follows where the first string ends.
    obtain ⟨after, rest, others, least, all⟩ := ih middle
      (fun other member => clean other (List.mem_cons_of_mem _ member))
      (fun other member => short other (List.mem_cons_of_mem _ member))
      (one.behind behind) (by omega)
    refine ⟨after, first ++ rest, ?_, ?_, ?_, ?_⟩
    · simp [Writer.strings, wrote, others]
    · rw [List.length_append]
      omega
    · rw [all.continued, one.continued]
      simp [List.append_assoc]
    · intro more
      rw [List.append_assoc]
      simp [Reader.strings, one.readBack, all.readBack]

end CdrFormat
