import PocoDDS.XBee.Frame

/-! What the parser makes of a complete encoded frame, and of one that is still arriving. -/

namespace PocoDDS.XBee

open XBeeFrame

theorem ne_marker_of_literal {byte : UInt8} (literal : requiresEscape byte = false) :
    byte ≠ escapeMarker := by
  -- The marker is one of the four bytes that are always escaped.
  rintro rfl
  simp [requiresEscape, escapeMarker] at literal

theorem xor_escape_twice (byte : UInt8) : byte ^^^ 0x20 ^^^ 0x20 = byte := by
  rw [UInt8.xor_assoc]
  simp

theorem unescapeFrom_escapeBytes (bytes tail : List UInt8) :
    unescapeFrom false (escapeBytes bytes ++ tail) = bytes ++ unescapeFrom false tail := by
  -- Each escaped pair contributes one byte, and each literal byte contributes itself.
  induction bytes with
  | nil => rfl
  | cons byte rest ih =>
    by_cases special : requiresEscape byte
    · simp [escapeBytes, special, unescapeFrom, ih, xor_escape_twice]
    · have literal := ne_marker_of_literal (by simpa using special)
      simp [escapeBytes, special, unescapeFrom, literal, ih]

/-- Cutting an escaped run short decodes to a strictly shorter prefix of the original. -/
theorem unescapeFrom_cut (bytes : List UInt8) : ∀ cut, cut < (escapeBytes bytes).length →
      ∃ count, count < bytes.length ∧
        unescapeFrom false ((escapeBytes bytes).take cut) = bytes.take count := by
  -- A cut inside an escaped pair loses that byte, exactly as a cut before it would.
  induction bytes with
  | nil => intro cut short; simp [escapeBytes] at short
  | cons byte rest ih =>
    intro cut short
    by_cases special : requiresEscape byte
    · simp only [escapeBytes, special, if_true, List.length_cons] at short
      match cut with
      | 0 => exact ⟨0, by simp, by simp [unescapeFrom]⟩
      | 1 => exact ⟨0, by simp, by simp [escapeBytes, special, unescapeFrom]⟩
      | cut + 2 =>
        obtain ⟨count, within, decoded⟩ := ih cut (by omega)
        refine ⟨count + 1, by simpa using within, ?_⟩
        simp [escapeBytes, special, unescapeFrom, xor_escape_twice, decoded]
    · have literal := ne_marker_of_literal (by simpa using special)
      simp only [escapeBytes, special, Bool.false_eq_true, if_false, List.length_cons] at short
      match cut with
      | 0 => exact ⟨0, by simp, by simp [unescapeFrom]⟩
      | cut + 1 =>
        obtain ⟨count, within, decoded⟩ := ih cut (by omega)
        refine ⟨count + 1, by simpa using within, ?_⟩
        simp [escapeBytes, special, unescapeFrom, literal, decoded]

theorem rawPrefixFrom_escapeBytes (bytes tail : List UInt8) :
    rawPrefixFrom (escapeBytes bytes ++ tail) bytes.length = (escapeBytes bytes).length := by
  -- The counting loop advances by two raw bytes exactly where the encoder wrote two.
  induction bytes with
  | nil => cases tail <;> simp [escapeBytes, rawPrefixFrom]
  | cons byte rest ih =>
    by_cases special : requiresEscape byte
    · simp [escapeBytes, special, rawPrefixFrom, ih]
      omega
    · have literal := ne_marker_of_literal (by simpa using special)
      simp only [escapeBytes, special, Bool.false_eq_true, if_false, List.cons_append,
        List.length_cons]
      cases following : escapeBytes rest ++ tail with
      | nil =>
        -- The run ends here, so the last byte has no successor to look at.
        have empty : escapeBytes rest = [] := (List.append_eq_nil_iff.mp following).1
        simp [rawPrefixFrom, empty]
      | cons next more =>
        rw [following] at ih
        simp [rawPrefixFrom, literal, ih]
        omega

/-- The raw image is the delimiter followed by the bytes that may be escaped. -/
def XBeeFrame.body (frame : XBeeFrame) : List UInt8 :=
  frame.raw.tail

/-- Every wire image opens with the delimiter. -/
theorem XBeeFrame.raw_eq (frame : XBeeFrame) : frame.raw = startDelimiter :: frame.body := by
  simp [XBeeFrame.raw, body]

/-- The raw image has five bytes of framing around its payload. -/
theorem XBeeFrame.raw_length (frame : XBeeFrame) : frame.raw.length = frame.data.length + 5 := by
  simp [raw]

theorem XBeeFrame.encode_escaped (frame : XBeeFrame) :
    frame.encode true = startDelimiter :: escapeBytes frame.body := by
  simp [encode, frame.raw_eq]

/-- In plain mode the wire image is the raw image. -/
theorem XBeeFrame.encode_plain (frame : XBeeFrame) : frame.encode false = frame.raw := by
  simp [encode]

theorem decodeBuffer_complete (frame : XBeeFrame) (escaped : Bool) (tail : List UInt8) :
    ∃ rest, decodeBuffer escaped (frame.encode escaped ++ tail) = frame.raw ++ rest := by
  cases escaped with
  | false => exact ⟨tail, by simp [decodeBuffer, frame.encode_plain]⟩
  | true =>
    refine ⟨unescapeFrom false tail, ?_⟩
    simp [decodeBuffer, frame.encode_escaped, unescape, unescapeFrom_escapeBytes, frame.raw_eq]

theorem decodeBuffer_partial (frame : XBeeFrame) (escaped : Bool) (cut : Nat) (positive : 0 < cut)
    (short : cut < (frame.encode escaped).length) :
    ∃ count, 0 < count ∧ count < frame.raw.length ∧
      decodeBuffer escaped ((frame.encode escaped).take cut) = frame.raw.take count := by
  cases escaped with
  | false =>
    rw [frame.encode_plain] at short ⊢
    exact ⟨cut, positive, short, by simp [decodeBuffer]⟩
  | true =>
    rw [frame.encode_escaped] at short ⊢
    obtain ⟨cut, rfl⟩ : ∃ before, cut = before + 1 := ⟨cut - 1, by omega⟩
    obtain ⟨count, within, decoded⟩ := unescapeFrom_cut frame.body cut (by simpa using short)
    refine ⟨count + 1, by omega, by simpa [frame.raw_eq] using within, ?_⟩
    simp [decodeBuffer, unescape, decoded, frame.raw_eq]

theorem consumedFor_complete (frame : XBeeFrame) (escaped : Bool) (tail : List UInt8) :
    consumedFor escaped (frame.encode escaped ++ tail) frame.raw.length =
      (frame.encode escaped).length := by
  cases escaped with
  | false => simp [consumedFor, frame.encode_plain]
  | true =>
    simp only [consumedFor, if_true, frame.encode_escaped, frame.raw_eq, List.length_cons,
      List.cons_append, rawPrefixForDecoded, rawPrefixFrom_escapeBytes]
    omega

theorem length_bytes_roundTrip {length : Nat} (small : length < 2 ^ 16) :
    (UInt8.ofNat (length >>> 8)).toNat <<< 8 ||| (UInt8.ofNat length).toNat = length := by
  -- The high byte needs no truncation, and the low byte is the remainder.
  have low : (UInt8.ofNat length).toNat < 2 ^ 8 := UInt8.toNat_lt _
  rw [← Nat.shiftLeft_add_eq_or_of_lt low]
  simp only [UInt8.toNat_ofNat', Nat.shiftRight_eq_div_pow, Nat.shiftLeft_eq]
  omega

theorem foldl_byteSum (bytes : List UInt8) (initial : Nat) :
    bytes.foldl (fun sum byte => sum + byte.toNat) initial = initial + byteSum bytes := by
  unfold byteSum
  induction bytes generalizing initial with
  | nil => simp
  | cons byte rest ih =>
    simp only [List.foldl_cons]
    rw [ih, ih (0 + byte.toNat)]
    omega

theorem byteSum_append (left right : List UInt8) :
    byteSum (left ++ right) = byteSum left + byteSum right := by
  conv_lhs => rw [byteSum, List.foldl_append, foldl_byteSum]
  rfl

theorem checksum_completes (bytes : List UInt8) :
    byteSum (bytes ++ [UInt8.ofNat (0xFF - (byteSum bytes &&& 0xFF))]) &&& 0xFF = 0xFF := by
  -- The masked sum is the remainder modulo 256, so adding its complement gives 255.
  have mask : ∀ n : Nat, n &&& 0xFF = n % 256 := fun n => Nat.and_two_pow_sub_one_eq_mod n 8
  rw [byteSum_append, mask, mask]
  simp only [byteSum, List.foldl_cons, List.foldl_nil, UInt8.toNat_ofNat']
  omega

theorem XBeeFrame.length_field (frame : XBeeFrame) (rest : List UInt8) :
    ((frame.raw ++ rest).getD 1 0).toNat <<< 8 ||| ((frame.raw ++ rest).getD 2 0).toNat =
      frame.data.length + 1 := by
  have admitted := frame.admitted
  simp only [maxFrameLength] at admitted
  have length := @length_bytes_roundTrip (frame.data.length + 1) (by omega)
  simpa [raw] using length

/-- The payload between the type byte and the checksum. -/
theorem XBeeFrame.payload_field (frame : XBeeFrame) (rest : List UInt8) :
    ((frame.raw ++ rest).take (3 + (frame.data.length + 1))).drop 4 = frame.data := by
  rw [show 3 + (frame.data.length + 1) = frame.data.length + 4 by omega]
  simp [XBeeFrame.raw]

/-- Type, payload and checksum of a raw image add up to 0xFF. -/
theorem XBeeFrame.checksum_field (frame : XBeeFrame) (rest : List UInt8) :
    byteSum (((frame.raw ++ rest).take frame.raw.length).drop 3) &&& 0xFF = 0xFF := by
  rw [List.take_left]
  simpa [XBeeFrame.raw] using checksum_completes (frame.type :: frame.data)

/-- A raw image puts the delimiter where the scan looks first. -/
theorem XBeeFrame.raw_offset (frame : XBeeFrame) (rest : List UInt8) :
    (frame.raw ++ rest).findIdx (· == startDelimiter) = 0 := by
  simp [frame.raw_eq, List.findIdx_cons]

theorem XBeeFrame.encode_length_pos (frame : XBeeFrame) (escaped : Bool) :
    0 < (frame.encode escaped).length := by
  cases escaped <;> simp [encode_plain, encode_escaped, raw_eq]

theorem parse_complete (frame output : XBeeFrame) (escaped : Bool) (tail : List UInt8) :
    parse output (frame.encode escaped ++ tail) escaped =
      .ok ⟨.ok, frame, (frame.encode escaped).length⟩ := by
  -- Every field is read from the raw image at the front, so none of the early exits is taken.
  obtain ⟨rest, decoded⟩ := decodeBuffer_complete frame escaped tail
  have consumed := consumedFor_complete frame escaped tail
  have rawLength := frame.raw_length
  have admitted := frame.admitted
  have nonempty : (frame.encode escaped ++ tail).isEmpty = false := by
    have := frame.encode_length_pos escaped
    cases encoded : frame.encode escaped <;> simp_all
  have size : (frame.raw ++ rest).length = frame.data.length + 5 + rest.length := by
    simp [rawLength]
  have type : (frame.raw ++ rest).getD 3 0 = frame.type := by simp [XBeeFrame.raw]
  have total : 3 + (frame.data.length + 1) + 1 = frame.raw.length := by omega
  have created : XBeeFrame.create frame.type frame.data = .ok frame := by
    simp [XBeeFrame.create, admitted]
  simp only [parse, nonempty, Bool.false_eq_true, if_false, decoded, frame.raw_offset,
    List.drop_zero, frame.length_field, Nat.sub_zero, Nat.zero_add, total, frame.checksum_field,
    frame.payload_field, type, created, consumed, not_true_eq_false, ne_eq]
  rw [if_neg (by omega), if_neg (by omega), if_neg (by omega), if_neg (by omega)]
  rfl

theorem parse_partial (frame output : XBeeFrame) (escaped : Bool) (cut : Nat)
    (short : cut < (frame.encode escaped).length) :
    parse output ((frame.encode escaped).take cut) escaped = .ok ⟨.notEnoughData, output, 0⟩ := by
  rcases Nat.eq_zero_or_pos cut with rfl | positive
  · simp [parse]
  obtain ⟨count, nonzero, within, decoded⟩ := decodeBuffer_partial frame escaped cut positive short
  have rawLength := frame.raw_length
  have admitted := frame.admitted
  have nonempty : ((frame.encode escaped).take cut).isEmpty = false := by
    cases encoded : frame.encode escaped with
    | nil => simp [encoded] at short
    | cons first rest => cases cut <;> simp_all
  -- The decoded part still opens with the delimiter, so nothing before it is discarded.
  have offset : (frame.raw.take count).findIdx (· == startDelimiter) = 0 := by
    obtain ⟨count, rfl⟩ : ∃ before, count = before + 1 := ⟨count - 1, by omega⟩
    simp [frame.raw_eq, List.findIdx_cons]
  have size : (frame.raw.take count).length = count := by simp; omega
  simp only [parse, nonempty, Bool.false_eq_true, if_false, decoded, offset, size,
    List.drop_zero, Nat.sub_zero, gt_iff_lt, lt_irrefl]
  rw [if_neg (by omega)]
  by_cases header : count < 4
  · rw [if_pos header]
  · rw [if_neg header]
    -- With the header present, the announced length already asks for the whole raw image.
    have first : (frame.raw.take count).getD 1 0 = (frame.raw ++ []).getD 1 0 := by
      simp [show 1 < count by omega]
    have second : (frame.raw.take count).getD 2 0 = (frame.raw ++ []).getD 2 0 := by
      simp [show 2 < count by omega]
    rw [first, second, frame.length_field, if_neg (by omega), if_pos (by omega)]

end PocoDDS.XBee
