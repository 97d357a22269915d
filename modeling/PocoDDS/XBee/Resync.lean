import PocoDDS.XBee.FrameLaws

/-! How a receiver that drops what each call consumes finds a frame behind noise. -/

namespace PocoDDS.XBee

/-- Whether the unescaping loop ends after a marker that still waits for its byte. -/
def pendingFrom (escape : Bool) : List UInt8 → Bool
  | [] => escape
  | byte :: rest => pendingFrom (!escape && byte == escapeMarker) rest

/-- The length field of the frame that a delimiter announces. -/
def announcedLength (start : List UInt8) : Nat :=
  (start.getD 1 0).toNat <<< 8 ||| (start.getD 2 0).toNat

/-- The lengths that the parser does not refuse. -/
def AdmissibleLength (length : Nat) : Prop :=
  length ≠ 0 ∧ length + 4 ≤ maxFrameLength

/-- What the loop makes of a concatenation depends on the escape that the left part leaves. -/
theorem unescapeFrom_append (escape : Bool) (left right : List UInt8) :
    unescapeFrom escape (left ++ right) =
      unescapeFrom escape left ++ unescapeFrom (pendingFrom escape left) right := by
  induction left generalizing escape with
  | nil => simp [unescapeFrom, pendingFrom]
  | cons byte rest ih =>
    cases escape with
    | true => simp [unescapeFrom, pendingFrom, ih]
    | false =>
      cases marker : byte == escapeMarker with
      | true => simp [unescapeFrom, pendingFrom, marker, ih]
      | false => simp [unescapeFrom, pendingFrom, marker, ih]

/-- No number of decoded bytes takes more than the buffer. -/
theorem rawPrefixFrom_le (bytes : List UInt8) (count : Nat) :
    rawPrefixFrom bytes count ≤ bytes.length := by
  induction bytes, count using rawPrefixFrom.induct with
  | case1 => simp [rawPrefixFrom]
  | case2 => simp [rawPrefixFrom]
  | case3 => simp [rawPrefixFrom]
  | case4 byte next rest count marker ih =>
    simp only [rawPrefixFrom, marker, if_true, List.length_cons]
    omega
  | case5 byte next rest count literal ih =>
    simp only [rawPrefixFrom, literal, List.length_cons] at ih ⊢
    simp only [Bool.false_eq_true, if_false]
    omega

theorem rawPrefixFrom_pos {bytes : List UInt8} {count : Nat} (some : bytes ≠ [])
    (positive : 0 < count) : 0 < rawPrefixFrom bytes count := by
  match bytes, count with
  | [_], count + 1 => simp [rawPrefixFrom]
  | byte :: next :: rest, count + 1 =>
    by_cases marker : byte = escapeMarker <;> simp [rawPrefixFrom, marker]

theorem rawPrefixFrom_within (left right : List UInt8) (count : Nat)
    (within : count ≤ (unescapeFrom false left).length) :
    rawPrefixFrom (left ++ right) count ≤ left.length := by
  induction left, count using rawPrefixFrom.induct with
  | case1 count =>
    obtain rfl : count = 0 := by simpa [unescapeFrom] using within
    cases right <;> simp [rawPrefixFrom]
  | case2 => simp [rawPrefixFrom]
  | case3 byte count =>
    -- A marker at the end has decoded to nothing, so only a literal byte is asked for.
    by_cases marker : byte = escapeMarker
    · simp [unescapeFrom, marker] at within
    · obtain rfl : count = 0 := by simpa [unescapeFrom, marker] using within
      cases right with
      | nil => simp [rawPrefixFrom]
      | cons next more => simp [rawPrefixFrom, marker]
  | case4 byte next rest count marker ih =>
    simp only [unescapeFrom, marker, Bool.false_eq_true, if_false, if_true,
      List.length_cons] at within
    have kept := ih (by omega)
    simp only [List.cons_append, rawPrefixFrom, marker, if_true, List.length_cons]
    omega
  | case5 byte next rest count literal ih =>
    rw [unescapeFrom, if_neg (by simp), if_neg literal, List.length_cons] at within
    have kept := ih (by omega)
    simp only [List.cons_append, List.length_cons] at kept ⊢
    rw [rawPrefixFrom, if_neg literal]
    omega

theorem rawPrefixFrom_beyond (left : List UInt8) {right : List UInt8} (count : Nat)
    (some : right ≠ []) (beyond : (unescapeFrom false left).length < count) :
    left.length < rawPrefixFrom (left ++ right) count := by
  induction left, count using rawPrefixFrom.induct with
  | case1 count => exact rawPrefixFrom_pos some (by omega)
  | case2 => simp at beyond
  | case3 byte count =>
    obtain ⟨next, more, rfl⟩ := List.exists_cons_of_ne_nil some
    by_cases marker : byte = escapeMarker
    · simp only [List.cons_append, List.nil_append, rawPrefixFrom, marker, beq_self_eq_true,
        if_true, List.length_singleton]
      omega
    · have positive : 0 < count := by simpa [unescapeFrom, marker] using beyond
      have taken := rawPrefixFrom_pos (List.cons_ne_nil next more) positive
      simp only [List.cons_append, List.nil_append, rawPrefixFrom, List.length_singleton]
      rw [if_neg (by simpa using marker)]
      omega
  | case4 byte next rest count marker ih =>
    simp only [unescapeFrom, marker, Bool.false_eq_true, if_false, if_true,
      List.length_cons] at beyond
    have passed := ih (by omega)
    simp only [List.cons_append, rawPrefixFrom, marker, if_true, List.length_cons]
    omega
  | case5 byte next rest count literal ih =>
    rw [unescapeFrom, if_neg (by simp), if_neg literal, List.length_cons] at beyond
    have passed := ih (by omega)
    simp only [List.cons_append, List.length_cons] at passed ⊢
    rw [rawPrefixFrom, if_neg literal]
    omega

theorem rawPrefixForDecoded_le (bytes : List UInt8) (count : Nat) :
    rawPrefixForDecoded bytes count ≤ bytes.length := by
  match bytes, count with
  | [], count => simp [rawPrefixForDecoded]
  | _ :: _, 0 => simp [rawPrefixForDecoded]
  | _ :: rest, count + 1 =>
    have kept := rawPrefixFrom_le rest count
    simp only [rawPrefixForDecoded, List.length_cons]
    omega

theorem rawPrefixForDecoded_pos {bytes : List UInt8} {count : Nat} (some : bytes ≠ [])
    (positive : 0 < count) : 0 < rawPrefixForDecoded bytes count := by
  match bytes, count with
  | _ :: rest, count + 1 => simp [rawPrefixForDecoded]

theorem rawPrefixForDecoded_within (left right : List UInt8) (count : Nat)
    (within : count ≤ (unescape left).length) :
    rawPrefixForDecoded (left ++ right) count ≤ left.length := by
  match left, count with
  | [], count =>
    obtain rfl : count = 0 := by simpa [unescape] using within
    cases right <;> simp [rawPrefixForDecoded]
  | _ :: _, 0 => simp [rawPrefixForDecoded]
  | first :: rest, count + 1 =>
    have kept := rawPrefixFrom_within rest right count (by simpa [unescape] using within)
    simp only [List.cons_append, rawPrefixForDecoded, List.length_cons]
    omega

theorem rawPrefixForDecoded_beyond (left : List UInt8) {right : List UInt8} (count : Nat)
    (some : right ≠ []) (beyond : (unescape left).length < count) :
    left.length < rawPrefixForDecoded (left ++ right) count := by
  match left, count with
  | [], count => exact rawPrefixForDecoded_pos some (by omega)
  | first :: rest, count + 1 =>
    have passed := rawPrefixFrom_beyond rest count some (by simpa [unescape] using beyond)
    simp only [List.cons_append, rawPrefixForDecoded, List.length_cons]
    omega

section Outcome

variable {output frame : XBeeFrame} {bytes : List UInt8} {escaped : Bool}

/-- Where the first delimiter of a buffer decodes to. -/
def delimiterOffset (decoded : List UInt8) : Nat :=
  decoded.findIdx (· == startDelimiter)

theorem drop_delimiterOffset {decoded : List UInt8}
    (found : delimiterOffset decoded < decoded.length) :
    ∃ rest, decoded.drop (delimiterOffset decoded) = startDelimiter :: rest := by
  have here : decoded[delimiterOffset decoded] = startDelimiter :=
    beq_iff_eq.mp (List.findIdx_getElem (w := found))
  exact ⟨_, by rw [List.drop_eq_getElem_cons found, here]⟩

theorem XBeeFrame.raw_injective {left right : XBeeFrame} (same : left.raw = right.raw) :
    left = right := by
  -- Both images have the same length, so the payloads end at the same place.
  have lengths : left.data.length = right.data.length := by
    have := congrArg List.length same
    rw [left.raw_length, right.raw_length] at this
    omega
  obtain ⟨leftType, leftData, _⟩ := left
  obtain ⟨rightType, rightData, _⟩ := right
  simp only [XBeeFrame.raw, List.cons_append, List.nil_append, List.cons.injEq] at same
  obtain ⟨-, -, -, rfl, tails⟩ := same
  obtain ⟨rfl, -⟩ := List.append_inj tails lengths
  rfl

theorem length_bytes_inverse (high low : UInt8) :
    UInt8.ofNat ((high.toNat <<< 8 ||| low.toNat) >>> 8) = high ∧
      UInt8.ofNat (high.toNat <<< 8 ||| low.toNat) = low := by
  have small : low.toNat < 2 ^ 8 := UInt8.toNat_lt _
  rw [← Nat.shiftLeft_add_eq_or_of_lt small]
  simp only [← UInt8.toNat_inj, UInt8.toNat_ofNat', Nat.shiftRight_eq_div_pow, Nat.shiftLeft_eq]
  have := UInt8.toNat_lt high
  omega

theorem checksum_determined {bytes : List UInt8} {last : UInt8}
    (intact : byteSum (bytes ++ [last]) &&& 0xFF = 0xFF) :
    UInt8.ofNat (0xFF - (byteSum bytes &&& 0xFF)) = last := by
  have mask : ∀ n : Nat, n &&& 0xFF = n % 256 := fun n => Nat.and_two_pow_sub_one_eq_mod n 8
  have single : byteSum [last] = last.toNat := by simp [byteSum]
  rw [byteSum_append, mask, single] at intact
  rw [mask, ← UInt8.toNat_inj, UInt8.toNat_ofNat']
  have := UInt8.toNat_lt last
  omega

theorem raw_of_intact {start : List UInt8} (opens : ∃ rest, start = startDelimiter :: rest)
    (admissible : AdmissibleLength (announcedLength start))
    (complete : announcedLength start + 4 ≤ start.length)
    (intact : byteSum ((start.take (announcedLength start + 4)).drop 3) &&& 0xFF = 0xFF)
    (type : frame.type = start.getD 3 0)
    (data : frame.data = (start.take (3 + announcedLength start)).drop 4) :
    frame.raw = start.take (announcedLength start + 4) := by
  obtain ⟨rest, rfl⟩ := opens
  match rest with
  | high :: low :: kind :: rest =>
    -- The image is the delimiter, the length, the type, the payload and one more byte.
    have length : announcedLength (startDelimiter :: high :: low :: kind :: rest) =
      high.toNat <<< 8 ||| low.toNat := rfl
    obtain ⟨count, counted⟩ : ∃ count, high.toNat <<< 8 ||| low.toNat = count + 1 :=
      Nat.exists_eq_succ_of_ne_zero admissible.1
    rw [length, counted] at complete intact data ⊢
    obtain ⟨payload, sum, rest, rfl, payloadLength⟩ : ∃ payload sum tail,
        rest = payload ++ sum :: tail ∧ payload.length = count := by
      have enough : count < rest.length := by simpa using complete
      refine ⟨rest.take count, rest[count], rest.drop (count + 1), ?_, by simp; omega⟩
      rw [List.getElem_cons_drop, List.take_append_drop]
    have kept : frame.data = payload := by
      rw [data, show 3 + (count + 1) = count + 4 by omega]
      simp [← payloadLength]
    have taken : (startDelimiter :: high :: low :: kind :: (payload ++ sum :: rest)).take
        (count + 1 + 4) = startDelimiter :: high :: low :: kind :: (payload ++ [sum]) := by
      simp [← payloadLength, List.take_append]
    rw [taken] at intact ⊢
    have bytesLength : count + 1 = frame.data.length + 1 := by rw [kept, payloadLength]
    have spelled := length_bytes_inverse high low
    rw [counted, bytesLength] at spelled
    have checksum : UInt8.ofNat (0xFF - (byteSum (kind :: payload) &&& 0xFF)) = sum :=
      checksum_determined intact
    have same : frame.type = kind := type
    unfold XBeeFrame.raw
    dsimp only
    rw [spelled.1, spelled.2, same, kept, checksum]
    rfl

/-- The decoded bytes from the first delimiter on. -/
def candidate (decoded : List UInt8) : List UInt8 :=
  decoded.drop (delimiterOffset decoded)

/-- The ways in which a call on a buffer with data can end, by the place of the first delimiter and
the bytes that start there. -/
inductive Parsed (output : XBeeFrame) (escaped : Bool) (bytes : List UInt8) (offset : Nat)
    (start : List UInt8) : ParseResult → Prop
  | noDelimiter (none : start = []) :
    Parsed output escaped bytes offset start ⟨.notFound, output, bytes.length⟩
  | incomplete (some : start ≠ [])
    (short : AdmissibleLength (announcedLength start) → start.length < announcedLength start + 4) :
    Parsed output escaped bytes offset start
      ⟨.notEnoughData, output, consumedFor escaped bytes offset⟩
  | refused (some : start ≠ []) (refused : ¬ AdmissibleLength (announcedLength start)) :
    Parsed output escaped bytes offset start
      ⟨.notFound, output, consumedFor escaped bytes (offset + 1)⟩
  | corrupt (admissible : AdmissibleLength (announcedLength start))
    (complete : announcedLength start + 4 ≤ start.length)
    (damaged : byteSum ((start.take (announcedLength start + 4)).drop 3) &&& 0xFF ≠ 0xFF) :
    Parsed output escaped bytes offset start
      ⟨.badChecksum, output, consumedFor escaped bytes (offset + (3 + announcedLength start + 1))⟩
  | intact (frame : XBeeFrame) (admissible : AdmissibleLength (announcedLength start))
    (complete : announcedLength start + 4 ≤ start.length)
    (raw : frame.raw = start.take (announcedLength start + 4)) :
    Parsed output escaped bytes offset start
      ⟨.ok, frame, consumedFor escaped bytes (offset + (3 + announcedLength start + 1))⟩

@[simp] theorem consumedFor_zero : consumedFor escaped bytes 0 = 0 := by
  cases escaped <;> cases bytes <;> simp [consumedFor, rawPrefixForDecoded]

theorem parse_parsed (output : XBeeFrame) (escaped : Bool) (some : bytes ≠ []) :
    ∃ result, XBeeFrame.parse output bytes escaped = .ok result ∧
      Parsed output escaped bytes (delimiterOffset (decodeBuffer escaped bytes))
        (candidate (decodeBuffer escaped bytes)) result := by
  unfold XBeeFrame.parse
  rw [if_neg (by simpa using some)]
  dsimp only
  set decoded := decodeBuffer escaped bytes
  have size : (candidate decoded).length = decoded.length - delimiterOffset decoded :=
    List.length_drop
  have bound : delimiterOffset decoded ≤ decoded.length := List.findIdx_le_length
  rw [show decoded.findIdx (· == startDelimiter) = delimiterOffset decoded from rfl, ← size,
    show decoded.drop (delimiterOffset decoded) = candidate decoded from rfl]
  split
  · next nothing =>
    exact ⟨_, rfl, .noDelimiter (List.length_eq_zero_iff.mp (by omega))⟩
  next found =>
  have opened : delimiterOffset decoded < decoded.length := by omega
  have opens := drop_delimiterOffset opened
  have nonempty : candidate decoded ≠ [] := by
    intro empty
    rw [empty] at size
    simp at size
    omega
  have skipped : (if delimiterOffset decoded > 0 then
      consumedFor escaped bytes (delimiterOffset decoded) else 0) =
        consumedFor escaped bytes (delimiterOffset decoded) := by
    split
    · rfl
    · next front => rw [show delimiterOffset decoded = 0 by omega, consumedFor_zero]
  rw [skipped]
  change ∃ result, (if (candidate decoded).length < 4 then _ else
    if announcedLength (candidate decoded) = 0 ∨
      announcedLength (candidate decoded) + 4 > maxFrameLength then _ else _) = _ ∧ _
  split
  · next header => exact ⟨_, rfl, .incomplete nonempty fun _ => by omega⟩
  split
  · next header bad => exact ⟨_, rfl, .refused nonempty (by unfold AdmissibleLength; omega)⟩
  next header good =>
  have admissible : AdmissibleLength (announcedLength (candidate decoded)) := by
    unfold AdmissibleLength
    omega
  split
  · next waiting =>
    refine ⟨_, rfl, .incomplete nonempty fun _ => ?_⟩
    change _ < 3 + announcedLength (candidate decoded) + 1 at waiting
    omega
  next whole =>
  change ¬ _ < 3 + announcedLength (candidate decoded) + 1 at whole
  have total : 3 + announcedLength (candidate decoded) + 1 =
      announcedLength (candidate decoded) + 4 := by omega
  split
  · next damaged =>
    change byteSum (((candidate decoded).take
      (3 + announcedLength (candidate decoded) + 1)).drop 3) &&& 0xFF ≠ 0xFF at damaged
    rw [total] at damaged
    exact ⟨_, rfl, .corrupt admissible (by omega) damaged⟩
  next intact =>
  change ¬ byteSum (((candidate decoded).take
    (3 + announcedLength (candidate decoded) + 1)).drop 3) &&& 0xFF ≠ 0xFF at intact
  rw [ne_eq, not_not, total] at intact
  -- The constructor cannot refuse what the length check has let through.
  have payload : (((candidate decoded).take (3 + announcedLength (candidate decoded))).drop
      4).length + 5 ≤ maxFrameLength := by
    have large := admissible.2
    simp only [List.length_drop, List.length_take]
    omega
  refine ⟨⟨.ok, ⟨(candidate decoded).getD 3 0, _, payload⟩, _⟩, ?_,
    .intact _ admissible (by omega) (raw_of_intact opens admissible (by omega) intact rfl rfl)⟩
  have created : XBeeFrame.create ((candidate decoded).getD 3 0) (((candidate decoded).take
      (3 + announcedLength (candidate decoded))).drop 4) = .ok ⟨_, _, payload⟩ := dif_pos payload
  unfold announcedLength at created ⊢
  rw [created]
  rfl

theorem consumedFor_le {count : Nat} (within : count ≤ (decodeBuffer escaped bytes).length) :
    consumedFor escaped bytes count ≤ bytes.length := by
  cases escaped with
  | false => exact within
  | true => exact rawPrefixForDecoded_le bytes count

theorem consumedFor_pos {count : Nat} (some : bytes ≠ []) (positive : 0 < count) :
    0 < consumedFor escaped bytes count := by
  cases escaped with
  | false => exact positive
  | true => exact rawPrefixForDecoded_pos some positive

/-- Every call consumes no more than the buffer, and something unless it waits for more. -/
theorem parse_bounds (output : XBeeFrame) (bytes : List UInt8) (escaped : Bool) :
    ∃ result, XBeeFrame.parse output bytes escaped = .ok result ∧
      result.consumed ≤ bytes.length ∧ (result.status ≠ .notEnoughData → 0 < result.consumed) := by
  rcases eq_or_ne bytes [] with rfl | some
  · exact ⟨_, rfl, Nat.le_refl _, fun fed => absurd rfl fed⟩
  obtain ⟨result, parsed, outcome⟩ := parse_parsed output escaped some
  refine ⟨result, parsed, ?_⟩
  have size : (candidate (decodeBuffer escaped bytes)).length = (decodeBuffer escaped bytes).length -
      delimiterOffset (decodeBuffer escaped bytes) := List.length_drop
  have filled {start : List UInt8} (nonempty : start ≠ []) : 0 < start.length :=
    List.length_pos_iff.mpr nonempty
  cases outcome with
  | noDelimiter none => exact ⟨Nat.le_refl _, fun _ => filled some⟩
  | incomplete nonempty short =>
    have := filled nonempty
    exact ⟨consumedFor_le (by omega), fun fed => absurd rfl fed⟩
  | refused nonempty refused =>
    have := filled nonempty
    exact ⟨consumedFor_le (by omega), fun _ => consumedFor_pos some (by omega)⟩
  | corrupt admissible complete damaged =>
    exact ⟨consumedFor_le (by omega), fun _ => consumedFor_pos some (by omega)⟩
  | intact frame admissible complete raw =>
    exact ⟨consumedFor_le (by omega), fun _ => consumedFor_pos some (by omega)⟩

theorem announcedLength_raw (frame : XBeeFrame) (rest : List UInt8) :
    announcedLength (frame.raw ++ rest) = frame.data.length + 1 ∧
      AdmissibleLength (announcedLength (frame.raw ++ rest)) ∧
      (frame.raw ++ rest).take (announcedLength (frame.raw ++ rest) + 4) = frame.raw := by
  have length : announcedLength (frame.raw ++ rest) = frame.data.length + 1 :=
    frame.length_field rest
  have admitted := frame.admitted
  refine ⟨length, ⟨by omega, by omega⟩, ?_⟩
  rw [length, show frame.data.length + 1 + 4 = frame.raw.length by rw [frame.raw_length],
    List.take_left]

/-- A call on the caller's frame variable and buffer returns a frame. -/
def Yields (frame : XBeeFrame) (state : XBeeFrame × List UInt8) : Prop :=
  ∃ consumed, XBeeFrame.parse state.1 state.2 true = .ok ⟨.ok, frame, consumed⟩

/-- A call returns the frame whose image follows the first delimiter. -/
theorem yields_iff (some : bytes ≠ []) :
    Yields frame (output, bytes) ↔ frame.raw <+: candidate (unescape bytes) := by
  obtain ⟨result, parsed, outcome⟩ := parse_parsed output true some
  change Parsed output true bytes _ (candidate (unescape bytes)) result at outcome
  constructor
  · rintro ⟨consumed, yielded⟩
    rw [parsed] at yielded
    cases yielded
    cases outcome with
    | intact _ admissible complete raw =>
      rw [raw]
      exact List.take_prefix _ _
  · rintro ⟨rest, opened⟩
    obtain ⟨length, admissible, image⟩ := announcedLength_raw frame rest
    have size : (frame.raw ++ rest).length = frame.data.length + 5 + rest.length := by
      rw [List.length_append, frame.raw_length]
    rw [← opened] at outcome
    cases outcome with
    | noDelimiter none =>
      rw [none] at size
      simp only [List.length_nil] at size
      omega
    | incomplete nonempty short =>
      have := short admissible
      omega
    | refused nonempty refused => exact absurd admissible refused
    | corrupt _ complete damaged =>
      rw [length, show frame.data.length + 1 + 4 = frame.raw.length by rw [frame.raw_length]] at damaged
      exact absurd (frame.checksum_field rest) damaged
    | intact found _ complete raw =>
      rw [image] at raw
      rw [XBeeFrame.raw_injective raw] at parsed
      exact ⟨_, parsed⟩

end Outcome

/-- The caller's frame variable and buffer after some calls, each of which drops what it consumed. -/
def drained (output : XBeeFrame) (bytes : List UInt8) : Nat → XBeeFrame × List UInt8
  | 0 => (output, bytes)
  | calls + 1 =>
    match XBeeFrame.parse output bytes true with
    | .ok result => drained result.frame (bytes.drop result.consumed) calls
    | .error _ => (output, bytes)

/-- The buffer still ends in the image of the frame, and its first delimiter does the frame no harm:
it is the frame's own, or it opens bytes in the noise that no frame announces, that are incomplete,
that end within the noise, or that are the frame again. -/
def Clear (frame : XBeeFrame) (bytes : List UInt8) : Prop :=
  ∃ noise, bytes = noise ++ frame.encode true ∧
    let offset := delimiterOffset (unescape bytes)
    let start := candidate (unescape bytes)
    offset ≤ (unescape noise).length ∧
      (offset < (unescape noise).length → AdmissibleLength (announcedLength start) →
        announcedLength start + 4 ≤ start.length →
          offset + (announcedLength start + 4) ≤ (unescape noise).length ∨
            frame.raw <+: start)

section Resynchronization

variable {output frame : XBeeFrame} {noise bytes : List UInt8}

theorem startDelimiter_notMem_escapeBytes (bytes : List UInt8) :
    startDelimiter ∉ escapeBytes bytes := by
  induction bytes with
  | nil => simp [escapeBytes]
  | cons byte rest ih =>
    by_cases special : requiresEscape byte
    · have pair : startDelimiter ≠ escapeMarker ∧ startDelimiter ≠ byte ^^^ 0x20 := by
        refine ⟨by decide, ?_⟩
        simp only [requiresEscape, Bool.or_eq_true, beq_iff_eq] at special
        rcases special with ((rfl | rfl) | rfl) | rfl <;> decide
      simp [escapeBytes, special, ih, pair.1, pair.2]
    · have other : startDelimiter ≠ byte := by
        rintro rfl
        exact special (by decide)
      simp [escapeBytes, special, ih, other]

theorem unescape_suffix_length {bytes rest : List UInt8} (suffix : rest <:+ escapeBytes bytes) :
    (unescape rest).length ≤ bytes.length + 1 := by
  induction bytes with
  | nil =>
    obtain rfl : rest = [] := by simpa [escapeBytes] using suffix
    simp [unescape]
  | cons byte more ih =>
    have decoded : unescapeFrom false (escapeBytes more) = more := by
      simpa [unescapeFrom] using unescapeFrom_escapeBytes more []
    by_cases special : requiresEscape byte
    · rw [escapeBytes, if_pos special, List.suffix_cons_iff, List.suffix_cons_iff] at suffix
      rcases suffix with rfl | rfl | later
      · -- The marker is taken literally here, and so is the byte after it.
        have literal : (byte ^^^ 0x20 == escapeMarker) = false := by
          simp only [requiresEscape, Bool.or_eq_true, beq_iff_eq] at special
          rcases special with ((rfl | rfl) | rfl) | rfl <;> decide
        simp [unescape, unescapeFrom, literal, decoded]
      · simp [unescape, decoded]
      · exact (ih later).trans (by simp)
    · rw [escapeBytes, if_neg special, List.suffix_cons_iff] at suffix
      rcases suffix with rfl | later
      · simp [unescape, decoded]
      · exact (ih later).trans (by simp)

theorem delimiterOffset_pos (rest : List UInt8) {first : UInt8} (quiet : first ≠ startDelimiter) :
    0 < delimiterOffset (unescape (first :: rest)) := by
  have other : (first == startDelimiter) = false := by simpa using quiet
  simp [delimiterOffset, unescape, List.findIdx_cons, other]

/-- Once a part of the frame has been dropped, a call does not return it. -/
theorem lost_not_yields (lost : bytes <:+ escapeBytes frame.body) :
    ¬ Yields frame (output, bytes) := by
  cases bytes with
  | nil =>
    rintro ⟨consumed, yielded⟩
    cases yielded
  | cons first rest =>
    -- A whole image does not fit behind the first byte, which is no delimiter.
    rw [yields_iff (List.cons_ne_nil first rest)]
    intro opened
    have quiet : first ≠ startDelimiter := by
      rintro rfl
      exact startDelimiter_notMem_escapeBytes _ (lost.subset List.mem_cons_self)
    have fits := opened.length_le
    have bound := unescape_suffix_length lost
    have behind := delimiterOffset_pos rest quiet
    have whole : frame.raw.length = frame.body.length + 1 := by rw [frame.raw_eq]; rfl
    rw [candidate, List.length_drop] at fits
    omega

theorem lost_never_yields (calls : Nat) (lost : bytes <:+ escapeBytes frame.body) :
    ¬ Yields frame (drained output bytes calls) := by
  induction calls generalizing output bytes with
  | zero => exact lost_not_yields lost
  | succ calls ih =>
    unfold drained
    split
    · exact ih ((List.drop_suffix _ _).trans lost)
    · exact lost_not_yields lost

/-- A buffer of noise and a frame decodes to the noise and as many bytes as the frame has; they are
the frame's own unless an escape at the end of the noise has changed the first one. -/
theorem unescape_behind (frame : XBeeFrame) (present : noise ≠ []) :
    ∃ tail, unescape (noise ++ frame.encode true) = unescape noise ++ tail ∧
      tail.length = frame.raw.length ∧ (tail.head? = some startDelimiter → tail = frame.raw) := by
  obtain ⟨first, rest, rfl⟩ := List.exists_cons_of_ne_nil present
  have decoded : unescapeFrom false (escapeBytes frame.body) = frame.body := by
    simpa [unescapeFrom] using unescapeFrom_escapeBytes frame.body []
  refine ⟨unescapeFrom (pendingFrom false rest) (frame.encode true), ?_, ?_⟩
  · simp [unescape, unescapeFrom_append]
  rw [frame.encode_escaped, frame.raw_eq]
  cases pendingFrom false rest with
  | true =>
    have changed : startDelimiter ^^^ 0x20 ≠ startDelimiter := by decide
    simp [unescapeFrom, decoded, changed]
  | false =>
    have literal : (startDelimiter == escapeMarker) = false := by decide
    simp [unescapeFrom, decoded, literal]

/-- A call that returns the frame met a clear buffer. -/
theorem Clear.of_yields (present : noise ≠ [])
    (yielded : Yields frame (output, noise ++ frame.encode true)) :
    Clear frame (noise ++ frame.encode true) := by
  have nonempty : noise ++ frame.encode true ≠ [] := by simp [present]
  have opened := (yields_iff nonempty).mp yielded
  obtain ⟨tail, decoded, size, -⟩ := unescape_behind frame present
  refine ⟨noise, rfl, ?_, fun _ _ _ => .inr opened⟩
  have fits := opened.length_le
  have positive : 0 < frame.raw.length := by rw [frame.raw_length]; omega
  rw [candidate, List.length_drop, decoded, List.length_append, size] at fits
  rw [decoded]
  omega

/-- A clear buffer of noise and a frame keeps the frame behind less noise, or yields it. -/
theorem Clear.advances (present : noise ≠ []) (quiet : startDelimiter ∉ noise)
    (clear : Clear frame (noise ++ frame.encode true))
    (withheld : ¬ Yields frame (output, noise ++ frame.encode true)) :
    ∃ result, XBeeFrame.parse output (noise ++ frame.encode true) true = .ok result ∧
      0 < result.consumed ∧ result.consumed ≤ noise.length := by
  have nonempty : noise ++ frame.encode true ≠ [] := by simp [present]
  rw [yields_iff nonempty] at withheld
  obtain ⟨tail, decoded, size, own⟩ := unescape_behind frame present
  obtain ⟨same, split, before, harmless⟩ := clear
  obtain rfl := List.append_cancel_right split
  obtain ⟨result, parsed, outcome⟩ := parse_parsed output true nonempty
  change Parsed output true _ (delimiterOffset (unescape _)) (candidate (unescape _)) result
    at outcome
  refine ⟨result, parsed, ?_⟩
  have length : (candidate (unescape (noise ++ frame.encode true))).length =
      (unescape noise).length + frame.raw.length -
        delimiterOffset (unescape (noise ++ frame.encode true)) := by
    rw [candidate, List.length_drop, decoded, List.length_append, size]
  have whole : 0 < frame.raw.length := by rw [frame.raw_length]; omega
  -- The frame's own delimiter would have yielded it.
  have inside : delimiterOffset (unescape (noise ++ frame.encode true)) <
      (unescape noise).length := by
    refine lt_of_le_of_ne before fun front => withheld ?_
    have found : delimiterOffset (unescape (noise ++ frame.encode true)) <
        (unescape (noise ++ frame.encode true)).length := by
      rw [front, decoded, List.length_append, size]
      omega
    have opened := drop_delimiterOffset found
    have split : candidate (unescape (noise ++ frame.encode true)) = tail := by
      rw [candidate, front, decoded, List.drop_left]
    obtain ⟨rest, opened⟩ := opened
    rw [← candidate, split] at opened
    rw [split, own (by rw [opened]; rfl)]
  have behind : 0 < delimiterOffset (unescape (noise ++ frame.encode true)) := by
    obtain ⟨first, rest, rfl⟩ := List.exists_cons_of_ne_nil present
    have other : first ≠ startDelimiter := by
      rintro rfl
      exact quiet List.mem_cons_self
    exact delimiterOffset_pos (rest ++ frame.encode true) other
  have taken {count : Nat} (positive : 0 < count) (within : count ≤ (unescape noise).length) :
      0 < consumedFor true (noise ++ frame.encode true) count ∧
        consumedFor true (noise ++ frame.encode true) count ≤ noise.length :=
    ⟨consumedFor_pos nonempty positive, rawPrefixForDecoded_within _ _ _ within⟩
  have finished (admissible : AdmissibleLength (announcedLength (candidate (unescape _))))
      (complete) := (harmless inside admissible complete).resolve_right withheld
  cases outcome with
  | noDelimiter none =>
    rw [none] at length
    simp only [List.length_nil] at length
    omega
  | incomplete filled short => exact taken behind inside.le
  | refused filled refused => exact taken (by omega) inside
  | corrupt admissible complete damaged =>
    have := finished admissible complete
    exact taken (by omega) (by omega)
  | intact found admissible complete raw =>
    have := finished admissible complete
    exact taken (by omega) (by omega)

/-- What a call makes of a buffer that is not clear takes the frame's delimiter with it. -/
theorem loses_of_not_clear (output : XBeeFrame) (present : noise ≠ [])
    (unclear : ¬ Clear frame (noise ++ frame.encode true)) :
    ∃ result, XBeeFrame.parse output (noise ++ frame.encode true) true = .ok result ∧
      noise.length < result.consumed := by
  have nonempty : noise ++ frame.encode true ≠ [] := by simp [present]
  have opens : frame.encode true ≠ [] := List.ne_nil_of_length_pos (frame.encode_length_pos true)
  obtain ⟨result, parsed, outcome⟩ := parse_parsed output true nonempty
  change Parsed output true _ (delimiterOffset (unescape _)) (candidate (unescape _)) result
    at outcome
  refine ⟨result, parsed, ?_⟩
  have taken {count : Nat} (beyond : (unescape noise).length < count) :
      noise.length < consumedFor true (noise ++ frame.encode true) count :=
    rawPrefixForDecoded_beyond noise count opens beyond
  by_cases past : (unescape noise).length < delimiterOffset (unescape (noise ++ frame.encode true))
  · cases outcome with
    | noDelimiter none =>
      have := frame.encode_length_pos true
      show noise.length < (noise ++ frame.encode true).length
      rw [List.length_append]
      omega
    | incomplete filled short => exact taken past
    | refused filled refused => exact taken (by omega)
    | corrupt admissible complete damaged => exact taken (by omega)
    | intact found admissible complete raw => exact taken (by omega)
  · -- The delimiter lies in the noise, and what it announces reaches into the frame.
    have reaches : AdmissibleLength (announcedLength (candidate (unescape
          (noise ++ frame.encode true)))) ∧
        announcedLength (candidate (unescape (noise ++ frame.encode true))) + 4 ≤
          (candidate (unescape (noise ++ frame.encode true))).length ∧
        (unescape noise).length < delimiterOffset (unescape (noise ++ frame.encode true)) +
          (announcedLength (candidate (unescape (noise ++ frame.encode true))) + 4) := by
      by_contra harmless
      refine unclear ⟨noise, rfl, by omega, fun inside admissible complete => .inl ?_⟩
      by_contra further
      exact harmless ⟨admissible, complete, by omega⟩
    obtain ⟨admissible, complete, further⟩ := reaches
    cases outcome with
    | noDelimiter none =>
      rw [none] at complete
      simp at complete
    | incomplete filled short =>
      have := short admissible
      omega
    | refused filled refused => exact absurd admissible refused
    | corrupt _ _ damaged => exact taken (by omega)
    | intact found _ _ raw => exact taken (by omega)

theorem Clear.alone (frame : XBeeFrame) : Clear frame ([] ++ frame.encode true) := by
  have front : delimiterOffset (unescape ([] ++ frame.encode true)) = 0 := by
    simp [frame.encode_escaped, delimiterOffset, unescape, List.findIdx_cons]
  refine ⟨[], rfl, front.le, fun inside => ?_⟩
  rw [front] at inside
  cases inside

theorem exists_iff_later {happens : Nat → Prop} (notYet : ¬ happens 0) :
    (∃ count, happens count) ↔ ∃ count, happens (count + 1) := by
  constructor
  · rintro ⟨_ | count, happened⟩
    · exact absurd happened notYet
    · exact ⟨count, happened⟩
  · rintro ⟨count, happened⟩
    exact ⟨count + 1, happened⟩

theorem until_iff_next {happens holds : Nat → Prop} (notYet : ¬ happens 0) :
    (∀ count, (∀ earlier < count, ¬ happens earlier) → holds count) ↔
      holds 0 ∧ ∀ count, (∀ earlier < count, ¬ happens (earlier + 1)) → holds (count + 1) := by
  constructor
  · intro always
    refine ⟨always 0 nofun, fun count quiet => always (count + 1) ?_⟩
    rintro (_ | earlier) sooner
    · exact notYet
    · exact quiet earlier (Nat.lt_of_succ_lt_succ sooner)
  · rintro ⟨now, later⟩ (_ | count) quiet
    · exact now
    · exact later count fun earlier sooner => quiet (earlier + 1) (Nat.succ_lt_succ sooner)

/-- The frame is yielded behind noise exactly if every buffer before that is clear. -/
theorem yielded_iff_clear (quiet : startDelimiter ∉ noise) :
    (∃ calls, Yields frame (drained output (noise ++ frame.encode true) calls)) ↔
      ∀ calls, (∀ earlier < calls,
        ¬ Yields frame (drained output (noise ++ frame.encode true) earlier)) →
          Clear frame (drained output (noise ++ frame.encode true) calls).2 := by
  -- The induction is on the noise that is left, which every clear buffer makes shorter.
  induction size : noise.length using Nat.strong_induction_on generalizing noise output with
  | _ length ih =>
    by_cases yielded : Yields frame (output, noise ++ frame.encode true)
    · refine ⟨fun _ calls withheld => ?_, fun _ => ⟨0, yielded⟩⟩
      cases calls with
      | succ calls => exact absurd yielded (withheld 0 (Nat.succ_pos calls))
      | zero =>
        rcases eq_or_ne noise [] with rfl | present
        · exact Clear.alone frame
        · exact Clear.of_yields present yielded
    have present : noise ≠ [] := by
      rintro rfl
      refine yielded ⟨(frame.encode true).length, ?_⟩
      simpa using parse_complete frame output true []
    rw [exists_iff_later yielded, until_iff_next yielded]
    by_cases clear : Clear frame (noise ++ frame.encode true)
    · obtain ⟨result, parsed, positive, within⟩ := clear.advances present quiet yielded
      have next (calls : Nat) : drained output (noise ++ frame.encode true) (calls + 1) =
          drained result.frame (noise.drop result.consumed ++ frame.encode true) calls := by
        rw [drained, parsed, ← List.drop_append_of_le_length within]
      have shorter : (noise.drop result.consumed).length < length := by
        rw [List.length_drop]
        omega
      simp only [next]
      exact (ih _ shorter (fun among => quiet (List.mem_of_mem_drop among)) rfl).trans
        (and_iff_right clear).symm
    · -- The frame is lost with this call.
      refine iff_of_false ?_ fun along => clear along.1
      rintro ⟨calls, found⟩
      obtain ⟨result, parsed, beyond⟩ := loses_of_not_clear output present clear
      rw [drained, parsed] at found
      refine lost_never_yields calls ?_ found
      obtain ⟨past, consumed⟩ : ∃ past, result.consumed = noise.length + (past + 1) :=
        ⟨result.consumed - noise.length - 1, by omega⟩
      rw [consumed, List.drop_append, List.drop_eq_nil_of_le (by omega), List.nil_append,
        Nat.add_sub_cancel_left, frame.encode_escaped, List.drop_succ_cons]
      exact List.drop_suffix _ _

end Resynchronization

/-- Every call keeps to its buffer and makes progress, and a frame is found behind noise without a
delimiter exactly if every buffer until then is clear. -/
theorem resynchronizes_iff (frame output : XBeeFrame) (noise : List UInt8)
    (quiet : startDelimiter ∉ noise) :
    (∀ (held : XBeeFrame) (bytes : List UInt8), ∃ result,
      XBeeFrame.parse held bytes true = .ok result ∧ result.consumed ≤ bytes.length ∧
        (result.status ≠ .notEnoughData → 0 < result.consumed)) ∧
    ((∃ calls, Yields frame (drained output (noise ++ frame.encode true) calls)) ↔
      ∀ calls, (∀ earlier < calls,
        ¬ Yields frame (drained output (noise ++ frame.encode true) earlier)) →
          Clear frame (drained output (noise ++ frame.encode true) calls).2) :=
  ⟨fun held bytes => parse_bounds held bytes true, yielded_iff_clear quiet⟩

theorem resynchronizes_default :
    (∃ calls, Yields XBeeFrame.default
      (drained XBeeFrame.default ([0x11] ++ XBeeFrame.default.encode true) calls)) ↔
      ∀ calls, (∀ earlier < calls, ¬ Yields XBeeFrame.default
        (drained XBeeFrame.default ([0x11] ++ XBeeFrame.default.encode true) earlier)) →
          Clear XBeeFrame.default
            (drained XBeeFrame.default ([0x11] ++ XBeeFrame.default.encode true) calls).2 :=
  (resynchronizes_iff XBeeFrame.default XBeeFrame.default [0x11] (by decide)).2

/-- An escape at the end of the noise takes the delimiter. -/
theorem trailing_escape_loses_frame :
    ¬ ∀ (frame output : XBeeFrame) (noise : List UInt8), startDelimiter ∉ noise →
      ∃ calls, Yields frame (drained output (noise ++ frame.encode true) calls) := by
  intro claimed
  have found := claimed XBeeFrame.default XBeeFrame.default [0x00, escapeMarker] (by decide)
  obtain ⟨noise, split, before, -⟩ := (yielded_iff_clear (by decide)).mp found 0 nofun
  obtain rfl := List.append_cancel_right split
  exact absurd before (by decide)

theorem delimiterOffset_append {decoded : List UInt8} (plain : startDelimiter ∉ decoded)
    (tail : List UInt8) :
    delimiterOffset (decoded ++ tail) = decoded.length + delimiterOffset tail := by
  induction decoded with
  | nil => simp
  | cons byte rest ih =>
    rw [List.mem_cons, not_or] at plain
    obtain ⟨other, plain⟩ := plain
    have literal : (byte == startDelimiter) = false := by simpa using Ne.symm other
    have later := ih plain
    unfold delimiterOffset at later ⊢
    rw [List.cons_append, List.findIdx_cons, literal, cond_false, later, List.length_cons]
    omega

/-- Behind noise that holds no delimiter, whether escaped or not, a frame is found in some call exactly
if the noise does not end in the middle of an escape sequence. -/
theorem plain_noise_yields_iff {frame output : XBeeFrame} {first : UInt8} {rest : List UInt8}
    (quiet : startDelimiter ∉ first :: rest) (plain : startDelimiter ∉ unescape (first :: rest)) :
    (∃ calls, Yields frame (drained output (first :: rest ++ frame.encode true) calls)) ↔
      pendingFrom false rest = false := by
  have decoded : unescape (first :: rest ++ frame.encode true) =
      unescape (first :: rest) ++ unescapeFrom (pendingFrom false rest) (frame.encode true) := by
    simp [unescape, unescapeFrom_append]
  have body : unescapeFrom false (escapeBytes frame.body) = frame.body := by
    simpa [unescapeFrom] using unescapeFrom_escapeBytes frame.body []
  cases pending : pendingFrom false rest with
  | false =>
    -- The first delimiter is the frame's, in the first call.
    refine iff_of_true ⟨0, (yields_iff (List.cons_ne_nil _ _)).mpr ?_⟩ rfl
    change frame.raw <+: candidate (unescape (first :: rest ++ frame.encode true))
    have literal : (startDelimiter == escapeMarker) = false := by decide
    rw [decoded, pending, frame.encode_escaped, unescapeFrom, if_neg (by simp),
      if_neg (by simp [literal]), body, ← frame.raw_eq, candidate, delimiterOffset_append plain]
    have front : delimiterOffset frame.raw = 0 := by
      simp [frame.raw_eq, delimiterOffset, List.findIdx_cons]
    rw [front, Nat.add_zero, List.drop_left]
  | true =>
    refine iff_of_false (fun found => ?_) (by simp)
    obtain ⟨noise, split, before, -⟩ := (yielded_iff_clear quiet).mp found 0
      fun call early => absurd early (Nat.not_lt_zero call)
    obtain rfl := List.append_cancel_right split
    change delimiterOffset (unescape (first :: rest ++ frame.encode true)) ≤ _ at before
    have changed : (startDelimiter ^^^ 0x20 == startDelimiter) = false := by decide
    rw [decoded, pending, frame.encode_escaped, unescapeFrom, if_pos rfl,
      delimiterOffset_append plain, delimiterOffset, List.findIdx_cons, changed, cond_false] at before
    omega

theorem frame_behind_zero : (∃ calls, Yields XBeeFrame.default
    (drained XBeeFrame.default ([0] ++ XBeeFrame.default.encode true) calls)) ↔
      pendingFrom false [] = false :=
  plain_noise_yields_iff (by decide) (by decide)

end PocoDDS.XBee
