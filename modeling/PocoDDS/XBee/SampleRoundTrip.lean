import PocoDDS.XBee.IoSample

/-! What a decoded IO sample holds, and the payload that it came from. -/

namespace PocoDDS.XBee

/-- The word kept for an analog channel, present or not. -/
def IoSample.wordOf (sample : IoSample) (channel : Nat) : UInt16 :=
  sample.analogSamples.toArray.getD channel 0

/-- The fields up to the masks. -/
def IoSample.headerBytes (sample : IoSample) : List UInt8 :=
  BigEndian.digits 8 sample.sourceAddress.toNat ++ BigEndian.digits 2 sample.networkAddress.toNat ++
    [sample.receiveOptions] ++ [1] ++ BigEndian.digits 2 sample.digitalChannelMask.toNat ++
    [sample.analogChannelMask]

def IoSample.digitalBytes (sample : IoSample) : List UInt8 :=
  if sample.digitalChannelMask = 0 then [] else BigEndian.digits 2 sample.digitalSamples.toNat

/-- The words of those channels that are present. -/
def IoSample.analogBytes (sample : IoSample) (channels : List Nat) : List UInt8 :=
  (channels.filter sample.hasAnalog).flatMap fun channel =>
    BigEndian.digits 2 (sample.wordOf channel).toNat

/-- The fields of a sample in their order. -/
def IoSample.encode (sample : IoSample) : List UInt8 :=
  sample.headerBytes ++ sample.digitalBytes ++ sample.analogBytes (List.range 8)

/-- The word of a channel in the payload, behind those of the present channels before it. -/
def analogWord (data : List UInt8) (channel : Nat) : UInt16 :=
  wordAt data
    (digitalEnd data + 2 * (List.range channel).countP (Announced (byteAt data 14)))

section Slices

variable {data : List UInt8} {offset : Nat}

theorem drop_eq_byteAt_cons (within : offset < data.length) :
    data.drop offset = byteAt data offset :: data.drop (offset + 1) := by
  rw [List.drop_eq_getElem_cons within, byteAt, List.getD_eq_getElem _ _ within]

theorem byte_slice (within : offset < data.length) :
    (data.drop offset).take 1 = [byteAt data offset] := by
  rw [drop_eq_byteAt_cons within, List.take_succ_cons, List.take_zero]

/-- The two bytes of a word that was read. -/
theorem word_slice (within : offset + 2 ≤ data.length) :
    (data.drop offset).take 2 = BigEndian.digits 2 (wordAt data offset).toNat := by
  have read : (wordAt data offset).toNat =
      BigEndian.value [byteAt data offset, byteAt data (offset + 1)] := by
    rw [wordAt, BigEndian.word_toNat]
    simp [BigEndian.value]
  rw [read, drop_eq_byteAt_cons (by omega), drop_eq_byteAt_cons (by omega)]
  exact (BigEndian.digits_value [byteAt data offset, byteAt data (offset + 1)]).symm

end Slices

section Loop

variable {data : List UInt8} {sample after : IoSample} {offset result : Nat}
variable {channel : Nat} {channels : List Nat}

@[simp] theorem IoSample.wordOf_withAnalog_self (early : channel < 8) (word : UInt16) :
    (sample.withAnalog channel word).wordOf channel = word := by
  simp [wordOf, withAnalog, early]

theorem IoSample.wordOf_withAnalog_of_ne {other : Nat} (differs : other ≠ channel) (word : UInt16) :
    (sample.withAnalog channel word).wordOf other = sample.wordOf other := by
  simp [wordOf, withAnalog, Ne.symm differs]

theorem IoSample.readAnalog_mask
    (read : IoSample.readAnalog data sample offset channels = .ok (after, result)) :
    after.analogChannelMask = sample.analogChannelMask := by
  rw [readAnalog_frame read]

theorem IoSample.readAnalog_other
    (read : IoSample.readAnalog data sample offset channels = .ok (after, result)) {other : Nat}
    (absent : other ∉ channels) : after.wordOf other = sample.wordOf other := by
  -- Each round writes at its own channel only.
  induction channels generalizing sample offset with
  | nil =>
    simp only [readAnalog, Except.ok.injEq, Prod.mk.injEq] at read
    rw [read.1]
  | cons channel rest ih =>
    obtain ⟨differs, later⟩ := List.ne_and_not_mem_of_not_mem_cons absent
    rw [readAnalog_cons] at read
    split at read
    · exact (ih read.2 later).trans (wordOf_withAnalog_of_ne differs _)
    · exact ih read later

theorem IoSample.readAnalog_wordOf {before behind : List Nat}
    (read : IoSample.readAnalog data sample offset (before ++ channel :: behind) =
      .ok (after, result)) (early : channel < 8) (once : channel ∉ behind)
    (present : Announced sample.analogChannelMask channel = true) :
    after.wordOf channel =
      wordAt data (offset + 2 * before.countP (Announced sample.analogChannelMask)) := by
  induction before generalizing sample offset with
  | nil =>
    rw [List.nil_append, readAnalog_cons, if_pos present] at read
    rw [readAnalog_other read.2 once, wordOf_withAnalog_self early]
    rfl
  | cons first before ih =>
    rw [List.cons_append, readAnalog_cons] at read
    split at read
    · next announced =>
      have later := @ih (sample.withAnalog first (wordAt data offset)) (offset + 2) read.2 present
      rw [later, List.countP_cons_of_pos announced, Nat.mul_add, Nat.add_assoc, Nat.add_comm 2]
      rfl
    · next passed =>
      rw [ih read present, List.countP_cons_of_neg passed]

theorem IoSample.readAnalog_bytes (distinct : channels.Nodup)
    (early : ∀ channel ∈ channels, channel < 8)
    (read : IoSample.readAnalog data sample offset channels = .ok (after, result)) :
    after.analogBytes channels =
      (data.drop offset).take (2 * channels.countP (Announced sample.analogChannelMask)) := by
  induction channels generalizing sample offset with
  | nil => rfl
  | cons channel rest ih =>
    obtain ⟨once, distinctRest⟩ := List.nodup_cons.mp distinct
    have earlyRest : ∀ other ∈ rest, other < 8 := fun other listed =>
      early other (List.mem_cons_of_mem _ listed)
    have whole := read
    rw [readAnalog_cons] at read
    have mask := readAnalog_mask whole
    cases announced : Announced sample.analogChannelMask channel with
    | false =>
      rw [announced, if_neg Bool.noConfusion] at read
      have absent : after.hasAnalog channel = false := by rw [hasAnalog_eq, mask, announced]
      rw [analogBytes, List.filter_cons_of_neg (by simp [absent]),
        List.countP_cons_of_neg (by simp [announced])]
      exact ih distinctRest earlyRest read
    | true =>
      rw [announced, if_pos rfl] at read
      have present : after.hasAnalog channel = true := by rw [hasAnalog_eq, mask, announced]
      -- The word of this channel comes first, and no later round writes over it.
      have word : after.wordOf channel = wordAt data offset := by
        rw [readAnalog_other read.2 once, wordOf_withAnalog_self (early channel (by simp))]
      have others := @ih (sample.withAnalog channel (wordAt data offset)) (offset + 2)
        distinctRest earlyRest read.2
      rw [analogBytes, List.filter_cons_of_pos present, List.flatMap_cons, word,
        List.countP_cons_of_pos announced, Nat.mul_add, Nat.mul_one, Nat.add_comm _ 2,
        List.take_add, word_slice read.1, List.drop_drop]
      exact congrArg _ others

end Loop

section Payload

variable {data : List UInt8}

theorem source_slice (whole : 8 ≤ data.length) :
    data.take 8 = BigEndian.digits 8 (headerOf data).sourceAddress.toNat := by
  have digits := BigEndian.digits_value (data.take 8)
  rw [List.length_take, Nat.min_eq_left whole] at digits
  rw [headerOf_source whole, nodeAddress, digits]

theorem IoSample.headerBytes_headerOf (whole : 15 ≤ data.length) (single : byteAt data 11 = 1) :
    (headerOf data).headerBytes = data.take 15 := by
  -- One field after the other is cut off the front.
  have cut : data.take 15 = data.take 8 ++ (data.drop 8).take 2 ++ (data.drop 10).take 1 ++
      (data.drop 11).take 1 ++ (data.drop 12).take 2 ++ (data.drop 14).take 1 := by
    rw [← List.take_add, ← List.take_add, ← List.take_add, ← List.take_add, ← List.take_add]
  rw [cut, source_slice (by omega), word_slice (by omega), byte_slice (by omega),
    byte_slice (by omega), word_slice (by omega), byte_slice (by omega), single]
  rfl

theorem IoSample.readDigital_bytes {digital : IoSample} {offset : Nat} (whole : 15 ≤ data.length)
    (read : IoSample.readDigital data (headerOf data) 15 = .ok (digital, offset)) :
    digital.headerBytes = (headerOf data).headerBytes ∧
      digital.digitalBytes = (data.drop 15).take (digitalEnd data - 15) := by
  obtain ⟨room, same⟩ := readDigital_ok_iff.mp read
  have within := digitalEnd_le whole room
  simp only [Prod.mk.injEq] at same
  obtain ⟨rfl, -⟩ := same
  refine ⟨rfl, ?_⟩
  by_cases none : wordAt data 12 = 0
  · simp [digitalBytes, headerOf, none, digitalEnd]
  · simp only [digitalEnd, none, if_false] at within ⊢
    simp [digitalBytes, headerOf, none, word_slice within]

end Payload

section Results

variable {frame : XBeeFrame} {sample : IoSample}

variable (decoded : IoSample.decode frame = .ok sample)
include decoded

theorem IoSample.encode_decode : sample.encode = frame.data := by
  obtain ⟨-, whole, single, digital, offset, first, last⟩ := decode_eq_iff.mp decoded
  obtain ⟨-, mask, rfl⟩ := readDigital_masks first
  obtain ⟨header, sampled⟩ := readDigital_bytes whole first
  have within := digitalEnd_le whole (readDigital_ok_iff.mp first).1
  obtain ⟨length, -⟩ := (readAnalog_ok_iff within).mp ⟨sample, last⟩
  have analog := readAnalog_bytes List.nodup_range (fun channel => List.mem_range.mp) last
  have rest : (frame.data.drop (digitalEnd frame.data)).length =
      2 * (List.range 8).countP (Announced digital.analogChannelMask) := by
    rw [List.length_drop]
    omega
  rw [← rest, List.take_length] at analog
  -- Only the analog samples came after the digital ones.
  have others : sample.headerBytes ++ sample.digitalBytes =
      digital.headerBytes ++ digital.digitalBytes := by
    rw [readAnalog_frame last]
    rfl
  have upTo : 15 + (digitalEnd frame.data - 15) = digitalEnd frame.data :=
    Nat.add_sub_cancel' (Nat.le_add_right 15 _)
  calc sample.encode
      = digital.headerBytes ++ digital.digitalBytes ++ sample.analogBytes (List.range 8) := by
        rw [encode, others]
    _ = frame.data.take (digitalEnd frame.data) ++ frame.data.drop (digitalEnd frame.data) := by
        rw [header, sampled, analog, headerBytes_headerOf whole single, ← List.take_add, upTo]
    _ = frame.data := List.take_append_drop _ _

theorem IoSample.hasAnalog_decode (channel : Nat) :
    sample.hasAnalog channel = Announced (byteAt frame.data 14) channel := by
  obtain ⟨-, -, -, digital, offset, first, last⟩ := decode_eq_iff.mp decoded
  rw [hasAnalog_eq, readAnalog_mask last, (readDigital_masks first).2.1]

theorem IoSample.wordOf_decode {channel : Nat}
    (present : Announced (byteAt frame.data 14) channel = true) (early : channel < 8) :
    sample.wordOf channel = analogWord frame.data channel := by
  obtain ⟨-, -, -, digital, offset, first, last⟩ := decode_eq_iff.mp decoded
  obtain ⟨-, mask, rfl⟩ := readDigital_masks first
  -- The loop comes to the channel after those below it.
  have split : List.range 8 = List.range channel ++
      channel :: List.range' (channel + 1) (7 - channel) := by
    have joined := @List.range'_append 0 channel (8 - channel) 1
    rw [Nat.one_mul, Nat.zero_add, ← List.range_eq_range', Nat.add_sub_cancel' early.le,
      ← List.range_eq_range'] at joined
    rw [← joined, show 8 - channel = 7 - channel + 1 by omega, List.range'_succ]
  rw [split] at last
  rw [← mask] at present
  rw [readAnalog_wordOf last early (by simp) present, mask, analogWord]

theorem IoSample.analog_decode (channel : Nat) : sample.analog channel =
      if Announced (byteAt frame.data 14) channel then .ok (analogWord frame.data channel)
      else .error "XBee analog channel is not present" := by
  have mask := hasAnalog_decode decoded channel
  cases present : Announced (byteAt frame.data 14) channel with
  | false =>
    rw [present] at mask
    simp [analog, mask]
  | true =>
    rw [present] at mask
    have early : channel < 8 := by
      by_contra late
      simp [hasAnalog, late] at mask
    have word := wordOf_decode decoded present early
    rw [analog, mask, if_neg Bool.noConfusion, if_pos rfl]
    exact congrArg Except.ok word

omit decoded

/-- A frame decodes exactly if it holds one sample and nothing else; the sample written out is the
payload again, and its analog channels are the bits of the mask with the words they announce. -/
theorem IoSample.decode_exact (frame : XBeeFrame) :
    ((∃ sample, IoSample.decode frame = .ok sample) ↔
      frame.type = FrameType.zigbeeIoSample ∧ HoldsSample frame.data) ∧
    ∀ sample, IoSample.decode frame = .ok sample →
      sample.encode = frame.data ∧
      ∀ channel, sample.hasAnalog channel = Announced (byteAt frame.data 14) channel ∧
        sample.analog channel =
          if Announced (byteAt frame.data 14) channel then .ok (analogWord frame.data channel)
          else .error "XBee analog channel is not present" := by
  refine ⟨decode_ok_iff frame, fun sample decoded => ⟨encode_decode decoded, fun channel => ?_⟩⟩
  exact ⟨hasAnalog_decode decoded channel, analog_decode decoded channel⟩

end Results

end PocoDDS.XBee
