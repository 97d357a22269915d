import Mathlib.Data.Nat.Bitwise
import PocoDDS.Lib.BigEndian
import PocoDDS.XBee.Frame

/-! Zigbee IO samples: the optional words that the masks announce, and the frames that hold one. -/

namespace PocoDDS.XBee

def FrameType.zigbeeIoSample : FrameType := 0x92

structure IoSample where
  sourceAddress : UInt64 := 0
  networkAddress : UInt16 := 0
  receiveOptions : UInt8 := 0
  digitalChannelMask : UInt16 := 0
  analogChannelMask : UInt8 := 0
  digitalSamples : UInt16 := 0
  analogSamples : Vector UInt16 8 := .replicate 8 0
  deriving DecidableEq, Repr

/-- The byte at an offset; the callers have tested that there is one. -/
def byteAt (data : List UInt8) (offset : Nat) : UInt8 := data.getD offset 0

/-- The big-endian word at an offset. -/
def wordAt (data : List UInt8) (offset : Nat) : UInt16 :=
  (byteAt data offset).toUInt16 <<< 8 ||| (byteAt data (offset + 1)).toUInt16

def readU16 (data : List UInt8) (offset : Nat) : Except String (UInt16 × Nat) :=
  if offset + 2 > data.length then .error "truncated XBee IO sample"
  else .ok (wordAt data offset, offset + 2)

namespace IoSample

def hasDigital (sample : IoSample) (channel : Nat) : Bool :=
  channel < 16 && sample.digitalChannelMask.toNat &&& (1 <<< channel) != 0

def digital (sample : IoSample) (channel : Nat) : Except String Bool :=
  if !sample.hasDigital channel then .error "XBee digital channel is not present"
  else .ok (sample.digitalSamples.toNat &&& (1 <<< channel) != 0)

def hasAnalog (sample : IoSample) (channel : Nat) : Bool :=
  channel < 8 && sample.analogChannelMask.toNat &&& (1 <<< channel) != 0

def analog (sample : IoSample) (channel : Nat) : Except String UInt16 :=
  if !sample.hasAnalog channel then .error "XBee analog channel is not present"
  else .ok (sample.analogSamples.toArray.getD channel 0)

def withAnalog (sample : IoSample) (channel : Nat) (word : UInt16) : IoSample :=
  { sample with analogSamples := sample.analogSamples.setIfInBounds channel word }

/-- The loop over the analog channels, each of which takes a word if the mask has it. -/
def readAnalog (data : List UInt8) (sample : IoSample) (offset : Nat) :
    List Nat → Except String (IoSample × Nat)
  | [] => .ok (sample, offset)
  | channel :: rest =>
    if sample.hasAnalog channel then do
      let (word, offset) ← readU16 data offset
      readAnalog data (sample.withAnalog channel word) offset rest
    else readAnalog data sample offset rest

/-- The fields up to the masks; the size of the header has been tested. -/
def readHeader (data : List UInt8) : Except String (IoSample × Nat) := do
  let sourceAddress := (data.take 8).foldl
    (fun (address : UInt64) byte => address <<< 8 ||| byte.toUInt64) 0
  let (networkAddress, offset) ← readU16 data 8
  let receiveOptions := byteAt data offset
  if byteAt data (offset + 1) ≠ 1 then throw "only single XBee IO samples are supported"
  let (digitalChannelMask, offset) ← readU16 data (offset + 2)
  let analogChannelMask := byteAt data offset
  let sample : IoSample := {
    sourceAddress := sourceAddress
    networkAddress := networkAddress
    receiveOptions := receiveOptions
    digitalChannelMask := digitalChannelMask
    analogChannelMask := analogChannelMask }
  return (sample, offset + 1)

/-- The digital samples, which are there if the mask is not empty. -/
def readDigital (data : List UInt8) (sample : IoSample) (offset : Nat) :
    Except String (IoSample × Nat) :=
  if sample.digitalChannelMask ≠ 0 then do
    let (digitalSamples, offset) ← readU16 data offset
    return ({ sample with digitalSamples }, offset)
  else .ok (sample, offset)

def decode (frame : XBeeFrame) : Except String IoSample :=
  if frame.type ≠ FrameType.zigbeeIoSample then .error "XBee frame is not a Zigbee IO sample"
  else if frame.data.length < 15 then .error "truncated XBee IO sample header"
  else do
    let (sample, offset) ← readHeader frame.data
    let (sample, offset) ← readDigital frame.data sample offset
    let (sample, offset) ← readAnalog frame.data sample offset (List.range 8)
    if offset ≠ frame.data.length then .error "unexpected bytes after XBee IO sample"
    else .ok sample

end IoSample

def Announced (mask : UInt8) (channel : Nat) : Bool := mask.toNat.testBit channel

/-- The length that the masks of a sample ask for. -/
def sampleLength (data : List UInt8) : Nat :=
  15 + (if wordAt data 12 = 0 then 0 else 2) +
    2 * (List.range 8).countP (Announced (byteAt data 14))

/-- A payload that holds one sample and nothing else. -/
structure HoldsSample (data : List UInt8) : Prop where
  single : byteAt data 11 = 1
  length : data.length = sampleLength data

/-- The node that a sample comes from. -/
def nodeAddress (data : List UInt8) : Nat := BigEndian.value (data.take 8)

section Decode

variable {data : List UInt8} {sample : IoSample} {offset : Nat}

theorem readU16_of_le (within : offset + 2 ≤ data.length) :
    readU16 data offset = .ok (wordAt data offset, offset + 2) :=
  if_neg (Nat.not_lt.mpr within)

theorem readU16_of_lt (short : data.length < offset + 2) :
    readU16 data offset = .error "truncated XBee IO sample" :=
  if_pos short

theorem IoSample.hasAnalog_eq (sample : IoSample) (channel : Nat) :
    sample.hasAnalog channel = Announced sample.analogChannelMask channel := by
  by_cases early : channel < 8
  · -- A bit of the mask by itself is not zero exactly if the bit is set.
    simp only [IoSample.hasAnalog, early, decide_true, Bool.true_and, Announced, Nat.one_shiftLeft]
    rw [Nat.and_two_pow]
    cases sample.analogChannelMask.toNat.testBit channel <;> simp
  · -- A mask of eight bits has none of the others.
    have none : sample.analogChannelMask.toNat < 2 ^ channel :=
      lt_of_lt_of_le sample.analogChannelMask.toNat_lt
        (Nat.pow_le_pow_right (by decide) (Nat.le_of_not_lt early))
    simp [IoSample.hasAnalog, early, Announced, Nat.testBit_lt_two_pow none]

theorem IoSample.readAnalog_cons {channel : Nat} {rest : List Nat} {result : IoSample × Nat} :
    IoSample.readAnalog data sample offset (channel :: rest) = .ok result ↔
      if Announced sample.analogChannelMask channel then
        offset + 2 ≤ data.length ∧
          IoSample.readAnalog data (sample.withAnalog channel (wordAt data offset)) (offset + 2)
            rest = .ok result
      else IoSample.readAnalog data sample offset rest = .ok result := by
  rw [readAnalog, hasAnalog_eq]
  cases Announced sample.analogChannelMask channel with
  | false => rfl
  | true =>
    by_cases fits : offset + 2 ≤ data.length
    · simp [readU16_of_le fits, fits, bind, Except.bind]
    · simp [readU16_of_lt (Nat.lt_of_not_le fits), fits, bind, Except.bind]

/-- The loop over channels that the mask has in part ends behind as many words. -/
theorem IoSample.readAnalog_ok_iff {channels : List Nat} (within : offset ≤ data.length)
    {result : Nat} :
    (∃ after : IoSample, IoSample.readAnalog data sample offset channels = .ok (after, result)) ↔
      result = offset + 2 * channels.countP (Announced sample.analogChannelMask) ∧
        result ≤ data.length := by
  -- The loop changes the samples, never the mask.
  induction channels generalizing sample offset with
  | nil =>
    simp only [readAnalog, List.countP_nil, Nat.mul_zero, Nat.add_zero, Except.ok.injEq,
      Prod.mk.injEq, exists_eq_left']
    constructor
    · intro same
      exact ⟨same.symm, same ▸ within⟩
    · intro same
      exact same.1.symm
  | cons channel rest ih =>
    simp only [readAnalog_cons]
    cases announced : Announced sample.analogChannelMask channel with
    | false =>
      rw [List.countP_cons_of_neg (by simp [announced])]
      exact ih within
    | true =>
      rw [List.countP_cons_of_pos announced]
      simp only [if_true, exists_and_left]
      by_cases fits : offset + 2 ≤ data.length
      · have next := @ih (sample.withAnalog channel (wordAt data offset)) (offset + 2) fits
        refine (and_iff_right fits).trans (Iff.trans next ?_)
        rw [Nat.mul_add, Nat.add_assoc, Nat.add_comm 2]
        rfl
      · constructor
        · rintro ⟨room, -⟩
          exact absurd room fits
        · rintro ⟨rfl, inside⟩
          omega

/-- The fields that stand before the words that the masks announce. -/
def headerOf (data : List UInt8) : IoSample where
  sourceAddress := (data.take 8).foldl
    (fun (address : UInt64) byte => address <<< 8 ||| byte.toUInt64) 0
  networkAddress := wordAt data 8
  receiveOptions := byteAt data 10
  digitalChannelMask := wordAt data 12
  analogChannelMask := byteAt data 14

theorem IoSample.readHeader_of_single (whole : 15 ≤ data.length) (single : byteAt data 11 = 1) :
    IoSample.readHeader data = .ok (headerOf data, 15) := by
  have network : readU16 data 8 = .ok (wordAt data 8, 10) := readU16_of_le (by omega)
  have digital : readU16 data 12 = .ok (wordAt data 12, 14) := readU16_of_le (by omega)
  simp only [readHeader, network, bind, Except.bind, single, ne_eq, not_true, if_false, pure,
    Except.pure, digital, headerOf]

theorem IoSample.readHeader_of_several (whole : 15 ≤ data.length) (several : byteAt data 11 ≠ 1) :
    IoSample.readHeader data = .error "only single XBee IO samples are supported" := by
  have network : readU16 data 8 = .ok (wordAt data 8, 10) := readU16_of_le (by omega)
  simp only [readHeader, network, bind, Except.bind, several, ne_eq, not_false_eq_true, if_true,
    throw, throwThe, MonadExceptOf.throw]

/-- Where the digital samples end. -/
def digitalEnd (data : List UInt8) : Nat := 15 + if wordAt data 12 = 0 then 0 else 2

theorem digitalEnd_le (whole : 15 ≤ data.length)
    (room : digitalEnd data ≤ data.length ∨ wordAt data 12 = 0) : digitalEnd data ≤ data.length := by
  obtain room | none := room
  · exact room
  · simpa [digitalEnd, none] using whole

theorem IoSample.readDigital_ok_iff {result : IoSample × Nat} :
    IoSample.readDigital data (headerOf data) 15 = .ok result ↔
      (digitalEnd data ≤ data.length ∨ wordAt data 12 = 0) ∧
        result = ({ headerOf data with
          digitalSamples := if wordAt data 12 = 0 then 0 else wordAt data 15 }, digitalEnd data) := by
  by_cases none : wordAt data 12 = 0
  · -- An empty mask announces no word.
    simp [readDigital, headerOf, none, digitalEnd, eq_comm]
  · by_cases fits : 15 + 2 ≤ data.length
    · simp [readDigital, headerOf, none, digitalEnd, readU16_of_le fits, fits, bind, Except.bind,
        pure, Except.pure, eq_comm]
    · simp [readDigital, headerOf, none, digitalEnd, readU16_of_lt (Nat.lt_of_not_le fits), fits,
        bind, Except.bind]

theorem IoSample.readAnalog_frame {channels : List Nat} {after : IoSample} {result : Nat}
    (read : IoSample.readAnalog data sample offset channels = .ok (after, result)) :
    after = { sample with analogSamples := after.analogSamples } := by
  -- A channel either adds a sample or is passed over.
  induction channels generalizing sample offset with
  | nil =>
    simp only [readAnalog, Except.ok.injEq, Prod.mk.injEq] at read
    rw [read.1]
  | cons channel rest ih =>
    rw [readAnalog_cons] at read
    split at read
    · exact @ih (sample.withAnalog channel (wordAt data offset)) (offset + 2) read.2
    · exact ih read

theorem IoSample.decode_eq_iff {frame : XBeeFrame} : IoSample.decode frame = .ok sample ↔
      frame.type = FrameType.zigbeeIoSample ∧ 15 ≤ frame.data.length ∧ byteAt frame.data 11 = 1 ∧
        ∃ digital : IoSample, ∃ offset : Nat,
          IoSample.readDigital frame.data (headerOf frame.data) 15 = .ok (digital, offset) ∧
          IoSample.readAnalog frame.data digital offset (List.range 8) =
            .ok (sample, frame.data.length) := by
  by_cases type : frame.type = FrameType.zigbeeIoSample
  swap
  · simp [decode, type]
  by_cases whole : 15 ≤ frame.data.length
  swap
  · simp [decode, type, whole, Nat.lt_of_not_le whole]
  by_cases single : byteAt frame.data 11 = 1
  swap
  · simp [decode, type, whole, Nat.not_lt.mpr whole, readHeader_of_several whole single, single,
      bind, Except.bind]
  -- Behind the header each part either fails or hands on its offset.
  simp only [decode, type, ne_eq, not_true, if_false, Nat.not_lt.mpr whole,
    readHeader_of_single whole single, bind, Except.bind, whole, single, true_and]
  cases read : readDigital frame.data (headerOf frame.data) 15 with
  | error message => simp
  | ok digital =>
    obtain ⟨sampled, behind⟩ := digital
    cases last : readAnalog frame.data sampled behind (List.range 8) with
    | error message => simp [last]
    | ok analog =>
      obtain ⟨after, stop⟩ := analog
      by_cases same : stop = frame.data.length
      · simp [last, same]
      · simp [last, same]

theorem IoSample.readDigital_masks {digital : IoSample}
    (read : IoSample.readDigital data (headerOf data) 15 = .ok (digital, offset)) :
    digital.sourceAddress = (headerOf data).sourceAddress ∧
      digital.analogChannelMask = byteAt data 14 ∧ offset = digitalEnd data := by
  obtain ⟨-, same⟩ := readDigital_ok_iff.mp read
  simp only [Prod.mk.injEq] at same
  obtain ⟨rfl, rfl⟩ := same
  exact ⟨rfl, rfl, rfl⟩

theorem IoSample.decode_ok_iff (frame : XBeeFrame) :
    (∃ sample, IoSample.decode frame = .ok sample) ↔
      frame.type = FrameType.zigbeeIoSample ∧ HoldsSample frame.data := by
  constructor
  · rintro ⟨sample, decoded⟩
    -- Where all has been read, the length is what the masks announce.
    obtain ⟨type, whole, single, digital, offset, first, last⟩ := decode_eq_iff.mp decoded
    obtain ⟨-, mask, rfl⟩ := readDigital_masks first
    have room := (readDigital_ok_iff.mp first).1
    have within := digitalEnd_le whole room
    obtain ⟨length, -⟩ := (readAnalog_ok_iff within).mp ⟨sample, last⟩
    exact ⟨type, single, by simpa [sampleLength, digitalEnd, mask] using length⟩
  · rintro ⟨type, single, length⟩
    -- A payload of the announced length has room for each of the words.
    have counted : frame.data.length =
        digitalEnd frame.data + 2 * (List.range 8).countP (Announced (byteAt frame.data 14)) := by
      simpa [sampleLength, digitalEnd] using length
    have within : digitalEnd frame.data ≤ frame.data.length := by omega
    have whole : 15 ≤ frame.data.length := le_trans (Nat.le_add_right 15 _) within
    obtain ⟨digital, first⟩ : ∃ digital,
        readDigital frame.data (headerOf frame.data) 15 = .ok (digital, digitalEnd frame.data) :=
      ⟨_, readDigital_ok_iff.mpr ⟨.inl within, rfl⟩⟩
    obtain ⟨-, mask, -⟩ := readDigital_masks first
    rw [← mask] at counted
    obtain ⟨sample, last⟩ := (readAnalog_ok_iff within).mpr ⟨counted, le_refl _⟩
    exact ⟨sample, decode_eq_iff.mpr ⟨type, whole, single, digital, _, first, last⟩⟩

theorem headerOf_source (whole : 8 ≤ data.length) :
    (headerOf data).sourceAddress.toNat = nodeAddress data := by
  have eight : (data.take 8).length = 8 := by
    rw [List.length_take]
    omega
  have shifted := BigEndian.foldl_push_toNat (data.take 8) 0 0 (by decide) (by omega)
  simpa [headerOf, nodeAddress] using shifted

/-- The address of a sample is the number that the first eight bytes form. -/
theorem IoSample.decode_address {frame : XBeeFrame} (decoded : IoSample.decode frame = .ok sample) :
    sample.sourceAddress.toNat = nodeAddress frame.data := by
  obtain ⟨-, whole, -, digital, offset, first, last⟩ := decode_eq_iff.mp decoded
  rw [readAnalog_frame last, (readDigital_masks first).1]
  exact headerOf_source (by omega)

end Decode

end PocoDDS.XBee
