import Mathlib.Data.Int.ModEq
import Mathlib.Data.Nat.Digits.Defs
import Mathlib.Tactic.Ring

/-! Reading a signal from the payload of a CAN frame: the bits that are visited, and the number. -/

namespace PocoDDS.Can

structure CanFrame where
  length : Nat
  fits : length ≤ 64
  data : Vector UInt8 64

inductive BitOrder
  | littleEndian
  | bigEndian
  deriving DecidableEq, Repr

/-- A read beyond the array has no defined result. -/
inductive DecodeError
  | outOfRange
  | undefined
  deriving DecidableEq, Repr

/-- One bit of a byte of the array. -/
def CanFrame.bit (frame : CanFrame) (byte bit : Nat) : Except DecodeError UInt64 :=
  if h : byte < 64 then .ok (UInt64.ofNat ((frame.data[byte].toNat >>> bit) &&& 1))
  else .error .undefined

/-- The little-endian loop, when `count` bits are still to be read. -/
def littleEndianFrom (frame : CanFrame) (bitOffset : UInt64) (value : UInt64) (i : Nat) :
    (count : Nat) → Except DecodeError UInt64
  | 0 => .ok value
  | count + 1 => do
    let absolute := bitOffset + UInt64.ofNat i
    let bit ← frame.bit (absolute / 8).toNat (absolute % 8).toNat
    littleEndianFrom frame bitOffset (value ||| (bit <<< UInt64.ofNat i)) (i + 1) count

def bigEndianFrom (frame : CanFrame) (value : UInt64) (byte bit : Nat) :
    (count : Nat) → Except DecodeError UInt64
  | 0 => .ok value
  | count + 1 => do
    let read ← frame.bit byte bit
    let value := (value <<< 1) ||| read
    if bit = 0 then bigEndianFrom frame value (byte + 1) 7 count
    else bigEndianFrom frame value byte (bit - 1) count

def decodeUnsigned (frame : CanFrame) (bitOffset bitLength : UInt64) (order : BitOrder) :
    Except DecodeError UInt64 :=
  if bitLength = 0 ∨ bitLength > 64 ∨ bitOffset + bitLength > UInt64.ofNat frame.length * 8 then
    .error .outOfRange
  else
    match order with
    | .littleEndian => littleEndianFrom frame bitOffset 0 0 bitLength.toNat
    | .bigEndian =>
      bigEndianFrom frame 0 (bitOffset / 8).toNat (bitOffset % 8).toNat bitLength.toNat

def decodeSigned (frame : CanFrame) (bitOffset bitLength : UInt64) (order : BitOrder) :
    Except DecodeError Int64 := do
  let raw ← decodeUnsigned frame bitOffset bitLength order
  if bitLength = 64 then return raw.toInt64
  let sign := (1 : UInt64) <<< (bitLength - 1)
  return ((raw ^^^ sign) - sign).toInt64

/-- The bits that a signal consists of, as bytes and positions in them, in the order of the walk. -/
def walk : BitOrder → (bitOffset bitLength : Nat) → List (Nat × Nat)
  | .littleEndian, bitOffset, bitLength =>
    (List.range bitLength).map fun i => ((bitOffset + i) / 8, (bitOffset + i) % 8)
  | .bigEndian, bitOffset, bitLength =>
    (List.range bitLength).map fun i =>
      let place := bitOffset / 8 * 8 + (7 - bitOffset % 8) + i
      (place / 8, 7 - place % 8)

/-- The value of a bit; there are only zeros behind the array. -/
def CanFrame.bitAt (frame : CanFrame) (place : Nat × Nat) : Nat :=
  if h : place.1 < 64 then frame.data[place.1].toNat / 2 ^ place.2 % 2 else 0

/-- The number that the bits of a signal form. -/
def signalValue (frame : CanFrame) (order : BitOrder) (bitOffset bitLength : Nat) : Nat :=
  let bits := (walk order bitOffset bitLength).map frame.bitAt
  match order with
  | .littleEndian => Nat.ofDigits 2 bits
  | .bigEndian => Nat.ofDigits 2 bits.reverse

/-- All bits of a signal are in the payload. -/
def InPayload (frame : CanFrame) (order : BitOrder) (bitOffset bitLength : Nat) : Prop :=
  ∀ place ∈ walk order bitOffset bitLength, place.1 < frame.length

/-- Where a signal ends, in bits of the payload. -/
def walkEnd : BitOrder → (bitOffset bitLength : Nat) → Nat
  | .littleEndian, bitOffset, bitLength => bitOffset + bitLength
  | .bigEndian, bitOffset, bitLength => bitOffset / 8 * 8 + (7 - bitOffset % 8) + bitLength

section Walk

variable {frame : CanFrame} {order : BitOrder}

theorem inPayload_iff {bitOffset bitLength : Nat} (some : 0 < bitLength) :
    InPayload frame order bitOffset bitLength ↔
      walkEnd order bitOffset bitLength ≤ 8 * frame.length := by
  have last : bitLength - 1 < bitLength := Nat.sub_lt some Nat.one_pos
  cases order with
  | littleEndian =>
    simp only [InPayload, walk, walkEnd, List.mem_map, List.mem_range, forall_exists_index, and_imp]
    constructor
    · intro inside
      have bound := inside _ _ last rfl
      omega
    · rintro within _ i early rfl
      dsimp only
      omega
  | bigEndian =>
    simp only [InPayload, walk, walkEnd, List.mem_map, List.mem_range, forall_exists_index, and_imp]
    constructor
    · intro inside
      have bound := inside _ _ last rfl
      dsimp only at bound
      omega
    · rintro within _ i early rfl
      dsimp only
      omega

theorem CanFrame.bit_eq (frame : CanFrame) {byte : Nat} (inside : byte < 64) (bit : Nat) :
    ∃ read, frame.bit byte bit = .ok read ∧ read.toNat = frame.bitAt (byte, bit) := by
  refine ⟨_, dif_pos inside, ?_⟩
  have low : (frame.data[byte].toNat >>> bit) &&& 1 = frame.data[byte].toNat / 2 ^ bit % 2 := by
    rw [Nat.and_one_is_mod, Nat.shiftRight_eq_div_pow]
  rw [low, CanFrame.bitAt, dif_pos inside, UInt64.toNat_ofNat']
  dsimp only
  omega

theorem CanFrame.bitAt_lt (place : Nat × Nat) : frame.bitAt place < 2 := by
  unfold CanFrame.bitAt
  split <;> omega

/-- Setting the next bit of a number that does not have it yet. -/
theorem toNat_or_shift {value bit : UInt64} {i : Nat} (small : value.toNat < 2 ^ i) (early : i < 64)
    (one : bit.toNat < 2) :
    (value ||| bit <<< UInt64.ofNat i).toNat = value.toNat + 2 ^ i * bit.toNat := by
  have shift : (UInt64.ofNat i).toNat = i := by
    rw [UInt64.toNat_ofNat']
    omega
  have grown : bit.toNat * 2 ^ i < 2 ^ 64 := by
    have power : 2 ^ i ≤ 2 ^ 63 := Nat.pow_le_pow_right (by omega) (by omega)
    nlinarith
  have moved : (bit <<< UInt64.ofNat i).toNat = 2 ^ i * bit.toNat := by
    rw [UInt64.toNat_shiftLeft, shift, Nat.mod_eq_of_lt early, Nat.shiftLeft_eq,
      Nat.mod_eq_of_lt grown, Nat.mul_comm]
  rw [UInt64.toNat_or, moved, Nat.or_comm, ← Nat.two_pow_add_eq_or_of_lt small, Nat.add_comm]

/-- Appending a bit to a number. -/
theorem toNat_shift_or {value bit : UInt64} {taken : Nat} (small : value.toNat < 2 ^ taken)
    (early : taken < 64) (one : bit.toNat < 2) :
    (value <<< 1 ||| bit).toNat = 2 * value.toNat + bit.toNat := by
  have power : 2 ^ taken ≤ 2 ^ 63 := Nat.pow_le_pow_right (by omega) (by omega)
  have moved : (value <<< 1).toNat = 2 ^ 1 * value.toNat := by
    rw [UInt64.toNat_shiftLeft, show (1 : UInt64).toNat % 64 = 1 from rfl, Nat.shiftLeft_eq,
      Nat.mod_eq_of_lt (by omega), Nat.mul_comm]
  rw [UInt64.toNat_or, moved, ← Nat.two_pow_add_eq_or_of_lt (by omega)]

/-- Reading bits from the lowest one on. -/
theorem littleEndianFrom_eq {bitOffset value : UInt64} {i count : Nat}
    (inside : bitOffset.toNat + i + count ≤ 512) (fits : i + count ≤ 64)
    (small : value.toNat < 2 ^ i) :
    ∃ result, littleEndianFrom frame bitOffset value i count = .ok result ∧
      result.toNat = value.toNat + 2 ^ i * Nat.ofDigits 2 ((List.range' i count).map fun i =>
        frame.bitAt ((bitOffset.toNat + i) / 8, (bitOffset.toNat + i) % 8)) := by
  induction count generalizing value i with
  | zero => exact ⟨value, rfl, by simp⟩
  | succ count ih =>
    have absolute : (bitOffset + UInt64.ofNat i).toNat = bitOffset.toNat + i := by
      rw [UInt64.toNat_add, UInt64.toNat_ofNat']
      omega
    have here : (bitOffset.toNat + i) / 8 < 64 := by omega
    obtain ⟨bit, found, isBit⟩ := frame.bit_eq here ((bitOffset.toNat + i) % 8)
    have one : bit.toNat < 2 := isBit ▸ frame.bitAt_lt _
    have next := toNat_or_shift small (by omega) one
    have grown : (value ||| bit <<< UInt64.ofNat i).toNat < 2 ^ (i + 1) := by
      rw [next, Nat.pow_succ]
      nlinarith
    obtain ⟨result, rest, total⟩ := ih (by omega) (by omega) grown
    refine ⟨result, ?_, ?_⟩
    · unfold littleEndianFrom
      simp only [UInt64.toNat_div, UInt64.toNat_mod, absolute]
      exact (congrArg (· >>= _) found).trans rest
    · rw [total, next, List.range'_succ, List.map_cons, Nat.ofDigits_cons, isBit]
      ring

/-- Reading bits from the highest one on. -/
theorem bigEndianFrom_eq {value : UInt64} {byte bit taken count : Nat} (high : bit ≤ 7)
    (inside : byte * 8 + (7 - bit) + count ≤ 512) (fits : taken + count ≤ 64)
    (small : value.toNat < 2 ^ taken) :
    ∃ result, bigEndianFrom frame value byte bit count = .ok result ∧
      result.toNat = 2 ^ count * value.toNat + Nat.ofDigits 2 ((List.range count).map fun i =>
          frame.bitAt ((byte * 8 + (7 - bit) + i) / 8,
            7 - (byte * 8 + (7 - bit) + i) % 8)).reverse := by
  induction count generalizing value byte bit taken with
  | zero => exact ⟨value, rfl, by simp⟩
  | succ count ih =>
    have here : byte < 64 := by omega
    obtain ⟨read, found, isBit⟩ := frame.bit_eq here bit
    have one : read.toNat < 2 := isBit ▸ frame.bitAt_lt _
    have next := toNat_shift_or small (by omega) one
    have grown : (value <<< 1 ||| read).toNat < 2 ^ (taken + 1) := by
      rw [next, Nat.pow_succ]
      omega
    -- The walk goes on at the next position, whichever byte that is in.
    have step : ∃ next bit', bit' ≤ 7 ∧ next * 8 + (7 - bit') = byte * 8 + (7 - bit) + 1 ∧
        bigEndianFrom frame value byte bit (count + 1) =
          bigEndianFrom frame (value <<< 1 ||| read) next bit' count := by
      have unfolded : bigEndianFrom frame value byte bit (count + 1) =
          if bit = 0 then bigEndianFrom frame (value <<< 1 ||| read) (byte + 1) 7 count
          else bigEndianFrom frame (value <<< 1 ||| read) byte (bit - 1) count := by
        rw [bigEndianFrom, found]
        rfl
      by_cases lowest : bit = 0
      · exact ⟨byte + 1, 7, by omega, by omega, by rw [unfolded, if_pos lowest]⟩
      · exact ⟨byte, bit - 1, by omega, by omega, by rw [unfolded, if_neg lowest]⟩
    obtain ⟨byte', bit', high', place, step⟩ := step
    have inside' : byte' * 8 + (7 - bit') + count ≤ 512 := by omega
    obtain ⟨result, rest, total⟩ := ih high' inside' (by omega) grown
    refine ⟨result, step.trans rest, ?_⟩
    have first : ((byte * 8 + (7 - bit) + 0) / 8, 7 - (byte * 8 + (7 - bit) + 0) % 8) =
        (byte, bit) := by
      ext <;> dsimp only <;> omega
    have later : ∀ i, byte * 8 + (7 - bit) + 1 + i = byte * 8 + (7 - bit) + (i + 1) := by
      intro i
      omega
    rw [total, next, place, List.range_succ_eq_map, List.map_cons, List.reverse_cons,
      Nat.ofDigits_append, first, ← isBit, List.map_map]
    simp only [List.length_reverse, List.length_map, List.length_range, Nat.ofDigits_singleton,
      Function.comp_def, Nat.succ_eq_add_one, later]
    ring

theorem littleEndianFrom_ne {bitOffset value : UInt64} {i count : Nat} :
    littleEndianFrom frame bitOffset value i count ≠ .error .outOfRange := by
  induction count generalizing value i with
  | zero => nofun
  | succ count ih =>
    unfold littleEndianFrom CanFrame.bit
    dsimp only
    split
    · exact ih
    · nofun

theorem bigEndianFrom_ne {value : UInt64} {byte bit count : Nat} :
    bigEndianFrom frame value byte bit count ≠ .error .outOfRange := by
  induction count generalizing value byte bit with
  | zero => nofun
  | succ count ih =>
    unfold bigEndianFrom CanFrame.bit
    dsimp only
    split
    · show (if bit = 0 then _ else _) ≠ _
      split <;> exact ih
    · nofun

end Walk

section Exact

variable {frame : CanFrame} {order : BitOrder} {bitOffset bitLength : UInt64}

/-- What the guard compares, as numbers. -/
theorem guard_iff : bitOffset + bitLength > UInt64.ofNat frame.length * 8 ↔
      8 * frame.length < (bitOffset.toNat + bitLength.toNat) % 2 ^ 64 := by
  have fits := frame.fits
  have size : (UInt64.ofNat frame.length * 8).toNat = 8 * frame.length := by
    rw [UInt64.toNat_mul, UInt64.toNat_ofNat', show (8 : UInt64).toNat = 8 from rfl]
    omega
  rw [gt_iff_lt, UInt64.lt_iff_toNat_lt, size, UInt64.toNat_add]

/-- The lengths that the guard lets pass. -/
def SizeAccepted (frame : CanFrame) (bitOffset bitLength : UInt64) : Prop :=
  0 < bitLength.toNat ∧ bitLength.toNat ≤ 64 ∧
    (bitOffset.toNat + bitLength.toNat) % 2 ^ 64 ≤ 8 * frame.length

theorem decodeUnsigned_rejected (rejected : ¬ SizeAccepted frame bitOffset bitLength) :
    decodeUnsigned frame bitOffset bitLength order = .error .outOfRange := by
  refine if_pos ?_
  rw [guard_iff, gt_iff_lt, UInt64.lt_iff_toNat_lt, show (64 : UInt64).toNat = 64 from rfl,
    ← UInt64.toNat_inj, show (0 : UInt64).toNat = 0 from rfl]
  unfold SizeAccepted at rejected
  omega

theorem decodeUnsigned_accepted (accepted : SizeAccepted frame bitOffset bitLength) :
    decodeUnsigned frame bitOffset bitLength order =
      match order with
      | .littleEndian => littleEndianFrom frame bitOffset 0 0 bitLength.toNat
      | .bigEndian =>
        bigEndianFrom frame 0 (bitOffset / 8).toNat (bitOffset % 8).toNat bitLength.toNat := by
  refine if_neg ?_
  rw [guard_iff, gt_iff_lt, UInt64.lt_iff_toNat_lt, show (64 : UInt64).toNat = 64 from rfl,
    ← UInt64.toNat_inj, show (0 : UInt64).toNat = 0 from rfl]
  unfold SizeAccepted at accepted
  omega

theorem decodeUnsigned_outOfRange_iff :
    decodeUnsigned frame bitOffset bitLength order = .error .outOfRange ↔
      ¬ SizeAccepted frame bitOffset bitLength := by
  refine ⟨fun reported accepted => ?_, decodeUnsigned_rejected⟩
  rw [decodeUnsigned_accepted accepted] at reported
  cases order with
  | littleEndian => exact littleEndianFrom_ne reported
  | bigEndian => exact bigEndianFrom_ne reported

theorem decodeUnsigned_eq (accepted : SizeAccepted frame bitOffset bitLength)
    (inside : InPayload frame order bitOffset.toNat bitLength.toNat) :
    ∃ value, decodeUnsigned frame bitOffset bitLength order = .ok value ∧
      value.toNat = signalValue frame order bitOffset.toNat bitLength.toNat := by
  rw [decodeUnsigned_accepted accepted]
  obtain ⟨some, most, -⟩ := accepted
  have fits := frame.fits
  have within := (inPayload_iff some).mp inside
  have zero : (0 : UInt64).toNat = 0 := rfl
  have one : (0 : UInt64).toNat < 2 ^ 0 := by decide
  cases order with
  | littleEndian =>
    unfold walkEnd at within
    dsimp only at within ⊢
    have room : bitOffset.toNat + 0 + bitLength.toNat ≤ 512 := by omega
    have count : 0 + bitLength.toNat ≤ 64 := by omega
    obtain ⟨value, read, total⟩ := @littleEndianFrom_eq frame _ _ _ _ room count one
    refine ⟨value, read, ?_⟩
    rw [total, zero, signalValue, walk, List.range_eq_range', List.map_map]
    simp [Function.comp_def]
  | bigEndian =>
    have byte : (bitOffset / 8).toNat = bitOffset.toNat / 8 := UInt64.toNat_div _ _
    have bit : (bitOffset % 8).toNat = bitOffset.toNat % 8 := UInt64.toNat_mod _ _
    unfold walkEnd at within
    dsimp only at within ⊢
    rw [byte, bit]
    have high : bitOffset.toNat % 8 ≤ 7 := by omega
    have room : bitOffset.toNat / 8 * 8 + (7 - bitOffset.toNat % 8) + bitLength.toNat ≤ 512 := by
      omega
    have count : 0 + bitLength.toNat ≤ 64 := by omega
    obtain ⟨value, read, total⟩ := @bigEndianFrom_eq frame _ _ _ _ _ high room count one
    refine ⟨value, read, ?_⟩
    rw [total, zero, signalValue, walk, List.map_map]
    simp [Function.comp_def]

/-- Flipping the highest bit of a number adds or removes it. -/
theorem xor_two_pow {number k : Nat} (small : number < 2 ^ (k + 1)) :
    number ^^^ 2 ^ k = if number < 2 ^ k then number + 2 ^ k else number - 2 ^ k := by
  have power : 0 < 2 ^ k := Nat.two_pow_pos k
  have whole := Nat.div_add_mod (number ^^^ 2 ^ k) (2 ^ k)
  rw [Nat.xor_div_two_pow, Nat.xor_mod_two_pow, Nat.div_self power, Nat.mod_self,
    Nat.xor_zero] at whole
  rw [Nat.pow_succ] at small
  split
  · next low =>
    rw [Nat.div_eq_of_lt low, Nat.mod_eq_of_lt low, Nat.zero_xor] at whole
    omega
  · next high =>
    have top : number / 2 ^ k = 1 := Nat.div_eq_of_lt_le (by omega) (by omega)
    have rest := Nat.div_add_mod number (2 ^ k)
    rw [top] at whole rest
    rw [Nat.xor_self] at whole
    omega

/-- A number is read as signed by its highest bit. -/
theorem signExtend_eq {raw : UInt64} {k : Nat} (short : k < 63) (small : raw.toNat < 2 ^ (k + 1)) :
    (((raw ^^^ (1 <<< UInt64.ofNat k)) - (1 <<< UInt64.ofNat k)).toInt64).toInt =
      if raw.toNat < 2 ^ k then (raw.toNat : Int) else (raw.toNat : Int) - 2 ^ (k + 1) := by
  have power : 2 ^ k < 2 ^ 63 := Nat.pow_lt_pow_right (by omega) short
  have sign : ((1 : UInt64) <<< UInt64.ofNat k).toNat = 2 ^ k := by
    have shift : (UInt64.ofNat k).toNat = k := by
      rw [UInt64.toNat_ofNat']
      omega
    have within : k % 64 = k := by omega
    rw [UInt64.toNat_shiftLeft, shift, within, Nat.shiftLeft_eq,
      show (1 : UInt64).toNat = 1 from rfl, Nat.one_mul, Nat.mod_eq_of_lt (by omega)]
  have bits : ∀ value : UInt64, value.toInt64.toInt = (value.toNat : Int).bmod (2 ^ 64) :=
    fun value => BitVec.toInt_eq_toNat_bmod _
  have flipped := xor_two_pow small
  rw [bits, UInt64.toNat_sub, UInt64.toNat_xor, sign, flipped]
  have doubled : (2 : Int) ^ (k + 1) = 2 * (2 ^ k : Nat) := by
    push_cast
    ring
  rw [Nat.pow_succ] at small
  rw [doubled]
  generalize 2 ^ k = top at *
  unfold Int.bmod
  dsimp only
  split <;> split <;> omega

theorem decodeSigned_eq {raw : UInt64} (some : 0 < bitLength.toNat) (most : bitLength.toNat ≤ 64)
    (small : raw.toNat < 2 ^ bitLength.toNat)
    (read : decodeUnsigned frame bitOffset bitLength order = .ok raw) :
    ∃ result, decodeSigned frame bitOffset bitLength order = .ok result ∧
      result.toInt = if raw.toNat < 2 ^ (bitLength.toNat - 1) then (raw.toNat : Int)
        else (raw.toNat : Int) - 2 ^ bitLength.toNat := by
  unfold decodeSigned
  rw [read]
  by_cases full : bitLength = 64
  · refine ⟨raw.toInt64, ?_, ?_⟩
    · show (if bitLength = 64 then _ else _) = _
      rw [if_pos full]
      rfl
    · have bits : raw.toInt64.toInt = (raw.toNat : Int).bmod (2 ^ 64) :=
        BitVec.toInt_eq_toNat_bmod _
      rw [bits, full]
      have bound := raw.toNat_lt
      unfold Int.bmod
      simp only [show (64 : UInt64).toNat = 64 from rfl]
      split <;> split <;> omega
  · have short : bitLength.toNat - 1 < 63 := by
      have differs : bitLength.toNat ≠ 64 := fun same => full (UInt64.toNat_inj.mp same)
      omega
    have count : bitLength.toNat - 1 + 1 = bitLength.toNat := by omega
    have shift : bitLength - 1 = UInt64.ofNat (bitLength.toNat - 1) := by
      rw [← UInt64.toNat_inj, UInt64.toNat_sub, UInt64.toNat_ofNat',
        show (1 : UInt64).toNat = 1 from rfl]
      omega
    have bounded : raw.toNat < 2 ^ (bitLength.toNat - 1 + 1) := by rwa [count]
    have extended := signExtend_eq short bounded
    rw [count] at extended
    refine ⟨_, ?_, extended⟩
    show (if bitLength = 64 then _ else _) = _
    rw [if_neg full, shift]
    rfl

theorem signalValue_lt (frame : CanFrame) (order : BitOrder) (bitOffset bitLength : Nat) :
    signalValue frame order bitOffset bitLength < 2 ^ bitLength := by
  have size : (walk order bitOffset bitLength).length = bitLength := by
    cases order <;> simp [walk]
  have bits : ∀ digit ∈ (walk order bitOffset bitLength).map frame.bitAt, digit < 2 := by
    intro digit listed
    obtain ⟨place, -, rfl⟩ := List.mem_map.mp listed
    exact frame.bitAt_lt place
  unfold signalValue
  cases order with
  | littleEndian =>
    have bound := Nat.ofDigits_lt_base_pow_length Nat.one_lt_two bits
    rwa [List.length_map, size] at bound
  | bigEndian =>
    have bound := Nat.ofDigits_lt_base_pow_length Nat.one_lt_two
      fun digit listed => bits digit (List.mem_reverse.mp listed)
    rwa [List.length_reverse, List.length_map, size] at bound

/-- The numbers that so many bits stand for. -/
def InSignedRange (bitLength : Nat) (number : Int) : Prop :=
  -2 ^ (bitLength - 1) ≤ number ∧ number < 2 ^ (bitLength - 1)

/-- A signal is read from its own bits, and only if the payload has all of them. -/
structure ReadExactly (frame : CanFrame) (order : BitOrder) (bitOffset bitLength : UInt64) :
    Prop where
  accepted : (∃ value, decodeUnsigned frame bitOffset bitLength order = .ok value) ↔
    0 < bitLength.toNat ∧ bitLength.toNat ≤ 64 ∧
      InPayload frame order bitOffset.toNat bitLength.toNat
  defined : decodeUnsigned frame bitOffset bitLength order ≠ .error .undefined
  number : ∀ value, decodeUnsigned frame bitOffset bitLength order = .ok value →
    value.toNat = signalValue frame order bitOffset.toNat bitLength.toNat
  independent : ∀ other : CanFrame, other.length = frame.length →
    (∀ place ∈ walk order bitOffset.toNat bitLength.toNat, other.bitAt place = frame.bitAt place) →
    decodeUnsigned other bitOffset bitLength order = decodeUnsigned frame bitOffset bitLength order
  signed : ∀ value, decodeUnsigned frame bitOffset bitLength order = .ok value →
    ∃ result, decodeSigned frame bitOffset bitLength order = .ok result ∧
      InSignedRange bitLength.toNat result.toInt ∧
      result.toInt ≡ value.toNat [ZMOD 2 ^ bitLength.toNat] ∧
      ∀ other, InSignedRange bitLength.toNat other →
        other ≡ value.toNat [ZMOD 2 ^ bitLength.toNat] → other = result.toInt

/-- The guard compares the sum of offset and length, where a signal ends elsewhere: behind a sum
that wraps around, or, in big-endian order, on the other side of the end of the payload. -/
def Misjudged (frame : CanFrame) (order : BitOrder) (bitOffset bitLength : UInt64) : Prop :=
  let sum := bitOffset.toNat + bitLength.toNat
  let payload := 8 * frame.length
  (2 ^ 64 ≤ sum ∧ sum - 2 ^ 64 ≤ payload) ∨
    match order with
    | .littleEndian => False
    | .bigEndian =>
      let last := sum + 7 - 2 * (bitOffset.toNat % 8)
      (sum ≤ payload ∧ payload < last) ∨ (last ≤ payload ∧ payload < sum)

theorem misjudged_iff (some : 0 < bitLength.toNat) (most : bitLength.toNat ≤ 64) :
    Misjudged frame order bitOffset bitLength ↔ ¬ (SizeAccepted frame bitOffset bitLength ↔
        InPayload frame order bitOffset.toNat bitLength.toNat) := by
  have fits := frame.fits
  have bound := bitOffset.toNat_lt
  rw [inPayload_iff some]
  unfold Misjudged SizeAccepted
  cases order with
  | littleEndian =>
    dsimp only [walkEnd]
    rw [or_false]
    omega
  | bigEndian =>
    dsimp only [walkEnd]
    omega

theorem signed_of_lt {n : Nat} (some : 0 < n) {raw : Nat} (small : raw < 2 ^ n) :
    let number := if raw < 2 ^ (n - 1) then (raw : Int) else raw - 2 ^ n
    InSignedRange n number ∧ number ≡ raw [ZMOD 2 ^ n] ∧
      ∀ other, InSignedRange n other → other ≡ raw [ZMOD 2 ^ n] → other = number := by
  have doubled : 2 ^ n = 2 * 2 ^ (n - 1) := by
    rw [← pow_succ', Nat.sub_add_cancel some]
  have doubled' : (2 : Int) ^ n = 2 * 2 ^ (n - 1) := by
    rw [← pow_succ', Nat.sub_add_cancel some]
  have same : ((2 ^ (n - 1) : Nat) : Int) = 2 ^ (n - 1) := by push_cast; rfl
  have range : InSignedRange n (if raw < 2 ^ (n - 1) then (raw : Int) else raw - 2 ^ n) := by
    unfold InSignedRange
    rw [doubled', ← same]
    split <;> omega
  have congruent : (if raw < 2 ^ (n - 1) then (raw : Int) else raw - 2 ^ n) ≡ raw [ZMOD 2 ^ n] := by
    split
    · rfl
    · simp [Int.ModEq]
  refine ⟨range, congruent, fun other inside equal => ?_⟩
  have divides := (equal.trans congruent.symm).dvd
  obtain ⟨factor, times⟩ := divides
  unfold InSignedRange at range inside
  generalize (if raw < 2 ^ (n - 1) then (raw : Int) else raw - 2 ^ n) = number at *
  rw [doubled'] at times
  have positive : (0 : Int) < 2 ^ (n - 1) := by positivity
  generalize (2 : Int) ^ (n - 1) = half at *
  -- Two numbers of the range are less than `2 ^ n` apart.
  have above : factor < 1 := by nlinarith
  have below : -1 < factor := by nlinarith
  have none : factor = 0 := by omega
  rw [none] at times
  omega

/-- Signals are read exactly unless the guard misjudges where they end. -/
theorem readExactly_iff :
    ReadExactly frame order bitOffset bitLength ↔
      bitLength.toNat = 0 ∨ 64 < bitLength.toNat ∨
        ¬ Misjudged frame order bitOffset bitLength := by
  constructor
  · intro exactly
    by_contra wrong
    push Not at wrong
    obtain ⟨some, most, misjudged⟩ := wrong
    have positive : 0 < bitLength.toNat := Nat.pos_of_ne_zero some
    refine (misjudged_iff positive most).mp misjudged ?_
    constructor
    · -- What is accepted is read or has no defined result.
      intro accepted
      cases decoded : decodeUnsigned frame bitOffset bitLength order with
      | ok value => exact (exactly.accepted.mp ⟨value, decoded⟩).2.2
      | error failure =>
        cases failure with
        | undefined => exact absurd decoded exactly.defined
        | outOfRange => exact absurd accepted (decodeUnsigned_outOfRange_iff.mp decoded)
    · intro inside
      obtain ⟨value, decoded⟩ := exactly.accepted.mpr ⟨positive, most, inside⟩
      by_contra refused
      rw [decodeUnsigned_rejected refused] at decoded
      cases decoded
  · intro condition
    have agree : SizeAccepted frame bitOffset bitLength ↔ 0 < bitLength.toNat ∧
        bitLength.toNat ≤ 64 ∧ InPayload frame order bitOffset.toNat bitLength.toNat := by
      by_cases counted : 0 < bitLength.toNat ∧ bitLength.toNat ≤ 64
      · have judged : ¬ Misjudged frame order bitOffset bitLength := by
          rcases condition with none | many | judged
          · omega
          · omega
          · exact judged
        have same := not_not.mp ((misjudged_iff counted.1 counted.2).not.mp judged)
        rw [same]
        exact ⟨fun inside => ⟨counted.1, counted.2, inside⟩, fun all => all.2.2⟩
      · exact ⟨fun accepted => absurd ⟨accepted.1, accepted.2.1⟩ counted,
          fun all => absurd ⟨all.1, all.2.1⟩ counted⟩
    by_cases accepted : SizeAccepted frame bitOffset bitLength
    · have inside := (agree.mp accepted).2.2
      obtain ⟨value, decoded, number⟩ := decodeUnsigned_eq accepted inside
      refine ⟨⟨fun _ => agree.mp accepted, fun _ => ⟨value, decoded⟩⟩, ?_, ?_, ?_, ?_⟩
      · rw [decoded]
        nofun
      · intro other same
        rw [decoded] at same
        cases same
        exact number
      · -- The other frame is accepted as well, and has the same bits.
        intro other length bits
        have accepted' : SizeAccepted other bitOffset bitLength := by
          unfold SizeAccepted at accepted ⊢
          rwa [length]
        have inside' : InPayload other order bitOffset.toNat bitLength.toNat := by
          unfold InPayload at inside ⊢
          rwa [length]
        obtain ⟨value', decoded', number'⟩ := decodeUnsigned_eq accepted' inside'
        have sameBits : (walk order bitOffset.toNat bitLength.toNat).map other.bitAt =
            (walk order bitOffset.toNat bitLength.toNat).map frame.bitAt :=
          List.map_congr_left bits
        have same : value'.toNat = value.toNat := by
          rw [number', number]
          unfold signalValue
          rw [sameBits]
        rw [decoded', decoded, UInt64.toNat_inj.mp same]
      · intro other same
        rw [decoded] at same
        cases same
        have small : value.toNat < 2 ^ bitLength.toNat := number ▸ signalValue_lt _ _ _ _
        obtain ⟨result, read, extended⟩ := decodeSigned_eq accepted.1 accepted.2.1 small decoded
        have unique := signed_of_lt accepted.1 small
        dsimp only at unique
        rw [← extended] at unique
        exact ⟨result, read, unique⟩
    · have rejected : decodeUnsigned frame bitOffset bitLength order = .error .outOfRange :=
        decodeUnsigned_rejected accepted
      refine ⟨⟨fun ⟨value, decoded⟩ => ?_, fun inside => absurd (agree.mpr inside) accepted⟩,
        ?_, ?_, ?_, ?_⟩
      · rw [rejected] at decoded
        cases decoded
      · rw [rejected]
        nofun
      · intro value decoded
        rw [rejected] at decoded
        cases decoded
      · intro other length _
        have refused : ¬ SizeAccepted other bitOffset bitLength := by
          unfold SizeAccepted at accepted ⊢
          rwa [length]
        rw [rejected, decodeUnsigned_rejected refused]
      · intro value decoded
        rw [rejected] at decoded
        cases decoded

/-- A frame with one byte. -/
def shortFrame : CanFrame where
  length := 1
  fits := by decide
  data := (Vector.replicate 64 0).set 0 0x5A

/-- Eight big-endian bits from the lowest one of the only byte are accepted, and those that fill the
byte are not. -/
theorem big_endian_misread :
    decodeUnsigned shortFrame 0 8 .bigEndian = .ok 0 ∧
    ¬ InPayload shortFrame .bigEndian 0 8 ∧
    decodeUnsigned shortFrame 7 8 .bigEndian = .error .outOfRange ∧
    InPayload shortFrame .bigEndian 7 8 := by
  refine ⟨by decide, ?_, by decide, ?_⟩
  · rw [inPayload_iff (by decide)]
    decide
  · rw [inPayload_iff (by decide)]
    decide

end Exact

end PocoDDS.Can
