import Mathlib.Data.Nat.Bitwise
import PocoDDS.Can.SignalCodec

/-! Frames as the kernel delivers them, and what the endpoint makes of their identifier word. -/

namespace PocoDDS.Can

/-- A frame of the kernel; a classic one has eight bytes at most. -/
structure NativeFrame where
  canId : UInt32
  fd : Bool
  length : Nat
  fits : length ≤ if fd then 64 else 8
  data : Vector UInt8 64

/-- A frame as the endpoint hands it on. -/
structure ReceivedFrame extends CanFrame where
  id : UInt32
  extended : Bool
  remoteRequest : Bool
  error : Bool

namespace NativeFrame

def effFlag : UInt32 := 0x80000000

def rtrFlag : UInt32 := 0x40000000

def errFlag : UInt32 := 0x20000000

def sffMask : UInt32 := 0x000007FF

def effMask : UInt32 := 0x1FFFFFFF

def errMask : UInt32 := 0x1FFFFFFF

theorem length_le (native : NativeFrame) : native.length ≤ 64 := by
  have fits := native.fits
  split at fits <;> omega

/-- The bytes of the payload; the rest of a new frame is zero. -/
def payload (native : NativeFrame) : Vector UInt8 64 :=
  Vector.ofFn fun place => if place.val < native.length then native.data[place] else 0

/-- The part of `SocketCanEndpoint::receive` behind the read. -/
def receive (native : NativeFrame) : ReceivedFrame :=
  let extended := native.canId &&& effFlag != 0
  let error := native.canId &&& errFlag != 0
  { length := native.length
    fits := native.length_le
    data := native.payload
    id := if error then native.canId &&& errMask
      else native.canId &&& (if extended then effMask else sffMask)
    extended
    remoteRequest := native.canId &&& rtrFlag != 0
    error }

end NativeFrame

namespace NativeFrame

/-- One bit of the identifier word. -/
def flag (native : NativeFrame) (bit : Nat) : Bool := native.canId.toNat.testBit bit

/-- An identifier of 29 bits, not of 11. -/
def isExtended (native : NativeFrame) : Bool := native.flag 31

def isRemote (native : NativeFrame) : Bool := native.flag 30

def isError (native : NativeFrame) : Bool := native.flag 29

/-- The identifier, of the size that the format says. -/
def identifier (native : NativeFrame) : Nat :=
  native.canId.toNat % 2 ^ (if native.isExtended then 29 else 11)

end NativeFrame

section Words

variable (native : NativeFrame)

theorem and_flag {word mask : UInt32} {bit : Nat} (single : mask.toNat = 2 ^ bit) :
    (word &&& mask != 0) = word.toNat.testBit bit := by
  have value : (word &&& mask).toNat = (word.toNat.testBit bit).toNat * 2 ^ bit := by
    rw [UInt32.toNat_and, single, Nat.and_two_pow]
  have zero : word &&& mask = 0 ↔ word.toNat.testBit bit = false := by
    rw [← UInt32.toNat_inj, value]
    cases word.toNat.testBit bit <;> simp
  cases set : word.toNat.testBit bit with
  | false => simpa using zero.mpr set
  | true =>
    simp only [bne_iff_ne, ne_eq, zero, set, Bool.true_eq_false, not_false_eq_true]

theorem and_mask {word mask : UInt32} {bits : Nat} (low : mask.toNat = 2 ^ bits - 1) :
    (word &&& mask).toNat = word.toNat % 2 ^ bits := by
  rw [UInt32.toNat_and, low, Nat.and_two_pow_sub_one_eq_mod]

theorem NativeFrame.receive_flags : native.receive.extended = native.isExtended ∧
      native.receive.remoteRequest = native.isRemote ∧ native.receive.error = native.isError :=
  ⟨and_flag (by decide), and_flag (by decide), and_flag (by decide)⟩

theorem NativeFrame.receive_id (sound : native.isError = false) :
    native.receive.id.toNat = native.identifier := by
  have error : (native.canId &&& errFlag != 0) = false :=
    (and_flag (by decide)).trans sound
  have extended : (native.canId &&& effFlag != 0) = native.isExtended := and_flag (by decide)
  simp only [receive, error, extended, identifier]
  cases native.isExtended with
  | false => exact and_mask (by decide)
  | true => exact and_mask (by decide)

end Words

end PocoDDS.Can
