import Mathlib.Tactic

/-! Numbers in big-endian bytes, and the shifts that put them together in a machine word. -/

namespace BigEndian

/-- The number that bytes form, the most significant first. -/
def value (bytes : List UInt8) : Nat :=
  bytes.foldl (fun number byte => number * 256 + byte.toNat) 0

/-- The bytes of a number in a given width, the most significant first. -/
def digits : (width number : Nat) → List UInt8
  | 0, _ => []
  | width + 1, number => digits width (number / 256) ++ [UInt8.ofNat number]

@[simp] theorem length_digits (width number : Nat) : (digits width number).length = width := by
  induction width generalizing number with
  | zero => rfl
  | succ width ih => simp [digits, ih]

theorem value_concat (bytes : List UInt8) (last : UInt8) :
    value (bytes ++ [last]) = value bytes * 256 + last.toNat := by
  rw [value, List.foldl_append]
  rfl

/-- Bytes are the digits of the number that they form. -/
theorem digits_value (bytes : List UInt8) : digits bytes.length (value bytes) = bytes := by
  -- The last byte is the remainder, and the quotient belongs to those before it.
  induction bytes using List.reverseRecOn with
  | nil => rfl
  | append_singleton earlier last ih =>
    have small := last.toNat_lt
    have quotient : (value earlier * 256 + last.toNat) / 256 = value earlier := by omega
    have remainder : UInt8.ofNat (value earlier * 256 + last.toNat) = last := by
      apply UInt8.toNat_inj.mp
      rw [UInt8.toNat_ofNat']
      omega
    rw [List.length_append, List.length_singleton, digits, value_concat, quotient, remainder, ih]

theorem foldl_eq (bytes : List UInt8) (start : Nat) :
    bytes.foldl (fun number byte => number * 256 + byte.toNat) start =
      start * 256 ^ bytes.length + value bytes := by
  -- The bytes that are still to come shift what is there already.
  induction bytes generalizing start with
  | nil => simp [value]
  | cons byte rest ih =>
    simp only [value, List.foldl_cons, List.length_cons]
    rw [ih, ih (0 * 256 + byte.toNat), pow_succ]
    ring

/-- A byte put behind a number. -/
theorem shift_or (number byte : Nat) (small : byte < 256) :
    number <<< 8 ||| byte = number * 256 + byte := by
  have joined := Nat.two_pow_add_eq_or_of_lt (i := 8) small number
  rw [Nat.shiftLeft_eq, Nat.mul_comm, ← joined]

/-- A word of two bytes. -/
theorem word_toNat (high low : UInt8) :
    (high.toUInt16 <<< 8 ||| low.toUInt16).toNat = high.toNat * 256 + low.toNat := by
  have highSmall := high.toNat_lt
  have lowSmall := low.toNat_lt
  rw [UInt16.toNat_or, UInt16.toNat_shiftLeft]
  have fits : high.toUInt16.toNat <<< ((8 : UInt16).toNat % 16) % 2 ^ 16 = high.toNat <<< 8 := by
    rw [Nat.shiftLeft_eq, Nat.shiftLeft_eq]
    exact Nat.mod_eq_of_lt (by simp; omega)
  rw [fits, UInt8.toNat_toUInt16]
  exact shift_or _ _ lowSmall

/-- A byte shifted into a word of eight bytes, as long as nothing is shifted out. -/
theorem push_toNat (number : UInt64) (byte : UInt8) (room : number.toNat < 2 ^ 56) :
    (number <<< 8 ||| byte.toUInt64).toNat = number.toNat * 256 + byte.toNat := by
  rw [UInt64.toNat_or, UInt64.toNat_shiftLeft]
  have fits : number.toNat <<< ((8 : UInt64).toNat % 64) % 2 ^ 64 = number.toNat <<< 8 := by
    rw [Nat.shiftLeft_eq, Nat.shiftLeft_eq]
    exact Nat.mod_eq_of_lt (by simp; omega)
  rw [fits, UInt8.toNat_toUInt64]
  exact shift_or _ _ byte.toNat_lt

/-- Bytes shifted into a word of eight bytes, as long as nothing is shifted out. -/
theorem foldl_push_toNat (bytes : List UInt8) (start : UInt64) (room : Nat)
    (small : start.toNat < 256 ^ room) (fits : room + bytes.length ≤ 8) :
    (bytes.foldl (fun (number : UInt64) byte => number <<< 8 ||| byte.toUInt64) start).toNat =
      start.toNat * 256 ^ bytes.length + value bytes := by
  -- The room that is taken grows by a byte in each round.
  induction bytes generalizing start room with
  | nil => simp [value]
  | cons byte rest ih =>
    simp only [List.length_cons] at fits
    have early : start.toNat < 2 ^ 56 := by
      refine lt_of_lt_of_le small ?_
      calc 256 ^ room ≤ 256 ^ 7 := Nat.pow_le_pow_right (by decide) (by omega)
        _ = 2 ^ 56 := by norm_num
    have pushed := push_toNat start byte early
    have byteSmall := byte.toNat_lt
    have next : (start <<< 8 ||| byte.toUInt64).toNat < 256 ^ (room + 1) := by
      rw [pushed, pow_succ]
      omega
    rw [List.foldl_cons, ih _ (room + 1) next (by omega), pushed]
    have shifted : value (byte :: rest) = byte.toNat * 256 ^ rest.length + value rest := by
      simpa [value] using foldl_eq rest byte.toNat
    rw [shifted, List.length_cons, pow_succ]
    ring

end BigEndian
