import Mathlib.Data.List.Basic
import Mathlib.Data.List.TakeWhile
import Mathlib.Tactic

/-! The checksum of an NMEA sentence, and the two characters that it is compared with. -/

namespace PocoDDS.Gnss

/-- White space in the classic locale. -/
def isSpace (byte : UInt8) : Bool :=
  byte.toNat == 32 || (decide (9 ≤ byte.toNat) && decide (byte.toNat ≤ 13))

/-- The value of a hexadecimal digit. -/
def hexDigit (byte : UInt8) : Option Nat :=
  if 48 ≤ byte.toNat ∧ byte.toNat ≤ 57 then some (byte.toNat - 48)
  else if 65 ≤ byte.toNat ∧ byte.toNat ≤ 70 then some (byte.toNat - 55)
  else if 97 ≤ byte.toNat ∧ byte.toNat ≤ 102 then some (byte.toNat - 87)
  else none

/-- A sign, and what follows it. -/
def takeSign : List UInt8 → Bool × List UInt8
  | 43 :: rest => (false, rest)
  | 45 :: rest => (true, rest)
  | rest => (false, rest)

/-- What follows the prefix of a hexadecimal number, if there is one. -/
def dropHexPrefix : List UInt8 → List UInt8
  | 48 :: 120 :: rest => rest
  | 48 :: 88 :: rest => rest
  | rest => rest

/-- The digits that a number starts with. -/
def hexDigits (field : List UInt8) : List Nat :=
  (field.takeWhile fun byte => (hexDigit byte).isSome).filterMap hexDigit

/-- Converting a field; there is no value without digits, or where they do not fit. -/
def convertHex (field : List UInt8) : Option UInt32 :=
  let (negative, field) := takeSign field
  let digits := hexDigits (dropHexPrefix field)
  let value := digits.foldl (fun value digit => 16 * value + digit) 0
  if digits.isEmpty || 2 ^ 32 ≤ value then none
  else some (if negative then 0 - UInt32.ofNat value else UInt32.ofNat value)

/-- Formatted extraction of a hexadecimal `unsigned`; there is no value where the stream fails. -/
def extractHex (text : List UInt8) : Option UInt32 :=
  convertHex (text.dropWhile isSpace)

def checksumOf (body : List UInt8) : UInt32 :=
  body.foldl (fun checksum byte => checksum ^^^ byte.toUInt32) 0

def validChecksum (sentence : List UInt8) : Bool :=
  let star := sentence.idxOf 42
  if sentence.isEmpty || sentence.head? != some 36 || star == sentence.length ||
      star + 2 ≥ sentence.length then false
  else
    let checksum := checksumOf ((sentence.take star).drop 1)
    match extractHex ((sentence.drop (star + 1)).take 2) with
    | none => false
    | some expected => checksum == expected

/-- A sentence with two characters behind its body. -/
structure Sentence (sentence body : List UInt8) (high low : UInt8) : Prop where
  shape : ∃ rest, sentence = 36 :: body ++ 42 :: high :: low :: rest
  plain : 42 ∉ body

/-- The two characters are the hexadecimal checksum of the body. -/
def Intended (sentence : List UInt8) : Prop :=
  ∃ body high low first second, Sentence sentence body high low ∧
    hexDigit high = some first ∧ hexDigit low = some second ∧
    (checksumOf body).toNat = 16 * first + second

/-- The two characters are read as the checksum of the body without being two digits: a blank or a
sign before the digit, or something else behind it. -/
def Loose (sentence : List UInt8) : Prop :=
  ∃ body high low, Sentence sentence body high low ∧
    ((isSpace high = true ∨ high = 43) ∧ hexDigit low = some (checksumOf body).toNat ∨
      high = 45 ∧ low = 48 ∧ checksumOf body = 0 ∨
      hexDigit high = some (checksumOf body).toNat ∧ hexDigit low = none ∧
        ¬ (high = 48 ∧ (low = 120 ∨ low = 88)))

section Pair

variable {byte high : UInt8}

theorem hexDigit_lt {digit : Nat} (read : hexDigit byte = some digit) : digit < 16 := by
  unfold hexDigit at read
  split_ifs at read
  all_goals
    simp only [Option.some.injEq] at read
    omega

theorem hexDigit_of_isSpace (blank : isSpace byte = true) : hexDigit byte = none := by
  simp only [isSpace, Bool.or_eq_true, Bool.and_eq_true, beq_iff_eq, decide_eq_true_eq] at blank
  unfold hexDigit
  rw [if_neg (by omega), if_neg (by omega), if_neg (by omega)]

theorem hexDigits_one (byte : UInt8) : hexDigits [byte] = (hexDigit byte).toList := by
  unfold hexDigits
  cases read : hexDigit byte <;> simp [read]

theorem hexDigits_two (first second : UInt8) : hexDigits [first, second] =
      match hexDigit first with
      | none => []
      | some digit => digit :: (hexDigit second).toList := by
  unfold hexDigits
  cases read : hexDigit first with
  | none => simp [read]
  | some digit => cases also : hexDigit second <;> simp [read, also]

theorem takeSign_of_unsigned {rest : List UInt8} (plus : byte ≠ 43) (minus : byte ≠ 45) :
    takeSign (byte :: rest) = (false, byte :: rest) := by
  unfold takeSign
  split
  · next same => exact absurd (List.cons_eq_cons.mp same).1 plus
  · next same => exact absurd (List.cons_eq_cons.mp same).1 minus
  · rfl

theorem dropHexPrefix_one (byte : UInt8) : dropHexPrefix [byte] = [byte] := by
  unfold dropHexPrefix
  split
  · next same => simp at same
  · next same => simp at same
  · rfl

/-- A single character is a number if it is a digit. -/
theorem convertHex_one (byte : UInt8) : convertHex [byte] = (hexDigit byte).map UInt32.ofNat := by
  by_cases plus : byte = 43
  · subst plus
    rfl
  by_cases minus : byte = 45
  · subst minus
    rfl
  unfold convertHex
  rw [takeSign_of_unsigned plus minus]
  dsimp only
  rw [dropHexPrefix_one, hexDigits_one]
  cases read : hexDigit byte with
  | none => rfl
  | some digit =>
    have small := hexDigit_lt read
    simp
    omega

theorem convertHex_sign (low : UInt8) : convertHex [43, low] = (hexDigit low).map UInt32.ofNat ∧
    convertHex [45, low] = (hexDigit low).map fun digit => 0 - UInt32.ofNat digit := by
  have plus : takeSign [43, low] = (false, [low]) := rfl
  have minus : takeSign [45, low] = (true, [low]) := rfl
  unfold convertHex
  rw [plus, minus]
  dsimp only
  rw [dropHexPrefix_one, hexDigits_one]
  cases read : hexDigit low with
  | none => exact ⟨rfl, rfl⟩
  | some digit =>
    have small := hexDigit_lt read
    constructor <;> simp <;> omega

theorem convertHex_two {low : UInt8} (plus : high ≠ 43) (minus : high ≠ 45) :
    convertHex [high, low] =
      if high = 48 ∧ (low = 120 ∨ low = 88) then none
      else match hexDigit high, hexDigit low with
        | none, _ => none
        | some first, none => some (UInt32.ofNat first)
        | some first, some second => some (UInt32.ofNat (16 * first + second)) := by
  by_cases marked : high = 48 ∧ (low = 120 ∨ low = 88)
  · rw [if_pos marked]
    obtain ⟨rfl, rfl | rfl⟩ := marked <;> rfl
  · rw [if_neg marked]
    unfold convertHex
    rw [takeSign_of_unsigned plus minus]
    dsimp only
    have whole : dropHexPrefix [high, low] = [high, low] := by
      unfold dropHexPrefix
      split
      · next same =>
        simp only [List.cons.injEq] at same
        exact absurd ⟨same.1, .inl same.2.1⟩ marked
      · next same =>
        simp only [List.cons.injEq] at same
        exact absurd ⟨same.1, .inr same.2.1⟩ marked
      · rfl
    rw [whole, hexDigits_two]
    cases read : hexDigit high with
    | none => rfl
    | some first =>
      have small := hexDigit_lt read
      cases also : hexDigit low with
      | none =>
        simp
        omega
      | some second =>
        have small' := hexDigit_lt also
        simp
        omega

theorem extractHex_blank {low : UInt8} (blank : isSpace high = true) :
    extractHex [high, low] = (hexDigit low).map UInt32.ofNat := by
  unfold extractHex
  rw [List.dropWhile_cons_of_pos blank]
  by_cases also : isSpace low = true
  · rw [List.dropWhile_cons_of_pos also, hexDigit_of_isSpace also]
    rfl
  · rw [List.dropWhile_cons_of_neg also, convertHex_one]

theorem extractHex_plain {low : UInt8} (plain : ¬ isSpace high = true) :
    extractHex [high, low] = convertHex [high, low] := by
  unfold extractHex
  rw [List.dropWhile_cons_of_neg plain]

end Pair

section Exact

variable {sentence : List UInt8} {high low : UInt8} {checksum : UInt32}

theorem checksumOf_lt (body : List UInt8) : (checksumOf body).toNat < 256 := by
  unfold checksumOf
  have general : ∀ (checksum : UInt32), checksum.toNat < 2 ^ 8 →
      (body.foldl (fun checksum byte => checksum ^^^ byte.toUInt32) checksum).toNat < 2 ^ 8 := by
    induction body with
    | nil => exact fun _ small => small
    | cons byte rest ih =>
      intro checksum small
      refine ih _ ?_
      rw [UInt32.toNat_xor]
      exact Nat.xor_lt_two_pow small (by simpa using byte.toNat_lt)
  exact general 0 (by decide)

theorem Sentence.unique {body body' : List UInt8} {high' low' : UInt8}
    (one : Sentence sentence body high low) (two : Sentence sentence body' high' low') :
    body = body' ∧ high = high' ∧ low = low' := by
  obtain ⟨⟨rest, rfl⟩, plain⟩ := one
  obtain ⟨⟨rest', shape⟩, plain'⟩ := two
  simp only [List.cons_append, List.cons.injEq, true_and] at shape
  -- Both bodies are what stands before the first star.
  have taken : ∀ {part tail : List UInt8}, 42 ∉ part →
      (part ++ 42 :: tail).takeWhile (· != 42) = part ∧
        (part ++ 42 :: tail).dropWhile (· != 42) = 42 :: tail := by
    intro part tail plain
    have kept : ∀ byte ∈ part, (byte != 42) = true := by
      intro byte inside
      simp only [bne_iff_ne, ne_eq]
      rintro rfl
      exact plain inside
    constructor
    · rw [List.takeWhile_append_of_pos kept]
      simp
    · rw [List.dropWhile_append_of_pos kept]
      simp
  have bodies : body = body' := by
    rw [← (taken plain).1, shape, (taken plain').1]
  subst bodies
  have pair := List.append_cancel_left shape
  simp only [List.cons.injEq, true_and] at pair
  exact ⟨rfl, pair.1, pair.2.1⟩

theorem idxOf_star {body : List UInt8} (plain : 42 ∉ body) (rest : List UInt8) :
    ((36 : UInt8) :: (body ++ 42 :: rest)).idxOf 42 = body.length + 1 := by
  have other : ((36 : UInt8) == 42) = false := rfl
  rw [List.idxOf_cons, other, cond_false, List.idxOf_append_of_notMem plain, List.idxOf_cons_self]

theorem validChecksum_iff {body : List UInt8} (shaped : Sentence sentence body high low) :
    validChecksum sentence = true ↔ extractHex [high, low] = some (checksumOf body) := by
  obtain ⟨⟨rest, rfl⟩, plain⟩ := shaped
  have star : (36 :: body ++ 42 :: high :: low :: rest).idxOf (42 : UInt8) = body.length + 1 :=
    idxOf_star plain _
  have taken : ((36 :: body ++ 42 :: high :: low :: rest).take (body.length + 1)).drop 1 =
      body := by
    rw [List.cons_append, List.take_succ_cons, List.drop_one, List.tail_cons, List.take_left]
  have pair : ((36 :: body ++ 42 :: high :: low :: rest).drop (body.length + 1 + 1)).take 2 =
      [high, low] := by
    rw [List.cons_append, List.drop_succ_cons, ← List.drop_drop, List.drop_left]
    rfl
  unfold validChecksum
  dsimp only
  rw [star, taken, pair]
  have long : ¬ (body.length + 1 + 2 ≥ (36 :: body ++ 42 :: high :: low :: rest).length) := by
    simp
  have found : ¬ body.length + 1 = (36 :: body ++ 42 :: high :: low :: rest).length := by
    simp
  simp only [List.cons_append, List.isEmpty_cons, List.head?_cons, bne_self_eq_false,
    Bool.false_or, Bool.or_eq_true, beq_iff_eq, decide_eq_true_eq]
  rw [if_neg (by rintro (same | short); exacts [found same, long short])]
  cases extractHex [high, low] with
  | none => simp
  | some expected =>
    simp only [beq_iff_eq, Option.some.injEq]
    exact eq_comm

/-- Whatever is accepted has that shape. -/
theorem sentence_of_valid (valid : validChecksum sentence = true) :
    ∃ body high low, Sentence sentence body high low := by
  unfold validChecksum at valid
  dsimp only at valid
  split at valid
  · cases valid
  · next passed =>
    simp only [Bool.or_eq_true, bne_iff_ne, ne_eq, beq_iff_eq, decide_eq_true_eq, not_or,
      Decidable.not_not, ge_iff_le, Nat.not_le] at passed
    obtain ⟨⟨⟨-, dollar⟩, found⟩, long⟩ := passed
    cases sentence with
    | nil => cases dollar
    | cons first tail =>
      obtain rfl : first = 36 := by simpa using dollar
      have inside : (42 : UInt8) ∈ tail := by
        by_contra missing
        have absent : (42 : UInt8) ∉ (36 : UInt8) :: tail := by
          simp [missing]
        exact found (List.idxOf_eq_length absent)
      obtain ⟨body, rest, rfl, plain⟩ := List.eq_append_cons_of_mem inside
      -- Two characters stand behind the star.
      rw [idxOf_star plain] at long
      match rest, long with
      | [], long => simp at long
      | [_], long => simp at long
      | high :: low :: rest, _ => exact ⟨body, high, low, ⟨rest, rfl⟩, plain⟩

theorem map_hexDigit :
    (hexDigit low).map UInt32.ofNat = some checksum ↔ hexDigit low = some checksum.toNat := by
  cases read : hexDigit low with
  | none => simp
  | some digit =>
    have small := hexDigit_lt read
    simp only [Option.map_some, Option.some.injEq, ← UInt32.toNat_inj, UInt32.toNat_ofNat']
    omega

theorem hexDigit_eq_zero {byte : UInt8} : hexDigit byte = some 0 ↔ byte = 48 := by
  rw [← UInt8.toNat_inj, show (48 : UInt8).toNat = 48 from rfl]
  unfold hexDigit
  split_ifs
  · simp only [Option.some.injEq]
    omega
  · simp only [Option.some.injEq]
    omega
  · simp only [Option.some.injEq]
    omega
  · simp only [false_iff]
    omega

theorem negated_eq (small : checksum.toNat < 256) :
    ((hexDigit low).map fun digit => 0 - UInt32.ofNat digit) = some checksum ↔
      low = 48 ∧ checksum = 0 := by
  rw [← hexDigit_eq_zero, ← UInt32.toNat_inj, show (0 : UInt32).toNat = 0 from rfl]
  cases read : hexDigit low with
  | none => simp
  | some digit =>
    have bound := hexDigit_lt read
    simp only [Option.map_some, Option.some.injEq, ← UInt32.toNat_inj, UInt32.toNat_sub,
      UInt32.toNat_ofNat', show (0 : UInt32).toNat = 0 from rfl]
    omega

/-- What is extracted from two characters is the checksum if they are its digits, or if they are
read loosely. -/
theorem extractHex_iff (small : checksum.toNat < 256) : extractHex [high, low] = some checksum ↔
      (∃ first second, hexDigit high = some first ∧ hexDigit low = some second ∧
        checksum.toNat = 16 * first + second) ∨
      ((isSpace high = true ∨ high = 43) ∧ hexDigit low = some checksum.toNat ∨
        high = 45 ∧ low = 48 ∧ checksum = 0 ∨
        hexDigit high = some checksum.toNat ∧ hexDigit low = none ∧
          ¬ (high = 48 ∧ (low = 120 ∨ low = 88))) := by
  by_cases blank : isSpace high = true
  · have differs : high ≠ 45 := by
      rintro rfl
      cases blank
    rw [extractHex_blank blank, map_hexDigit, hexDigit_of_isSpace blank]
    simp [blank, differs]
  rw [extractHex_plain blank]
  by_cases plus : high = 43
  · subst plus
    have none : hexDigit 43 = none := rfl
    rw [(convertHex_sign low).1, map_hexDigit, none]
    simp
  by_cases minus : high = 45
  · subst minus
    have none : hexDigit 45 = none := rfl
    rw [(convertHex_sign low).2, negated_eq small, none]
    simp [blank]
  rw [convertHex_two plus minus]
  simp only [blank, plus, minus, Bool.false_eq_true, false_or, false_and]
  -- Only the digits are left.
  cases one : hexDigit high with
  | none => simp
  | some first =>
    have bound := hexDigit_lt one
    cases two : hexDigit low with
    | none =>
      simp only [Option.some.injEq, reduceCtorEq, and_false, false_and, exists_false, false_or,
        true_and]
      split
      · next marked => simp [marked]
      · next unmarked =>
        simp only [Option.some.injEq, unmarked, not_false_iff, and_true, ← UInt32.toNat_inj,
          UInt32.toNat_ofNat']
        omega
    | some second =>
      have bound' := hexDigit_lt two
      have unmarked : ¬ (high = 48 ∧ (low = 120 ∨ low = 88)) := by
        rintro ⟨-, rfl | rfl⟩ <;> cases two
      rw [if_neg unmarked]
      simp only [Option.some.injEq, reduceCtorEq, false_and, and_false, or_false,
        exists_and_left, exists_eq_left', ← UInt32.toNat_inj, UInt32.toNat_ofNat']
      omega

/-- The checksum is compared exactly unless the characters are read loosely. -/
theorem validChecksum_exact_iff (sentence : List UInt8) :
    (validChecksum sentence = true ↔ Intended sentence) ↔ ¬ Loose sentence := by
  constructor
  · rintro exactly ⟨body, high, low, shaped, loose⟩
    have accepted : validChecksum sentence = true := by
      rw [validChecksum_iff shaped, extractHex_iff (checksumOf_lt body)]
      exact .inr loose
    -- No digits are where the characters are read loosely.
    obtain ⟨body', high', low', first, second, shaped', one, two, -⟩ := exactly.mp accepted
    obtain ⟨rfl, rfl, rfl⟩ := shaped.unique shaped'
    rcases loose with ⟨blank | rfl, -⟩ | ⟨rfl, -⟩ | ⟨-, none, -⟩
    · rw [hexDigit_of_isSpace blank] at one
      cases one
    · cases one
    · cases one
    · rw [none] at two
      cases two
  · intro strict
    constructor
    · intro valid
      obtain ⟨body, high, low, shaped⟩ := sentence_of_valid valid
      rw [validChecksum_iff shaped, extractHex_iff (checksumOf_lt body)] at valid
      rcases valid with ⟨first, second, one, two, total⟩ | loose
      · exact ⟨body, high, low, first, second, shaped, one, two, total⟩
      · exact absurd ⟨body, high, low, shaped, loose⟩ strict
    · rintro ⟨body, high, low, first, second, shaped, one, two, total⟩
      rw [validChecksum_iff shaped, extractHex_iff (checksumOf_lt body)]
      exact .inl ⟨first, second, one, two, total⟩

/-- A sentence with one digit and a comma behind the star is accepted. -/
theorem loose_sentence_accepted :
    validChecksum [36, 65, 75, 42, 65, 44] = true ∧ ¬ Intended [36, 65, 75, 42, 65, 44] := by
  refine ⟨by decide, ?_⟩
  rintro ⟨body, high, low, first, second, ⟨⟨rest, shape⟩, plain⟩, one, two, -⟩
  have here : Sentence [36, 65, 75, 42, 65, 44] [65, 75] 65 44 := ⟨⟨[], rfl⟩, by decide⟩
  obtain ⟨-, -, rfl⟩ := here.unique ⟨⟨rest, shape⟩, plain⟩
  cases two

end Exact

end PocoDDS.Gnss
