import Mathlib.Data.String.Basic
import PocoDDS.Lib.PyJson
import PocoDDS.Lib.Trim

/-! Texts as the tools read them: what Python's string methods make of one. -/

namespace PocoDDS.Tools

open JsonModel TrimLogic

/-- `str.strip`. -/
def stripText (text : List Char) : List Char := strip isSpace text

/-- The zeros of the decimal digits that `\d` matches, apart from that of the first 128 characters;
nine more digits follow each. -/
def wideDigitZeros : List Nat :=
  [0x660, 0x6f0, 0x7c0, 0x966, 0x9e6, 0xa66, 0xae6, 0xb66, 0xbe6, 0xc66, 0xce6, 0xd66, 0xde6,
    0xe50, 0xed0, 0xf20, 0x1040, 0x1090, 0x17e0, 0x1810, 0x1946, 0x19d0, 0x1a80, 0x1a90, 0x1b50,
    0x1bb0, 0x1c40, 0x1c50, 0xa620, 0xa8d0, 0xa900, 0xa9d0, 0xa9f0, 0xaa50, 0xabf0, 0xff10, 0x104a0,
    0x10d30, 0x11066, 0x110f0, 0x11136, 0x111d0, 0x112f0, 0x11450, 0x114d0, 0x11650, 0x116c0,
    0x11730, 0x118e0, 0x11950, 0x11c50, 0x11d50, 0x11da0, 0x11f50, 0x16a60, 0x16ac0, 0x16b50,
    0x1d7ce, 0x1d7d8, 0x1d7e2, 0x1d7ec, 0x1d7f6, 0x1e140, 0x1e2f0, 0x1e4f0, 0x1e950, 0x1fbf0]

def digitZeros : List Nat := 0x30 :: wideDigitZeros

def digitValue (character : Char) : Option Nat :=
  (digitZeros.find? fun least => least ≤ character.toNat ∧ character.toNat < least + 10).map
    (character.toNat - ·)

def isDigit (character : Char) : Bool := (digitValue character).isSome

/-- `int` of a text of digits. -/
def digitsValue (digits : List Char) : Nat :=
  digits.foldl (fun number digit => 10 * number + (digitValue digit).getD 0) 0

/-- `str.lstrip` and `str.rstrip`. -/
def stripStart (text : List Char) : List Char := text.dropWhile isSpace

def stripEnd (text : List Char) : List Char := text.rdropWhile isSpace

/-- The characters that end a line for `str.splitlines`. -/
def isLineBreak (character : Char) : Bool :=
  let code := character.toNat
  (10 ≤ code && code ≤ 13) || (28 ≤ code && code ≤ 30) || code == 0x85 || code == 0x2028 ||
    code == 0x2029

/-- `str.splitlines`, given what has been read of the current line. -/
def splitLinesFrom (line : List Char) : List Char → List (List Char)
  | [] => if line = [] then [] else [line]
  | '\r' :: '\n' :: rest => line :: splitLinesFrom [] rest
  | first :: rest =>
    if isLineBreak first then line :: splitLinesFrom [] rest
    else splitLinesFrom (line ++ [first]) rest

def splitLines (text : List Char) : List (List Char) :=
  splitLinesFrom [] text

/-- `str.partition`, apart from the separator; a text without it has no second part. -/
def partition (separator : Char) (text : List Char) : List Char × Option (List Char) :=
  match text.dropWhile (· ≠ separator) with
  | [] => (text, none)
  | _ :: rest => (text.takeWhile (· ≠ separator), some rest)

section Splitting

variable {line front rest : List Char} {first : Char}

theorem splitLinesFrom_other (other : isLineBreak first = false) (line rest : List Char) :
    splitLinesFrom line (first :: rest) = splitLinesFrom (line ++ [first]) rest := by
  -- A carriage return is a line break, so the character is none.
  rw [splitLinesFrom, if_neg (by simp [other])]
  rintro rest' rfl rfl
  cases other

theorem splitLinesFrom_break (ends : isLineBreak first = true) (line rest : List Char)
    (single : first = '\r' → rest.head? ≠ some '\n') :
    splitLinesFrom line (first :: rest) = line :: splitLinesFrom [] rest := by
  rw [splitLinesFrom, if_pos ends]
  rintro rest' rfl rfl
  exact single rfl rfl

theorem plain_of_all {text : List Char}
    (all : (text.all fun character => !isLineBreak character) = true) :
    ∀ character ∈ text, isLineBreak character = false := by
  simpa using all

theorem splitLinesFrom_plain (plain : ∀ character ∈ front, isLineBreak character = false)
    (line rest : List Char) : splitLinesFrom line (front ++ rest) =
      splitLinesFrom (line ++ front) rest := by
  induction front generalizing line with
  | nil => simp
  | cons first front ih =>
    obtain ⟨head, tail⟩ := List.forall_mem_cons.mp plain
    rw [List.cons_append, splitLinesFrom_other head, ih tail, List.append_assoc,
      List.singleton_append]

theorem splitLines_plain (plain : ∀ character ∈ front, isLineBreak character = false)
    (rest : List Char) : splitLines (front ++ rest) = splitLinesFrom front rest :=
  splitLinesFrom_plain plain [] rest

theorem splitLinesFrom_append (line front rest : List Char) :
    splitLinesFrom line (front ++ '\n' :: rest) =
      splitLinesFrom line (front ++ ['\n']) ++ splitLines rest := by
  -- The loop reads the text before the line feed in the same way in both.
  fun_induction splitLinesFrom line front with
  | case1 => rfl
  | case2 line filled => rfl
  | case3 line later ih => simp [splitLinesFrom, ih]
  | case4 line first later unpaired ends ih =>
    by_cases pair : first = '\r' ∧ later = []
    · obtain ⟨rfl, rfl⟩ := pair
      rfl
    · -- What follows the break is the same in both, and makes no pair with it.
      have single : ∀ behind : List Char, first = '\r' →
          (later ++ '\n' :: behind).head? ≠ some '\n' := by
        rintro behind rfl
        cases later with
        | nil => exact absurd ⟨rfl, rfl⟩ pair
        | cons second later =>
          rintro same
          simp only [List.cons_append, List.head?_cons, Option.some.injEq] at same
          exact unpaired later rfl (by rw [same])
      rw [List.cons_append, List.cons_append, splitLinesFrom_break ends _ _ (single rest),
        splitLinesFrom_break ends _ _ (single []), ih, List.cons_append]
  | case5 line first later unpaired other ih =>
    have plain : isLineBreak first = false := by simpa using other
    rw [List.cons_append, List.cons_append, splitLinesFrom_other plain, splitLinesFrom_other plain,
      ih]

theorem splitLines_append (front rest : List Char) :
    splitLines (front ++ '\n' :: rest) = splitLines (front ++ ['\n']) ++ splitLines rest :=
  splitLinesFrom_append [] front rest

theorem splitLines_line (plain : ∀ character ∈ front, isLineBreak character = false) :
    splitLines (front ++ ['\n']) = [front] := by
  rw [splitLines_plain plain]
  rfl

theorem splitLinesFrom_cons (front : List Char) {first : List Char} {lines : List (List Char)}
    (split : splitLinesFrom line rest = first :: lines) :
    splitLinesFrom (front ++ line) rest = (front ++ first) :: lines := by
  fun_induction splitLinesFrom line rest with
  | case1 => cases split
  | case2 line filled =>
    cases split
    simp [splitLinesFrom, filled]
  | case3 line later ih =>
    cases split
    rfl
  | case4 line first later unpaired ends ih =>
    obtain ⟨rfl, rfl⟩ := List.cons.inj split
    rw [splitLinesFrom, if_pos ends]
    exact unpaired
  | case5 line first later unpaired other ih =>
    have plain : isLineBreak first = false := by simpa using other
    rw [splitLinesFrom_other plain, List.append_assoc]
    exact ih split

/-- A text that is not empty has a line. -/
theorem splitLinesFrom_eq_nil : splitLinesFrom line rest = [] ↔ line = [] ∧ rest = [] := by
  fun_induction splitLinesFrom line rest <;> simp_all

end Splitting

end PocoDDS.Tools
