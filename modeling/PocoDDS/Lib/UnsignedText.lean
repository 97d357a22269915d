import Mathlib.Data.List.TakeWhile
import Mathlib.Tactic

/-! Unsigned numbers in text, as the C++ library reads them, and the numerals they are meant to be. -/

namespace UnsignedText

/-- White space in the classic locale. -/
def isSpace (character : Char) : Bool :=
  character == ' ' || (decide (9 ≤ character.toNat) && decide (character.toNat ≤ 13))

/-- The value of a character as a digit of a base of up to sixteen. -/
def digitValue (character : Char) : Option Nat :=
  if '0' ≤ character ∧ character ≤ '9' then some (character.toNat - '0'.toNat)
  else if 'a' ≤ character ∧ character ≤ 'f' then some (character.toNat - 'a'.toNat + 10)
  else if 'A' ≤ character ∧ character ≤ 'F' then some (character.toNat - 'A'.toNat + 10)
  else none

def isDigitOf (base : Nat) (character : Char) : Bool :=
  match digitValue character with
  | some digit => decide (digit < base)
  | none => false

/-- The number that digits form in a base. -/
def valueOf (base : Nat) (digits : List Char) : Nat :=
  digits.foldl (fun number character => number * base + (digitValue character).getD 0) 0

inductive Sign
  | plus
  | minus
  deriving DecidableEq, Repr

def takeSign : List Char → Option Sign × List Char
  | '+' :: rest => (some .plus, rest)
  | '-' :: rest => (some .minus, rest)
  | text => (none, text)

/-- Base zero stands for the base that the text itself announces; a prefix counts only before a
digit. -/
def takeBase (base : Nat) (text : List Char) : Nat × List Char :=
  if base ≠ 0 then (base, text)
  else match text with
    | '0' :: mark :: digit :: rest =>
      if (mark == 'x' || mark == 'X') && isDigitOf 16 digit then (16, digit :: rest) else (8, text)
    | '0' :: _ => (8, text)
    | _ => (10, text)

/-- What a conversion finds: a sign, the digits of a base, and what it leaves. -/
structure Scanned where
  sign : Option Sign
  base : Nat
  digits : List Char
  rest : List Char
  deriving DecidableEq, Repr

def scan (base : Nat) (text : List Char) : Scanned :=
  let (sign, text) := takeSign (text.dropWhile isSpace)
  let (base, text) := takeBase base text
  ⟨sign, base, text.takeWhile (isDigitOf base), text.dropWhile (isDigitOf base)⟩

/-- The number without its sign. -/
def Scanned.magnitude (scanned : Scanned) : Nat := valueOf scanned.base scanned.digits

/-- The number as an `unsigned long`; a minus sign wraps around. -/
def Scanned.number (scanned : Scanned) : Nat :=
  if scanned.sign = some .minus then (2 ^ 64 - scanned.magnitude) % 2 ^ 64 else scanned.magnitude

inductive StoulError
  | invalidArgument
  | outOfRange
  deriving DecidableEq, Repr

/-- What both exceptions say. -/
def StoulError.what (_ : StoulError) : String := "stoul"

/-- `std::stoul` with the bases 0 and 10, for an `unsigned long` of 64 bits. -/
def stoul (base : Nat) (text : List Char) : Except StoulError Nat :=
  let scanned := scan base text
  if scanned.digits = [] then .error .invalidArgument
  else if scanned.magnitude ≥ 2 ^ 64 then .error .outOfRange
  else .ok scanned.number

/-- The fields that `std::getline` finds with a separator; there is none behind the last one. -/
def fields (separator : Char) : List Char → List (List Char)
  | [] => []
  | character :: rest =>
    if character = separator then [] :: fields separator rest
    else match fields separator rest with
      | [] => [[character]]
      | field :: others => (character :: field) :: others

/-- A decimal number. -/
structure Decimal (digits : List Char) (number : Nat) : Prop where
  nonempty : digits ≠ []
  all : ∀ character ∈ digits, isDigitOf 10 character = true
  value : valueOf 10 digits = number

/-- A decimal number, a hexadecimal one behind `0x`, or an octal one behind `0`. -/
inductive Literal : List Char → Nat → Prop
  | decimal (first : Char) (rest : List Char) (leading : first ≠ '0')
      (all : ∀ character ∈ first :: rest, isDigitOf 10 character = true) :
      Literal (first :: rest) (valueOf 10 (first :: rest))
  | octal (rest : List Char) (all : ∀ character ∈ rest, isDigitOf 8 character = true) :
      Literal ('0' :: rest) (valueOf 8 rest)
  | hexadecimal (mark : Char) (rest : List Char) (marked : mark = 'x' ∨ mark = 'X')
      (nonempty : rest ≠ []) (all : ∀ character ∈ rest, isDigitOf 16 character = true) :
      Literal ('0' :: mark :: rest) (valueOf 16 rest)

/-- Blanks, and a numeral behind them. -/
def AfterBlanks (numeral : List Char → Nat → Prop) (text : List Char) (number : Nat) : Prop :=
  ∃ blanks body, text = blanks ++ body ∧ (∀ character ∈ blanks, isSpace character = true) ∧
    numeral body number

/-- Nothing but blanks before the digits, and nothing behind them. -/
structure Plain (scanned : Scanned) : Prop where
  unsigned : scanned.sign = none
  whole : scanned.rest = []
  digits : scanned.digits ≠ []

section Digits

variable {base : Nat} {character : Char} {text digits : List Char} {number : Nat}
variable {rest : List Char}

/-- A digit is one of three ranges of characters. -/
theorem toNat_of_digit (digit : isDigitOf base character = true) :
    (48 ≤ character.toNat ∧ character.toNat ≤ 57) ∨ (97 ≤ character.toNat ∧ character.toNat ≤ 102) ∨
      (65 ≤ character.toNat ∧ character.toNat ≤ 70) := by
  unfold isDigitOf digitValue at digit
  split at digit
  · rename_i value found
    split at found
    · rename_i range
      exact .inl range
    · split at found
      · rename_i range
        exact .inr (.inl range)
      · split at found
        · rename_i range
          exact .inr (.inr range)
        · cases found
  · cases digit

theorem ne_of_digit (digit : isDigitOf base character = true) :
    isSpace character = false ∧ character ≠ '+' ∧ character ≠ '-' ∧ character ≠ ',' := by
  have ranges := toNat_of_digit digit
  have other (mark : Char) (outside : mark.toNat < 48) : character ≠ mark := by
    rintro rfl
    omega
  refine ⟨?_, other '+' (by decide), other '-' (by decide), other ',' (by decide)⟩
  have blank := other ' ' (by decide)
  simp only [isSpace, Bool.or_eq_false_iff, beq_eq_false_iff_ne, Bool.and_eq_false_iff,
    decide_eq_false_iff_not]
  exact ⟨blank, .inr (by omega)⟩

theorem isDigitOf_mono {larger : Nat} (within : base ≤ larger)
    (digit : isDigitOf base character = true) : isDigitOf larger character = true := by
  unfold isDigitOf at digit ⊢
  split
  · rename_i value found
    rw [found] at digit
    exact decide_eq_true (lt_of_lt_of_le (of_decide_eq_true digit) within)
  · rename_i missing
    rw [missing] at digit
    exact digit

/-- Behind blanks and without a sign, the base and the digits are taken from the text as it is. -/
theorem scan_after_blanks {blanks : List Char} {first : Char}
    (blank : ∀ character ∈ blanks, isSpace character = true) (digit : isDigitOf 16 first = true) :
    scan base (blanks ++ first :: rest) =
      let based := takeBase base (first :: rest)
      ⟨none, based.1, based.2.takeWhile (isDigitOf based.1), based.2.dropWhile (isDigitOf based.1)⟩ := by
  obtain ⟨visible, plus, minus, -⟩ := ne_of_digit digit
  have body : (blanks ++ first :: rest).dropWhile isSpace = first :: rest := by
    rw [List.dropWhile_append_of_pos blank, List.dropWhile_cons_of_neg (by simp [visible])]
  have unsigned : takeSign (first :: rest) = (none, first :: rest) := by
    simp [takeSign, plus, minus]
  simp only [scan, body, unsigned]

/-- Where no sign was found, the text behind the blanks is scanned. -/
theorem takeSign_none (unsigned : (takeSign text).1 = none) : (takeSign text).2 = text := by
  unfold takeSign at unsigned ⊢
  split at unsigned
  · cases unsigned
  · cases unsigned
  · rfl

/-- A scan that leaves nothing has taken all of the text as digits. -/
theorem all_of_dropWhile_nil {text : List Char} (whole : text.dropWhile (isDigitOf base) = []) :
    ∀ character ∈ text, isDigitOf base character = true :=
  List.dropWhile_eq_nil_iff.mp whole

theorem takeWhile_of_all (all : ∀ character ∈ text, isDigitOf base character = true) :
    text.takeWhile (isDigitOf base) = text ∧ text.dropWhile (isDigitOf base) = [] :=
  ⟨List.takeWhile_eq_self_iff.mpr all, List.dropWhile_eq_nil_iff.mpr all⟩

/-- A scan without a sign, by its parts. -/
theorem scan_of_unsigned (unsigned : (scan base text).sign = none) :
    ∃ body, text = text.takeWhile isSpace ++ body ∧ (scan base text).base = (takeBase base body).1 ∧
      (scan base text).digits =
        (takeBase base body).2.takeWhile (isDigitOf (takeBase base body).1) ∧
      (scan base text).rest =
        (takeBase base body).2.dropWhile (isDigitOf (takeBase base body).1) := by
  refine ⟨text.dropWhile isSpace, List.takeWhile_append_dropWhile.symm, ?_⟩
  have same : (takeSign (text.dropWhile isSpace)).2 = text.dropWhile isSpace :=
    takeSign_none unsigned
  simp only [scan, same, and_self]

theorem isSpace_of_mem_takeWhile (character : Char) (listed : character ∈ text.takeWhile isSpace) :
    isSpace character = true :=
  List.mem_takeWhile_imp listed

theorem decimal_iff : AfterBlanks Decimal text number ↔
      Plain (scan 10 text) ∧ (scan 10 text).magnitude = number := by
  constructor
  -- A number of digits alone is scanned to its end.
  · rintro ⟨blanks, body, rfl, blank, nonempty, all, value⟩
    obtain ⟨first, rest, rfl⟩ := List.exists_cons_of_ne_nil nonempty
    have digit : isDigitOf 16 first = true := isDigitOf_mono (by decide) (all first (by simp))
    obtain ⟨taken, left⟩ := takeWhile_of_all all
    have base : takeBase 10 (first :: rest) = (10, first :: rest) := by simp [takeBase]
    rw [scan_after_blanks blank digit, base]
    simp only [taken, left]
    exact ⟨⟨rfl, rfl, by simp⟩, value⟩
  -- What is scanned without a sign and without a rest is the blanks and the digits.
  · rintro ⟨⟨unsigned, whole, digits⟩, value⟩
    obtain ⟨body, parts, base, taken, left⟩ := scan_of_unsigned unsigned
    have same : takeBase 10 body = (10, body) := by simp [takeBase]
    rw [same] at base taken left
    rw [left] at whole
    have all := all_of_dropWhile_nil whole
    rw [(takeWhile_of_all all).1] at taken
    refine ⟨_, body, parts, isSpace_of_mem_takeWhile, by simpa [taken] using digits, all, ?_⟩
    rw [← value, Scanned.magnitude, base, taken]

theorem takeBase_decimal {first : Char} (leading : first ≠ '0') :
    takeBase 0 (first :: rest) = (10, first :: rest) := by
  unfold takeBase
  simp only [ne_eq, not_true, if_false]
  split
  · rename_i same
    exact absurd (List.cons.inj same).1 leading
  · rename_i same
    exact absurd (List.cons.inj same).1 leading
  · rfl

/-- An octal digit is no mark of a hexadecimal number. -/
theorem takeBase_octal (all : ∀ character ∈ rest, isDigitOf 8 character = true) :
    takeBase 0 ('0' :: rest) = (8, '0' :: rest) := by
  unfold takeBase
  simp only [ne_eq, not_true, if_false]
  split
  · rename_i mark digit behind same
    obtain ⟨-, rfl⟩ := List.cons.inj same
    -- A mark that is an octal digit is neither of the two letters.
    have octal := all mark (by simp)
    have unmarked : (mark == 'x' || mark == 'X') = false := by
      simp only [Bool.or_eq_false_iff, beq_eq_false_iff_ne]
      constructor
      · rintro rfl
        revert octal
        decide
      · rintro rfl
        revert octal
        decide
    simp [unmarked]
  · rfl
  · rename_i none
    exact absurd rfl (none rest)

theorem takeBase_hexadecimal {mark digit : Char} (marked : mark = 'x' ∨ mark = 'X')
    (hex : isDigitOf 16 digit = true) :
    takeBase 0 ('0' :: mark :: digit :: rest) = (16, digit :: rest) := by
  have found : (mark == 'x' || mark == 'X') = true := by simpa using marked
  simp [takeBase, found, hex]

/-- What a text announces as its base, and what is then left of it. -/
theorem takeBase_cases (text : List Char) : (takeBase 0 text = (10, text) ∧ text.head? ≠ some '0') ∨
    (takeBase 0 text = (8, text) ∧ text.head? = some '0') ∨
    ∃ mark digit rest, (mark = 'x' ∨ mark = 'X') ∧ isDigitOf 16 digit = true ∧
      text = '0' :: mark :: digit :: rest ∧ takeBase 0 text = (16, digit :: rest) := by
  unfold takeBase
  simp only [ne_eq, not_true, if_false]
  split
  -- Without a digit behind it the mark is not taken.
  · rename_i mark digit rest
    by_cases marked : ((mark == 'x' || mark == 'X') && isDigitOf 16 digit) = true
    · have parts := marked
      simp only [Bool.and_eq_true, Bool.or_eq_true, beq_iff_eq] at parts
      exact .inr (.inr ⟨mark, digit, rest, parts.1, parts.2, rfl, if_pos marked⟩)
    · exact .inr (.inl ⟨if_neg marked, rfl⟩)
  · exact .inr (.inl ⟨rfl, rfl⟩)
  · rename_i other
    refine .inl ⟨rfl, ?_⟩
    intro zero
    obtain ⟨rest, rfl⟩ := List.head?_eq_some_iff.mp zero
    exact absurd rfl (other rest)

theorem valueOf_zero (rest : List Char) : valueOf base ('0' :: rest) = valueOf base rest := by
  have zero : (digitValue '0').getD 0 = 0 := by decide
  simp [valueOf, zero]

/-- A text is a literal behind blanks exactly if it is scanned plainly. -/
theorem literal_iff : AfterBlanks Literal text number ↔
      Plain (scan 0 text) ∧ (scan 0 text).magnitude = number := by
  constructor
  · rintro ⟨blanks, body, rfl, blank, literal⟩
    cases literal with
    | decimal first rest leading all =>
      have digit : isDigitOf 16 first = true := isDigitOf_mono (by decide) (all first (by simp))
      obtain ⟨taken, left⟩ := takeWhile_of_all all
      rw [scan_after_blanks blank digit, takeBase_decimal leading]
      simp only [taken, left]
      exact ⟨⟨rfl, rfl, by simp⟩, rfl⟩
    | octal rest all =>
      have whole : ∀ character ∈ '0' :: rest, isDigitOf 8 character = true := by
        intro character listed
        obtain rfl | behind := List.mem_cons.mp listed
        · decide
        · exact all character behind
      obtain ⟨taken, left⟩ := takeWhile_of_all whole
      rw [scan_after_blanks blank (by decide), takeBase_octal all]
      simp only [taken, left]
      exact ⟨⟨rfl, rfl, by simp⟩, valueOf_zero rest⟩
    | hexadecimal mark rest marked nonempty all =>
      obtain ⟨digit, behind, rfl⟩ := List.exists_cons_of_ne_nil nonempty
      obtain ⟨taken, left⟩ := takeWhile_of_all all
      rw [scan_after_blanks blank (by decide), takeBase_hexadecimal marked (all digit (by simp))]
      simp only [taken, left]
      exact ⟨⟨rfl, rfl, by simp⟩, rfl⟩
  · rintro ⟨⟨unsigned, whole, digits⟩, value⟩
    obtain ⟨body, parts, base, taken, left⟩ := scan_of_unsigned unsigned
    -- The base that the text announces decides which numeral it is.
    obtain ⟨same, leading⟩ | ⟨same, leading⟩ | ⟨mark, digit, rest, marked, hex, rfl, same⟩ :=
      takeBase_cases body
    · rw [same] at base taken left
      have all := all_of_dropWhile_nil (left ▸ whole)
      rw [(takeWhile_of_all all).1] at taken
      obtain ⟨first, rest, rfl⟩ := List.exists_cons_of_ne_nil (taken ▸ digits)
      refine ⟨_, _, parts, isSpace_of_mem_takeWhile, ?_⟩
      rw [← value, Scanned.magnitude, base, taken]
      exact .decimal first rest (by simpa using leading) all
    · rw [same] at base taken left
      have all := all_of_dropWhile_nil (left ▸ whole)
      rw [(takeWhile_of_all all).1] at taken
      obtain ⟨rest, rfl⟩ := List.head?_eq_some_iff.mp leading
      refine ⟨_, _, parts, isSpace_of_mem_takeWhile, ?_⟩
      rw [← value, Scanned.magnitude, base, taken, valueOf_zero]
      exact .octal rest fun character listed => all character (by simp [listed])
    · rw [same] at base taken left
      have all := all_of_dropWhile_nil (left ▸ whole)
      rw [(takeWhile_of_all all).1] at taken
      refine ⟨_, _, parts, isSpace_of_mem_takeWhile, ?_⟩
      rw [← value, Scanned.magnitude, base, taken]
      exact .hexadecimal mark (digit :: rest) marked (by simp) all

/-- A number is returned for digits that fit. -/
theorem stoul_ok_iff : stoul base text = .ok number ↔
      (scan base text).digits ≠ [] ∧ (scan base text).magnitude < 2 ^ 64 ∧
        (scan base text).number = number := by
  unfold stoul
  dsimp only
  split
  -- The digits are looked at before their value is.
  · rename_i none
    simp [none]
  · rename_i some
    split
    · rename_i large
      simp only [reduceCtorEq, false_iff]
      rintro ⟨-, small, -⟩
      exact absurd small (Nat.not_lt.mpr large)
    · rename_i small
      simp only [Except.ok.injEq]
      exact ⟨fun same => ⟨some, Nat.lt_of_not_le small, same⟩, fun found => found.2.2⟩

/-- Without a sign the number is what the digits say. -/
theorem number_of_unsigned {scanned : Scanned} (unsigned : scanned.sign = none) :
    scanned.number = scanned.magnitude := by
  simp [Scanned.number, unsigned]

/-- A literal holds digits and the mark of a hexadecimal number. -/
theorem Literal.free (literal : Literal text number) : ',' ∉ text := by
  have digits {base : Nat} {text : List Char}
      (all : ∀ character ∈ text, isDigitOf base character = true) : ',' ∉ text :=
    fun listed => (ne_of_digit (all ',' listed)).2.2.2 rfl
  cases literal with
  | decimal first rest leading all => exact digits all
  | octal rest all =>
    have behind := digits all
    simpa using behind
  | hexadecimal mark rest marked nonempty all =>
    have behind := digits all
    obtain rfl | rfl := marked
    · simpa using behind
    · simpa using behind

theorem AfterBlanks.free (literal : AfterBlanks Literal text number) : ',' ∉ text := by
  obtain ⟨blanks, body, rfl, blank, literal⟩ := literal
  intro listed
  obtain front | back := List.mem_append.mp listed
  · exact absurd (blank ',' front) (by decide)
  · exact literal.free back

theorem AfterBlanks.nonempty (literal : AfterBlanks Literal text number) : text ≠ [] := by
  obtain ⟨blanks, body, rfl, -, literal⟩ := literal
  cases literal <;> simp

end Digits

section Fields

variable {separator : Char} {text field rest : List Char} {others : List (List Char)}

/-- A field ends at the separator. -/
theorem fields_append (free : separator ∉ field) :
    fields separator (field ++ separator :: rest) = field :: fields separator rest := by
  induction field with
  | nil => simp [fields]
  | cons character behind ih =>
    have other : character ≠ separator := by
      rintro rfl
      simp at free
    have found := ih fun listed => free (by simp [listed])
    simp [fields, other, found]

theorem fields_of_free (free : separator ∉ text) (nonempty : text ≠ []) :
    fields separator text = [text] := by
  induction text with
  | nil => exact absurd rfl nonempty
  | cons character behind ih =>
    have other : character ≠ separator := by
      rintro rfl
      simp at free
    -- The last character closes the field.
    cases behind with
    | nil => simp [fields, other]
    | cons next last =>
      have found := ih (fun listed => free (by simp [listed])) (by simp)
      rw [fields, if_neg other, found]

theorem of_fields_nil (none : fields separator text = []) : text = [] := by
  cases text with
  | nil => rfl
  | cons character behind =>
    unfold fields at none
    split at none
    · cases none
    · split at none <;> cases none

/-- The first field is all of the text, or what stands before the first separator. -/
theorem of_fields_cons (found : fields separator text = field :: others) : separator ∉ field ∧
      ((text = field ∧ others = []) ∨
        ∃ rest, text = field ++ separator :: rest ∧ others = fields separator rest) := by
  induction text generalizing field others with
  | nil => simp [fields] at found
  | cons character behind ih =>
    unfold fields at found
    split at found
    · rename_i same
      obtain ⟨rfl, rfl⟩ := List.cons.inj found
      exact ⟨by simp, .inr ⟨behind, by simp [same], rfl⟩⟩
    · rename_i other
      split at found
      · rename_i none
        obtain ⟨rfl, rfl⟩ := List.cons.inj found
        -- There is nothing behind the character: anything else would be a field.
        obtain rfl := of_fields_nil none
        exact ⟨by simpa using fun same => other same.symm, .inl ⟨rfl, rfl⟩⟩
      · rename_i first remaining some
        obtain ⟨rfl, rfl⟩ := List.cons.inj found
        obtain ⟨free, ⟨rfl, rfl⟩ | ⟨rest, rfl, rfl⟩⟩ := ih some
        · exact ⟨by simpa using ⟨fun same => other same.symm, free⟩, .inl ⟨rfl, rfl⟩⟩
        · exact ⟨by simpa using ⟨fun same => other same.symm, free⟩, .inr ⟨rest, rfl, rfl⟩⟩

/-- Two fields stand around a separator, and another one may stand behind them. -/
theorem of_fields_pair {first second : List Char}
    (found : fields separator text = [first, second]) :
    text = first ++ separator :: second ∨ text = first ++ separator :: (second ++ [separator]) := by
  obtain ⟨-, ⟨-, none⟩ | ⟨rest, rfl, behind⟩⟩ := of_fields_cons found
  · cases none
  · obtain ⟨-, ⟨rfl, -⟩ | ⟨last, rfl, none⟩⟩ := of_fields_cons behind.symm
    · exact .inl rfl
    · obtain rfl := of_fields_nil none.symm
      exact .inr rfl

end Fields

end UnsignedText
