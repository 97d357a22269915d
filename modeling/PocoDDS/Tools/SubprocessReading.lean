import PocoDDS.Tools.SubprocessRoundTrip

/-! What the runtime finds in the subprocess file, and what the tools find there. -/

namespace PocoDDS.Tools

open AssocList JsonModel TrimLogic
open ProcessManagement (Host Properties ReadFault Text decimal entryProperties getBool readCount
  readEntry)

/-- What the runtime's reader finds in one line of the `=` syntax. -/
def keyValue (line : Text) : Option (Text × Text) :=
  match line.dropWhile isSpace with
  | [] => none
  | first :: rest =>
    if first = '#' ∨ first = '!' then none
    else some (stripText ((first :: rest).takeWhile (· ≠ '=')),
      stripText ((first :: rest).dropWhile (· ≠ '=')).tail)

def keyedValue (key line : Text) : Option Text :=
  (keyValue line).bind fun entry => if entry.1 = key then some entry.2 else none

/-- The properties of lines of the `=` syntax: a later value of a key replaces an earlier one. -/
def lineProperties (lines : List Text) : Properties :=
  fun key => (lines.filterMap (keyedValue key)).getLast?

/-- Whether a text has a reference to a property, a dollar sign before an opening brace. -/
def hasReference : Text → Bool
  | [] => false
  | first :: rest => (first = '$' && rest.head? = some '\x7b') || hasReference rest

/-- The only blanks are spaces and tabs. -/
def PlainBlanks (text : Text) : Prop :=
  ∀ character ∈ text, isSpace character = true → character = ' ' ∨ character = '\t'

/-- A text without escapes and references. -/
def PlainText (text : Text) : Prop :=
  PlainBlanks text ∧ '\\' ∉ text ∧ hasReference text = false

/-- The `=` syntax: a line is blank, a comment, or a key, `=` and a value. -/
def EqualsSyntax (line : Text) : Prop :=
  PlainBlanks line ∧ (line.dropWhile isSpace = [] ∨
    (line.dropWhile isSpace).head? = some '#' ∨ (line.dropWhile isSpace).head? = some '!' ∨
    '=' ∈ line ∧ ':' ∉ line.takeWhile (· ≠ '=') ∧ PlainText line)

instance (text : Text) : Decidable (PlainBlanks text) :=
  List.decidableBAll (fun character => isSpace character = true → _) text

instance (text : Text) : Decidable (PlainText text) :=
  inferInstanceAs (Decidable (_ ∧ _))

instance (line : Text) : Decidable (EqualsSyntax line) :=
  inferInstanceAs (Decidable (_ ∧ _))

/-- The key under which the runtime looks for a field of an entry. -/
def entryKey (index : Nat) (field : Text) : Text :=
  "subprocess.".toList ++ decimal index ++ '.' :: field

/-- A line that sets a field for the tools sets it for the runtime: the number is spelled as the
runtime spells it, and the field's name follows the point at once. -/
def SpelledLine (line : Text) : Prop :=
  match slotLine line with
  | some (index, field, _) => (keyValue line).map Prod.fst = some (entryKey index field)
  | none => True

instance (line : Text) : Decidable (SpelledLine line) := by
  unfold SpelledLine
  split
  · exact inferInstance
  · exact inferInstance

theorem keyValue_of_shape {line before after : Text} (free : '=' ∉ before)
    (first : ∃ head ∈ before.head?, head ≠ '#' ∧ head ≠ '!')
    (shape : line.dropWhile isSpace = before ++ '=' :: after) :
    keyValue line = some (stripText before, stripText after) := by
  obtain ⟨head, leads, number, bang⟩ := first
  obtain ⟨rest, rfl⟩ : ∃ rest, before = head :: rest := by
    cases before with
    | nil => cases leads
    | cons other rest => exact ⟨rest, by rw [Option.some.inj leads]⟩
  obtain ⟨front, back⟩ := cut_append free after
  rw [List.cons_append] at front back shape
  simp only [keyValue, shape, number, bang, or_self, if_false, front, back, List.tail_cons]

/-- A line of the `=` syntax that has a key. -/
theorem shape_of_keyValue {line key value : Text} (plain : EqualsSyntax line)
    (read : keyValue line = some (key, value)) (filled : key ≠ []) : ∃ blanks after,
      (∀ character ∈ blanks, isSpace character = true) ∧ '=' ∉ key ++ blanks ∧
      line.dropWhile isSpace = key ++ blanks ++ '=' :: after ∧ value = stripText after := by
  unfold keyValue at read
  split at read
  · cases read
  · next first rest shape =>
    split at read
    · cases read
    · next other =>
      obtain ⟨rfl, rfl⟩ := Prod.mk.inj (Option.some.inj read)
      -- The line is neither blank nor a comment, so it has a separator behind its blanks.
      have present : '=' ∈ line := by
        rcases plain.2 with empty | comment | comment | assigned
        · rw [shape] at empty
          cases empty
        · rw [shape] at comment
          exact absurd (.inl (Option.some.inj comment)) other
        · rw [shape] at comment
          exact absurd (.inr (Option.some.inj comment)) other
        · exact assigned.1
      have behind : '=' ∈ first :: rest := by
        rw [← List.takeWhile_append_dropWhile (p := isSpace) (l := line), shape] at present
        refine (List.mem_append.mp present).resolve_left fun blank => ?_
        exact absurd (List.mem_takeWhile_imp blank) (by decide)
      obtain ⟨after, back, whole⟩ := cut_split behind
      -- The key starts where the blanks of the line end.
      have solid : ∀ head ∈ ((first :: rest).takeWhile (· ≠ '=')).head?, isSpace head = false := by
        intro head leads
        have start : head = first := by
          rw [List.takeWhile_cons] at leads
          split at leads
          · exact (Option.some.inj leads).symm
          · cases leads
        subst start
        exact @head_dropWhile _ isSpace line head (by rw [shape]; rfl)
      obtain ⟨blanks, blank, cut⟩ := strip_split_solid solid
      refine ⟨blanks, after, blank, ?_, ?_, ?_⟩
      · rw [stripText, ← cut]
        exact cut_free '=' _
      · rw [shape, stripText, ← cut]
        exact whole
      · rw [back, List.tail_cons]

theorem entryKey_cons (index : Nat) (field : Text) : ∃ rest, entryKey index field = 's' :: rest :=
  ⟨"ubprocess.".toList ++ decimal index ++ '.' :: field, rfl⟩

theorem entryKey_inj {index index' : Nat} {field field' : Text} :
    entryKey index field = entryKey index' field' ↔ index = index' ∧ field = field' := by
  constructor
  · intro same
    have cancel : ∀ lead : Text, lead ++ decimal index ++ '.' :: field =
        lead ++ decimal index' ++ '.' :: field' →
          decimal index ++ '.' :: field = decimal index' ++ '.' :: field' := by
      intro lead equal
      rw [List.append_assoc, List.append_assoc] at equal
      exact List.append_cancel_left equal
    have tails := cancel _ same
    -- The number ends at the first character that is no digit.
    have point : isDigit '.' = false := by decide
    obtain ⟨front, back⟩ := cut_decimal index point field
    obtain ⟨front', back'⟩ := cut_decimal index' point field'
    rw [tails] at front back
    have numbers := congrArg digitsValue (front.symm.trans front')
    rw [digitsValue_decimal, digitsValue_decimal] at numbers
    exact ⟨numbers, (List.cons.inj (back.symm.trans back')).2⟩
  · rintro ⟨rfl, rfl⟩
    rfl

theorem mem_key {character : Char} {lead digits field : Text} :
    character ∈ lead ++ digits ++ '.' :: field ↔
      character ∈ lead ∨ character ∈ digits ∨ character = '.' ∨ character ∈ field := by
  simp only [List.mem_append, List.mem_cons, or_assoc]

theorem not_mem_key {character : Char} {lead digits field : Text} (front : character ∉ lead)
    (number : character ∉ digits) (point : character ≠ '.') (back : character ∉ field) :
    character ∉ lead ++ digits ++ '.' :: field := by
  rw [mem_key, not_or, not_or, not_or]
  exact ⟨front, number, point, back⟩

theorem entryKey_ne_count (index : Nat) (field : Text) :
    entryKey index field ≠ "subprocess.count".toList := by
  intro same
  have cancel : ∀ lead : Text, lead ++ decimal index ++ '.' :: field = lead ++ "count".toList →
      decimal index ++ '.' :: field = "count".toList := by
    intro lead equal
    rw [List.append_assoc] at equal
    exact List.append_cancel_left equal
  have tails := cancel "subprocess.".toList same
  have point : '.' ∈ "count".toList := by
    rw [← tails]
    exact List.mem_append_right _ List.mem_cons_self
  exact absurd point (by decide)

theorem entryKey_free {character : Char} (letter : character ∉ "subprocess.".toList)
    (number : character.isDigit = false) (index : Nat) {field : Text}
    (free : character ∉ field) : character ∉ entryKey index field := by
  have point : character ≠ '.' := by
    rintro rfl
    exact letter (by decide)
  have digits : character ∉ decimal index := by
    intro member
    rw [Nat.isDigit_of_mem_toDigits (by decide) (by decide) member] at number
    cases number
  exact not_mem_key letter digits point free

theorem keyValue_of_slotLine {line : Text} {index : Nat} {field value : Text}
    (read : slotLine line = some (index, field, value)) :
    ∃ key, keyValue line = some (key, value) := by
  obtain ⟨digits, before, after, digital, -, free, -, shape, -, -, rfl⟩ := slotLine_eq_some.mp read
  have digitless : '=' ∉ digits := fun member => absurd (digital _ member) (by decide)
  have clear := not_mem_key (show '=' ∉ "subprocess.".toList by decide) digitless (by decide) free
  exact ⟨_, keyValue_of_shape clear ⟨'s', rfl, by decide, by decide⟩ shape⟩

theorem slotLine_of_keyValue {line : Text} (plain : EqualsSyntax line) {index : Nat}
    {field value : Text} (filled : field ≠ [])
    (read : keyValue line = some (entryKey index field, value)) :
    ∃ entry, slotLine line = some entry := by
  obtain ⟨rest, lead⟩ := entryKey_cons index field
  obtain ⟨blanks, after, -, free, shape, -⟩ := shape_of_keyValue plain read (by rw [lead]; simp)
  have whole : ∀ lead : Text, lead ++ decimal index ++ '.' :: field ++ blanks =
      lead ++ decimal index ++ '.' :: (field ++ blanks) := by simp
  have unequal : '=' ∉ field ++ blanks := by
    intro member
    have inside : ∀ lead : Text, '=' ∈ lead ++ decimal index ++ '.' :: field ++ blanks := by
      intro lead
      rw [whole lead]
      exact List.mem_append_right _ (List.mem_cons_of_mem _ member)
    exact free (inside _)
  exact ⟨_, slotLine_eq_some.mpr ⟨decimal index, field ++ blanks, after,
    fun _ => isDigit_decimal, decimal_ne_nil index, unequal, by simp [filled],
    shape.trans (congrArg (· ++ '=' :: after) (whole _)), rfl, rfl, rfl⟩⟩

theorem countLine_of_keyValue {line value : Text} (plain : EqualsSyntax line)
    (read : keyValue line = some ("subprocess.count".toList, value)) : countLine line = true := by
  obtain ⟨blanks, after, blank, -, shape, -⟩ := shape_of_keyValue plain read (by decide)
  have lead : (line.dropWhile isSpace).dropPrefix? "subprocess.count".toList =
      some (blanks ++ '=' :: after) := by
    rw [dropPrefix?_eq_some, shape, List.append_assoc]
  have equals : ¬ isSpace '=' = true := by decide
  rw [countLine, lead]
  simp only
  rw [List.dropWhile_append_of_pos blank, List.dropWhile_cons_of_neg equals]
  rfl

theorem lineProperties_entry {lines : List Text} (plain : ∀ line ∈ lines, EqualsSyntax line)
    (spelled : ∀ line ∈ lines, SpelledLine line) (index : Nat) {field : Text}
    (filled : field ≠ []) :
    lineProperties lines (entryKey index field) = fieldAt (parseLines lines).2 index field := by
  rw [fieldAt_parseLines, lineProperties]
  refine congrArg _ (List.filterMap_congr fun line member => ?_)
  have own := spelled line member
  unfold SpelledLine at own
  cases read : slotLine line with
  | none =>
    -- Then the line has no key of an entry.
    cases found : keyValue line with
    | none => simp [keyedValue, slotValue, found, read]
    | some entry =>
      have other : entry.1 ≠ entryKey index field := by
        intro same
        obtain ⟨_, known⟩ := slotLine_of_keyValue (plain line member) filled
          (found.trans (by rw [← same]))
        rw [read] at known
        cases known
      simp [keyedValue, slotValue, found, read, other]
  | some entry =>
    obtain ⟨number, name, value⟩ := entry
    obtain ⟨key, found⟩ := keyValue_of_slotLine read
    rw [read] at own
    simp only [found, Option.map_some, Option.some.injEq] at own
    simp only [keyedValue, found, Option.bind_some, slotValue, read, own, entryKey_inj]

theorem hasReference_append_left (front : Text) {back : Text} (inside : hasReference back = true) :
    hasReference (front ++ back) = true := by
  induction front with
  | nil => exact inside
  | cons first rest ih => simp [hasReference, ih]

theorem hasReference_append_right {front : Text} (back : Text)
    (inside : hasReference front = true) : hasReference (front ++ back) = true := by
  induction front with
  | nil => cases inside
  | cons first rest ih =>
    simp only [hasReference, List.cons_append, Bool.or_eq_true, Bool.and_eq_true,
      decide_eq_true_eq] at inside ⊢
    rcases inside with ⟨dollar, brace⟩ | later
    · -- The brace is still behind the dollar sign.
      exact .inl ⟨dollar, by rw [List.head?_append, brace]; rfl⟩
    · exact .inr (ih later)

/-- A text without dollar signs adds no reference. -/
theorem hasReference_append_free {front : Text} (free : '$' ∉ front) (back : Text) :
    hasReference (front ++ back) = hasReference back := by
  induction front with
  | nil => rfl
  | cons first rest ih =>
    simp only [List.mem_cons, not_or] at free
    simp [hasReference, Ne.symm free.1, ih free.2]

theorem hasReference_append_cons {separator : Char} (brace : separator ≠ '\x7b')
    (front back : Text) : hasReference (front ++ separator :: back) =
      (hasReference front || hasReference (separator :: back)) := by
  induction front with
  | nil => rfl
  | cons first rest ih =>
    have unfolded : ∀ text, hasReference (first :: text) =
        ((first = '$' && text.head? = some '\x7b') || hasReference text) := fun _ => rfl
    rw [List.cons_append, unfolded, unfolded, ih, Bool.or_assoc]
    cases rest with
    | nil => simp [brace]
    | cons second rest => rfl

theorem PlainText.part {text part : Text} (plain : PlainText text) (inside : part <:+: text) :
    PlainText part := by
  refine ⟨fun character member => plain.1 character (inside.subset member),
    fun member => plain.2.1 (inside.subset member), ?_⟩
  obtain ⟨front, back, rfl⟩ := inside
  by_contra reference
  rw [Bool.not_eq_false] at reference
  have whole := hasReference_append_right back (hasReference_append_left front reference)
  rw [plain.2.2] at whole
  cases whole

/-- A field whose line the runtime reads as the tools do. -/
structure PlainField (field value : Text) : Prop where
  name : PlainText field
  colon : ':' ∉ field
  value : PlainText value

/-- A line that gives a key a value. -/
def keyLine (key value : Text) : Text := key ++ [' '] ++ '=' :: ' ' :: value

/-- A key that the runtime reads back: it has neither blanks at its ends nor a separator. -/
structure PlainKey (key : Text) : Prop where
  first : ∃ head ∈ key.head?, head ≠ '#' ∧ head ≠ '!'
  stripped : Stripped isSpace key
  equals : '=' ∉ key
  colon : ':' ∉ key
  plain : PlainText key

namespace PlainKey

variable {key value : Text}

theorem dropWhile_keyLine (known : PlainKey key) :
    (keyLine key value).dropWhile isSpace = keyLine key value := by
  refine dropWhile_solid fun head leads => known.stripped.head ?_
  obtain ⟨first, start, -⟩ := known.first
  rw [keyLine, List.append_assoc, List.head?_append, Option.mem_def.mp start] at leads
  rw [Option.mem_def.mp start]
  exact leads

theorem keyValue_keyLine (known : PlainKey key) (stripped : Stripped isSpace value) :
    keyValue (keyLine key value) = some (key, value) := by
  have blank : isSpace ' ' = true := by decide
  obtain ⟨first, start, other⟩ := known.first
  have read := @keyValue_of_shape (keyLine key value) (key ++ [' ']) (' ' :: value)
    (by simp [known.equals]) ⟨first, by rw [List.head?_append, Option.mem_def.mp start]; rfl, other⟩
    known.dropWhile_keyLine
  -- The blanks around the separator are stripped.
  rw [read, stripText, stripText, known.stripped.concat blank, strip_cons blank]
  rw [stripped]

theorem equalsSyntax_keyLine (known : PlainKey key) (plain : PlainText value) :
    EqualsSyntax (keyLine key value) := by
  have members : ∀ character ∈ keyLine key value,
      character ∈ key ∨ character = ' ' ∨ character = '=' ∨ character ∈ value := by
    intro character member
    simp only [keyLine, List.mem_append, List.mem_cons, List.not_mem_nil, or_false] at member
    tauto
  have blanks : PlainBlanks (keyLine key value) := by
    intro character member empty
    rcases members character member with inside | rfl | rfl | inside
    · exact known.plain.1 character inside empty
    · exact .inl rfl
    · exact absurd empty (by decide)
    · exact plain.1 character inside empty
  have escapes : '\\' ∉ keyLine key value := by
    intro member
    rcases members _ member with inside | same | same | inside
    · exact known.plain.2.1 inside
    · exact absurd same (by decide)
    · exact absurd same (by decide)
    · exact plain.2.1 inside
  -- The key and the value are separated by a blank, `=` and a blank.
  have references : hasReference (keyLine key value) = false := by
    have lead : keyLine key value = key ++ ' ' :: ([ '=', ' '] ++ value) := by simp [keyLine]
    rw [lead, hasReference_append_cons (by decide), known.plain.2.2, Bool.false_or,
      ← List.singleton_append, hasReference_append_free (by decide),
      hasReference_append_free (by decide), plain.2.2]
  refine ⟨blanks, .inr (.inr (.inr ⟨?_, ?_, blanks, escapes, references⟩))⟩
  · exact List.mem_append_right _ (List.mem_cons_self)
  · rw [keyLine, (cut_append (by simp [known.equals]) _).1]
    simp [known.colon]

end PlainKey

theorem isSpace_decimal {number : Nat} {character : Char} (member : character ∈ decimal number) :
    isSpace character = false := by
  have digit := Nat.isDigit_of_mem_toDigits (by decide) (by decide) member
  simp only [Char.isDigit, ge_iff_le, Bool.and_eq_true, decide_eq_true_eq] at digit
  have least : 48 ≤ character.toNat := UInt32.le_iff_toNat_le.mp digit.1
  have most : character.toNat ≤ 57 := UInt32.le_iff_toNat_le.mp digit.2
  -- The digits lie between the two ranges of blanks below a hundred.
  simp only [isSpace, Bool.or_eq_false_iff, Bool.and_eq_false_iff, decide_eq_false_iff_not,
    beq_eq_false_iff_ne, ne_eq]
  omega

theorem not_mem_decimal {character : Char} (other : character.isDigit = false) (number : Nat) :
    character ∉ decimal number := by
  intro member
  rw [Nat.isDigit_of_mem_toDigits (by decide) (by decide) member] at other
  cases other

theorem stripped_decimal (number : Nat) : Stripped isSpace (decimal number) :=
  .of_ends (fun _ leads => isSpace_decimal (List.mem_of_mem_head? leads))
    (fun _ ends => isSpace_decimal (List.mem_of_mem_getLast? ends))

/-- A text without blanks, backslashes and dollar signs. -/
def Unescaped (text : Text) : Prop :=
  (∀ character ∈ text, isSpace character = false) ∧ '\\' ∉ text ∧ '$' ∉ text

instance (text : Text) : Decidable (Unescaped text) :=
  @instDecidableAnd _ _ (List.decidableBAll (fun character => isSpace character = false) text)
    inferInstance

theorem Unescaped.append {front back : Text} (first : Unescaped front) (second : Unescaped back) :
    Unescaped (front ++ back) := by
  refine ⟨fun character member => ?_, fun member => ?_, fun member => ?_⟩
  · exact (List.mem_append.mp member).elim (first.1 character) (second.1 character)
  · exact (List.mem_append.mp member).elim first.2.1 second.2.1
  · exact (List.mem_append.mp member).elim first.2.2 second.2.2

theorem Unescaped.plainText {text : Text} (unescaped : Unescaped text) : PlainText text := by
  obtain ⟨blank, escape, dollar⟩ := unescaped
  refine ⟨fun character member empty => ?_, escape, ?_⟩
  · rw [blank character member] at empty
    cases empty
  · rw [← List.append_nil text, hasReference_append_free dollar]
    rfl

theorem plainText_decimal (number : Nat) : PlainText (decimal number) :=
  Unescaped.plainText ⟨fun _ => isSpace_decimal, not_mem_decimal (by decide) number,
    not_mem_decimal (by decide) number⟩

theorem plainKey_count : PlainKey "subprocess.count".toList :=
  ⟨⟨'s', rfl, by decide, by decide⟩, by decide, by decide, by decide, by decide⟩

/-- The key of a clean and plain field. -/
theorem plainKey_entryKey (index : Nat) {field value : Text} (clean : Clean field value)
    (plain : PlainField field value) : PlainKey (entryKey index field) where
  first := by
    obtain ⟨rest, lead⟩ := entryKey_cons index field
    exact ⟨'s', by rw [lead]; rfl, by decide, by decide⟩
  stripped := by
    obtain ⟨rest, lead⟩ := entryKey_cons index field
    apply Stripped.of_ends
    · intro item leads
      rw [lead] at leads
      obtain rfl : 's' = item := Option.some.inj leads
      decide
    · intro item ends
      have behind : ∀ lead : Text, (lead ++ '.' :: field).getLast? = ('.' :: field).getLast? :=
        fun lead => List.getLast?_append_of_ne_nil _ (by simp)
      have ends' : item ∈ ('.' :: field).getLast? := (behind _).symm.trans ends
      -- The key ends with the point or with the field's name.
      cases field with
      | nil =>
        obtain rfl : '.' = item := Option.some.inj ends'
        decide
      | cons first rest =>
        rw [List.getLast?_cons_cons] at ends'
        exact clean.1.last ends'
  equals := entryKey_free (by decide) (by decide) index clean.2.1
  colon := entryKey_free (by decide) (by decide) index plain.colon
  plain := by
    refine ⟨fun character member empty => ?_, ?_, ?_⟩
    · rcases mem_key.mp member with letter | digit | rfl | inside
      · have solid : Unescaped "subprocess.".toList := by decide
        rw [solid.1 character letter] at empty
        cases empty
      · rw [isSpace_decimal digit] at empty
        cases empty
      · exact absurd empty (by decide)
      · exact plain.name.1 character inside empty
    · exact entryKey_free (by decide) (by decide) index plain.name.2.1
    · have lead : ∀ front digits : Text, '$' ∉ front → '$' ∉ digits →
          hasReference (front ++ digits ++ '.' :: field) = hasReference field := by
        intro front digits first second
        rw [List.append_assoc, hasReference_append_free first, hasReference_append_free second,
          ← List.singleton_append, hasReference_append_free (by decide)]
      exact (lead _ _ (by decide) (not_mem_decimal (by decide) index)).trans plain.name.2.2

theorem slotFieldLine_eq (index : Nat) (field value : Text) :
    slotFieldLine index field value = keyLine (entryKey index field) value := by
  have separated : ∀ lead digits : Text,
      lead ++ digits ++ '.' :: field ++ [' ', '=', ' '] ++ value =
        lead ++ digits ++ '.' :: field ++ [' '] ++ '=' :: ' ' :: value := by simp
  exact separated _ _

theorem countLine_eq (number : Nat) : "subprocess.count = ".toList ++ decimal number =
    keyLine "subprocess.count".toList (decimal number) := rfl

/-- The field that a line of the `=` syntax sets is plain. -/
theorem plainField_of_shape {line front before after : Text} (plain : EqualsSyntax line)
    (start : front.head? = some 's') (free : '=' ∉ front ++ before)
    (shape : line.dropWhile isSpace = front ++ before ++ '=' :: after) :
    PlainField (stripText before) (stripText after) := by
  obtain ⟨head, rest, rfl⟩ : ∃ head rest, front = head :: rest := by
    cases front with
    | nil => cases start
    | cons head rest => exact ⟨head, rest, rfl⟩
  obtain rfl : head = 's' := Option.some.inj start
  -- The line is no comment, and is not blank.
  obtain ⟨-, colon, text⟩ : '=' ∈ line ∧ ':' ∉ line.takeWhile (· ≠ '=') ∧ PlainText line := by
    rcases plain.2 with empty | comment | comment | assigned
    · rw [shape] at empty
      cases empty
    · rw [shape] at comment
      exact absurd (Option.some.inj comment) (by decide)
    · rw [shape] at comment
      exact absurd (Option.some.inj comment) (by decide)
    · exact assigned
  have whole : line = line.takeWhile isSpace ++ ('s' :: rest ++ before) ++ '=' :: after := by
    have cut := List.takeWhile_append_dropWhile (p := isSpace) (l := line)
    rw [shape, ← List.append_assoc] at cut
    exact cut.symm
  have unequal : '=' ∉ line.takeWhile isSpace ++ ('s' :: rest ++ before) := by
    intro member
    rcases List.mem_append.mp member with blank | key
    · exact absurd (List.mem_takeWhile_imp blank) (by decide)
    · exact free key
  -- The name stands before the first separator of the line.
  have name : line.takeWhile (· ≠ '=') = line.takeWhile isSpace ++ ('s' :: rest ++ before) := by
    conv_lhs => rw [whole]
    exact (cut_append unequal after).1
  rw [name] at colon
  have inside : before <:+: line :=
    ⟨line.takeWhile isSpace ++ 's' :: rest, '=' :: after, by
      rw [← List.append_assoc] at whole
      exact whole.symm⟩
  have behind : after <:+: line :=
    ⟨line.takeWhile isSpace ++ ('s' :: rest ++ before) ++ ['='], [], by
      rw [List.append_nil, List.append_assoc, List.singleton_append]
      exact whole.symm⟩
  refine ⟨text.part ((isInfix_strip before).trans inside), fun member => colon ?_,
    text.part ((isInfix_strip after).trans behind)⟩
  exact List.mem_append_right _ (List.mem_append_right _ (mem_strip member))

theorem plainField_of_slotLine {line : Text} {index : Nat} {field value : Text}
    (plain : EqualsSyntax line) (read : slotLine line = some (index, field, value)) :
    PlainField field value := by
  obtain ⟨digits, before, after, digital, -, free, -, shape, -, rfl, rfl⟩ :=
    slotLine_eq_some.mp read
  have digitless : '=' ∉ digits := fun member => absurd (digital _ member) (by decide)
  have clear := not_mem_key (show '=' ∉ "subprocess.".toList by decide) digitless (by decide) free
  have split : ∀ lead : Text,
      lead ++ digits ++ '.' :: before = lead ++ digits ++ ['.'] ++ before := by simp
  exact @plainField_of_shape _ ("subprocess.".toList ++ digits ++ ['.']) _ _ plain rfl
    (split _ ▸ clear) (shape.trans (congrArg (· ++ '=' :: after) (split _)))

theorem plainField_of_snippetLine {line field value : Text} (plain : EqualsSyntax line)
    (read : snippetLine line = some (field, value)) : PlainField field value := by
  obtain ⟨rest, lead, assigned⟩ := Option.bind_eq_some_iff.mp read
  obtain ⟨before, after, free, -, rfl, rfl, rfl⟩ := assignment_eq_some.mp assigned
  have shape := dropPrefix?_eq_some.mp lead
  rw [← List.append_assoc] at shape
  refine plainField_of_shape plain rfl ?_ shape
  intro member
  rcases List.mem_append.mp member with letter | inside
  · exact absurd letter (by decide)
  · exact free inside

section Written

variable {preserved : List Text} {slots : List Slot}
  (plain : ∀ line ∈ preserved, EqualsSyntax line)
  (free : ∀ line ∈ preserved, slotLine line = none ∧ countLine line = false)
  (writable : ∀ slot ∈ slots, Writable slot)
  (fields : ∀ slot ∈ slots, ∀ field ∈ slot, PlainField field.1 field.2)

theorem written_lines {line : Text} (member : line ∈ writeSubprocessConfiguration preserved slots)
    (writable : ∀ slot ∈ slots, Writable slot)
    (fields : ∀ slot ∈ slots, ∀ field ∈ slot, PlainField field.1 field.2) :
    line ∈ preserved ∨ line = [] ∨ line = keyLine "subprocess.count".toList (decimal slots.length) ∨
      ∃ index field value, PlainKey (entryKey index field) ∧ PlainText value ∧
        Clean field value ∧ line = keyLine (entryKey index field) value := by
  rcases mem_writeSubprocessConfiguration member with kept | rfl | rfl |
    ⟨index, slot, field, there, listed, rfl⟩
  · exact .inl kept
  · exact .inr (.inl rfl)
  · exact .inr (.inr (.inl (countLine_eq _)))
  · have slotListed := List.mem_of_getElem? there
    obtain ⟨value, found⟩ : ∃ value, valueAt slot field = some value :=
      Option.ne_none_iff_exists'.mp fun missing => valueAt_eq_none_iff.mp missing listed
    have entry := mem_of_valueAt found
    have clean := (writable slot slotListed).clean _ entry
    have known := fields slot slotListed _ entry
    rw [found, Option.getD_some, slotFieldLine_eq]
    exact .inr (.inr (.inr ⟨index, field, value, plainKey_entryKey index clean known, known.value,
      clean, rfl⟩))

include plain writable fields in
theorem written_plain : ∀ line ∈ writeSubprocessConfiguration preserved slots,
    EqualsSyntax line := by
  intro line member
  rcases written_lines member writable fields with kept | rfl | rfl |
    ⟨index, field, value, key, text, -, rfl⟩
  · exact plain line kept
  · decide
  · exact plainKey_count.equalsSyntax_keyLine (plainText_decimal _)
  · exact key.equalsSyntax_keyLine text

include free writable fields in
theorem written_spelled : ∀ line ∈ writeSubprocessConfiguration preserved slots,
    SpelledLine line := by
  intro line member
  rcases written_lines member writable fields with kept | rfl | rfl |
    ⟨index, field, value, key, text, clean, rfl⟩
  · rw [SpelledLine, (free line kept).1]
    trivial
  · decide
  · rw [← countLine_eq, SpelledLine, slotLine_count]
    trivial
  · have read := slotLine_slotFieldLine index clean
    rw [slotFieldLine_eq] at read
    rw [SpelledLine, read]
    simp only [key.keyValue_keyLine clean.2.2, Option.map_some]

include plain free writable fields in
theorem written_count : lineProperties (writeSubprocessConfiguration preserved slots)
    "subprocess.count".toList = some (decimal slots.length) := by
  have own := plainKey_count.keyValue_keyLine (stripped_decimal slots.length)
  refine getLast?_of_forall fun value => ?_
  rw [List.mem_filterMap, Option.some.injEq]
  constructor
  · rintro ⟨line, member, keyed⟩
    obtain ⟨entry, read, same⟩ := Option.bind_eq_some_iff.mp keyed
    split at same
    · next counts =>
      rcases written_lines member writable fields with kept | rfl | rfl |
        ⟨index, field, text, key, -, clean, rfl⟩
      · -- A preserved line that the runtime takes for the count would not have been preserved.
        have count := countLine_of_keyValue (plain line kept) (read.trans (by rw [← counts]))
        rw [(free line kept).2] at count
        cases count
      · cases read
      · rw [own] at read
        obtain rfl := Option.some.inj read
        exact Option.some.inj same
      · rw [key.keyValue_keyLine clean.2.2] at read
        obtain rfl := Option.some.inj read
        exact absurd counts (entryKey_ne_count index field)
    · cases same
  · rintro rfl
    refine ⟨keyLine "subprocess.count".toList (decimal slots.length), ?_, ?_⟩
    · rw [← countLine_eq]
      exact List.mem_append_left _ (List.mem_append_right _ (List.mem_singleton_self _))
    · rw [keyedValue, own, Option.bind_some]
      exact if_pos rfl

end Written

end PocoDDS.Tools
