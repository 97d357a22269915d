import PocoDDS.Lib.Json

/-!
Compact JSON texts with the members of an object in key order.

Two writers of this format differ in how they escape a character and how they write a fraction.
The texts of one value are equal exactly when the writers agree on what occurs in that value.
-/

namespace JsonModel

/-- What a compact writer is free in: a character of a string, and a number by its literal. -/
structure Writer where
  escape : Char → List Char
  real : String → List Char

open Writer

/-- The text of a string: its characters escaped, between quotes. -/
def Writer.quoted (writer : Writer) (text : String) : List Char :=
  '"' :: (text.toList.flatMap writer.escape ++ ['"'])

/-- Texts separated by commas. -/
def joined : List (List Char) → List Char
  | [] => []
  | [text] => text
  | text :: rest => text ++ ',' :: joined rest

/-- Members in the order of their keys. -/
def byKey {α : Type} (members : List (String × α)) : List (String × α) :=
  members.insertionSort fun left right => left.1 ≤ right.1

mutual

/-- The compact text of a value. -/
def Writer.text (writer : Writer) : Json → List Char
  | .null => "null".toList
  | .bool value => (if value then "true" else "false").toList
  | .num value => (toString value).toList
  | .real _ literal => writer.real literal
  | .str value => writer.quoted value
  | .arr items => '[' :: (joined (writer.itemTexts items) ++ [']'])
  | .obj members => '\x7b' :: (joined ((byKey (writer.memberTexts members)).map fun member =>
      writer.quoted member.1 ++ ':' :: member.2) ++ ['\x7d'])

/-- The texts of the items of an array. -/
def Writer.itemTexts (writer : Writer) : List Json → List (List Char)
  | [] => []
  | item :: rest => writer.text item :: writer.itemTexts rest

/-- The keys and texts of the members of an object. -/
def Writer.memberTexts (writer : Writer) : List (String × Json) → List (String × List Char)
  | [] => []
  | (key, value) :: rest => (key, writer.text value) :: writer.memberTexts rest

end

theorem Writer.itemTexts_eq (writer : Writer) (items : List Json) :
    writer.itemTexts items = items.map writer.text := by
  induction items with
  | nil => rfl
  | cons item rest ih => rw [itemTexts, ih, List.map_cons]

theorem Writer.memberTexts_eq (writer : Writer) (members : List (String × Json)) :
    writer.memberTexts members = members.map fun member => (member.1, writer.text member.2) := by
  induction members with
  | nil => rfl
  | cons member rest ih => rw [memberTexts, ih, List.map_cons]

/-- The text of one member. -/
def Writer.memberText (writer : Writer) (member : String × Json) : List Char :=
  writer.quoted member.1 ++ ':' :: writer.text member.2

theorem Writer.text_arr (writer : Writer) (items : List Json) :
    writer.text (.arr items) = '[' :: (joined (items.map writer.text) ++ [']']) := by
  rw [text, itemTexts_eq]

/-- Sorting looks at the keys only, so it may be done before the values are written. -/
theorem Writer.text_obj (writer : Writer) (members : List (String × Json)) :
    writer.text (.obj members) =
      '\x7b' :: (joined ((byKey members).map writer.memberText) ++ ['\x7d']) := by
  have sorted : byKey (writer.memberTexts members) =
      (byKey members).map fun member => (member.1, writer.text member.2) := by
    rw [memberTexts_eq, byKey, byKey]
    symm
    apply List.map_insertionSort
    intro left _ right _
    exact Iff.rfl
  rw [text, sorted, List.map_map]
  rfl

/-- The forms in which a string may hold one character. -/
inductive IsEscape : List Char → Prop
  | plain (character : Char) (unmarked : character ≠ '\\') : IsEscape [character]
  | short (letter : Char) (notLong : letter ≠ 'u') : IsEscape ['\\', letter]
  | long (first second third fourth : Char) :
    IsEscape ['\\', 'u', first, second, third, fourth]

/-- No form is the beginning of another one. -/
theorem IsEscape.cancel {left right before after : List Char} (leftForm : IsEscape left)
    (rightForm : IsEscape right) (same : left ++ before = right ++ after) :
    left = right ∧ before = after := by
  cases leftForm <;> cases rightForm <;> simp_all [eq_comm]

/-- What may follow a value inside a document. -/
def Delimited : List Char → Prop
  | [] => True
  | next :: _ => next = ',' ∨ next = ']' ∨ next = '\x7d'

theorem delimited_comma (rest : List Char) : Delimited (',' :: rest) :=
  Or.inl rfl

theorem delimited_bracket (rest : List Char) : Delimited (']' :: rest) :=
  Or.inr (Or.inl rfl)

theorem delimited_brace (rest : List Char) : Delimited ('\x7d' :: rest) :=
  Or.inr (Or.inr rfl)

/-- A writer of JSON text: one escape for each character, and numbers without delimiters. -/
structure Writer.Lawful (writer : Writer) : Prop where
  escape : ∀ character, IsEscape (writer.escape character)
  real : ∀ literal, ∀ character ∈ writer.real literal, ¬ Delimited [character]

mutual

/-- Every character of the strings and keys of a value, and every fraction in it, passes. -/
def Json.Holds (character : Char → Prop) (fraction : String → Prop) : Json → Prop
  | .null | .bool _ | .num _ => True
  | .real _ literal => fraction literal
  | .str value => ∀ inside ∈ value.toList, character inside
  | .arr items => Json.ItemsHold character fraction items
  | .obj members => Json.MembersHold character fraction members

/-- Every item of an array passes. -/
def Json.ItemsHold (character : Char → Prop) (fraction : String → Prop) : List Json → Prop
  | [] => True
  | item :: rest => item.Holds character fraction ∧ Json.ItemsHold character fraction rest

/-- Every key and value of an object passes. -/
def Json.MembersHold (character : Char → Prop) (fraction : String → Prop) :
    List (String × Json) → Prop
  | [] => True
  | (key, value) :: rest =>
    ((∀ inside ∈ key.toList, character inside) ∧ value.Holds character fraction) ∧
      Json.MembersHold character fraction rest

end

theorem Json.holds_arr {character : Char → Prop} {fraction : String → Prop} {items : List Json} :
    (Json.arr items).Holds character fraction ↔ ∀ item ∈ items, item.Holds character fraction := by
  rw [Json.Holds]
  induction items with
  | nil => simp [Json.ItemsHold]
  | cons item rest ih => simp [Json.ItemsHold, ih]

theorem Json.holds_obj {character : Char → Prop} {fraction : String → Prop}
    {members : List (String × Json)} :
    (Json.obj members).Holds character fraction ↔ ∀ member ∈ members,
      (∀ inside ∈ member.1.toList, character inside) ∧ member.2.Holds character fraction := by
  rw [Json.Holds]
  induction members with
  | nil => simp [Json.MembersHold]
  | cons member rest ih => simp [Json.MembersHold, ih]

/-- Two writers escape the characters of a string alike. -/
def Writer.AgreeOn (one other : Writer) (text : String) : Prop :=
  ∀ character ∈ text.toList, one.escape character = other.escape character

/-- Two writers agree on every character and every fraction that occurs in a value. -/
def Writer.Agree (one other : Writer) (value : Json) : Prop :=
  value.Holds (fun character => one.escape character = other.escape character)
    fun literal => one.real literal = other.real literal

theorem Writer.AgreeOn.quoted_eq {one other : Writer} {text : String}
    (agree : one.AgreeOn other text) : one.quoted text = other.quoted text := by
  rw [quoted, quoted, List.flatMap_congr agree]

theorem Json.induction {motive : Json → Prop} (null : motive .null)
    (bool : ∀ value, motive (.bool value)) (num : ∀ value, motive (.num value))
    (real : ∀ value literal, motive (.real value literal)) (str : ∀ value, motive (.str value))
    (arr : ∀ items, (∀ item ∈ items, motive item) → motive (.arr items))
    (obj : ∀ members : List (String × Json), (∀ member ∈ members, motive member.2) →
      motive (.obj members)) : ∀ value, motive value
  | .null => null
  | .bool value => bool value
  | .num value => num value
  | .real value literal => real value literal
  | .str value => str value
  | .arr items => arr items fun item _ =>
      Json.induction null bool num real str arr obj item
  | .obj members => obj members fun member _ =>
      Json.induction null bool num real str arr obj member.2
termination_by value => sizeOf value
decreasing_by
  · have smaller := List.sizeOf_lt_of_mem ‹item ∈ items›
    simp only [Json.arr.sizeOf_spec]
    omega
  · have smaller := List.sizeOf_lt_of_mem ‹member ∈ members›
    have inner : sizeOf member.2 < sizeOf member := by
      cases member
      simp only [Prod.mk.sizeOf_spec]
      omega
    simp only [Json.obj.sizeOf_spec]
    omega

/-- Writers that agree on what occurs in a value give it the same text. -/
theorem Writer.Agree.text_eq {one other : Writer} (value : Json) :
    one.Agree other value → one.text value = other.text value := by
  induction value using Json.induction with
  | null => simp only [text, implies_true]
  | bool value => simp only [text, implies_true]
  | num value => simp only [text, implies_true]
  | real value literal => simp only [Writer.Agree, Json.Holds, text, imp_self]
  | str value =>
    intro agree
    rw [Writer.Agree, Json.Holds] at agree
    rw [text, text, Writer.AgreeOn.quoted_eq agree]
  | arr items ih =>
    intro agree
    have texts : items.map one.text = items.map other.text :=
      List.map_congr_left fun item listed => ih item listed (Json.holds_arr.mp agree item listed)
    rw [text_arr, text_arr, texts]
  | obj members ih =>
    intro agree
    have texts : (byKey members).map one.memberText = (byKey members).map other.memberText := by
      apply List.map_congr_left
      intro member listed
      have inside : member ∈ members := (List.mem_insertionSort _).mp listed
      obtain ⟨key, value⟩ := Json.holds_obj.mp agree member inside
      rw [memberText, memberText, Writer.AgreeOn.quoted_eq key, ih member inside value]
    rw [text_obj, text_obj, texts]

section Cancel

variable {one other : Writer}

/-- Escaped characters can be told apart one by one. -/
theorem escaped_cancel (oneLawful : one.Lawful) (otherLawful : other.Lawful)
    (characters : List Char) {before after : List Char}
    (same : characters.flatMap one.escape ++ before = characters.flatMap other.escape ++ after) :
    (∀ character ∈ characters, one.escape character = other.escape character) ∧ before = after := by
  induction characters with
  | nil => exact ⟨by simp, same⟩
  | cons first rest ih =>
    rw [List.flatMap_cons, List.flatMap_cons, List.append_assoc, List.append_assoc] at same
    obtain ⟨head, tail⟩ := (oneLawful.escape first).cancel (otherLawful.escape first) same
    obtain ⟨others, remaining⟩ := ih tail
    exact ⟨List.forall_mem_cons.mpr ⟨head, others⟩, remaining⟩

theorem quoted_cancel (oneLawful : one.Lawful) (otherLawful : other.Lawful) {text : String}
    {before after : List Char} (same : one.quoted text ++ before = other.quoted text ++ after) :
    one.AgreeOn other text ∧ before = after := by
  simp only [quoted, List.cons_append, List.append_assoc, List.cons.injEq, true_and] at same
  obtain ⟨characters, rest⟩ := escaped_cancel oneLawful otherLawful text.toList same
  exact ⟨characters, by simpa using rest⟩

/-- A number ends where a delimiter begins. -/
theorem delimited_cancel {left right before after : List Char}
    (leftFree : ∀ character ∈ left, ¬ Delimited [character])
    (rightFree : ∀ character ∈ right, ¬ Delimited [character])
    (beforeDelimited : Delimited before) (afterDelimited : Delimited after)
    (same : left ++ before = right ++ after) : left = right ∧ before = after := by
  induction left generalizing right with
  | nil =>
    cases right with
    | nil => exact ⟨rfl, same⟩
    | cons next rest =>
      -- The text would go on with a character of the other number.
      rw [List.nil_append, List.cons_append] at same
      subst same
      exact absurd beforeDelimited (rightFree next (by simp))
  | cons first rest ih =>
    cases right with
    | nil =>
      rw [List.nil_append, List.cons_append] at same
      subst same
      exact absurd afterDelimited (leftFree first (by simp))
    | cons next others =>
      rw [List.cons_append, List.cons_append, List.cons.injEq] at same
      obtain ⟨head, tail⟩ := same
      obtain ⟨equal, remaining⟩ := ih (fun character inside => leftFree character (by simp [inside]))
        (fun character inside => rightFree character (by simp [inside])) tail
      exact ⟨by rw [head, equal], remaining⟩

theorem joined_cancel {α : Type} {first second : α → List Char} {Same : α → Prop} (parts : List α)
    (cancel : ∀ part ∈ parts, ∀ before after, Delimited before → Delimited after →
      first part ++ before = second part ++ after → Same part ∧ before = after)
    {before after : List Char} (beforeDelimited : Delimited before)
    (afterDelimited : Delimited after)
    (same : joined (parts.map first) ++ before = joined (parts.map second) ++ after) :
    (∀ part ∈ parts, Same part) ∧ before = after := by
  induction parts with
  | nil => exact ⟨by simp, same⟩
  | cons part rest ih =>
    cases rest with
    | nil =>
      obtain ⟨held, remaining⟩ := cancel part (by simp) before after beforeDelimited
        afterDelimited same
      exact ⟨by simpa using held, remaining⟩
    | cons next others =>
      simp only [List.map_cons, joined, List.append_assoc, List.cons_append] at same
      obtain ⟨held, tail⟩ := cancel part (by simp) _ _ (delimited_comma _) (delimited_comma _) same
      obtain ⟨all, remaining⟩ := ih (fun part listed => cancel part (by simp [listed]))
        (List.cons.inj tail).2
      exact ⟨List.forall_mem_cons.mpr ⟨held, all⟩, remaining⟩

/-- Equal texts of one value, whatever follows them, show that the writers agree on it. -/
theorem text_cancel (oneLawful : one.Lawful) (otherLawful : other.Lawful) (value : Json) :
    ∀ before after, Delimited before → Delimited after →
      one.text value ++ before = other.text value ++ after →
        one.Agree other value ∧ before = after := by
  induction value using Json.induction with
  | null =>
    intro before after _ _ same
    exact ⟨by simp only [Writer.Agree, Json.Holds], List.append_cancel_left same⟩
  | bool value =>
    intro before after _ _ same
    exact ⟨by simp only [Writer.Agree, Json.Holds], List.append_cancel_left same⟩
  | num value =>
    intro before after _ _ same
    exact ⟨by simp only [Writer.Agree, Json.Holds], List.append_cancel_left same⟩
  | real value literal =>
    intro before after beforeDelimited afterDelimited same
    rw [text, text] at same
    rw [Writer.Agree, Json.Holds]
    exact delimited_cancel (oneLawful.real literal) (otherLawful.real literal) beforeDelimited
      afterDelimited same
  | str value =>
    intro before after _ _ same
    rw [text, text] at same
    rw [Writer.Agree, Json.Holds]
    exact quoted_cancel oneLawful otherLawful same
  | arr items ih =>
    intro before after _ _ same
    simp only [text_arr, List.cons_append, List.append_assoc, List.cons.injEq, true_and] at same
    obtain ⟨all, rest⟩ := joined_cancel items ih (delimited_bracket _) (delimited_bracket _)
      same
    exact ⟨Json.holds_arr.mpr all, by simpa using rest⟩
  | obj members ih =>
    intro before after _ _ same
    simp only [text_obj, List.cons_append, List.append_assoc, List.cons.injEq, true_and] at same
    -- The members are written in sorted order, and sorting keeps them all.
    have cancel : ∀ member ∈ byKey members, ∀ before after, Delimited before → Delimited after →
        one.memberText member ++ before = other.memberText member ++ after →
          (one.AgreeOn other member.1 ∧ one.Agree other member.2) ∧ before = after := by
      intro member listed before after beforeDelimited afterDelimited same
      have inside : member ∈ members := (List.mem_insertionSort _).mp listed
      simp only [memberText, List.append_assoc, List.cons_append] at same
      obtain ⟨key, tail⟩ := quoted_cancel oneLawful otherLawful same
      obtain ⟨value, remaining⟩ := ih member inside before after beforeDelimited afterDelimited
        (List.cons.inj tail).2
      exact ⟨⟨key, value⟩, remaining⟩
    obtain ⟨all, rest⟩ := joined_cancel (byKey members) cancel (delimited_brace _)
      (delimited_brace _) same
    refine ⟨Json.holds_obj.mpr fun member inside => ?_, by simpa using rest⟩
    exact all member ((List.mem_insertionSort _).mpr inside)

/-- The texts of a value are equal exactly when the writers agree on what occurs in it. -/
theorem Writer.text_eq_iff (oneLawful : one.Lawful) (otherLawful : other.Lawful) (value : Json) :
    one.text value = other.text value ↔ one.Agree other value := by
  constructor
  · intro same
    exact (text_cancel oneLawful otherLawful value [] [] trivial trivial
      (by rw [List.append_nil, List.append_nil, same])).1
  · exact Writer.Agree.text_eq value

end Cancel

end JsonModel
