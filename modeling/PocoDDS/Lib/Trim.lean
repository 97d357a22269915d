import Mathlib.Data.List.DropRight
import Mathlib.Data.List.TakeWhile
import Mathlib.Tactic

/-! Text without the blanks at its ends, and text that is cut at its first separator. -/

namespace TrimLogic

variable {α : Type} (blank : α → Bool)

/-- The text without the blanks at its two ends. -/
def strip (text : List α) : List α :=
  (text.dropWhile blank).rdropWhile blank

/-- A text that does not change when it is stripped. -/
def Stripped (text : List α) : Prop :=
  strip blank text = text

instance [DecidableEq α] (text : List α) : Decidable (Stripped blank text) :=
  inferInstanceAs (Decidable (strip blank text = text))

variable {blank}

/-- A text that starts with no blank loses none at its start. -/
theorem dropWhile_solid {text : List α} (solid : ∀ first ∈ text.head?, blank first = false) :
    text.dropWhile blank = text := by
  cases text with
  | nil => rfl
  | cons first rest => exact List.dropWhile_cons_of_neg (by simpa using solid first rfl)

/-- What is left after the blanks at the start does not start with one. -/
theorem head_dropWhile {text : List α} {first : α} (leads : first ∈ (text.dropWhile blank).head?) :
    blank first = false := by
  induction text with
  | nil => cases leads
  | cons head rest ih =>
    rw [List.dropWhile_cons] at leads
    split at leads
    · exact ih leads
    · next solid =>
      obtain rfl : head = first := by simpa using leads
      simpa using solid

/-- A text that starts with no blank is what is left of it, and blanks. -/
theorem strip_split_solid {text : List α} (solid : ∀ first ∈ text.head?, blank first = false) :
    ∃ back, (∀ item ∈ back, blank item = true) ∧ text = strip blank text ++ back := by
  refine ⟨text.rtakeWhile blank, fun item => List.mem_rtakeWhile_imp, ?_⟩
  rw [strip, dropWhile_solid solid, List.rdropWhile_append_rtakeWhile]

/-- What is left starts where the blanks at the start end. -/
theorem exists_strip_append (text : List α) :
    ∃ back, strip blank text ++ back = text.dropWhile blank :=
  List.rdropWhile_prefix blank (text.dropWhile blank)

theorem isInfix_strip (text : List α) : strip blank text <:+: text := by
  obtain ⟨back, shape⟩ := @exists_strip_append _ blank text
  have front : strip blank text <:+: text.dropWhile blank := ⟨[], back, by simpa using shape⟩
  exact front.trans (List.dropWhile_suffix blank).isInfix

/-- Stripping removes blanks only. -/
theorem mem_strip {text : List α} {item : α} (member : item ∈ strip blank text) : item ∈ text :=
  (isInfix_strip text).subset member

/-- A text is stripped if neither end is blank. -/
theorem Stripped.of_ends {text : List α} (first : ∀ item ∈ text.head?, blank item = false)
    (last : ∀ item ∈ text.getLast?, blank item = false) : Stripped blank text := by
  rw [Stripped, strip, dropWhile_solid first, List.rdropWhile_eq_self_iff]
  intro filled
  simp [last _ (List.getLast?_eq_some_getLast filled)]

theorem head_strip {text : List α} {item : α} (leads : item ∈ (strip blank text).head?) :
    blank item = false := by
  -- What is left after the end has been cut, too, starts where the text starts without its blanks.
  obtain ⟨tail, shape⟩ := @exists_strip_append _ blank text
  refine @head_dropWhile _ blank text _ ?_
  rw [← shape, List.head?_append, Option.mem_def.mp leads]
  rfl

theorem last_strip {text : List α} {item : α} (ends : item ∈ (strip blank text).getLast?) :
    blank item = false := by
  have left : (text.dropWhile blank).rdropWhile blank ≠ [] := by
    intro nothing
    rw [strip, nothing] at ends
    cases ends
  have solid := List.rdropWhile_last_not blank (text.dropWhile blank) left
  rw [strip, List.getLast?_eq_some_getLast left] at ends
  obtain rfl := Option.some.inj ends
  simpa using solid

theorem stripped_strip (text : List α) : Stripped blank (strip blank text) :=
  .of_ends (fun _ => head_strip) (fun _ => last_strip)

theorem Stripped.head {text : List α} (stripped : Stripped blank text) {item : α}
    (leads : item ∈ text.head?) : blank item = false :=
  head_strip (stripped.symm ▸ leads)

theorem Stripped.last {text : List α} (stripped : Stripped blank text) {item : α}
    (ends : item ∈ text.getLast?) : blank item = false :=
  last_strip (stripped.symm ▸ ends)

theorem strip_cons {first : α} (empty : blank first = true) (text : List α) :
    strip blank (first :: text) = strip blank text := by
  rw [strip, List.dropWhile_cons_of_pos empty, strip]

theorem Stripped.concat {text : List α} (stripped : Stripped blank text) {last : α}
    (empty : blank last = true) : strip blank (text ++ [last]) = text := by
  by_cases filled : text = []
  · subst filled
    simp [strip, empty]
  · rw [strip, dropWhile_solid, List.rdropWhile_concat_pos _ _ _ empty, List.rdropWhile_eq_self_iff]
    · intro nonempty
      simp [stripped.last (List.getLast?_eq_some_getLast nonempty)]
    · intro item leads
      rw [List.head?_append_of_ne_nil _ filled] at leads
      exact stripped.head leads

theorem dropWhile_congr {other : α → Bool} {text : List α}
    (same : ∀ item ∈ text, blank item = other item) :
    text.dropWhile blank = text.dropWhile other := by
  induction text with
  | nil => rfl
  | cons first rest ih =>
    obtain ⟨head, tail⟩ := List.forall_mem_cons.mp same
    rw [List.dropWhile_cons, List.dropWhile_cons, head, ih tail]

/-- Only the characters of a text matter. -/
theorem strip_congr {other : α → Bool} {text : List α}
    (same : ∀ item ∈ text, blank item = other item) : strip blank text = strip other text := by
  unfold strip List.rdropWhile
  rw [dropWhile_congr same]
  refine congrArg _ (dropWhile_congr fun item member => same item ?_)
  exact (List.dropWhile_suffix _).subset (List.mem_reverse.mp member)

theorem strip_append_left {front : List α} (blanks : ∀ item ∈ front, blank item = true)
    (text : List α) : strip blank (front ++ text) = strip blank text := by
  rw [strip, List.dropWhile_append_of_pos blanks, strip]

/-- The end of a text is not stripped beyond an item that is not blank. -/
theorem rdropWhile_append_solid {item : α} (solid : blank item = false) (front back : List α) :
    (front ++ item :: back).rdropWhile blank = front ++ item :: back.rdropWhile blank := by
  have turned : (front ++ item :: back).reverse = back.reverse ++ (item :: front.reverse) := by
    simp
  rw [List.rdropWhile, turned, List.dropWhile_append]
  cases left : back.reverse.dropWhile blank with
  | nil =>
    rw [if_pos List.isEmpty_nil, List.dropWhile_cons_of_neg (by simpa using solid),
      List.rdropWhile, left]
    simp
  | cons first rest =>
    rw [if_neg (by simp), List.rdropWhile, left]
    simp

/-- Blanks at the end may be stripped beforehand. -/
theorem strip_rdropWhile (text : List α) :
    strip blank (text.rdropWhile blank) = strip blank text := by
  by_cases solid : ∃ item ∈ text, blank item = false
  · obtain ⟨item, member, filled⟩ := solid
    obtain ⟨front, back, rfl⟩ := List.append_of_mem member
    rw [rdropWhile_append_solid filled, strip, strip]
    -- What is dropped at the start ends before the item.
    have cut : ∀ tail : List α, (front ++ item :: tail).dropWhile blank =
        front.dropWhile blank ++ item :: tail := by
      intro tail
      rw [List.dropWhile_append]
      cases left : front.dropWhile blank with
      | nil =>
        rw [if_pos List.isEmpty_nil, List.dropWhile_cons_of_neg (by simpa using filled)]
        rfl
      | cons first rest => rw [if_neg (by simp)]
    rw [cut, cut, rdropWhile_append_solid filled, rdropWhile_append_solid filled,
      List.rdropWhile_idempotent]
  · have all : ∀ item ∈ text, blank item = true := by
      intro item member
      by_contra other
      exact solid ⟨item, member, by simpa using other⟩
    have none : text.rdropWhile blank = [] := List.rdropWhile_eq_nil_iff.mpr all
    rw [none, strip, strip, List.dropWhile_eq_nil_iff.mpr all]
    rfl

/-- A text is cut at its first separator. -/
theorem cut_append [DecidableEq α] {separator : α} {front : List α} (free : separator ∉ front)
    (back : List α) :
    (front ++ separator :: back).takeWhile (· ≠ separator) = front ∧
      (front ++ separator :: back).dropWhile (· ≠ separator) = separator :: back := by
  have passed : ∀ item ∈ front, decide (item ≠ separator) = true := by
    intro item member
    simpa using fun same : item = separator => free (same ▸ member)
  constructor
  · rw [List.takeWhile_append_of_pos passed, List.takeWhile_cons_of_neg (by simp), List.append_nil]
  · rw [List.dropWhile_append_of_pos passed, List.dropWhile_cons_of_neg (by simp)]

/-- A text with a separator is what is before the first one, the separator, and the rest. -/
theorem cut_split [DecidableEq α] {separator : α} {text : List α} (present : separator ∈ text) :
    ∃ back, text.dropWhile (· ≠ separator) = separator :: back ∧
      text = text.takeWhile (· ≠ separator) ++ separator :: back := by
  cases rest : text.dropWhile (· ≠ separator) with
  | nil => exact absurd (List.dropWhile_eq_nil_iff.mp rest separator present) (by simp)
  | cons first back =>
    -- The cut stops at the separator only.
    have stops := @head_dropWhile _ (fun item => decide (item ≠ separator)) text first
      (by rw [rest]; rfl)
    obtain rfl : first = separator := by simpa using stops
    exact ⟨back, rfl, by rw [← rest, List.takeWhile_append_dropWhile]⟩

/-- No separator stands before the first one. -/
theorem cut_free [DecidableEq α] (separator : α) (text : List α) :
    separator ∉ text.takeWhile (· ≠ separator) := by
  intro member
  simpa using List.mem_takeWhile_imp member

end TrimLogic
