import Mathlib.Data.String.Basic
import Mathlib.Tactic

/-! Maps as lists of entries in the order of their keys. -/

namespace OrderedMap

variable {κ ν : Type} [LinearOrder κ]

/-- The entries are in the order of their keys, each of which occurs once. -/
def Ordered (entries : List (κ × ν)) : Prop := entries.Pairwise fun first second => first.1 < second.1

def assign (key : κ) (value : ν) : List (κ × ν) → List (κ × ν)
  | [] => [(key, value)]
  | entry :: rest =>
    if key < entry.1 then (key, value) :: entry :: rest
    else if key = entry.1 then (key, value) :: rest
    else entry :: assign key value rest

def erase (key : κ) (entries : List (κ × ν)) : List (κ × ν) :=
  entries.filter fun entry => entry.1 ≠ key

variable {key other : κ} {value : ν} {entries : List (κ × ν)}

theorem mem_assign {entry : κ × ν} (listed : entry ∈ assign key value entries) :
    entry = (key, value) ∨ entry ∈ entries := by
  -- The new entry stands somewhere among the others.
  induction entries with
  | nil => exact .inl (by simpa [assign] using listed)
  | cons head rest ih =>
    unfold assign at listed
    split_ifs at listed
    · simpa using listed
    · obtain new | old := List.mem_cons.mp listed
      · exact .inl new
      · exact .inr (List.mem_cons_of_mem _ old)
    · obtain first | behind := List.mem_cons.mp listed
      · exact .inr (by simp [first])
      · obtain new | old := ih behind
        · exact .inl new
        · exact .inr (List.mem_cons_of_mem _ old)

theorem Ordered.assign (ordered : Ordered entries) : Ordered (assign key value entries) := by
  -- The new entry goes before the first key above it, where all others are above it, too.
  induction entries with
  | nil => simp [OrderedMap.assign, Ordered]
  | cons head rest ih =>
    obtain ⟨above, behind⟩ := List.pairwise_cons.mp ordered
    unfold OrderedMap.assign
    split_ifs with before same
    · apply List.pairwise_cons.mpr
      refine ⟨?_, ordered⟩
      intro entry listed
      obtain rfl | later := List.mem_cons.mp listed
      · exact before
      · exact before.trans (above entry later)
    · apply List.pairwise_cons.mpr
      refine ⟨?_, behind⟩
      intro entry listed
      exact same ▸ above entry listed
    · apply List.pairwise_cons.mpr
      refine ⟨?_, ih behind⟩
      intro entry listed
      obtain rfl | old := mem_assign listed
      · exact lt_of_le_of_ne (le_of_not_gt before) (Ne.symm same)
      · exact above entry old

theorem Ordered.erase (ordered : Ordered entries) : Ordered (erase key entries) :=
  List.Pairwise.filter _ ordered

theorem lookup_cons_eq (entry : κ × ν) (rest : List (κ × ν)) :
    (entry :: rest).lookup other = if other = entry.1 then some entry.2 else rest.lookup other := by
  obtain ⟨first, found⟩ := entry
  by_cases same : other = first
  · simp [same]
  · have different : (other == first) = false := by simpa using same
    simp [List.lookup_cons, different, same]

theorem lookup_assign : (assign key value entries).lookup other =
      if other = key then some value else entries.lookup other := by
  induction entries with
  | nil => simp [assign, lookup_cons_eq]
  | cons head rest ih =>
    unfold assign
    -- The cases are those of the search for the place of the key.
    by_cases before : key < head.1
    · rw [if_pos before, lookup_cons_eq]
    by_cases same : key = head.1
    · rw [if_neg before, if_pos same, lookup_cons_eq, lookup_cons_eq, ← same]
      split_ifs <;> rfl
    · rw [if_neg before, if_neg same, lookup_cons_eq, ih, lookup_cons_eq]
      by_cases taken : other = key
      · rw [if_pos taken, if_neg fun first => same (taken.symm.trans first), if_pos taken]
      · rw [if_neg taken, if_neg taken]

/-- What is erased is not found any more, and every other key keeps its value. -/
theorem lookup_erase :
    (erase key entries).lookup other = if other = key then none else entries.lookup other := by
  induction entries with
  | nil => simp [erase]
  | cons head rest ih =>
    unfold erase at ih ⊢
    -- An entry that goes was found under its key only.
    by_cases dropped : head.1 = key
    · rw [List.filter_cons_of_neg (by simp [dropped]), ih, lookup_cons_eq, dropped]
      split_ifs <;> rfl
    · rw [List.filter_cons_of_pos (by simp [dropped]), lookup_cons_eq, ih, lookup_cons_eq]
      by_cases first : other = head.1
      · rw [if_pos first, if_neg (fun same => dropped (first.symm.trans same)), if_pos first]
      · rw [if_neg first, if_neg first]

/-- Behind the first entry its key does not occur again. -/
theorem Ordered.lookup_tail {head : κ × ν} {rest : List (κ × ν)} (ordered : Ordered (head :: rest)) :
    rest.lookup head.1 = none := by
  obtain ⟨above, -⟩ := List.pairwise_cons.mp ordered
  apply List.lookup_eq_none_iff.mpr
  intro entry listed
  simpa using (above entry listed).ne

/-- An entry is found under its key. -/
theorem Ordered.lookup_of_mem {entry : κ × ν} (ordered : Ordered entries) (listed : entry ∈ entries) :
    entries.lookup entry.1 = some entry.2 := by
  induction entries with
  | nil => simp at listed
  | cons head rest ih =>
    obtain ⟨above, behind⟩ := List.pairwise_cons.mp ordered
    rw [lookup_cons_eq]
    obtain rfl | later := List.mem_cons.mp listed
    · rw [if_pos rfl]
    · rw [if_neg (above entry later).ne', ih behind later]

end OrderedMap
