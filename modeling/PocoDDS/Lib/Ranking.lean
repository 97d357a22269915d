import Mathlib.Data.List.Sort
import Mathlib.Tactic

/-!
Stable sorting by a key, over a listing that has an order of its own.

The place of an entry in the sorted list is the number of entries that outrank it, so that what is
among the first few, or comes first, can be said without sorting.
-/

namespace Ranking

variable {α κ ι : Type} [LinearOrder κ] [LinearOrder ι]

/-- An entry comes before another if its key is greater, or if the keys are equal and it is listed
before it. -/
def Outranks (key : α → κ) (position : α → ι) (first second : α) : Prop :=
  key second < key first ∨ (key first = key second ∧ position first < position second)

instance (key : α → κ) (position : α → ι) (first second : α) :
    Decidable (Outranks key position first second) :=
  inferInstanceAs (Decidable (_ ∨ _))

variable {key : α → κ} {position : α → ι} {items : List α} {item : α} {count : Nat}

theorem Outranks.irrefl (item : α) : ¬Outranks key position item item := by
  rintro (less | ⟨-, less⟩)
  · exact lt_irrefl _ less
  · exact lt_irrefl _ less

theorem Outranks.asymm {first second : α} (before : Outranks key position first second) :
    ¬Outranks key position second first := by
  rintro (less' | ⟨same', less'⟩)
  · rcases before with less | ⟨same, -⟩
    · exact lt_asymm less less'
    · exact absurd same (ne_of_lt less')
  · rcases before with less | ⟨-, less⟩
    · exact absurd same' (ne_of_lt less)
    · exact lt_asymm less less'

/-- Putting an entry into a sorted list keeps it sorted, when all of its entries are listed behind
the new one. -/
theorem pairwise_orderedInsert (sorted : items.Pairwise (Outranks key position))
    (behind : ∀ other ∈ items, position item < position other) :
    (items.orderedInsert (fun first second => key first ≥ key second) item).Pairwise
      (Outranks key position) := by
  induction items with
  | nil => simp
  | cons head rest ih =>
    obtain ⟨first, sorted⟩ := List.pairwise_cons.mp sorted
    have ahead : ∀ {other : α}, key item ≥ key other → other ∈ head :: rest →
        Outranks key position item other := by
      intro other above member
      rcases lt_or_eq_of_le above with less | same
      · exact .inl less
      · exact .inr ⟨same.symm, behind other member⟩
    rw [List.orderedInsert_cons]
    by_cases above : key item ≥ key head
    · rw [if_pos above]
      refine List.pairwise_cons.mpr ⟨fun other member => ?_, List.pairwise_cons.mpr ⟨first, sorted⟩⟩
      rcases List.mem_cons.mp member with rfl | later
      · exact ahead above member
      · -- The keys fall along a sorted list.
        refine ahead (le_trans ?_ above) member
        rcases first other later with less | ⟨same, -⟩
        · exact le_of_lt less
        · exact ge_of_eq same
    · rw [if_neg above]
      refine List.pairwise_cons.mpr ⟨fun other member => ?_, ih sorted fun other later =>
        behind other (List.mem_cons_of_mem _ later)⟩
      rcases List.mem_cons.mp ((List.perm_orderedInsert _ _ _).mem_iff.mp member) with rfl | later
      · exact .inl (lt_of_not_ge above)
      · exact first other later

/-- Sorting a listing by a key. -/
def ranked (key : α → κ) (position : α → ι) (items : List α) : List α :=
  (items.insertionSort fun first second => position first ≤ position second).insertionSort
    fun first second => key first ≥ key second

theorem perm_ranked (key : α → κ) (position : α → ι) (items : List α) :
    (ranked key position items).Perm items :=
  (List.perm_insertionSort _ _).trans (List.perm_insertionSort _ _)

/-- In the sorted list every entry outranks those behind it. -/
theorem pairwise_ranked
    (apart : ∀ first ∈ items, ∀ second ∈ items, position first = position second → first = second)
    (distinct : items.Nodup) :
    (ranked key position items).Pairwise (Outranks key position) := by
  have listed : (items.insertionSort fun first second => position first ≤ position second).Pairwise
      fun first second => position first < position second := by
    have total : ∀ first second : α, position first ≤ position second ∨
        position second ≤ position first := fun first second => le_total _ _
    have ordered : (items.insertionSort
        fun first second => position first ≤ position second).Pairwise
          fun first second => position first ≤ position second := by
      have : Std.Total fun first second : α => position first ≤ position second := ⟨total⟩
      have : IsTrans α fun first second => position first ≤ position second :=
        ⟨fun _ _ _ => le_trans⟩
      exact List.pairwise_insertionSort _ items
    have distinct' := (List.perm_insertionSort
      (fun first second => position first ≤ position second) items).nodup_iff.mpr distinct
    refine (ordered.and distinct').imp_of_mem fun first second both => ?_
    have inside := fun {item} => (List.perm_insertionSort
      (fun first second => position first ≤ position second) items).mem_iff (a := item)
    exact lt_of_le_of_ne both.1 fun same =>
      both.2 (apart _ (inside.mp first) _ (inside.mp second) same)
  unfold ranked
  generalize items.insertionSort (fun first second => position first ≤ position second) = listing
    at listed
  -- The listing is sorted from its end.
  induction listing with
  | nil => simp
  | cons head rest ih =>
    obtain ⟨behind, listed⟩ := List.pairwise_cons.mp listed
    rw [List.insertionSort_cons]
    refine pairwise_orderedInsert (ih listed) fun other member => ?_
    exact behind other ((List.perm_insertionSort _ _).mem_iff.mp member)

/-- What is among the first entries of a list in which each outranks those behind it. -/
theorem mem_take_of_pairwise (sorted : items.Pairwise (Outranks key position)) :
    item ∈ items.take count ↔ item ∈ items ∧
      (items.filter fun other => decide (Outranks key position other item)).length < count := by
  induction items generalizing count with
  | nil => simp
  | cons head rest ih =>
    obtain ⟨first, sorted⟩ := List.pairwise_cons.mp sorted
    cases count with
    | zero => simp
    | succ count =>
      rw [List.take_succ_cons, List.mem_cons, List.mem_cons, ih sorted]
      by_cases same : item = head
      · -- Nothing behind the first entry outranks it.
        have none : ((head :: rest).filter
            fun other => decide (Outranks key position other item)) = [] := by
          refine List.filter_eq_nil_iff.mpr fun other member => ?_
          rw [decide_eq_true_eq, same]
          rcases List.mem_cons.mp member with rfl | later
          · exact Outranks.irrefl _
          · exact (first other later).asymm
        exact iff_of_true (.inl same) ⟨.inl same, by rw [none]; simp⟩
      · simp only [same, false_or]
        refine and_congr_right fun later => ?_
        rw [List.filter_cons_of_pos (by simpa using first item later), List.length_cons]
        omega

/-- An entry is among the first ones exactly when few enough entries outrank it. -/
theorem mem_take_ranked
    (apart : ∀ first ∈ items, ∀ second ∈ items, position first = position second → first = second)
    (distinct : items.Nodup) :
    item ∈ (ranked key position items).take count ↔ item ∈ items ∧
      (items.filter fun other => decide (Outranks key position other item)).length < count := by
  rw [mem_take_of_pairwise (pairwise_ranked apart distinct),
    (perm_ranked key position items).mem_iff]
  have same := ((perm_ranked key position items).filter
    fun other => decide (Outranks key position other item)).length_eq
  rw [same]

/-- What is not among the first entries is behind them. -/
theorem mem_take_iff (distinct : items.Nodup) :
    item ∈ items.take count ↔ item ∈ items ∧ item ∉ items.drop count := by
  have split := List.take_append_drop count items
  rw [← split] at distinct
  have apart := (List.nodup_append.mp distinct).2.2
  constructor
  · exact fun first => ⟨List.mem_of_mem_take first, fun behind => apart item first item behind rfl⟩
  · rintro ⟨listed, ahead⟩
    rw [← split] at listed
    exact (List.mem_append.mp listed).resolve_right ahead

/-- The first entry is the one that no other outranks. -/
theorem head_ranked_iff
    (apart : ∀ first ∈ items, ∀ second ∈ items, position first = position second → first = second)
    (distinct : items.Nodup) :
    (ranked key position items).head? = some item ↔ item ∈ items ∧
      ∀ other ∈ items, ¬Outranks key position other item := by
  have first : (ranked key position items).head? = some item ↔
      item ∈ (ranked key position items).take 1 := by
    cases ranked key position items with
    | nil => simp
    | cons head rest => simp [eq_comm]
  rw [first, mem_take_ranked apart distinct, Nat.lt_one_iff, List.length_eq_zero_iff,
    List.filter_eq_nil_iff]
  simp

end Ranking
