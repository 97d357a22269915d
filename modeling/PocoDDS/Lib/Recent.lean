import Mathlib.Data.List.Basic
import Mathlib.Data.List.Dedup
import Mathlib.Data.List.Perm.Subperm
import Mathlib.Tactic

/-! The last entries of a history, and histories in which no recent entry comes again. -/

namespace RecentList

variable {α : Type}

/-- The last entries of a history, at most the given number of them. -/
def recent (bound : Nat) (history : List α) : List α :=
  history.drop (history.length - bound)

/-- Every entry of a history is new to those that were recent before it. -/
def Spaced (bound : Nat) (history : List α) : Prop :=
  ∀ before item after, history = before ++ item :: after → item ∉ recent bound before

@[simp] theorem recent_nil (bound : Nat) : recent bound ([] : List α) = [] := by
  simp [recent]

theorem length_recent (bound : Nat) (history : List α) :
    (recent bound history).length = min bound history.length := by
  simp only [recent, List.length_drop]
  omega

theorem length_recent_le (bound : Nat) (history : List α) :
    (recent bound history).length ≤ bound := by
  rw [length_recent]
  exact Nat.min_le_left _ _

theorem recent_sublist (bound : Nat) (history : List α) : (recent bound history).Sublist history :=
  List.drop_sublist _ _

/-- Pushing onto the recent entries and dropping what is too many gives the recent ones again. -/
theorem recent_push (bound : Nat) (history : List α) (item : α) :
    recent bound (recent bound history ++ [item]) = recent bound (history ++ [item]) := by
  -- Both sides drop from the front of the same list, in two steps or in one.
  have inner : recent bound history ++ [item] =
      (history ++ [item]).drop (history.length - bound) := by
    rw [List.drop_append_of_le_length (by omega)]
    rfl
  rw [recent, inner, List.drop_drop]
  congr 1
  simp only [List.length_drop, List.length_append, List.length_singleton]
  omega

theorem mem_recent_of_mem_end {bound : Nat} {start finish : List α} (short : finish.length ≤ bound)
    {item : α} (member : item ∈ finish) : item ∈ recent bound (start ++ finish) := by
  unfold recent
  rw [List.drop_append_of_le_length (by simp only [List.length_append]; omega)]
  exact List.mem_append_right _ member

theorem Spaced.nil (bound : Nat) : Spaced bound ([] : List α) := by
  intro before item after split
  simp at split

/-- A history may go on with any entry that is not recent. -/
theorem Spaced.push {bound : Nat} {history : List α} (spaced : Spaced bound history) {item : α}
    (fresh : item ∉ recent bound history) : Spaced bound (history ++ [item]) := by
  intro before other after split
  -- The entry is the new one, or it was there before.
  rcases List.eq_nil_or_concat after with rfl | ⟨earlier, last, rfl⟩
  · obtain ⟨rfl, same⟩ := List.append_inj' split rfl
    cases same
    exact fresh
  · rw [List.concat_eq_append, ← List.cons_append, ← List.append_assoc] at split
    obtain ⟨rfl, -⟩ := List.append_inj' split rfl
    exact spaced before other earlier rfl

/-- Entries that are recent together are distinct. -/
theorem Spaced.nodup_window {bound : Nat} (start window finish : List α)
    (spaced : Spaced bound (start ++ window ++ finish)) (short : window.length ≤ bound) :
    window.Nodup := by
  induction window using List.reverseRecOn generalizing finish with
  | nil => exact List.nodup_nil
  | append_singleton earlier item ih =>
    rw [List.length_append, List.length_singleton] at short
    have distinct := ih (item :: finish) (by simpa using spaced) (by omega)
    -- The last entry is new to the others, which were all recent when it came.
    have fresh := spaced (start ++ earlier) item finish (by simp)
    refine distinct.append (by simp) (List.disjoint_singleton.mpr ?_)
    exact fun member => fresh (mem_recent_of_mem_end (by omega) member)

theorem Spaced.nodup_recent {bound : Nat} {history : List α} (spaced : Spaced bound history) :
    (recent bound history).Nodup := by
  have whole : history.take (history.length - bound) ++ recent bound history ++ [] = history := by
    rw [List.append_nil]
    exact List.take_append_drop _ _
  refine Spaced.nodup_window (history.take (history.length - bound)) _ [] ?_
    (length_recent_le bound history)
  rw [whole]
  exact spaced

/-- Between two occurrences of an entry there are as many distinct others as the bound says. -/
theorem Spaced.le_distinct_between [DecidableEq α] {bound : Nat} {start between finish : List α}
    {item : α} (spaced : Spaced bound (start ++ item :: between ++ item :: finish)) :
    bound ≤ between.dedup.length := by
  -- The second occurrence is not recent, so the first one is far enough away.
  have far : bound ≤ between.length := by
    by_contra near
    have fresh := spaced (start ++ item :: between) item finish rfl
    exact fresh (mem_recent_of_mem_end (by simp only [List.length_cons]; omega) (by simp))
  have distinct : (between.take bound).Nodup := by
    refine Spaced.nodup_window (start ++ [item]) _ (between.drop bound ++ item :: finish) ?_
      (List.length_take_le bound between)
    have whole : start ++ [item] ++ between.take bound ++ (between.drop bound ++ item :: finish) =
        start ++ item :: between ++ item :: finish := by
      rw [List.append_assoc, ← List.append_assoc (between.take bound), List.take_append_drop]
      simp
    rw [whole]
    exact spaced
  calc bound = (between.take bound).length := by rw [List.length_take, Nat.min_eq_left far]
    _ ≤ between.dedup.length := by
      refine (distinct.subperm ?_).length_le
      intro other member
      exact List.mem_dedup.mpr (List.mem_of_mem_take member)

end RecentList
