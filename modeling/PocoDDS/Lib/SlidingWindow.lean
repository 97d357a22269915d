import Mathlib.Algebra.Order.Group.Defs
import Mathlib.Data.List.Basic
import Mathlib.Data.List.TakeWhile
import Mathlib.Tactic

/-! Logs of instants in which no window of a given width holds more than a bound. -/

namespace SlidingWindow

variable {Time : Type} [AddCommGroup Time] [LinearOrder Time]

/-- The instants of a log in a half-open window. -/
def inside (start width : Time) (log : List Time) : List Time :=
  log.filter fun time => start ≤ time ∧ time < start + width

/-- No window of the width holds more instants of the log than the bound. -/
def Within (width : Time) (bound : Nat) (log : List Time) : Prop :=
  ∀ start, (inside start width log).length ≤ bound

/-- The instants of a log that are younger than the width. -/
def recent (width now : Time) (log : List Time) : List Time :=
  log.filter fun time => now - time < width

/-- The log without the instants at its front that are not younger than the width. -/
def prune (width now : Time) (log : List Time) : List Time :=
  log.dropWhile fun time => width ≤ now - time

section Pruning

variable {width now : Time}

theorem mem_recent {time : Time} {log : List Time} :
    time ∈ recent width now log ↔ time ∈ log ∧ now - time < width := by
  simp [recent]

theorem recent_append (width now : Time) (log later : List Time) :
    recent width now (log ++ later) = recent width now log ++ recent width now later :=
  List.filter_append ..

theorem recent_sublist (width now : Time) (log : List Time) : (recent width now log).Sublist log :=
  List.filter_sublist

/-- The present is recent. -/
theorem recent_now (positive : 0 < width) : recent width now [now] = [now] := by
  simp [recent, positive]

variable [IsOrderedAddMonoid Time]

/-- In a sorted log the old instants are all at the front. -/
theorem prune_eq_recent {log : List Time} (sorted : log.Pairwise (· ≤ ·)) :
    prune width now log = recent width now log := by
  -- The first young instant is followed by younger ones only.
  induction log with
  | nil => rfl
  | cons first rest ih =>
    rw [List.pairwise_cons] at sorted
    obtain ⟨least, sorted⟩ := sorted
    unfold prune recent
    by_cases old : width ≤ now - first
    · rw [List.dropWhile_cons_of_pos (by simpa using old),
        List.filter_cons_of_neg (by simpa using old)]
      exact ih sorted
    · have young : ∀ time ∈ first :: rest, now - time < width := by
        intro time member
        rcases List.mem_cons.mp member with rfl | later
        · exact not_le.mp old
        · exact (sub_le_sub_left (least time later) now).trans_lt (not_le.mp old)
      rw [List.dropWhile_cons_of_neg (by simpa using old),
        List.filter_eq_self.mpr (by simpa using young)]

/-- What is not recent stays so. -/
theorem recent_recent {earlier : Time} (later : earlier ≤ now) (log : List Time) :
    recent width now (recent width earlier log) = recent width now log := by
  unfold recent
  rw [List.filter_filter]
  refine List.filter_congr fun time _ => ?_
  -- An instant that is young now was younger before.
  have aged : now - time < width → earlier - time < width :=
    fun young => (sub_le_sub_right later time).trans_lt young
  simpa using aged

end Pruning

section Bound

variable {width : Time} {bound : Nat} {log : List Time}

theorem Within.nil : Within width bound ([] : List Time) := by
  intro start
  exact Nat.zero_le _

theorem inside_append (start : Time) (log later : List Time) :
    inside start width (log ++ later) = inside start width log ++ inside start width later :=
  List.filter_append ..

variable [IsOrderedAddMonoid Time]

/-- A window that holds the present holds no other instants than recent ones. -/
theorem inside_sublist_recent {start now : Time} (holds : now < start + width) (log : List Time) :
    (inside start width log).Sublist (recent width now log) := by
  refine List.monotone_filter_right log fun time member => ?_
  simp only [decide_eq_true_eq] at member ⊢
  -- The instant is not before the start, which is less than a width ago.
  exact (sub_le_sub_left member.1 now).trans_lt (sub_lt_iff_lt_add'.mpr holds)

variable {now : Time} (positive : 0 < width) (sorted : log.Pairwise (· ≤ ·))
  (past : ∀ time ∈ log, time ≤ now)
include positive sorted past

/-- The recent instants and the present fit in one window. -/
theorem exists_window :
    ∃ start, start ≤ now ∧ now < start + width ∧ inside start width log = recent width now log := by
  -- The window starts with the oldest recent instant, or now if there is none.
  cases young : recent width now log with
  | nil =>
    refine ⟨now, le_rfl, lt_add_of_pos_right now positive, ?_⟩
    have fewer := inside_sublist_recent (lt_add_of_pos_right now positive) log
    rw [young] at fewer
    exact List.sublist_nil.mp fewer
  | cons oldest rest =>
    have member : oldest ∈ recent width now log := by simp [young]
    obtain ⟨logged, age⟩ := mem_recent.mp member
    have open' : now < oldest + width := sub_lt_iff_lt_add'.mp age
    refine ⟨oldest, past oldest logged, open', ?_⟩
    rw [← young]
    refine List.filter_congr fun time inLog => ?_
    rw [decide_eq_decide]
    constructor
    · exact fun holds => (sub_le_sub_left holds.1 now).trans_lt age
    · intro youngTime
      -- The recent instants are sorted, so the first of them is the oldest.
      have ordered := sorted.sublist (recent_sublist width now log)
      rw [young, List.pairwise_cons] at ordered
      have listed : time ∈ oldest :: rest := young ▸ mem_recent.mpr ⟨inLog, youngTime⟩
      refine ⟨?_, (past time inLog).trans_lt open'⟩
      rcases List.mem_cons.mp listed with rfl | later
      · exact le_rfl
      · exact ordered.1 time later

/-- One more instant keeps the bound exactly if the recent ones leave room for it. -/
theorem within_push_iff (within : Within width bound log) :
    Within width bound (log ++ [now]) ↔ (recent width now log).length < bound := by
  constructor
  · intro pushed
    obtain ⟨start, begun, open', same⟩ := exists_window positive sorted past
    have fits := pushed start
    have present : inside start width [now] = [now] := by
      simp [inside, begun, open']
    rw [inside_append, present, same, List.length_append, List.length_singleton] at fits
    exact fits
  · intro room start
    rw [inside_append, List.length_append]
    by_cases holds : start ≤ now ∧ now < start + width
    · -- The window holds the present, so its other instants are recent.
      have present : inside start width [now] = [now] := by
        simp [inside, holds]
      have fewer := (inside_sublist_recent holds.2 log).length_le
      rw [present, List.length_singleton]
      exact Nat.succ_le_of_lt (fewer.trans_lt room)
    · have absent : inside start width [now] = [] := by
        simpa [inside] using holds
      rw [absent, List.length_nil]
      exact within start

end Bound

end SlidingWindow
