import Mathlib.Data.List.DropRight
import Mathlib.Tactic

/-! When the circuit breaker lets a call pass, after any reports of how earlier calls have ended. -/

namespace PocoDDS.Reliability

structure CircuitBreaker where
  failureThreshold : Nat
  resetTimeout : Int
  failures : Nat := 0
  openedAt : Option Int := none
  deriving DecidableEq

/-- How a call has ended. -/
inductive Report
  | success
  | failure (now : Int)
  deriving DecidableEq

namespace CircuitBreaker

variable (breaker : CircuitBreaker)

def allow (now : Int) : Bool :=
  match breaker.openedAt with
  | none => true
  | some openedAt => breaker.resetTimeout ≤ now - openedAt

def success : CircuitBreaker := { breaker with failures := 0, openedAt := none }

/-- Each failure past the threshold opens the breaker anew. -/
def failure (now : Int) : CircuitBreaker :=
  { breaker with
    failures := breaker.failures + 1
    openedAt :=
      if breaker.failureThreshold ≤ breaker.failures + 1 then some now else breaker.openedAt }

def report : Report → CircuitBreaker
  | .success => breaker.success
  | .failure now => breaker.failure now

end CircuitBreaker

/-- The failures that the reports end with. -/
def failuresInRow (reports : List Report) : List Report := reports.rtakeWhile (· ≠ .success)

theorem report_all (threshold : Nat) (timeout : Int) (reports : List Report) :
    let breaker := reports.foldl CircuitBreaker.report ⟨threshold, timeout, 0, none⟩
    breaker.failureThreshold = threshold ∧ breaker.resetTimeout = timeout ∧
      breaker.failures = (failuresInRow reports).length ∧
      ∀ last, breaker.openedAt = some last ↔
        reports.getLast? = some (.failure last) ∧ threshold ≤ (failuresInRow reports).length := by
  induction reports using List.reverseRecOn with
  | nil => simp [failuresInRow]
  | append_singleton reports report ih =>
    rw [List.foldl_append, List.foldl_cons, List.foldl_nil, failuresInRow, List.getLast?_concat]
    generalize reports.foldl _ _ = breaker at ih ⊢
    obtain ⟨rfl, same, failures, openedAt⟩ := ih
    cases report with
    | success =>
      rw [List.rtakeWhile_concat_neg _ _ _ (by simp)]
      exact ⟨rfl, same, rfl, by simp [CircuitBreaker.report, CircuitBreaker.success]⟩
    | failure now =>
      rw [List.rtakeWhile_concat_pos _ _ _ (by simp), List.length_append, List.length_singleton]
      change _ ∧ _ ∧ breaker.failures + 1 = (failuresInRow reports).length + 1 ∧ ∀ last,
        (if breaker.failureThreshold ≤ breaker.failures + 1 then some now else breaker.openedAt) =
          some last ↔ _ ∧ _ ≤ (failuresInRow reports).length + 1
      rw [← failures] at openedAt ⊢
      refine ⟨rfl, same, rfl, fun last => ?_⟩
      split
      · next enough => simp [enough]
      · next short =>
        -- The row was shorter before, so the breaker was not open.
        refine iff_of_false (fun still => short ?_) fun long => short long.2
        exact Nat.le_succ_of_le ((openedAt last).mp still).2

end PocoDDS.Reliability
