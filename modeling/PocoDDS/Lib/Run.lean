import Mathlib.Data.List.Basic
import Mathlib.Tactic

/-! Runs of a state machine: conditions on every step, and the invariants they carry. -/

namespace RunLogic

variable {σ ε : Type} {step : σ → ε → σ}

/-- Every step of a run meets a condition on the state before it and its event. -/
def Along (step : σ → ε → σ) (condition : σ → ε → Prop) : σ → List ε → Prop
  | _, [] => True
  | state, event :: rest => condition state event ∧ Along step condition (step state event) rest

/-- Whether a run meets a condition can be computed step by step. -/
instance Along.decidable {condition : σ → ε → Prop} [∀ state event, Decidable (condition state event)] :
    (state : σ) → (events : List ε) → Decidable (Along step condition state events)
  | _, [] => .isTrue trivial
  | state, event :: rest => @instDecidableAnd _ _ _ (Along.decidable (step state event) rest)

/-- Every run meets the condition that asks for nothing. -/
theorem Along.free (state : σ) (events : List ε) : Along step (fun _ _ => True) state events := by
  induction events generalizing state with
  | nil => trivial
  | cons event rest ih => exact ⟨trivial, ih _⟩

/-- An invariant that every admissible step keeps holds at the end of every admissible run. -/
theorem Along.invariant {condition : σ → ε → Prop} {inv : σ → Prop}
    (kept : ∀ state event, inv state → condition state event → inv (step state event))
    {state : σ} {events : List ε} (start : inv state) (run : Along step condition state events) :
    inv (events.foldl step state) := by
  induction events generalizing state with
  | nil => exact start
  | cons event rest ih => exact ih (kept state event start run.1) run.2

/-- What an invariant says of each admissible step holds along every admissible run. -/
theorem Along.of_invariant {condition property : σ → ε → Prop} {inv : σ → Prop}
    (kept : ∀ state event, inv state → condition state event → inv (step state event))
    (holds : ∀ state event, inv state → condition state event → property state event)
    {state : σ} {events : List ε} (start : inv state) (run : Along step condition state events) :
    Along step property state events := by
  induction events generalizing state with
  | nil => trivial
  | cons event rest ih =>
    exact ⟨holds state event start run.1, ih (kept state event start run.1) run.2⟩

/-- Conditions that agree wherever an invariant holds agree along every run, if the invariant is
kept by the steps that meet them. -/
theorem Along.congr {first second : σ → ε → Prop} {inv : σ → Prop}
    (kept : ∀ state event, inv state → second state event → inv (step state event))
    (same : ∀ state event, inv state → (first state event ↔ second state event))
    {state : σ} (start : inv state) (events : List ε) :
    Along step first state events ↔ Along step second state events := by
  induction events generalizing state with
  | nil => exact Iff.rfl
  | cons event rest ih =>
    refine (and_congr_left' (same state event start)).trans (and_congr_right fun met => ?_)
    exact ih (kept state event start met)

end RunLogic
