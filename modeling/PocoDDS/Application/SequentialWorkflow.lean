import Mathlib.Data.List.Range

/-! A sequential workflow: its steps, and the compensation of those that have been completed. -/

namespace PocoDDS.Application

inductive WorkflowState
  | idle
  | running
  | succeeded
  | failed
  | cancelled
  deriving DecidableEq, Repr

/-- A step, by whether it has a compensator. -/
structure WorkflowStep where
  compensates : Bool
  deriving DecidableEq, Repr

inductive StepOutcome
  | success
  | failure (code : String)
  | thrown (message : String)
  deriving DecidableEq, Repr

/-- What the steps do in one call, by their positions: whether the deadline has passed before a step,
how its execution ends, and what its compensator throws. -/
structure Context where
  expired : Nat → Bool
  execute : Nat → StepOutcome
  compensate : Nat → Option String

structure SequentialWorkflow where
  steps : List WorkflowStep
  completed : Nat := 0
  state : WorkflowState := .idle
  deriving DecidableEq, Repr

open SequentialWorkflow

inductive Ended
  | success
  | failure (code : String)
  | thrown (message : String)
  deriving DecidableEq, Repr

/-- The end of a call, with the steps that it has executed successfully and the compensators that it
has called. -/
structure Call where
  workflow : SequentialWorkflow
  succeeded : List Nat := []
  compensated : List Nat := []
  ended : Ended
  deriving DecidableEq, Repr

/-- What has become of the compensators: those that were called, and what one of them has thrown
when some steps were still to be compensated. -/
structure Compensation where
  called : List Nat := []
  completed : Nat := 0
  thrown : Option String := none
  deriving DecidableEq, Repr

/-- Whether a step has a compensator. -/
def SequentialWorkflow.compensates (workflow : SequentialWorkflow) (step : Nat) : Bool :=
  workflow.steps[step]?.any (·.compensates)

/-- The loop that compensates, from the number of completed steps on. -/
def SequentialWorkflow.compensateFrom (workflow : SequentialWorkflow) (context : Context) :
    (completed : Nat) → Compensation
  | 0 => {}
  | completed + 1 =>
    if workflow.compensates completed then
      match context.compensate completed with
      | some message => { called := [completed], completed, thrown := some message }
      | none =>
        let rest := workflow.compensateFrom context completed
        { rest with called := completed :: rest.called }
    else workflow.compensateFrom context completed

/-- Compensating, and what follows where nothing is thrown. -/
def SequentialWorkflow.compensate (workflow : SequentialWorkflow) (context : Context)
    (state : WorkflowState) (ended : Ended) : Call :=
  let done := workflow.compensateFrom context workflow.completed
  match done.thrown with
  | some message =>
    { workflow := { workflow with completed := done.completed }
      compensated := done.called
      ended := .thrown message }
  | none =>
    { workflow := { workflow with completed := done.completed, state }
      compensated := done.called
      ended }

def SequentialWorkflow.failAndCompensate (workflow : SequentialWorkflow) (context : Context)
    (code : String) : Call :=
  workflow.compensate context .failed (.failure code)

/-- The loop over the steps, when some of them are still to come. -/
def SequentialWorkflow.executeFrom (workflow : SequentialWorkflow) (context : Context)
    (position : Nat) : (rest : List WorkflowStep) → Call
  | [] => { workflow := { workflow with state := .succeeded }, ended := .success }
  | _ :: rest =>
    if context.expired position then workflow.failAndCompensate context "deadline_exceeded"
    else
      match context.execute position with
      | .failure code => workflow.failAndCompensate context code
      | .thrown message => { workflow, ended := .thrown message }
      | .success =>
        let call := { workflow with completed := workflow.completed + 1 }.executeFrom context
          (position + 1) rest
        { call with succeeded := position :: call.succeeded }

def SequentialWorkflow.start (workflow : SequentialWorkflow) (context : Context) : Call :=
  { workflow with state := .running, completed := 0 }.executeFrom context 0 workflow.steps

def SequentialWorkflow.cancel (workflow : SequentialWorkflow) (context : Context) : Call :=
  workflow.compensate context .cancelled .success

/-- Calls of `cancel` one after another: the compensators that they call. -/
def SequentialWorkflow.cancels (workflow : SequentialWorkflow) : List Context → List Nat
  | [] => []
  | context :: later =>
    let call := workflow.cancel context
    call.compensated ++ call.workflow.cancels later

section Compensation

variable (workflow : SequentialWorkflow) (context : Context)

theorem compensateFrom_descends (completed : Nat) :
    (workflow.compensateFrom context completed).called.Pairwise (· > ·) ∧
    (∀ step ∈ (workflow.compensateFrom context completed).called,
      (workflow.compensateFrom context completed).completed ≤ step ∧ step < completed) ∧
    (workflow.compensateFrom context completed).completed ≤ completed := by
  induction completed with
  | zero => simp [compensateFrom]
  | succ completed ih =>
    obtain ⟨ordered, bounds, less⟩ := ih
    unfold compensateFrom
    split
    · split
      · simp
      · refine ⟨?_, ?_, Nat.le_succ_of_le less⟩
        · exact List.pairwise_cons.mpr ⟨fun step inside => (bounds step inside).2, ordered⟩
        · intro step inside
          rcases List.mem_cons.mp inside with rfl | later
          · exact ⟨less, Nat.lt_succ_self _⟩
          · have bound := bounds step later
            exact ⟨bound.1, by omega⟩
    · refine ⟨ordered, fun step inside => ?_, Nat.le_succ_of_le less⟩
      exact ⟨(bounds step inside).1, Nat.lt_succ_of_lt (bounds step inside).2⟩

/-- What a call that compensates leaves. -/
theorem compensate_descends (state : WorkflowState) (ended : Ended) :
    (workflow.compensate context state ended).compensated.Pairwise (· > ·) ∧
    (∀ step ∈ (workflow.compensate context state ended).compensated,
      (workflow.compensate context state ended).workflow.completed ≤ step ∧
        step < workflow.completed) ∧
    (workflow.compensate context state ended).workflow.completed ≤ workflow.completed := by
  have descends := compensateFrom_descends workflow context workflow.completed
  unfold SequentialWorkflow.compensate
  dsimp only
  split <;> exact descends

/-- Cancelling again and again calls each compensator at most once. -/
theorem cancels_descend (contexts : List Context) : (workflow.cancels contexts).Pairwise (· > ·) ∧
      ∀ step ∈ workflow.cancels contexts, step < workflow.completed := by
  induction contexts generalizing workflow with
  | nil => simp [cancels]
  | cons context later ih =>
    obtain ⟨ordered, bounds, less⟩ := compensate_descends workflow context .cancelled .success
    obtain ⟨ordered', bounds'⟩ := ih (workflow.cancel context).workflow
    unfold cancels
    dsimp only
    constructor
    · refine List.pairwise_append.mpr ⟨ordered, ordered', fun step inside other after => ?_⟩
      exact Nat.lt_of_lt_of_le (bounds' other after) (bounds step inside).1
    · intro step inside
      rcases List.mem_append.mp inside with now | after
      · exact (bounds step now).2
      · exact Nat.lt_of_lt_of_le (bounds' step after) less

variable {workflow context}

theorem compensateFrom_calm {completed : Nat}
    (calm : ∀ step < completed, workflow.compensates step = true → context.compensate step = none) :
    workflow.compensateFrom context completed =
      { called := ((List.range completed).filter fun step => workflow.compensates step).reverse } := by
  induction completed with
  | zero => rfl
  | succ completed ih =>
    have rest := ih fun step early => calm step (by omega)
    unfold compensateFrom
    rw [rest, List.range_succ, List.filter_append, List.reverse_append]
    split
    · next has =>
      rw [calm completed (by omega) has]
      simp [has]
    · next lacks => simp [lacks]

theorem compensateFrom_thrown {completed step : Nat} (early : step < completed)
    (has : workflow.compensates step = true) (throws : context.compensate step ≠ none) :
    (workflow.compensateFrom context completed).thrown ≠ none := by
  induction completed with
  | zero => omega
  | succ completed ih =>
    unfold compensateFrom
    by_cases here : step = completed
    · subst here
      rw [if_pos has]
      cases thrown : context.compensate step with
      | none => exact absurd thrown throws
      | some message => simp
    · have later := ih (by omega)
      split
      · cases context.compensate completed with
        | none => exact later
        | some message => simp
      · exact later

end Compensation

section Start

variable {workflow : SequentialWorkflow} {context : Context}

def Passes (context : Context) (step : Nat) : Prop :=
  context.expired step = false ∧ context.execute step = .success

instance (context : Context) (step : Nat) : Decidable (Passes context step) := by
  unfold Passes
  infer_instance

/-- The first step at which a run ends without success. -/
def StopsAt (workflow : SequentialWorkflow) (context : Context) (step : Nat) : Prop :=
  step < workflow.steps.length ∧ (∀ earlier < step, Passes context earlier) ∧ ¬ Passes context step

/-- The workflow in a run when some steps have been completed. -/
def SequentialWorkflow.at (workflow : SequentialWorkflow) (completed : Nat) : SequentialWorkflow :=
  { workflow with state := .running, completed }

/-- The end of a run at a step that does not pass. -/
def SequentialWorkflow.stopped (workflow : SequentialWorkflow) (context : Context) (step : Nat) :
    Call :=
  if context.expired step then (workflow.at step).failAndCompensate context "deadline_exceeded"
  else
    match context.execute step with
    | .failure code => (workflow.at step).failAndCompensate context code
    | .thrown message => { workflow := workflow.at step, ended := .thrown message }
    | .success => { workflow := workflow.at step, ended := .success }

/-- A run passes its steps up to the end, or up to the first one that does not pass. -/
theorem executeFrom_cases {position : Nat} (passed : ∀ earlier < position, Passes context earlier)
    (inside : position ≤ workflow.steps.length) :
    ((∀ step < workflow.steps.length, Passes context step) ∧
      ((workflow.at position).executeFrom context position
        (workflow.steps.drop position)).ended = .success ∧
      ((workflow.at position).executeFrom context position
        (workflow.steps.drop position)).compensated = []) ∨
    ∃ step, StopsAt workflow context step ∧ position ≤ step ∧
      (workflow.at position).executeFrom context position (workflow.steps.drop position) =
        { workflow.stopped context step with
          succeeded := List.range' position (step - position) } := by
  induction remaining : workflow.steps.length - position generalizing position with
  | zero =>
    obtain rfl : position = workflow.steps.length := by omega
    rw [List.drop_length]
    exact .inl ⟨passed, rfl, rfl⟩
  | succ remaining ih =>
    have here : position < workflow.steps.length := by omega
    rw [List.drop_eq_getElem_cons here]
    by_cases passes : Passes context position
    · have passed' : ∀ earlier < position + 1, Passes context earlier := by
        intro earlier before
        rcases Nat.lt_succ_iff_lt_or_eq.mp before with sooner | rfl
        · exact passed earlier sooner
        · exact passes
      unfold executeFrom
      rw [passes.1, passes.2]
      rcases ih passed' (by omega) (by omega) with ended | ⟨step, stops, later, ended⟩
      · exact .inl ended
      · refine .inr ⟨step, stops, by omega, ?_⟩
        have count : step - position = step - (position + 1) + 1 := by omega
        rw [count, List.range'_succ]
        exact congrArg (fun call : Call => { call with succeeded := position :: call.succeeded })
          ended
    · refine .inr ⟨position, ⟨here, passed, passes⟩, Nat.le_refl _, ?_⟩
      rw [Nat.sub_self]
      unfold executeFrom stopped
      by_cases late : context.expired position = true
      · rw [if_pos late, if_pos late]
        unfold failAndCompensate SequentialWorkflow.compensate
        dsimp only
        split <;> rfl
      · rw [if_neg late, if_neg late]
        cases outcome : context.execute position with
        | failure code =>
          unfold failAndCompensate SequentialWorkflow.compensate
          dsimp only
          split <;> rfl
        | thrown message => rfl
        | success => exact absurd ⟨by simpa using late, outcome⟩ passes

theorem start_cases (workflow : SequentialWorkflow) (context : Context) :
    ((∀ step < workflow.steps.length, Passes context step) ∧
      (workflow.start context).ended = .success ∧ (workflow.start context).compensated = []) ∨
    ∃ step, StopsAt workflow context step ∧
      workflow.start context = { workflow.stopped context step with succeeded := List.range step } := by
  have none : ∀ earlier < 0, Passes context earlier := nofun
  rcases executeFrom_cases none (Nat.zero_le workflow.steps.length) with
    ended | ⟨step, stops, -, ended⟩
  · exact .inl ended
  · refine .inr ⟨step, stops, ?_⟩
    rw [List.range_eq_range']
    exact ended

theorem StopsAt.unique {first second : Nat} (one : StopsAt workflow context first)
    (two : StopsAt workflow context second) : first = second := by
  rcases Nat.lt_trichotomy first second with sooner | same | later
  · exact absurd (two.2.1 first sooner) one.2.2
  · exact same
  · exact absurd (one.2.1 second later) two.2.2

/-- What has to hold when a run has ended without success: the compensators of the steps that have
succeeded were called, the last one first. -/
structure FullyCompensated (workflow : SequentialWorkflow) (call : Call) : Prop where
  compensated : call.compensated =
    (call.succeeded.filter fun step => workflow.compensates step).reverse
  completed : call.workflow.completed = 0
  state : call.workflow.state = .failed

/-- A run ends with success or is fully compensated, and nothing is compensated twice later. -/
def Compensated (workflow : SequentialWorkflow) (context : Context) : Prop :=
  ((workflow.start context).ended ≠ .success →
    FullyCompensated workflow (workflow.start context)) ∧
  ∀ contexts : List Context, ((workflow.start context).compensated ++
    (workflow.start context).workflow.cancels contexts).Nodup

/-- The step at which a run stops throws, or one of the compensators that are due throws. -/
def Throws (workflow : SequentialWorkflow) (context : Context) : Prop :=
  ∃ step, StopsAt workflow context step ∧
    ((context.expired step = false ∧ ∃ message, context.execute step = .thrown message) ∨
      ∃ earlier < step, workflow.compensates earlier = true ∧ context.compensate earlier ≠ none)

/-- The compensators that a run has called are not called again. -/
theorem start_cancels_nodup (workflow : SequentialWorkflow) (context : Context)
    (contexts : List Context) :
    ((workflow.start context).compensated ++
      (workflow.start context).workflow.cancels contexts).Nodup := by
  have descends : (workflow.start context).compensated.Pairwise (· > ·) ∧
      ∀ step ∈ (workflow.start context).compensated,
        (workflow.start context).workflow.completed ≤ step := by
    have called : ∀ (workflow : SequentialWorkflow) (code : String),
        (workflow.failAndCompensate context code).compensated.Pairwise (· > ·) ∧
        ∀ step ∈ (workflow.failAndCompensate context code).compensated,
          (workflow.failAndCompensate context code).workflow.completed ≤ step := by
      intro workflow code
      obtain ⟨ordered, bounds, -⟩ := compensate_descends workflow context .failed (.failure code)
      exact ⟨ordered, fun step inside => (bounds step inside).1⟩
    rcases start_cases workflow context with ⟨-, -, none⟩ | ⟨step, -, ended⟩
    · rw [none]
      exact ⟨List.Pairwise.nil, nofun⟩
    · rw [ended]
      unfold stopped
      split
      · exact called _ _
      · split
        · exact called _ _
        · exact ⟨List.Pairwise.nil, nofun⟩
        · exact ⟨List.Pairwise.nil, nofun⟩
  obtain ⟨ordered, bounds⟩ := descends
  obtain ⟨ordered', bounds'⟩ := cancels_descend (workflow.start context).workflow contexts
  -- What is called later belongs to steps that were still counted.
  have all : ((workflow.start context).compensated ++
      (workflow.start context).workflow.cancels contexts).Pairwise (· > ·) :=
    List.pairwise_append.mpr ⟨ordered, ordered', fun step inside other after =>
      Nat.lt_of_lt_of_le (bounds' other after) (bounds step inside)⟩
  exact all.imp fun above => Nat.ne_of_gt above

theorem stopped_cases {step : Nat} (stops : StopsAt workflow context step) :
    (context.expired step = false ∧ (∃ message, context.execute step = .thrown message) ∧
      (workflow.stopped context step).ended ≠ .success ∧
      (workflow.stopped context step).workflow.state = .running) ∨
    ((¬ ∃ message, context.expired step = false ∧ context.execute step = .thrown message) ∧
      ∃ code, workflow.stopped context step = (workflow.at step).failAndCompensate context code) := by
  unfold stopped
  by_cases late : context.expired step = true
  · rw [if_pos late]
    exact .inr ⟨by simp [late], _, rfl⟩
  · rw [if_neg late]
    cases outcome : context.execute step with
    | failure code => exact .inr ⟨by simp, _, rfl⟩
    | thrown message => exact .inl ⟨by simpa using late, ⟨message, rfl⟩, nofun, rfl⟩
    | success => exact absurd ⟨by simpa using late, outcome⟩ stops.2.2

/-- Compensating ends without success, and in the state `failed` only if nothing is thrown. -/
theorem failAndCompensate_ends (workflow : SequentialWorkflow) (context : Context) (code : String)
    (step : Nat) :
    ((workflow.at step).failAndCompensate context code).ended ≠ .success ∧
    (((workflow.at step).failAndCompensate context code).workflow.state = .failed →
      ((workflow.at step).compensateFrom context step).thrown = none) := by
  unfold failAndCompensate SequentialWorkflow.compensate
  dsimp only [SequentialWorkflow.at]
  split
  · exact ⟨nofun, nofun⟩
  · next none => exact ⟨nofun, fun _ => none⟩

/-- A run that does not succeed is fully compensated unless something throws. -/
theorem compensated_iff (workflow : SequentialWorkflow) (context : Context) :
    Compensated workflow context ↔ ¬ Throws workflow context := by
  constructor
  · rintro ⟨compensated, -⟩ ⟨step, stops, thrown⟩
    rcases start_cases workflow context with ⟨all, -⟩ | ⟨step', stops', ended⟩
    · exact stops.2.2 (all step stops.1)
    obtain rfl := stops.unique stops'
    rw [ended] at compensated
    rcases stopped_cases stops with ⟨-, -, unsuccessful, running⟩ | ⟨none, code, shape⟩
    · have failed := (compensated unsuccessful).state
      rw [running] at failed
      cases failed
    · rcases thrown with ⟨inTime, message, raised⟩ | ⟨earlier, before, has, raised⟩
      · exact none ⟨message, inTime, raised⟩
      · rw [shape] at compensated
        obtain ⟨unsuccessful, calm⟩ := failAndCompensate_ends workflow context code step
        have has' : (workflow.at step).compensates earlier = true := has
        exact compensateFrom_thrown before has' raised (calm (compensated unsuccessful).state)
  · intro calm
    refine ⟨fun unsuccessful => ?_, start_cancels_nodup workflow context⟩
    rcases start_cases workflow context with ⟨-, ended, -⟩ | ⟨step, stops, ended⟩
    · exact absurd ended unsuccessful
    rcases stopped_cases stops with ⟨inTime, raised, -⟩ | ⟨-, code, shape⟩
    · exact absurd ⟨step, stops, .inl ⟨inTime, raised⟩⟩ calm
    have quiet : ∀ earlier < step, (workflow.at step).compensates earlier = true →
        context.compensate earlier = none := by
      intro earlier before has
      by_contra raised
      exact calm ⟨step, stops, .inr ⟨earlier, before, has, raised⟩⟩
    rw [ended, shape]
    unfold SequentialWorkflow.failAndCompensate SequentialWorkflow.compensate
    dsimp only [SequentialWorkflow.at]
    have done := compensateFrom_calm quiet
    unfold SequentialWorkflow.at at done
    rw [done]
    exact ⟨rfl, rfl, rfl⟩

/-- Two steps with compensators, of which the second throws. -/
def throwingContext : Context where
  expired := fun _ => false
  execute := fun step => if step = 0 then .success else .thrown "device disconnected"
  compensate := fun _ => none

/-- The first step is not compensated, and the workflow stays in the state `running`. -/
theorem thrown_step_uncompensated :
    (SequentialWorkflow.mk [⟨true⟩, ⟨true⟩] 0 .idle).start throwingContext =
      { workflow := ⟨[⟨true⟩, ⟨true⟩], 1, .running⟩
        succeeded := [0]
        compensated := []
        ended := .thrown "device disconnected" } := by
  decide

end Start

end PocoDDS.Application
