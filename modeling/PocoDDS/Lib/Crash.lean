import Mathlib.Data.List.GetD
import Mathlib.Tactic

/-!
Programs made of atomic steps on a durable state.

A run records every state in which a crash could leave the machine, and each step may be made
to raise. The rules below prove what holds at every crash point, at a normal end, and after
an exception.
-/

namespace CrashLogic

variable {σ α β : Type}

/-- A step that raises, and how much of a divisible effect it leaves behind. -/
structure Fault where
  message : String
  cut : Nat
  deriving DecidableEq, Repr

/-- One atomic step: its effect, and the states a crash inside it may leave. -/
structure Action (σ : Type) where
  effect : σ → Except String σ
  torn : σ → List σ

/-- A step without intermediate states. -/
def Action.atomic (effect : σ → Except String σ) : Action σ where
  effect := effect
  torn := fun _ => []

/-- The durable state, the crash points passed so far, and the faults still to be injected. -/
structure World (σ : Type) where
  state : σ
  seen : List σ
  faults : List (Option Fault)

/-- A program either returns or raises, and in both cases leaves a world. -/
def Prog (σ α : Type) := World σ → Except String α × World σ

/-- Returning touches nothing. -/
def Prog.ret (value : α) : Prog σ α :=
  fun world => (.ok value, world)

/-- Sequencing stops at the first exception. -/
def Prog.andThen (first : Prog σ α) (next : α → Prog σ β) : Prog σ β :=
  fun world =>
    match first world with
    | (.ok value, after) => next value after
    | (.error message, after) => (.error message, after)

instance : Monad (Prog σ) where
  pure := Prog.ret
  bind := Prog.andThen

/-- Raising an exception. -/
def Prog.raise (message : String) : Prog σ α :=
  fun world => (.error message, world)

/-- Reading the durable state is not a step of its own. -/
def Prog.look (view : σ → α) : Prog σ α :=
  fun world => (.ok (view world.state), world)

/-- Executing one step: a scheduled fault replaces its effect by part of it. -/
def Prog.act (action : Action σ) : Prog σ Unit :=
  fun world =>
    let torn := action.torn world.state
    match world.faults with
    | some fault :: faults =>
      let left := torn.getD fault.cut world.state
      (.error fault.message, ⟨left, left :: (torn ++ world.seen), faults⟩)
    | faults =>
      match action.effect world.state with
      | .error message => (.error message, ⟨world.state, torn ++ world.seen, faults.tail⟩)
      | .ok next => (.ok (), ⟨next, next :: (torn ++ world.seen), faults.tail⟩)

/-- Running a handler on the world an exception leaves. -/
def Prog.catching (body : Prog σ α) (handler : String → Prog σ α) : Prog σ α :=
  fun world =>
    match body world with
    | (.ok value, after) => (.ok value, after)
    | (.error message, after) => handler message after

/-- Starting a program on a durable state with a fault schedule. -/
def Prog.run (prog : Prog σ α) (state : σ) (faults : List (Option Fault)) :
    Except String α × World σ :=
  prog ⟨state, [state], faults⟩

/-- Every crash point passed so far satisfies the crash condition. -/
def World.Safe (crash : σ → Prop) (world : World σ) : Prop :=
  ∀ state ∈ world.seen, crash state

/-- What a run guarantees about its crash points, its result, and an exception. -/
def Prog.Spec (crash : σ → Prop) (pre : σ → Prop) (prog : Prog σ α) (post : α → σ → Prop)
    (fail : σ → Prop) : Prop :=
  ∀ world, pre world.state → world.Safe crash →
    (prog world).2.Safe crash ∧
      match (prog world).1 with
      | .ok value => post value (prog world).2.state
      | .error _ => fail (prog world).2.state

section Rules

variable {crash pre : σ → Prop} {post : α → σ → Prop} {fail : σ → Prop}
variable {prog : Prog σ α}

/-- Returning keeps the precondition. -/
theorem Prog.Spec.ret {value : α} (holds : ∀ state, pre state → post value state) :
    (pure value : Prog σ α).Spec crash pre post fail := by
  intro world start safe
  exact ⟨safe, holds _ start⟩

/-- A read hands on a value together with the state it was read from. -/
theorem Prog.Spec.look {view : σ → α} (holds : ∀ state, pre state → post (view state) state) :
    (Prog.look view : Prog σ α).Spec crash pre post fail := by
  intro world start safe
  exact ⟨safe, holds _ start⟩

/-- Sequencing composes through an intermediate assertion. -/
theorem Prog.Spec.andThen {first : Prog σ α} {next : α → Prog σ β} (mid : α → σ → Prop)
    {last : β → σ → Prop} (head : first.Spec crash pre mid fail)
    (tail : ∀ value, (next value).Spec crash (mid value) last fail) :
    (first >>= next).Spec crash pre last fail := by
  intro world start safe
  obtain ⟨between, reached⟩ := head world start safe
  -- The second program runs only on the world a normal return of the first one leaves.
  show (Prog.andThen first next world).2.Safe crash ∧
    match (Prog.andThen first next world).1 with
    | .ok value => last value (Prog.andThen first next world).2.state
    | .error _ => fail (Prog.andThen first next world).2.state
  unfold Prog.andThen
  rcases ran : first world with ⟨result, after⟩
  rw [ran] at between reached
  cases result with
  | ok value => exact tail value after reached between
  | error message => exact ⟨between, reached⟩

/-- A step keeps the crash condition when its result and all its torn states do. -/
theorem Prog.Spec.act {action : Action σ} {reached : Unit → σ → Prop}
    (torn : ∀ state, pre state → ∀ left ∈ action.torn state, crash left ∧ fail left)
    (unchanged : ∀ state, pre state → crash state ∧ fail state)
    (effect : ∀ state next, pre state → action.effect state = .ok next →
      crash next ∧ reached () next) :
    (Prog.act action).Spec crash pre reached fail := by
  intro world start safe
  -- Crash points inside the step come first, then those passed before it.
  have inside : ∀ state ∈ action.torn world.state ++ world.seen, crash state := by
    intro state member
    rcases List.mem_append.mp member with within | before
    · exact (torn _ start state within).1
    · exact safe state before
  have left : ∀ cut, crash ((action.torn world.state).getD cut world.state) ∧
      fail ((action.torn world.state).getD cut world.state) := by
    intro cut
    rcases Nat.lt_or_ge cut (action.torn world.state).length with within | past
    · rw [List.getD_eq_getElem _ _ within]
      exact torn _ start _ (List.getElem_mem within)
    · rw [List.getD_eq_default _ _ past]
      exact unchanged _ start
  unfold Prog.act
  split
  · rename_i fault faults scheduled
    refine ⟨?_, (left fault.cut).2⟩
    intro state member
    rcases List.mem_cons.mp member with same | rest
    · rw [same]
      exact (left fault.cut).1
    · exact inside state rest
  · split
    · exact ⟨inside, (unchanged _ start).2⟩
    · rename_i next performed
      obtain ⟨crashed, done⟩ := effect _ _ start performed
      refine ⟨?_, done⟩
      intro state member
      rcases List.mem_cons.mp member with same | rest
      · rw [same]
        exact crashed
      · exact inside state rest

/-- A specification may be used with a stronger start and weaker ends. -/
theorem Prog.Spec.weaken {pre' : σ → Prop} {post' : α → σ → Prop} {fail' : σ → Prop}
    (spec : prog.Spec crash pre' post' fail') (start : ∀ state, pre state → pre' state)
    (result : ∀ value state, post' value state → post value state)
    (raised : ∀ state, fail' state → fail state) : prog.Spec crash pre post fail := by
  intro world holds safe
  obtain ⟨crashes, ended⟩ := spec world (start _ holds) safe
  refine ⟨crashes, ?_⟩
  rcases ran : prog world with ⟨outcome, after⟩
  rw [ran] at ended
  cases outcome with
  | ok value => exact result value _ ended
  | error message => exact raised _ ended

variable {state : σ} (spec : prog.Spec crash pre post fail) (start : pre state) (safe : crash state)
include spec start safe

/-- A specified program started on a good state passes only good crash points. -/
theorem Prog.Spec.run_seen (faults : List (Option Fault)) :
    ∀ point ∈ (prog.run state faults).2.seen, crash point := by
  have begun : (World.mk state [state] faults).Safe crash := by
    intro point member
    rw [List.mem_singleton.mp member]
    exact safe
  exact (spec ⟨state, [state], faults⟩ start begun).1

theorem Prog.Spec.run_ok {faults : List (Option Fault)} {value : α}
    (returned : (prog.run state faults).1 = .ok value) :
    post value (prog.run state faults).2.state := by
  have begun : (World.mk state [state] faults).Safe crash := by
    intro point member
    rw [List.mem_singleton.mp member]
    exact safe
  have ended := (spec ⟨state, [state], faults⟩ start begun).2
  unfold Prog.run at returned ⊢
  rw [returned] at ended
  exact ended

/-- A specified program ends in a good state, whether it returns or raises. -/
theorem Prog.Spec.run_state (faults : List (Option Fault)) :
    (∃ value, post value (prog.run state faults).2.state) ∨
      fail (prog.run state faults).2.state := by
  have begun : (World.mk state [state] faults).Safe crash := by
    intro point member
    rw [List.mem_singleton.mp member]
    exact safe
  have ended := (spec ⟨state, [state], faults⟩ start begun).2
  unfold Prog.run
  rcases ran : prog ⟨state, [state], faults⟩ with ⟨outcome, after⟩
  rw [ran] at ended
  cases outcome with
  | ok value => exact Or.inl ⟨value, ended⟩
  | error message => exact Or.inr ended

end Rules

end CrashLogic
