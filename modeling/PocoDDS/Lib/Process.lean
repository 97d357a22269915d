import PocoDDS.Lib.Crash

/-!
Processes that work on a durable state and keep local variables.

A process is a tree of atomic steps. It can be run to its end with faults and crash points, or
step by step against other processes. One predicate transformer covers both readings.
-/

namespace ProcessLogic

open CrashLogic

variable {σ δ ℓ α β : Type}

/-- Looking, assigning local variables, and atomic steps that may raise. -/
inductive Process (σ α : Type) : Type
  | ret (value : α)
  | raise (message : String)
  | look (next : σ → Process σ α)
  | note (change : σ → σ) (next : Process σ α)
  | act (action : Action σ) (next : Except String Unit → Process σ α)

namespace Process

/-- Sequencing stops at the first exception. -/
def andThen : Process σ α → (α → Process σ β) → Process σ β
  | ret value, then' => then' value
  | raise message, _ => raise message
  | look next, then' => look fun state => (next state).andThen then'
  | note change next, then' => note change (next.andThen then')
  | act action next, then' => act action fun outcome => (next outcome).andThen then'

instance : Monad (Process σ) where
  pure := ret
  bind := andThen

/-- Running to the end, with an exception as a value. -/
def attempt : Process σ α → Process σ (Except String α)
  | ret value => ret (.ok value)
  | raise message => ret (.error message)
  | look next => look fun state => (next state).attempt
  | note change next => note change next.attempt
  | act action next => act action fun outcome => (next outcome).attempt

/-- A handler runs on whatever an exception left. -/
def catching (body : Process σ α) (handler : String → Process σ α) : Process σ α :=
  body.attempt >>= fun
    | .ok value => ret value
    | .error message => handler message

/-- A last part that runs in any case; its own exception takes precedence. -/
def ensuring (body : Process σ α) (last : Process σ Unit) : Process σ α :=
  body.attempt >>= fun outcome => last >>= fun _ =>
    match outcome with
    | .ok value => ret value
    | .error message => raise message

/-- One step that raises what it fails with. -/
def perform (action : Action σ) : Process σ Unit :=
  act action fun
    | .ok _ => ret ()
    | .error message => raise message

def get (view : σ → α) : Process σ α :=
  look fun state => ret (view state)

def set (change : σ → σ) : Process σ Unit :=
  note change (ret ())

/-- A value that has already been computed, or its exception. -/
def ofExcept : Except String α → Process σ α
  | .ok value => ret value
  | .error message => raise message

/-- Raising an exception under a condition. -/
def reject (condition : Bool) (message : String) : Process σ Unit :=
  if condition then raise message else ret ()

/-- A part that is run only under a condition. -/
def whenever (condition : Bool) (body : Process σ Unit) : Process σ Unit :=
  if condition then body else ret ()

/-- A loop over a list that is known beforehand. -/
def forEach : List β → (β → Process σ Unit) → Process σ Unit
  | [], _ => ret ()
  | item :: rest, body => body item >>= fun _ => forEach rest body

/-- A step on the durable part of a state. -/
def durable (action : Action δ) : Process (δ × ℓ) Unit :=
  perform
    { effect := fun state => (action.effect state.1).map (·, state.2)
      torn := fun state => (action.torn state.1).map (·, state.2) }

/-- Running to the end under a fault schedule, recording every crash point. -/
def run : Process σ α → World σ → Except String α × World σ
  | ret value, world => (.ok value, world)
  | raise message, world => (.error message, world)
  | look next, world => (next world.state).run world
  | note change next, world => next.run { world with state := change world.state }
  | act action next, world =>
    let done := Prog.act action world
    (next done.1).run done.2

/-- Starting on a state with a fault schedule. -/
def start (process : Process σ α) (state : σ) (faults : List (Option Fault)) :
    Except String α × World σ :=
  process.run ⟨state, [state], faults⟩

/-- What has to hold before a process, so that every step is allowed, from the state before it to
any state it may leave, and the end meets the postcondition. Where `faulty` is off, no step raises
beyond its own effect. -/
def wp (faulty : Bool) (allowed : σ → σ → Prop) :
    Process σ α → (Except String α → σ → Prop) → σ → Prop
  | ret value, post, state => post (.ok value) state
  | raise message, post, state => post (.error message) state
  | look next, post, state => (next state).wp faulty allowed post state
  | note change next, post, state => next.wp faulty allowed post (change state)
  | act action next, post, state =>
    (∀ left ∈ action.torn state, allowed state left) ∧
    (faulty = true → allowed state state ∧
      ∀ message left, left = state ∨ left ∈ action.torn state →
        (next (.error message)).wp faulty allowed post left) ∧
    match action.effect state with
    | .ok after => allowed state after ∧ (next (.ok ())).wp faulty allowed post after
    | .error message => (next (.error message)).wp faulty allowed post state

section Rules

variable {faulty : Bool} {allowed : σ → σ → Prop}
variable {process : Process σ α} {state : σ} {post : Except String Unit → σ → Prop}

@[simp] theorem wp_ret (value : α) (post : Except String α → σ → Prop) (state : σ) :
    (ret value : Process σ α).wp faulty allowed post state ↔ post (.ok value) state :=
  Iff.rfl

@[simp] theorem wp_pure (value : α) (post : Except String α → σ → Prop) (state : σ) :
    (pure value : Process σ α).wp faulty allowed post state ↔ post (.ok value) state :=
  Iff.rfl

@[simp] theorem wp_raise (message : String) (post : Except String α → σ → Prop) (state : σ) :
    (raise message : Process σ α).wp faulty allowed post state ↔ post (.error message) state :=
  Iff.rfl

@[simp] theorem wp_get (view : σ → α) (post : Except String α → σ → Prop) (state : σ) :
    (get view).wp faulty allowed post state ↔ post (.ok (view state)) state :=
  Iff.rfl

@[simp] theorem wp_set (change : σ → σ) (post : Except String Unit → σ → Prop) (state : σ) :
    (set change).wp faulty allowed post state ↔ post (.ok ()) (change state) :=
  Iff.rfl

@[simp] theorem wp_ofExcept (outcome : Except String α) (post : Except String α → σ → Prop)
    (state : σ) : (ofExcept outcome).wp faulty allowed post state ↔ post outcome state := by
  cases outcome <;> rfl

@[simp] theorem wp_reject (condition : Bool) (message : String)
    (post : Except String Unit → σ → Prop) (state : σ) :
    (reject condition message).wp faulty allowed post state ↔
      if condition = true then post (.error message) state else post (.ok ()) state := by
  unfold reject
  split <;> rfl

@[simp] theorem wp_whenever (condition : Bool) (body : Process σ Unit)
    (post : Except String Unit → σ → Prop) (state : σ) :
    (whenever condition body).wp faulty allowed post state ↔
      if condition = true then body.wp faulty allowed post state else post (.ok ()) state := by
  unfold whenever
  split <;> rfl

/-- A postcondition may be weakened. -/
theorem wp_mono {strong weak : Except String α → σ → Prop}
    (weaker : ∀ outcome state, strong outcome state → weak outcome state)
    (holds : process.wp faulty allowed strong state) : process.wp faulty allowed weak state := by
  induction process generalizing state with
  | ret value => exact weaker _ _ holds
  | raise message => exact weaker _ _ holds
  | look next ih => exact ih state holds
  | note change next ih => exact ih holds
  | act action next ih =>
    rw [wp] at holds ⊢
    obtain ⟨torn, fault, effect⟩ := holds
    refine ⟨torn, ?_, ?_⟩
    · intro on
      exact ⟨(fault on).1, fun message left from' => ih _ ((fault on).2 message left from')⟩
    · revert effect
      cases action.effect state with
      | ok after => exact fun effect => ⟨effect.1, ih _ effect.2⟩
      | error message => exact fun effect => ih _ effect

theorem wp_congr {first second : Except String α → σ → Prop}
    (same : ∀ outcome state, first outcome state ↔ second outcome state) :
    process.wp faulty allowed first state ↔ process.wp faulty allowed second state := by
  constructor
  · exact wp_mono fun outcome after => (same outcome after).mp
  · exact wp_mono fun outcome after => (same outcome after).mpr

/-- Both consequences of a step: what it does, and what a fault may leave of it. -/
theorem wp_perform {action : Action σ} : (perform action).wp faulty allowed post state ↔
      (∀ left ∈ action.torn state, allowed state left) ∧
      (faulty = true → allowed state state ∧
        ∀ message left, left = state ∨ left ∈ action.torn state → post (.error message) left) ∧
      match action.effect state with
      | .ok after => allowed state after ∧ post (.ok ()) after
      | .error message => post (.error message) state := by
  unfold perform wp
  cases action.effect state <;> rfl

/-- A step on the durable part leaves the local variables alone. -/
theorem wp_durable {allowed : δ × ℓ → δ × ℓ → Prop} {action : Action δ}
    {post : Except String Unit → δ × ℓ → Prop} {state : δ × ℓ} :
    (durable action).wp faulty allowed post state ↔
      (∀ left ∈ action.torn state.1, allowed state (left, state.2)) ∧
      (faulty = true → allowed state state ∧
        ∀ message left, left = state.1 ∨ left ∈ action.torn state.1 →
          post (.error message) (left, state.2)) ∧
      match action.effect state.1 with
      | .ok after => allowed state (after, state.2) ∧ post (.ok ()) (after, state.2)
      | .error message => post (.error message) state := by
  rw [durable, wp_perform]
  refine and_congr (by simp) (and_congr ?_ ?_)
  · refine imp_congr_right fun _ => and_congr_right fun _ => forall_congr' fun message => ?_
    constructor
    · intro holds left from'
      refine holds (left, state.2) (from'.imp ?_ ?_)
      · intro same
        rw [same]
      · exact fun member => List.mem_map.mpr ⟨left, member, rfl⟩
    · intro holds left from'
      rcases from' with same | member
      · rw [same]
        exact holds state.1 (.inl rfl)
      · obtain ⟨part, inside, rfl⟩ := List.mem_map.mp member
        exact holds part (.inr inside)
  · dsimp only
    cases action.effect state.1 <;> rfl

/-- A step without intermediate states happens, or it does not. -/
theorem wp_atomic {allowed : δ × ℓ → δ × ℓ → Prop} {effect : δ → Except String δ}
    {post : Except String Unit → δ × ℓ → Prop} {state : δ × ℓ} :
    (durable (.atomic effect)).wp faulty allowed post state ↔
      (faulty = true → allowed state state ∧ ∀ message, post (.error message) state) ∧
      match effect state.1 with
      | .ok after => allowed state (after, state.2) ∧ post (.ok ()) (after, state.2)
      | .error message => post (.error message) state := by
  rw [wp_durable]
  simp [Action.atomic]

/-- The second process starts where the first one returns. -/
theorem wp_andThen (first : Process σ α) (next : α → Process σ β)
    (post : Except String β → σ → Prop) (state : σ) :
    (first >>= next).wp faulty allowed post state ↔ first.wp faulty allowed (fun outcome after =>
        match outcome with
        | .ok value => (next value).wp faulty allowed post after
        | .error message => post (.error message) after) state := by
  show (first.andThen next).wp faulty allowed post state ↔ _
  induction first generalizing state with
  | ret value => rfl
  | raise message => rfl
  | look following ih => exact ih state state
  | note change following ih => exact ih (change state)
  | act action following ih =>
    simp only [andThen, wp, ih]

/-- A sequence, by what its first part may leave: an exception ends it. -/
theorem wp_sequence {first : Process σ α} {next : α → Process σ β}
    {leaves : Except String α → σ → Prop} {post : Except String β → σ → Prop}
    (begun : first.wp faulty allowed leaves state)
    (stopped : ∀ message after, leaves (.error message) after → post (.error message) after)
    (rest : ∀ value after, leaves (.ok value) after → (next value).wp faulty allowed post after) :
    (first >>= next).wp faulty allowed post state := by
  rw [wp_andThen]
  refine wp_mono ?_ begun
  intro outcome after left
  cases outcome with
  | ok value => exact rest value after left
  | error message => exact stopped message after left

/-- What is read is handed on together with the state it was read from. -/
theorem wp_get_andThen (view : σ → α) (next : α → Process σ β)
    (post : Except String β → σ → Prop) (state : σ) :
    (get view >>= next).wp faulty allowed post state ↔
      (next (view state)).wp faulty allowed post state :=
  Iff.rfl

theorem wp_set_andThen (change : σ → σ) (next : Unit → Process σ β)
    (post : Except String β → σ → Prop) (state : σ) :
    (set change >>= next).wp faulty allowed post state ↔
      (next ()).wp faulty allowed post (change state) :=
  Iff.rfl

theorem wp_attempt (body : Process σ α) (post : Except String (Except String α) → σ → Prop)
    (state : σ) :
    body.attempt.wp faulty allowed post state ↔
      body.wp faulty allowed (fun outcome after => post (.ok outcome) after) state := by
  induction body generalizing state with
  | ret value => rfl
  | raise message => rfl
  | look next ih => exact ih state state
  | note change next ih => exact ih (change state)
  | act action next ih =>
    simp only [attempt, wp, ih]

theorem wp_catching (body : Process σ α) (handler : String → Process σ α)
    (post : Except String α → σ → Prop) (state : σ) :
    (body.catching handler).wp faulty allowed post state ↔
      body.wp faulty allowed (fun outcome after =>
        match outcome with
        | .ok value => post (.ok value) after
        | .error message => (handler message).wp faulty allowed post after) state := by
  rw [catching, wp_andThen, wp_attempt]
  refine wp_congr fun outcome after => ?_
  cases outcome <;> rfl

theorem wp_ensuring (body : Process σ α) (last : Process σ Unit)
    (post : Except String α → σ → Prop) (state : σ) :
    (body.ensuring last).wp faulty allowed post state ↔ body.wp faulty allowed (fun outcome after =>
        last.wp faulty allowed (fun ended final =>
          match ended with
          | .ok _ => post outcome final
          | .error message => post (.error message) final) after) state := by
  rw [ensuring, wp_andThen, wp_attempt]
  refine wp_congr fun outcome after => ?_
  dsimp only
  rw [wp_andThen]
  refine wp_congr fun ended final => ?_
  cases ended <;> cases outcome <;> rfl

/-- A loop keeps an invariant that every round keeps. -/
theorem wp_forEach {body : β → Process σ Unit} (inv : List β → σ → Prop) {items : List β}
    (round : ∀ item rest state, inv (item :: rest) state →
      (body item).wp faulty allowed (fun outcome after =>
        match outcome with
        | .ok _ => inv rest after
        | .error message => post (.error message) after) state)
    (ended : ∀ state, inv [] state → post (.ok ()) state) (begun : inv items state) :
    (forEach items body).wp faulty allowed post state := by
  induction items generalizing state with
  | nil => exact ended state begun
  | cons item rest ih =>
    rw [forEach]
    refine wp_sequence (round item rest state begun) (fun _ _ => id) fun _ after reached => ?_
    exact ih reached

/-- What holds with faults holds without them. -/
theorem wp_calm {post : Except String α → σ → Prop} (holds : process.wp true allowed post state) :
    process.wp faulty allowed post state := by
  induction process generalizing state with
  | ret value => exact holds
  | raise message => exact holds
  | look next ih => exact ih state holds
  | note change next ih => exact ih holds
  | act action next ih =>
    rw [wp] at holds ⊢
    obtain ⟨torn, fault, effect⟩ := holds
    refine ⟨torn, ?_, ?_⟩
    · intro _
      exact ⟨(fault rfl).1, fun message left from' => ih _ ((fault rfl).2 message left from')⟩
    · revert effect
      cases action.effect state with
      | ok after => exact fun effect => ⟨effect.1, ih _ effect.2⟩
      | error message => exact fun effect => ih _ effect

end Rules

section Calm

variable {process : Process σ α} {action : Action δ} {post : β → σ → Prop}
  {handler : String → Process σ α}

/-- What is known of an undisturbed process on two accounts is known of it together. -/
theorem wp_and {first second : Except String α → σ → Prop} {state : σ}
    (one : process.wp false (fun _ _ => True) first state)
    (two : process.wp false (fun _ _ => True) second state) :
    process.wp false (fun _ _ => True) (fun outcome after =>
      first outcome after ∧ second outcome after) state := by
  induction process generalizing state with
  | ret value => exact ⟨one, two⟩
  | raise message => exact ⟨one, two⟩
  | look next ih => exact ih state one two
  | note change next ih => exact ih one two
  | act action next ih =>
    rw [wp] at one two ⊢
    obtain ⟨torn, -, one⟩ := one
    obtain ⟨-, -, two⟩ := two
    refine ⟨torn, nofun, ?_⟩
    revert one two
    cases action.effect state with
    | ok after => exact fun one two => ⟨trivial, ih _ one.2 two.2⟩
    | error message => exact ih _

/-- A step that nothing disturbs does what it does. -/
theorem wp_durable_calm {post : Except String Unit → δ × ℓ → Prop} {state : δ × ℓ} :
    (durable action).wp false (fun _ _ => True) post state ↔
      match action.effect state.1 with
      | .ok after => post (.ok ()) (after, state.2)
      | .error message => post (.error message) state := by
  rw [wp_durable]
  simp only [Bool.false_eq_true, false_implies, true_and, implies_true]

/-- What an undisturbed process guarantees if it returns. -/
def gives (process : Process σ α) (post : α → σ → Prop) (state : σ) : Prop :=
  process.wp false (fun _ _ => True) (fun outcome after =>
    match outcome with
    | .ok value => post value after
    | .error _ => True) state

variable {good : σ → Prop} {state : σ}

theorem gives_mono {strong weak : α → σ → Prop}
    (weaker : ∀ value after, strong value after → weak value after)
    (holds : process.gives strong state) : process.gives weak state := by
  refine wp_mono ?_ holds
  intro outcome after reached
  cases outcome with
  | ok value => exact weaker value after reached
  | error message => trivial

theorem gives_and {first second : α → σ → Prop} (one : process.gives first state)
    (two : process.gives second state) :
    process.gives (fun value after => first value after ∧ second value after) state := by
  refine wp_mono ?_ (wp_and one two)
  intro outcome after both
  cases outcome with
  | ok value => exact both
  | error message => trivial

theorem gives_andThen {first : Process σ α} {next : α → Process σ β} {mid : α → σ → Prop}
    (begun : first.gives mid state)
    (then' : ∀ value after, mid value after → (next value).gives post after) :
    (first >>= next).gives post state := by
  rw [gives, wp_andThen]
  refine wp_mono ?_ begun
  intro outcome after reached
  cases outcome with
  | ok value => exact then' value after reached
  | error message => trivial

theorem gives_get_andThen {view : σ → α} {next : α → Process σ β}
    (then' : (next (view state)).gives post state) : (get view >>= next).gives post state :=
  then'

theorem gives_set_andThen {change : σ → σ} {next : Unit → Process σ β}
    (then' : (next ()).gives post (change state)) : (set change >>= next).gives post state :=
  then'

theorem gives_ret {value : α} {post : α → σ → Prop} (holds : post value state) :
    (pure value : Process σ α).gives post state :=
  holds

theorem gives_raise {message : String} {post : α → σ → Prop} :
    (raise message : Process σ α).gives post state :=
  trivial

theorem gives_ofExcept {outcome : Except String α} {post : α → σ → Prop}
    (holds : ∀ value, outcome = .ok value → post value state) :
    (ofExcept outcome).gives post state := by
  cases outcome with
  | ok value => exact holds value rfl
  | error message => trivial

theorem gives_reject {condition : Bool} {message : String} {post : Unit → σ → Prop}
    (holds : condition = false → post () state) : (reject condition message).gives post state := by
  rw [gives, wp_reject]
  cases condition with
  | true => trivial
  | false => exact holds rfl

theorem gives_whenever {condition : Bool} {body : Process σ Unit} {post : Unit → σ → Prop}
    (met : condition = true → body.gives post state) (unmet : condition = false → post () state) :
    (whenever condition body).gives post state := by
  rw [gives, wp_whenever]
  cases condition with
  | true => exact met rfl
  | false => exact unmet rfl

/-- A step that returns has had its effect. -/
theorem gives_durable {state : δ × ℓ} {post : Unit → δ × ℓ → Prop}
    (holds : ∀ after, action.effect state.1 = .ok after → post () (after, state.2)) :
    (durable action).gives post state := by
  rw [gives, wp_durable]
  refine ⟨fun _ _ => trivial, nofun, ?_⟩
  cases done : action.effect state.1 with
  | ok after => exact ⟨trivial, holds after done⟩
  | error message => trivial

/-- Whatever the body leaves where it raises, the handler guarantees the rest. -/
theorem gives_catching {body : Process σ α} {post : α → σ → Prop} (begun : body.gives post state)
    (handled : ∀ message after, (handler message).gives post after) :
    (body.catching handler).gives post state := by
  rw [gives, wp_catching]
  refine wp_mono ?_ begun
  intro outcome after reached
  cases outcome with
  | ok value => exact reached
  | error message => exact handled message after

/-- What the last part guarantees by itself does not depend on the parts before it. -/
theorem gives_last {first : Process σ α} {next : α → Process σ β}
    (last : ∀ value after, (next value).gives post after) : (first >>= next).gives post state := by
  have any : first.gives (fun _ _ => True) state := by
    unfold gives
    induction first generalizing state with
    | ret value => trivial
    | raise message => trivial
    | look following ih => exact ih state
    | note change following ih => exact ih
    | act action following ih =>
      rw [wp]
      refine ⟨fun _ _ => trivial, nofun, ?_⟩
      cases action.effect state with
      | ok after => exact ⟨trivial, ih _⟩
      | error message => exact ih _
  exact gives_andThen any fun value after _ => last value after

/-- A loop of which each round changes what is seen of the state as one step of a fold. -/
theorem gives_forEach {ν : Type} {body : β → Process σ Unit} {items : List β} (good : σ → Prop)
    (view : σ → ν) (step : ν → β → ν) (round : ∀ item state, good state →
      (body item).gives (fun _ after => good after ∧ view after = step (view state) item) state)
    (holds : good state) :
    (forEach items body).gives (fun _ after =>
      good after ∧ view after = items.foldl step (view state)) state := by
  induction items generalizing state with
  | nil => exact ⟨holds, rfl⟩
  | cons item rest ih =>
    rw [forEach]
    refine gives_andThen (round item state holds) ?_
    rintro value after ⟨holds, seen⟩
    rw [List.foldl_cons, ← seen]
    exact ih holds

/-- Every step that works keeps a property of the state. -/
def Keeps (good : σ → Prop) : Process σ α → Prop
  | ret _ => True
  | raise _ => True
  | look next => ∀ state, (next state).Keeps good
  | note change next => (∀ state, good state → good (change state)) ∧ next.Keeps good
  | act action next =>
    (∀ state after, good state → action.effect state = .ok after → good after) ∧
      ∀ outcome, (next outcome).Keeps good

/-- What every step keeps holds at the end. -/
theorem Keeps.gives (keeps : process.Keeps good) (holds : good state) :
    process.gives (fun _ after => good after) state := by
  unfold Process.gives
  induction process generalizing state with
  | ret value => exact holds
  | raise message => trivial
  | look next ih => exact ih state (keeps state) holds
  | note change next ih => exact ih keeps.2 (keeps.1 state holds)
  | act action next ih =>
    rw [Process.wp]
    refine ⟨fun _ _ => trivial, nofun, ?_⟩
    cases done : action.effect state with
    | ok after => exact ⟨trivial, ih _ (keeps.2 _) (keeps.1 state after holds done)⟩
    | error message => exact ih _ (keeps.2 _) holds

theorem Keeps.andThen {first : Process σ α} {next : α → Process σ β} (keeps : first.Keeps good)
    (then' : ∀ value, (next value).Keeps good) : (first >>= next).Keeps good := by
  show (first.andThen next).Keeps good
  induction first with
  | ret value => exact then' value
  | raise message => trivial
  | look following ih => exact fun state => ih state (keeps state)
  | note change following ih => exact ⟨keeps.1, ih keeps.2⟩
  | act action following ih => exact ⟨keeps.1, fun outcome => ih outcome (keeps.2 outcome)⟩

theorem Keeps.attempt {body : Process σ α} (keeps : body.Keeps good) : body.attempt.Keeps good := by
  induction body with
  | ret value => trivial
  | raise message => trivial
  | look next ih => exact fun state => ih state (keeps state)
  | note change next ih => exact ⟨keeps.1, ih keeps.2⟩
  | act action next ih => exact ⟨keeps.1, fun outcome => ih outcome (keeps.2 outcome)⟩

theorem Keeps.catching {body : Process σ α} (keeps : body.Keeps good)
    (handled : ∀ message, (handler message).Keeps good) :
    (body.catching handler).Keeps good := by
  refine keeps.attempt.andThen fun outcome => ?_
  cases outcome with
  | ok value => trivial
  | error message => exact handled message

theorem Keeps.get (view : σ → α) : (Process.get view).Keeps good :=
  fun _ => trivial

theorem Keeps.set {change : σ → σ} (keeps : ∀ state, good state → good (change state)) :
    (Process.set change).Keeps good :=
  ⟨keeps, trivial⟩

theorem Keeps.ofExcept (outcome : Except String α) : (Process.ofExcept outcome).Keeps good := by
  cases outcome <;> trivial

theorem Keeps.reject (condition : Bool) (message : String) :
    (Process.reject condition message).Keeps good := by
  unfold Process.reject
  split <;> trivial

theorem Keeps.whenever (condition : Bool) {body : Process σ Unit} (keeps : body.Keeps good) :
    (Process.whenever condition body).Keeps good := by
  unfold Process.whenever
  split
  · exact keeps
  · trivial

theorem Keeps.forEach_mem {items : List β} {body : β → Process σ Unit}
    (keeps : ∀ item ∈ items, (body item).Keeps good) : (Process.forEach items body).Keeps good := by
  induction items with
  | nil => trivial
  | cons item rest ih =>
    obtain ⟨head, tail⟩ := List.forall_mem_cons.mp keeps
    exact head.andThen fun _ => ih tail

theorem Keeps.forEach {items : List β} {body : β → Process σ Unit}
    (keeps : ∀ item, (body item).Keeps good) : (Process.forEach items body).Keeps good :=
  Keeps.forEach_mem fun item _ => keeps item

theorem Keeps.durable {good : δ × ℓ → Prop}
    (keeps : ∀ state after, good state → action.effect state.1 = .ok after →
      good (after, state.2)) :
    (Process.durable action).Keeps good := by
  refine ⟨fun state after holds done => ?_, fun outcome => by cases outcome <;> trivial⟩
  cases effect : action.effect state.1 with
  | ok part =>
    simp only [effect, Except.map] at done
    cases done
    exact keeps state part holds effect
  | error message =>
    simp only [effect, Except.map] at done
    cases done

end Calm

/-- A run of two processes is a run of the first and, if it returns, one of the second. -/
theorem run_andThen (first : Process σ α) (next : α → Process σ β) (world : World σ) :
    (first >>= next).run world =
      match first.run world with
      | (.ok value, after) => (next value).run after
      | (.error message, after) => (.error message, after) := by
  show (first.andThen next).run world = _
  induction first generalizing world with
  | ret value => rfl
  | raise message => rfl
  | look following ih => exact ih world.state world
  | note change following ih => exact ih _
  | act action following ih => exact ih _ _

theorem run_get_andThen (view : σ → α) (next : α → Process σ β) (world : World σ) :
    (get view >>= next).run world = (next (view world.state)).run world :=
  rfl

theorem run_attempt (body : Process σ α) (world : World σ) :
    body.attempt.run world = (.ok (body.run world).1, (body.run world).2) := by
  induction body generalizing world with
  | ret value => rfl
  | raise message => rfl
  | look next ih => exact ih world.state world
  | note change next ih => exact ih _
  | act action next ih => exact ih _ _

/-- Where the body raises, the handler runs on what it has left. -/
theorem run_catching {body : Process σ α} {handler : String → Process σ α} {world : World σ}
    {message : String} (raised : (body.run world).1 = .error message) :
    (body.catching handler).run world = (handler message).run (body.run world).2 := by
  rw [catching, run_andThen, run_attempt]
  simp only [raised]

section Soundness

variable {faulty : Bool} {allowed : σ → σ → Prop} {crash : σ → Prop}
variable {process : Process σ α} {post : Except String α → σ → Prop}

/-- The precondition is enough: every crash point and the end are as promised. -/
theorem run_of_wp {world : World σ} (holds : process.wp faulty allowed post world.state)
    (good : ∀ before after, allowed before after → crash after) (safe : world.Safe crash)
    (calm : faulty = false → world.faults = []) :
    (process.run world).2.Safe crash ∧ post (process.run world).1 (process.run world).2.state := by
  induction process generalizing world with
  | ret value => exact ⟨safe, holds⟩
  | raise message => exact ⟨safe, holds⟩
  | look next ih => exact ih world.state holds safe calm
  | note change next ih =>
    have moved : next.wp faulty allowed post
        (World.mk (change world.state) world.seen world.faults).state := holds
    exact ih moved safe calm
  | act action next ih =>
    rw [wp] at holds
    obtain ⟨torn, fault, effect⟩ := holds
    have inside : ∀ point ∈ action.torn world.state ++ world.seen, crash point := by
      intro point member
      rcases List.mem_append.mp member with within | before
      · exact good _ _ (torn point within)
      · exact safe point before
    have more : ∀ {first : σ}, crash first →
        ∀ point ∈ first :: (action.torn world.state ++ world.seen), crash point := by
      intro first fine point member
      rcases List.mem_cons.mp member with same | rest
      · exact same ▸ fine
      · exact inside point rest
    -- The three ways in which the step may end are those of its execution.
    rw [run]
    unfold Prog.act
    split
    · rename_i scheduled faults due
      have on : faulty = true := by
        cases faulty with
        | true => rfl
        | false => rw [calm rfl] at due; cases due
      have left : (action.torn world.state).getD scheduled.cut world.state = world.state ∨
          (action.torn world.state).getD scheduled.cut world.state ∈ action.torn world.state := by
        rcases Nat.lt_or_ge scheduled.cut (action.torn world.state).length with within | past
        · rw [List.getD_eq_getElem _ _ within]
          exact .inr (List.getElem_mem within)
        · exact .inl (List.getD_eq_default _ _ past)
      have fine : crash ((action.torn world.state).getD scheduled.cut world.state) := by
        rcases left with same | within
        · rw [same]
          exact good _ _ (fault on).1
        · exact good _ _ (torn _ within)
      refine ih _ ((fault on).2 scheduled.message _ left) (more fine) ?_
      intro off
      rw [off] at on
      cases on
    · have quiet : faulty = false → world.faults.tail = [] := by
        intro off
        rw [calm off]
        rfl
      split
      · rename_i message failed
        rw [failed] at effect
        exact ih _ effect inside quiet
      · rename_i after done
        rw [done] at effect
        exact ih _ effect.2 (more (good _ _ effect.1)) quiet

theorem start_of_wp {state : σ} {faults : List (Option Fault)}
    (holds : process.wp faulty allowed post state)
    (good : ∀ before after, allowed before after → crash after) (begun : crash state)
    (calm : faulty = false → faults = []) :
    (∀ point ∈ (process.start state faults).2.seen, crash point) ∧
      post (process.start state faults).1 (process.start state faults).2.state := by
  have safe : (World.mk state [state] faults).Safe crash := by
    intro point member
    rw [List.mem_singleton.mp member]
    exact begun
  have holds' : process.wp faulty allowed post (World.mk state [state] faults).state := holds
  exact run_of_wp holds' good safe calm

/-- What is proved of an undisturbed process holds of its run. -/
theorem start_calm {state : σ} (holds : process.wp false (fun _ _ => True) post state) :
    post (process.start state []).1 (process.start state []).2.state := by
  have free : ∀ before after : σ, True → (fun _ : σ => True) after := fun _ _ _ => trivial
  exact (start_of_wp holds free trivial fun _ => rfl).2

/-- What an undisturbed process guarantees holds of a run that has returned. -/
theorem start_gives {post : α → σ → Prop} {state : σ} {value : α} (holds : process.gives post state)
    (returned : (process.start state []).1 = .ok value) :
    post value (process.start state []).2.state := by
  have ended := start_calm holds
  rw [returned] at ended
  exact ended

end Soundness

end Process

end ProcessLogic
