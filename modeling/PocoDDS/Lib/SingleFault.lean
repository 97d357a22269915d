import PocoDDS.Lib.Process

/-!
Runs in which at most one step is made to raise.

A step is known by the number of steps before it. One predicate transformer follows a process
through the steps before the failing one, into the handlers behind it, and to the end.
-/

namespace ProcessLogic

open CrashLogic

variable {σ δ ℓ α β : Type}

/-- The schedule that makes one step raise, or none. -/
def faultAt (due : Option Nat) (fault : Fault) : List (Option Fault) :=
  match due with
  | none => []
  | some steps => List.replicate steps none ++ [some fault]

namespace Process

/-- How many steps a process takes when none of them is made to raise. -/
def acts : Process σ α → σ → Nat
  | ret _, _ => 0
  | raise _, _ => 0
  | look next, state => (next state).acts state
  | note change next, state => next.acts (change state)
  | act action next, state =>
    match action.effect state with
    | .ok after => (next (.ok ())).acts after + 1
    | .error message => (next (.error message)).acts state + 1

/-- What a step leaves behind when it raises: any part of its effect, or the part at a position. -/
def Leaves (action : Action σ) (cut : Option Nat) (state left : σ) : Prop :=
  match cut with
  | none => left = state ∨ left ∈ action.torn state
  | some position => left = (action.torn state).getD position state

/-- What has to hold before a process, so that its end meets the postcondition when the step that is
due raises and no other one does. The steps that were taken are counted. Unless it is said where the
failing step is cut, all of its positions are meant. -/
def struck (due : Option Nat) :
    Process σ α → (Except String α → Nat → σ → Prop) → Nat → σ → (cut : Option Nat := none) → Prop
  | ret value, post, count, state, _ => post (.ok value) count state
  | raise message, post, count, state, _ => post (.error message) count state
  | look next, post, count, state, cut => (next state).struck due post count state cut
  | note change next, post, count, state, cut => next.struck due post count (change state) cut
  | act action next, post, count, state, cut =>
    (due = some count → ∀ message left, Leaves action cut state left →
      (next (.error message)).struck due post (count + 1) left cut) ∧
    (due ≠ some count →
      match action.effect state with
      | .ok after => (next (.ok ())).struck due post (count + 1) after cut
      | .error message => (next (.error message)).struck due post (count + 1) state cut)

/-- Where a step is cut, it leaves its state or a part of its effect. -/
theorem Leaves.any {action : Action σ} {cut : Option Nat} {state left : σ}
    (leaves : Leaves action cut state left) : left = state ∨ left ∈ action.torn state := by
  cases cut with
  | none => exact leaves
  | some position =>
    rw [Leaves] at leaves
    rw [leaves]
    rcases Nat.lt_or_ge position (action.torn state).length with within | past
    · rw [List.getD_eq_getElem _ _ within]
      exact .inr (List.getElem_mem within)
    · exact .inl (List.getD_eq_default _ _ past)

/-- The step that is due has been taken. -/
def Past (due : Option Nat) (count : Nat) : Prop :=
  ∀ step, due = some step → step < count

/-- The step that is due is still to come. -/
def Ahead (due : Option Nat) (count : Nat) : Prop :=
  ∀ step, due = some step → count ≤ step

theorem Ahead.next {due : Option Nat} {count : Nat} (ahead : Ahead due count)
    (later : due ≠ some count) : Ahead due (count + 1) := by
  intro step here
  have bound := ahead step here
  have differs : step ≠ count := fun same => later (by rw [here, same])
  omega

/-- A run that has passed the due step without taking it has none. -/
theorem Ahead.none {due : Option Nat} {count : Nat} (ahead : Ahead due count)
    (past : Past due count) : due = .none := by
  cases due with
  | none => rfl
  | some step =>
    have bound := ahead step rfl
    have passed := past step rfl
    omega

section Rules

variable {due cut : Option Nat}
variable {process : Process σ α} {count : Nat} {state : σ}
  {second post : Except String α → Nat → σ → Prop}

@[simp] theorem struck_ofExcept (outcome : Except String α)
    (post : Except String α → Nat → σ → Prop) (count : Nat) (state : σ) :
    (ofExcept outcome).struck due post count state cut ↔ post outcome count state := by
  cases outcome <;> rfl

@[simp] theorem struck_reject (condition : Bool) (message : String)
    (post : Except String Unit → Nat → σ → Prop) (count : Nat) (state : σ) :
    (reject condition message).struck due post count state cut ↔
      if condition = true then post (.error message) count state
      else post (.ok ()) count state := by
  unfold reject
  split <;> rfl

@[simp] theorem struck_whenever (condition : Bool) (body : Process σ Unit)
    (post : Except String Unit → Nat → σ → Prop) (count : Nat) (state : σ) :
    (whenever condition body).struck due post count state cut ↔
      if condition = true then body.struck due post count state cut
      else post (.ok ()) count state := by
  unfold whenever
  split <;> rfl

/-- A postcondition may be weakened. -/
theorem struck_mono {strong weak : Except String α → Nat → σ → Prop}
    (weaker : ∀ outcome count state, strong outcome count state → weak outcome count state)
    (holds : process.struck due strong count state cut) :
    process.struck due weak count state cut := by
  induction process generalizing count state with
  | ret value => exact weaker _ _ _ holds
  | raise message => exact weaker _ _ _ holds
  | look next ih => exact ih state holds
  | note change next ih => exact ih holds
  | act action next ih =>
    rw [struck] at holds ⊢
    obtain ⟨hit, missed⟩ := holds
    refine ⟨fun here message left from' => ih _ (hit here message left from'), fun later => ?_⟩
    have missed := missed later
    revert missed
    cases action.effect state with
    | ok after => exact ih _
    | error message => exact ih _

theorem struck_congr {first : Except String α → Nat → σ → Prop}
    (same : ∀ outcome count state, first outcome count state ↔ second outcome count state) :
    process.struck due first count state cut ↔ process.struck due second count state cut := by
  constructor
  · exact struck_mono fun outcome count after => (same outcome count after).mp
  · exact struck_mono fun outcome count after => (same outcome count after).mpr

/-- What is known of a process on two accounts is known of it together. -/
theorem struck_and {first : Except String α → Nat → σ → Prop}
    (one : process.struck due first count state cut)
    (two : process.struck due second count state cut) :
    process.struck due (fun outcome count after =>
      first outcome count after ∧ second outcome count after) count state cut := by
  induction process generalizing count state with
  | ret value => exact ⟨one, two⟩
  | raise message => exact ⟨one, two⟩
  | look next ih => exact ih state one two
  | note change next ih => exact ih one two
  | act action next ih =>
    rw [struck] at one two ⊢
    refine ⟨fun here message left from' =>
      ih _ (one.1 here message left from') (two.1 here message left from'), fun later => ?_⟩
    have one := one.2 later
    have two := two.2 later
    revert one two
    cases action.effect state with
    | ok after => exact ih _
    | error message => exact ih _

/-- The second process starts where the first one returns, with the steps that it took. -/
theorem struck_andThen (first : Process σ α) (next : α → Process σ β)
    (post : Except String β → Nat → σ → Prop) (count : Nat) (state : σ) :
    (first >>= next).struck due post count state cut ↔ first.struck due (fun outcome count after =>
        match outcome with
        | .ok value => (next value).struck due post count after cut
        | .error message => post (.error message) count after) count state cut := by
  show (first.andThen next).struck due post count state cut ↔ _
  induction first generalizing count state with
  | ret value => rfl
  | raise message => rfl
  | look following ih => exact ih state count state
  | note change following ih => exact ih count (change state)
  | act action following ih => simp only [andThen, struck, ih]

/-- A sequence, by what its first part may leave: an exception ends it. -/
theorem struck_sequence {first : Process σ α} {next : α → Process σ β}
    {leaves : Except String α → Nat → σ → Prop} {post : Except String β → Nat → σ → Prop}
    {count : Nat} {state : σ} (begun : first.struck due leaves count state cut)
    (stopped : ∀ message count after, leaves (.error message) count after →
      post (.error message) count after)
    (rest : ∀ value count after, leaves (.ok value) count after →
      (next value).struck due post count after cut) :
    (first >>= next).struck due post count state cut := by
  rw [struck_andThen]
  refine struck_mono ?_ begun
  intro outcome count after left
  cases outcome with
  | ok value => exact rest value count after left
  | error message => exact stopped message count after left

theorem struck_get_andThen (view : σ → α) (next : α → Process σ β)
    (post : Except String β → Nat → σ → Prop) (count : Nat) (state : σ) :
    (get view >>= next).struck due post count state cut ↔
      (next (view state)).struck due post count state cut :=
  Iff.rfl

theorem struck_set_andThen (change : σ → σ) (next : Unit → Process σ β)
    (post : Except String β → Nat → σ → Prop) (count : Nat) (state : σ) :
    (set change >>= next).struck due post count state cut ↔
      (next ()).struck due post count (change state) cut :=
  Iff.rfl

theorem struck_attempt (body : Process σ α)
    (post : Except String (Except String α) → Nat → σ → Prop) (count : Nat) (state : σ) :
    body.attempt.struck due post count state cut ↔
      body.struck due (fun outcome count after => post (.ok outcome) count after) count state
        cut := by
  induction body generalizing count state with
  | ret value => rfl
  | raise message => rfl
  | look next ih => exact ih state count state
  | note change next ih => exact ih count (change state)
  | act action next ih => simp only [attempt, struck, ih]

theorem struck_catching (body : Process σ α) (handler : String → Process σ α)
    (post : Except String α → Nat → σ → Prop) (count : Nat) (state : σ) :
    (body.catching handler).struck due post count state cut ↔
      body.struck due (fun outcome count after =>
        match outcome with
        | .ok value => post (.ok value) count after
        | .error message => (handler message).struck due post count after cut) count state
        cut := by
  rw [catching, struck_andThen, struck_attempt]
  refine struck_congr fun outcome count after => ?_
  cases outcome <;> rfl

theorem struck_ensuring (body : Process σ α) (last : Process σ Unit)
    (post : Except String α → Nat → σ → Prop) (count : Nat) (state : σ) :
    (body.ensuring last).struck due post count state cut ↔
      body.struck due (fun outcome count after =>
        last.struck due (fun ended count final =>
          match ended with
          | .ok _ => post outcome count final
          | .error message => post (.error message) count final) count after cut) count state
        cut := by
  rw [ensuring, struck_andThen, struck_attempt]
  refine struck_congr fun outcome count after => ?_
  dsimp only
  rw [struck_andThen]
  refine struck_congr fun ended count final => ?_
  cases ended <;> cases outcome <;> rfl

/-- A step on the durable part raises when it is due, and works otherwise. -/
theorem struck_cut {action : Action δ} {post : Except String Unit → Nat → δ × ℓ → Prop}
    {state : δ × ℓ} (ahead : Ahead due count)
    (hit : due = some count → ∀ message left, Leaves action cut state.1 left →
      post (.error message) (count + 1) (left, state.2)) (missed : Ahead due (count + 1) →
      match action.effect state.1 with
      | .ok after => post (.ok ()) (count + 1) (after, state.2)
      | .error message => post (.error message) (count + 1) state) :
    (durable action).struck due post count state cut := by
  refine ⟨?_, ?_⟩
  · intro here message left from'
    -- What a fault leaves of the pair is what it leaves of the durable part.
    have part : ∃ part, Leaves action cut state.1 part ∧ left = (part, state.2) := by
      cases cut with
      | none =>
        rcases from' with same | member
        · exact ⟨state.1, .inl rfl, same⟩
        · obtain ⟨part, inside, rfl⟩ := List.mem_map.mp member
          exact ⟨part, .inr inside, rfl⟩
      | some position =>
        refine ⟨_, rfl, ?_⟩
        rw [Leaves] at from'
        rw [from']
        exact List.getD_map _ _ (fun part => (part, state.2))
    obtain ⟨part, leaves, rfl⟩ := part
    exact hit here message part leaves
  · intro later
    have missed := missed (ahead.next later)
    revert missed
    dsimp only
    cases action.effect state.1 with
    | ok after => exact fun holds => holds
    | error message => exact fun holds => holds

/-- The same step, wherever it is cut. -/
theorem struck_durable {action : Action δ} {post : Except String Unit → Nat → δ × ℓ → Prop}
    {state : δ × ℓ} (ahead : Ahead due count)
    (hit : due = some count → ∀ message left, left = state.1 ∨ left ∈ action.torn state.1 →
      post (.error message) (count + 1) (left, state.2)) (missed : Ahead due (count + 1) →
      match action.effect state.1 with
      | .ok after => post (.ok ()) (count + 1) (after, state.2)
      | .error message => post (.error message) (count + 1) state) :
    (durable action).struck due post count state cut :=
  struck_cut ahead (fun here message left leaves => hit here message left leaves.any) missed

/-- A step without intermediate states leaves everything as it is when it raises. -/
theorem struck_atomic {effect : δ → Except String δ}
    {post : Except String Unit → Nat → δ × ℓ → Prop} {state : δ × ℓ} (ahead : Ahead due count)
    (hit : due = some count → ∀ message, post (.error message) (count + 1) state)
    (missed : Ahead due (count + 1) →
      match effect state.1 with
      | .ok after => post (.ok ()) (count + 1) (after, state.2)
      | .error message => post (.error message) (count + 1) state) :
    (durable (.atomic effect)).struck due post count state cut := by
  refine struck_durable ahead ?_ missed
  intro here message left from'
  rcases from' with same | member
  · rw [same]
    exact hit here message
  · cases member

/-- The same in front of what follows the step. -/
theorem struck_step {effect : δ → Except String δ} {next : Unit → Process (δ × ℓ) β}
    {post : Except String β → Nat → δ × ℓ → Prop} {state : δ × ℓ} (ahead : Ahead due count)
    (hit : due = some count → ∀ message, post (.error message) (count + 1) state)
    (missed : Ahead due (count + 1) →
      match effect state.1 with
      | .ok after => (next ()).struck due post (count + 1) (after, state.2) cut
      | .error message => post (.error message) (count + 1) state) :
    (durable (.atomic effect) >>= next).struck due post count state cut := by
  rw [struck_andThen]
  refine struck_atomic ahead hit fun later => ?_
  have missed := missed later
  revert missed
  cases effect state.1 <;> exact id

/-- Behind the step that was due, a process runs as if there were no faults. -/
theorem struck_past (past : Past due count) (holds : process.wp false (fun _ _ => True)
      (fun outcome after => ∀ count, Past due count → post outcome count after) state) :
    process.struck due post count state cut := by
  induction process generalizing count state with
  | ret value => exact holds count past
  | raise message => exact holds count past
  | look next ih => exact ih state past holds
  | note change next ih => exact ih past holds
  | act action next ih =>
    rw [wp] at holds
    obtain ⟨-, -, effect⟩ := holds
    have later : Past due (count + 1) := fun step here => Nat.lt_succ_of_lt (past step here)
    refine ⟨?_, fun _ => ?_⟩
    · intro here
      exact absurd (past count here) (Nat.lt_irrefl count)
    · revert effect
      cases action.effect state with
      | ok after => exact fun effect => ih _ later effect.2
      | error message => exact fun effect => ih _ later effect

/-- A process that ends before the step that is due runs as if there were no faults, and all of its
steps are counted. -/
theorem struck_beyond (beyond : ∀ step, due = some step → count + process.acts state ≤ step)
    (holds : process.wp false (fun _ _ => True)
      (fun outcome after => post outcome (count + process.acts state) after) state) :
    process.struck due post count state cut := by
  induction process generalizing count state with
  | ret value => exact holds
  | raise message => exact holds
  | look next ih => exact ih state beyond holds
  | note change next ih => exact ih beyond holds
  | act action next ih =>
    rw [wp] at holds
    obtain ⟨-, -, effect⟩ := holds
    rw [acts] at beyond effect
    refine ⟨fun here => ?_, fun _ => ?_⟩
    · -- The step that is due comes later than this one.
      have later := beyond count here
      revert later
      cases action.effect state with
      | ok after =>
        intro later
        dsimp only at later
        omega
      | error message =>
        intro later
        dsimp only at later
        omega
    · revert beyond effect
      cases action.effect state with
      | ok after =>
        intro beyond effect
        dsimp only at beyond effect
        rw [Nat.add_comm ((next _).acts _) 1, ← Nat.add_assoc] at effect
        exact ih _ (fun step here => by have := beyond step here; omega) effect.2
      | error message =>
        intro beyond effect
        dsimp only at beyond effect
        rw [Nat.add_comm ((next _).acts _) 1, ← Nat.add_assoc] at effect
        exact ih _ (fun step here => by have := beyond step here; omega) effect

/-- The steps of a sequence are those of its first part, and those of the part that follows where
the first one ends. -/
theorem acts_andThen (first : Process σ α) (next : α → Process σ β) (state : σ) :
    first.wp false (fun _ _ => True) (fun outcome after =>
      (first >>= next).acts state = first.acts state +
        match outcome with
        | .ok value => (next value).acts after
        | .error _ => 0) state := by
  show first.wp false (fun _ _ => True) (fun outcome after =>
    (first.andThen next).acts state = _ + _) state
  induction first generalizing state with
  | ret value => simp [andThen, acts]
  | raise message => simp [andThen, acts]
  | look following ih => exact ih state state
  | note change following ih => exact ih (change state)
  | act action following ih =>
    rw [wp]
    refine ⟨fun _ _ => trivial, by simp, ?_⟩
    simp only [andThen, acts]
    cases action.effect state with
    | ok after =>
      refine ⟨trivial, wp_mono ?_ (ih _ after)⟩
      intro outcome last counted
      dsimp only
      rw [counted]
      omega
    | error message =>
      refine wp_mono ?_ (ih _ state)
      intro outcome last counted
      dsimp only
      rw [counted]
      omega

/-- What holds whichever steps raise holds when only the one that is due does. -/
theorem struck_of_wp {allowed : σ → σ → Prop} {post : Except String α → σ → Prop}
    (holds : process.wp true allowed post state) :
    process.struck due (fun outcome _ after => post outcome after) count state cut := by
  induction process generalizing count state with
  | ret value => exact holds
  | raise message => exact holds
  | look next ih => exact ih state holds
  | note change next ih => exact ih holds
  | act action next ih =>
    rw [wp] at holds
    obtain ⟨-, faulty, effect⟩ := holds
    refine ⟨fun _ message left leaves => ih _ ((faulty rfl).2 message left leaves.any),
      fun _ => ?_⟩
    revert effect
    cases action.effect state with
    | ok after => exact fun effect => ih _ effect.2
    | error message => exact fun effect => ih _ effect

/-- A step that is due inside a process has been taken at its end. -/
theorem struck_within (within : Past due (count + process.acts state))
    (holds : process.struck due (fun outcome count after => Past due count →
      post outcome count after) count state cut) : process.struck due post count state cut := by
  induction process generalizing count state with
  | ret value => exact holds within
  | raise message => exact holds within
  | look next ih => exact ih state within holds
  | note change next ih => exact ih within holds
  | act action next ih =>
    obtain ⟨hit, missed⟩ := holds
    refine ⟨?_, ?_⟩
    · intro here message left from'
      refine ih _ ?_ (hit here message left from')
      intro step same
      rw [here, Option.some.injEq] at same
      omega
    · intro later
      have missed := missed later
      rw [acts] at within
      revert missed within
      cases action.effect state with
      | ok after =>
        intro within missed
        refine ih _ (fun step here => ?_) missed
        have bound : step < count + ((next (.ok ())).acts after + 1) := within step here
        omega
      | error message =>
        intro within missed
        refine ih _ (fun step here => ?_) missed
        have bound : step < count + ((next (.error message)).acts state + 1) := within step here
        omega

/-- Without a fault the steps that are counted are those that the process takes. -/
theorem struck_count (holds : process.struck none post count state cut) :
    ∃ outcome after, post outcome (count + process.acts state) after := by
  induction process generalizing count state with
  | ret value => exact ⟨_, _, holds⟩
  | raise message => exact ⟨_, _, holds⟩
  | look next ih => exact ih state holds
  | note change next ih => exact ih holds
  | act action next ih =>
    obtain ⟨-, missed⟩ := holds
    have missed := missed (by simp)
    rw [acts]
    revert missed
    cases action.effect state with
    | ok after =>
      intro missed
      have ended := ih _ missed
      rwa [Nat.add_assoc, Nat.add_comm 1] at ended
    | error message =>
      intro missed
      have ended := ih _ missed
      rwa [Nat.add_assoc, Nat.add_comm 1] at ended

end Rules

section Straight

variable {due cut : Option Nat}

/-- A process without handlers: it stops at the first step that raises. -/
def Straight : Process σ α → Prop
  | ret _ => True
  | raise _ => True
  | look next => ∀ state, (next state).Straight
  | note _ next => next.Straight
  | act _ next => (next (.ok ())).Straight ∧ ∀ message, ∃ told, next (.error message) = raise told

theorem Straight.andThen {first : Process σ α} {next : α → Process σ β}
    (straight : first.Straight) (then' : ∀ value, (next value).Straight) :
    (first >>= next).Straight := by
  show (first.andThen next).Straight
  induction first with
  | ret value => exact then' value
  | raise message => trivial
  | look following ih => exact fun state => ih state (straight state)
  | note change following ih => exact ih straight
  | act action following ih =>
    refine ⟨ih _ straight.1, fun message => ?_⟩
    obtain ⟨told, shape⟩ := straight.2 message
    refine ⟨told, ?_⟩
    show (following (.error message)).andThen next = raise told
    rw [shape]
    rfl

theorem Straight.durable (action : Action δ) : (durable action : Process (δ × ℓ) Unit).Straight :=
  ⟨trivial, fun message => ⟨message, rfl⟩⟩

theorem Straight.get (view : σ → α) : (get view).Straight :=
  fun _ => trivial

theorem Straight.reject (condition : Bool) (message : String) :
    (reject condition message : Process σ Unit).Straight := by
  unfold Process.reject
  split <;> trivial

theorem Straight.forEach {items : List β} {body : β → Process σ Unit}
    (straight : ∀ item, (body item).Straight) : (forEach items body).Straight := by
  induction items with
  | nil => trivial
  | cons item rest ih => exact (straight item).andThen fun _ => ih

/-- Such a process takes no more steps than without a fault. Where it returns, it has taken all of
them, and none of them was due. -/
theorem Straight.struck_acts {process : Process σ α} (straight : process.Straight) {count : Nat}
    {state : σ} (ahead : Ahead due count) :
    process.struck due (fun outcome after _ => after ≤ count + process.acts state ∧
      ∀ value, outcome = .ok value → after = count + process.acts state ∧ Ahead due after)
      count state cut := by
  induction process generalizing count state with
  | ret value => exact ⟨Nat.le_refl _, fun _ _ => ⟨rfl, ahead⟩⟩
  | raise message => exact ⟨Nat.le_refl _, fun _ same => by cases same⟩
  | look next ih => exact ih state (straight state) ahead
  | note change next ih => exact ih straight ahead
  | act action next ih =>
    refine ⟨fun _ message left _ => ?_, fun later => ?_⟩
    · obtain ⟨told, shape⟩ := straight.2 message
      rw [shape]
      refine ⟨?_, fun _ same => by cases same⟩
      rw [acts]
      split <;> omega
    · rw [acts]
      cases action.effect state with
      | ok after =>
        refine struck_mono ?_ (ih _ straight.1 (ahead.next later))
        rintro outcome taken last ⟨bound, holds⟩
        dsimp only
        refine ⟨by omega, fun value same => ?_⟩
        obtain ⟨counted, still⟩ := holds value same
        exact ⟨by omega, still⟩
      | error message =>
        obtain ⟨told, shape⟩ := straight.2 message
        simp only [shape]
        exact ⟨by simp [acts], fun _ same => by cases same⟩

/-- Such a process ends as without a fault, or one of its steps is due and it raises. -/
theorem Straight.struck_calm {process : Process σ α} (straight : process.Straight) {count : Nat}
    {state : σ} (seen : List σ) (ahead : Ahead due count) :
    process.struck due (fun outcome _ after =>
      (outcome = (process.run ⟨state, seen, []⟩).1 ∧
        after = (process.run ⟨state, seen, []⟩).2.state) ∨
      (∃ message, outcome = .error message) ∧
        ∃ step, due = some step ∧ step < count + process.acts state) count state cut := by
  induction process generalizing count state seen with
  | ret value => exact .inl ⟨rfl, rfl⟩
  | raise message => exact .inl ⟨rfl, rfl⟩
  | look next ih => exact ih state (straight state) seen ahead
  | note change next ih => exact ih straight seen ahead
  | act action next ih =>
    refine ⟨fun here message left _ => ?_, fun later => ?_⟩
    · obtain ⟨told, shape⟩ := straight.2 message
      rw [shape, acts]
      refine .inr ⟨⟨told, rfl⟩, count, here, ?_⟩
      split <;> omega
    · rw [acts, run]
      unfold Prog.act
      dsimp only
      cases action.effect state with
      | ok after =>
        refine struck_mono ?_
          (ih _ straight.1 (after :: (action.torn state ++ seen)) (ahead.next later))
        rintro outcome taken last (calm | ⟨raised, step, here, bound⟩)
        · exact .inl calm
        · exact .inr ⟨raised, step, here, by dsimp only; omega⟩
      | error message =>
        obtain ⟨told, shape⟩ := straight.2 message
        simp only [shape]
        exact .inl ⟨rfl, rfl⟩

/-- Where such a process returns, it guarantees what it does undisturbed. -/
theorem Straight.struck_gives {process : Process σ α} {post : α → σ → Prop}
    (straight : process.Straight) {count : Nat} {state : σ} (holds : process.gives post state) :
    process.struck due (fun outcome _ after => ∀ value, outcome = .ok value → post value after)
      count state cut := by
  unfold gives at holds
  induction process generalizing count state with
  | ret value =>
    intro other same
    cases same
    exact holds
  | raise message => exact fun _ same => by cases same
  | look next ih => exact ih state (straight state) holds
  | note change next ih => exact ih straight holds
  | act action next ih =>
    rw [wp] at holds
    obtain ⟨-, -, effect⟩ := holds
    refine ⟨fun _ message left _ => ?_, fun _ => ?_⟩
    · obtain ⟨told, shape⟩ := straight.2 message
      rw [shape]
      exact fun _ same => by cases same
    · revert effect
      cases action.effect state with
      | ok after => exact fun effect => ih _ straight.1 effect.2
      | error message =>
        obtain ⟨told, shape⟩ := straight.2 message
        simp only [shape]
        exact fun _ _ same => by cases same

end Straight

section Steady

variable {due cut : Option Nat} {good : σ → Prop}
variable {process : Process σ α}

/-- A process without handlers of which every step, whether it works or is made to raise, keeps a
property of the state. -/
def Steady (good : σ → Prop) : Process σ α → Prop
  | ret _ => True
  | raise _ => True
  | look next => ∀ state, (next state).Steady good
  | note change next => (∀ state, good state → good (change state)) ∧ next.Steady good
  | act action next =>
    (∀ state after, good state → action.effect state = .ok after → good after) ∧
      (∀ state left, good state → left ∈ action.torn state → good left) ∧
      (next (.ok ())).Steady good ∧ ∀ message, ∃ told, next (.error message) = raise told

theorem Steady.straight (steady : process.Steady good) :
    process.Straight := by
  induction process with
  | ret value => trivial
  | raise message => trivial
  | look next ih => exact fun state => ih state (steady state)
  | note change next ih => exact ih steady.2
  | act action next ih => exact ⟨ih _ steady.2.2.1, steady.2.2.2⟩

/-- The property holds at the end, wherever the process stops. -/
theorem Steady.struck (steady : process.Steady good) {count : Nat} {state : σ}
    (holds : good state) :
    process.struck due (fun _ _ after => good after) count state cut := by
  induction process generalizing count state with
  | ret value => exact holds
  | raise message => exact holds
  | look next ih => exact ih state (steady state) holds
  | note change next ih => exact ih steady.2 (steady.1 state holds)
  | act action next ih =>
    obtain ⟨works, torn, following, stops⟩ := steady
    refine ⟨fun _ message left leaves => ?_, fun _ => ?_⟩
    · obtain ⟨told, shape⟩ := stops message
      rw [shape]
      rcases leaves.any with same | part
      · rw [same]
        exact holds
      · exact torn state left holds part
    · cases done : action.effect state with
      | ok after => exact ih _ following (works state after holds done)
      | error message =>
        obtain ⟨told, shape⟩ := stops message
        simp only [shape]
        exact holds

theorem Steady.andThen {first : Process σ α} {next : α → Process σ β} (steady : first.Steady good)
    (then' : ∀ value, (next value).Steady good) : (first >>= next).Steady good := by
  show (first.andThen next).Steady good
  induction first with
  | ret value => exact then' value
  | raise message => trivial
  | look following ih => exact fun state => ih state (steady state)
  | note change following ih => exact ⟨steady.1, ih steady.2⟩
  | act action following ih =>
    refine ⟨steady.1, steady.2.1, ih _ steady.2.2.1, fun message => ?_⟩
    obtain ⟨told, shape⟩ := steady.2.2.2 message
    refine ⟨told, ?_⟩
    show (following (.error message)).andThen next = raise told
    rw [shape]
    rfl

theorem Steady.get (view : σ → α) : (Process.get view).Steady good :=
  fun _ => trivial

theorem Steady.set {change : σ → σ} (keeps : ∀ state, good state → good (change state)) :
    (Process.set change).Steady good :=
  ⟨keeps, trivial⟩

theorem Steady.ofExcept (outcome : Except String α) : (Process.ofExcept outcome).Steady good := by
  cases outcome <;> trivial

theorem Steady.reject (condition : Bool) (message : String) :
    (Process.reject condition message).Steady good := by
  unfold Process.reject
  split <;> trivial

theorem Steady.whenever (condition : Bool) {body : Process σ Unit} (steady : body.Steady good) :
    (Process.whenever condition body).Steady good := by
  unfold Process.whenever
  split
  · exact steady
  · trivial

theorem Steady.forEach {items : List β} {body : β → Process σ Unit}
    (steady : ∀ item, (body item).Steady good) : (Process.forEach items body).Steady good := by
  induction items with
  | nil => trivial
  | cons item rest ih => exact (steady item).andThen fun _ => ih

theorem Steady.durable {good : δ × ℓ → Prop} {action : Action δ}
    (works : ∀ state after, good state → action.effect state.1 = .ok after → good (after, state.2))
    (torn : ∀ state left, good state → left ∈ action.torn state.1 → good (left, state.2)) :
    (Process.durable action).Steady good := by
  refine ⟨fun state after holds done => ?_, fun state left holds part => ?_, trivial,
    fun message => ⟨message, rfl⟩⟩
  · cases effect : action.effect state.1 with
    | ok part =>
      simp only [effect, Except.map] at done
      cases done
      exact works state part holds effect
    | error message =>
      simp only [effect, Except.map] at done
      cases done
  · obtain ⟨inside, member, rfl⟩ := List.mem_map.mp part
    exact torn state inside holds member

/-- Such a process guarantees what its undisturbed steps keep. -/
theorem Steady.gives (steady : process.Steady good) {state : σ} (holds : good state) :
    process.gives (fun _ after => good after) state := by
  unfold Process.gives
  induction process generalizing state with
  | ret value => exact holds
  | raise message => trivial
  | look next ih => exact ih state (steady state) holds
  | note change next ih => exact ih steady.2 (steady.1 state holds)
  | act action next ih =>
    obtain ⟨works, -, following, stops⟩ := steady
    rw [Process.wp]
    refine ⟨fun _ _ => trivial, by simp, ?_⟩
    cases done : action.effect state with
    | ok after => exact ⟨trivial, ih _ following (works state after holds done)⟩
    | error message =>
      obtain ⟨told, shape⟩ := stops message
      simp only [shape]
      trivial

end Steady

section Soundness

variable {process : Process σ α} {post : Except String α → Nat → σ → Prop}

/-- The faults that are still to come when some steps have been taken. -/
def remaining (due : Option Nat) (count : Nat) (fault : Fault) : List (Option Fault) :=
  match due with
  | none => []
  | some step => if step < count then [] else List.replicate (step - count) none ++ [some fault]

theorem remaining_here (count : Nat) (fault : Fault) :
    remaining (some count) count fault = [some fault] := by
  simp [remaining]

theorem remaining_after (count : Nat) (fault : Fault) :
    remaining (some count) (count + 1) fault = [] := by
  simp [remaining]

/-- A step that is not due takes one entry off the schedule. -/
theorem remaining_later {due : Option Nat} {count : Nat} (fault : Fault)
    (later : due ≠ some count) :
    (remaining due count fault = [] ∨
      remaining due count fault = none :: remaining due (count + 1) fault) ∧
    (remaining due count fault).tail = remaining due (count + 1) fault := by
  cases due with
  | none => exact ⟨.inl rfl, rfl⟩
  | some step =>
    have differs : step ≠ count := fun same => later (by rw [same])
    unfold remaining
    dsimp only
    by_cases gone : step < count
    · have gone' : step < count + 1 := by omega
      rw [if_pos gone, if_pos gone']
      exact ⟨.inl rfl, rfl⟩
    · have more : step - count = step - (count + 1) + 1 := by omega
      have ahead : ¬step < count + 1 := by omega
      rw [if_neg gone, if_neg ahead, more, List.replicate_succ, List.cons_append]
      exact ⟨.inr rfl, rfl⟩

/-- A run under the schedule is one that the predicate transformer covers. -/
theorem run_of_struck {due cut : Option Nat} {count : Nat} {world : World σ} (fault : Fault)
    (agrees : ∀ position, cut = some position → fault.cut = position)
    (faults : world.faults = remaining due count fault)
    (holds : process.struck due post count world.state cut) :
    ∃ taken, post (process.run world).1 taken (process.run world).2.state := by
  induction process generalizing count world with
  | ret value => exact ⟨count, holds⟩
  | raise message => exact ⟨count, holds⟩
  | look next ih => exact ih world.state faults holds
  | note change next ih =>
    have moved : next.struck due post count
        (World.mk (change world.state) world.seen world.faults).state cut := holds
    exact ih faults moved
  | act action next ih =>
    obtain ⟨hit, missed⟩ := holds
    rw [run]
    by_cases here : due = some count
    · -- The schedule has come to its fault, and is empty behind it.
      have scheduled : world.faults = [some fault] := by
        rw [faults, here, remaining_here]
      have spent : ([] : List (Option Fault)) = remaining due (count + 1) fault := by
        rw [here, remaining_after]
      have left : Leaves action cut world.state
          ((action.torn world.state).getD fault.cut world.state) := by
        cases cut with
        | none =>
          have exactly : Leaves action (some fault.cut) world.state
            ((action.torn world.state).getD fault.cut world.state) := rfl
          exact exactly.any
        | some position => rw [agrees position rfl]; rfl
      unfold Prog.act
      simp only [scheduled]
      exact ih _ spent (hit here fault.message _ left)
    · obtain ⟨shape, tail⟩ := remaining_later fault here
      rw [← faults] at shape tail
      have missed := missed here
      unfold Prog.act
      rcases shape with empty | quiet
      · simp only [empty]
        rw [empty] at tail
        revert missed
        cases action.effect world.state with
        | ok after => exact fun missed => ih _ tail missed
        | error message => exact fun missed => ih _ tail missed
      · simp only [quiet]
        revert missed
        cases action.effect world.state with
        | ok after => exact fun missed => ih _ rfl missed
        | error message => exact fun missed => ih _ rfl missed

theorem start_of_struck_cut {due cut : Option Nat} {state : σ} (fault : Fault)
    (agrees : ∀ position, cut = some position → fault.cut = position)
    (holds : process.struck due post 0 state cut) :
    ∃ taken, post (process.start state (faultAt due fault)).1 taken
      (process.start state (faultAt due fault)).2.state := by
  have schedule : faultAt due fault = remaining due 0 fault := by
    cases due <;> simp [faultAt, remaining]
  have begun : process.struck due post 0 (World.mk state [state] (faultAt due fault)).state cut :=
    holds
  exact run_of_struck fault agrees schedule begun

/-- What a process guarantees when it is started with at most one fault, wherever that is cut. -/
theorem start_of_struck {due : Option Nat} {state : σ} (fault : Fault)
    (holds : process.struck due post 0 state) :
    ∃ taken, post (process.start state (faultAt due fault)).1 taken
      (process.start state (faultAt due fault)).2.state :=
  start_of_struck_cut fault (fun _ none => by cases none) holds

end Soundness

end Process

end ProcessLogic
