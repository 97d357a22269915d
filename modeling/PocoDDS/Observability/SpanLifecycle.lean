import PocoDDS.Lib.Run
import PocoDDS.Observability.Span

/-! Which programs end every business span exactly once. -/

namespace PocoDDS.Observability

open AssocList RunLogic Tracing

/-- The statuses published for one span, oldest first. -/
def Tracing.statusesOf (state : Tracing) (index : Nat) : List String :=
  (state.published.filter (·.1 = index)).map (·.2.status)

/-- A status after which nothing more is published. -/
def terminalStatus (status : String) : Prop :=
  status = "success" ∨ status = "failed" ∨ status = "cancelled"

/-- Some running snapshots, and then exactly one terminal one. -/
def EndsOnce (statuses : List String) : Prop :=
  ∃ running last, statuses = running ++ [last] ∧ running ≠ [] ∧
    (∀ status ∈ running, status = "running") ∧ terminalStatus last

/-- Every span that was started has ended, once. -/
def Tracing.AllEnded (state : Tracing) : Prop :=
  ∀ index, index < state.spans.length → EndsOnce (state.statusesOf index)

/-- Whether an action moves another handle onto one that owns an open span. -/
def overwritesOpen (state : Tracing) : SpanAction → Bool
  | .moveAssign handle source =>
    state.live handle && state.live source && handle != source &&
      (state.owned handle).any state.isOpen
  | _ => false

section Handles

variable {state : Tracing} {handle source : Nat}

theorem live_iff : state.live handle = true ↔ handle ∈ keys state.handles := by
  rw [live, ← lookup_isSome_iff]

theorem not_live_iff : state.live handle = false ↔ handle ∉ keys state.handles := by
  rw [← live_iff, Bool.not_eq_true]

theorem owned_of_not_live (dead : state.live handle = false) : state.owned handle = none := by
  rw [owned, lookup_eq_none_iff.mpr (not_live_iff.mp dead)]
  rfl

theorem owned_append (dead : state.live handle = false) (given : Option Nat) (spans : List SpanImpl)
    (published : List (Nat × SpanSnapshot)) (other : Nat) :
    owned ⟨spans, state.handles ++ [(handle, given)], published⟩ other =
      if other = handle then given else state.owned other := by
  have absent := lookup_eq_none_iff.mpr (not_live_iff.mp dead)
  unfold owned
  rw [lookup_append]
  by_cases same : other = handle
  · subst same
    simp [absent, List.lookup_cons, List.lookup_nil]
  · have skipped : (other == handle) = false := by simpa using same
    simp [same, List.lookup_cons, List.lookup_nil, skipped]

theorem owned_adjust (state : Tracing) (target : Nat) (given : Option Nat) (other : Nat) :
    ((adjust target (fun _ => given) state.handles).lookup other).join =
      if other = target ∧ state.live target = true then given else state.owned other := by
  rw [lookup_adjust]
  by_cases same : other = target
  · subst same
    cases alive : state.live other with
    | true =>
      obtain ⟨old, found⟩ := Option.isSome_iff_exists.mp alive
      simp [found]
    | false =>
      have absent := lookup_eq_none_iff.mpr (not_live_iff.mp alive)
      simp [absent, owned]
  · simp [same, owned]

theorem owned_moveConstruct (dead : state.live handle = false) (alive : state.live source = true)
    (other : Nat) :
    owned { state with
      handles := adjust source (fun _ => none) state.handles ++ [(handle, state.owned source)] }
        other =
      if other = handle then state.owned source else if other = source then none
      else state.owned other := by
  have still : live { state with handles := adjust source (fun _ => none) state.handles }
      handle = false := by
    rw [not_live_iff] at dead ⊢
    simpa using dead
  have appended := owned_append still (state.owned source) state.spans state.published other
  simp only at appended
  rw [appended]
  split
  · rfl
  · have moved := owned_adjust state source none other
    simp only [alive, and_true] at moved
    exact moved

theorem owned_moveAssign (left : state.live handle = true) (right : state.live source = true)
    (other : Nat) :
    owned { state with
      handles := adjust source (fun _ => none)
        (adjust handle (fun _ => state.owned source) state.handles) } other =
      if other = source then none else if other = handle then state.owned source
      else state.owned other := by
  have still : live { state with
      handles := adjust handle (fun _ => state.owned source) state.handles } source = true := by
    rw [live_iff] at right ⊢
    simpa using right
  have emptied := owned_adjust { state with
    handles := adjust handle (fun _ => state.owned source) state.handles } source none other
  simp only [still, and_true] at emptied
  refine emptied.trans ?_
  split
  · rfl
  · have given := owned_adjust state handle (state.owned source) other
    simp only [left, and_true] at given
    exact given

theorem owned_eraseKey (state : Tracing) (handle other : Nat) (spans : List SpanImpl)
    (published : List (Nat × SpanSnapshot)) :
    owned ⟨spans, eraseKey handle state.handles, published⟩ other =
      if other = handle then none else state.owned other := by
  unfold owned
  split
  · next same =>
    rw [same, lookup_eraseKey_self]
    rfl
  · next differs => rw [lookup_eraseKey_ne differs]

end Handles

section Publishing

variable (options : TracerOptions) (state : Tracing)

/-- An open span is published again, and stays open or ends. -/
def Republished (state : Tracing) (index : Nat) (after : Tracing) : Prop :=
  ∃ impl next, state.spans[index]? = some impl ∧ impl.ended = false ∧
    after = { state with
      spans := state.spans.set index next
      published := state.published ++ [(index, next.snapshot)] } ∧
    ((next.ended = false ∧ next.snapshot.status = impl.snapshot.status) ∨
      (next.ended = true ∧ terminalStatus next.snapshot.status))

theorem publishOpen_cases (index : Option Nat) (change : SpanImpl → SpanImpl) :
    (state.publishOpen index change = state ∧
      ∀ open', index = some open' → state.isOpen open' = false) ∨
    ∃ open' impl, index = some open' ∧ state.spans[open']? = some impl ∧ impl.ended = false ∧
      state.publishOpen index change = { state with
        spans := state.spans.set open' (change impl)
        published := state.published ++ [(open', (change impl).snapshot)] } := by
  cases index with
  | none => exact .inl ⟨rfl, by simp⟩
  | some index =>
    cases found : state.spans[index]? with
    | none =>
      left
      simp [publishOpen, isOpen, found]
    | some impl =>
      cases ended : impl.ended with
      | true =>
        left
        simp [publishOpen, isOpen, found, ended]
      | false =>
        right
        exact ⟨index, impl, rfl, found, ended, by simp [publishOpen, found, ended]⟩

theorem finishSpan_cases (index : Option Nat) {status : String} (terminal : terminalStatus status)
    (outputs : Fields) (errorCode errorMessage : Bytes) (clock : ClockReading) :
    (state.finishSpan options index status outputs errorCode errorMessage clock = state ∧
      ∀ open', index = some open' → state.isOpen open' = false) ∨
    ∃ open', index = some open' ∧ Republished state open'
      (state.finishSpan options index status outputs errorCode errorMessage clock) ∧
      (state.finishSpan options index status outputs errorCode errorMessage clock).isOpen open' =
        false := by
  rcases publishOpen_cases state index
    (·.finished options status outputs errorCode errorMessage clock) with
    unchanged | ⟨open', impl, rfl, found, ended, same⟩
  · exact .inl unchanged
  · right
    refine ⟨open', rfl, ⟨impl, _, found, ended, same, .inr ⟨rfl, terminal⟩⟩, ?_⟩
    have within := (List.getElem?_eq_some_iff.mp found).1
    rw [finishSpan, same]
    simp [isOpen, SpanImpl.finished, within]

theorem logSpan_cases (index : Option Nat) (message level : Bytes) (fields : Fields) (now : Int) :
    state.logSpan options index message level fields now = state ∨
    ∃ open', index = some open' ∧ Republished state open'
      (state.logSpan options index message level fields now) := by
  rcases publishOpen_cases state index (·.logged options message level fields now) with
    ⟨unchanged, -⟩ | ⟨open', impl, rfl, found, ended, same⟩
  · exact .inl unchanged
  · exact .inr ⟨open', rfl, impl, _, found, ended, same, .inl ⟨ended, rfl⟩⟩

end Publishing

section Invariants

/-- What the published statuses of a span say about it. -/
def Shown (impl : SpanImpl) (statuses : List String) : Prop :=
  (impl.ended = false ∧ impl.snapshot.status = "running" ∧ statuses ≠ [] ∧
    ∀ status ∈ statuses, status = "running") ∨
  (impl.ended = true ∧ EndsOnce statuses)

/-- What holds after every program. -/
structure Tidy (state : Tracing) : Prop where
  distinct : (keys state.handles).Nodup
  bounded : ∀ handle index, state.owned handle = some index → index < state.spans.length
  unique : ∀ first second index, state.owned first = some index →
    state.owned second = some index → first = second
  known : ∀ item ∈ state.published, item.1 < state.spans.length
  shown : ∀ index impl, state.spans[index]? = some impl → Shown impl (state.statusesOf index)

/-- Every open span has a handle. -/
def AllOwned (state : Tracing) : Prop :=
  ∀ index, state.isOpen index = true → ∃ handle, state.owned handle = some index

/-- An open span that no handle owns. -/
def Lost (index : Nat) (state : Tracing) : Prop :=
  state.isOpen index = true ∧ ∀ handle, state.owned handle ≠ some index

variable {state after : Tracing} {index : Nat}

theorem Tidy.initial : Tidy .initial where
  distinct := by simp [Tracing.initial, keys]
  bounded := by
    intro handle index owned
    cases owned
  unique := by
    intro first second index owned
    cases owned
  known := by simp [Tracing.initial]
  shown := by simp [Tracing.initial]

theorem statusesOf_append_self (state : Tracing) (index : Nat) (snapshot : SpanSnapshot)
    (spans : List SpanImpl) (handles : List (Nat × Option Nat)) :
    statusesOf ⟨spans, handles, state.published ++ [(index, snapshot)]⟩ index =
      state.statusesOf index ++ [snapshot.status] := by
  simp [statusesOf]

theorem statusesOf_append_other (state : Tracing) {index other : Nat} (differs : other ≠ index)
    (snapshot : SpanSnapshot) (spans : List SpanImpl) (handles : List (Nat × Option Nat)) :
    statusesOf ⟨spans, handles, state.published ++ [(index, snapshot)]⟩ other =
      state.statusesOf other := by
  have skipped : ¬index = other := fun same => differs same.symm
  simp [statusesOf, skipped]

/-- Publishing an open span again keeps everything tidy. -/
theorem Tidy.republished (tidy : Tidy state) (step : Republished state index after) : Tidy after := by
  obtain ⟨impl, next, found, open', rfl, outcome⟩ := step
  have within := (List.getElem?_eq_some_iff.mp found).1
  refine ⟨tidy.distinct, ?_, tidy.unique, ?_, ?_⟩
  · intro handle other owned
    rw [List.length_set]
    exact tidy.bounded handle other owned
  · intro item member
    rw [List.length_set]
    rcases List.mem_append.mp member with old | new
    · exact tidy.known item old
    · rw [List.mem_singleton.mp new]
      exact within
  · intro other impl' found'
    rw [List.getElem?_set] at found'
    by_cases same : index = other
    · subst same
      rw [if_pos rfl, if_pos within] at found'
      cases found'
      rw [statusesOf_append_self]
      -- Before, the span was open, so all its statuses were running.
      rcases tidy.shown index impl found with ⟨-, status, nonempty, running⟩ | ⟨ended, -⟩
      · rcases outcome with ⟨still, kept⟩ | ⟨ended, terminal⟩
        · left
          refine ⟨still, by rw [kept, status], by simp, ?_⟩
          intro shown member
          rcases List.mem_append.mp member with old | new
          · exact running shown old
          · rw [List.mem_singleton.mp new, kept, status]
        · right
          exact ⟨ended, state.statusesOf index, next.snapshot.status, rfl, nonempty, running,
            terminal⟩
      · rw [open'] at ended
        cases ended
    · rw [if_neg same] at found'
      rw [statusesOf_append_other state (fun wrong => same wrong.symm)]
      exact tidy.shown other impl' found'

theorem Tidy.rehandled (tidy : Tidy state) {handles : List (Nat × Option Nat)}
    (distinct : (keys handles).Nodup)
    (from' : ∀ handle index, Tracing.owned { state with handles } handle = some index →
      ∃ before, state.owned before = some index)
    (unique : ∀ first second index, Tracing.owned { state with handles } first = some index →
      Tracing.owned { state with handles } second = some index → first = second) :
    Tidy { state with handles } where
  distinct := distinct
  bounded := by
    intro handle index owned
    obtain ⟨before, held⟩ := from' handle index owned
    exact tidy.bounded before index held
  unique := unique
  known := tidy.known
  shown := tidy.shown

/-- A new span with a new handle. -/
theorem Tidy.created (tidy : Tidy state) {handle : Nat} (dead : state.live handle = false)
    {impl : SpanImpl} (open' : impl.ended = false) (running : impl.snapshot.status = "running") :
    Tidy ⟨state.spans ++ [impl], state.handles ++ [(handle, some state.spans.length)],
      state.published ++ [(state.spans.length, impl.snapshot)]⟩ := by
  have owned := owned_append dead (some state.spans.length) (state.spans ++ [impl])
    (state.published ++ [(state.spans.length, impl.snapshot)])
  -- No handle and no snapshot refers to a span that was not there.
  have fresh : ∀ other, state.owned other ≠ some state.spans.length := by
    intro other held
    exact absurd (tidy.bounded other _ held) (by omega)
  have unseen : state.statusesOf state.spans.length = [] := by
    rw [statusesOf, List.map_eq_nil_iff, List.filter_eq_nil_iff]
    intro item member same
    have earlier := tidy.known item member
    simp only [decide_eq_true_eq] at same
    omega
  refine ⟨?_, ?_, ?_, ?_, ?_⟩
  · simp only [keys, List.map_append, List.map_cons, List.map_nil]
    exact tidy.distinct.append (by simp) (List.disjoint_singleton.mpr (not_live_iff.mp dead))
  · intro other index held
    rw [owned] at held
    rw [List.length_append, List.length_singleton]
    split at held
    · cases held
      omega
    · have earlier := tidy.bounded other index held
      omega
  · intro first second index one two
    rw [owned] at one two
    split at one <;> split at two
    · next same same' => rw [same, same']
    · cases one
      exact absurd two (fresh second)
    · cases two
      exact absurd one (fresh first)
    · exact tidy.unique first second index one two
  · intro item member
    rw [List.length_append, List.length_singleton]
    rcases List.mem_append.mp member with old | new
    · have earlier := tidy.known item old
      omega
    · rw [List.mem_singleton.mp new]
      simp
  · intro index found impl'
    rcases Nat.lt_trichotomy index state.spans.length with before | here | beyond
    · rw [List.getElem?_append_left before] at impl'
      rw [statusesOf_append_other state (by omega)]
      exact tidy.shown index found impl'
    · subst here
      rw [List.getElem?_append_right (Nat.le_refl _), Nat.sub_self] at impl'
      cases impl'
      rw [statusesOf_append_self, unseen]
      exact .inl ⟨open', running, by simp, by simp [running]⟩
    · rw [List.getElem?_eq_none (by simp; omega)] at impl'
      cases impl'

end Invariants

section Steps

variable {options : TracerOptions} {state : Tracing}
variable {action : SpanAction}

/-- Everything an action can do. -/
inductive Stepped (state : Tracing) : SpanAction → Tracing → Prop
  | idle (action : SpanAction) : Stepped state action state
  | constructed {handle : Nat} (dead : state.live handle = false) :
      Stepped state (.construct handle) { state with handles := state.handles ++ [(handle, none)] }
  | created {action : SpanAction} {handle : Nat} {impl : SpanImpl}
      (dead : state.live handle = false) (open' : impl.ended = false)
      (running : impl.snapshot.status = "running") :
      Stepped state action ⟨state.spans ++ [impl],
        state.handles ++ [(handle, some state.spans.length)],
        state.published ++ [(state.spans.length, impl.snapshot)]⟩
  | moved {handle source : Nat} (dead : state.live handle = false)
      (alive : state.live source = true) :
      Stepped state (.moveConstruct handle source) { state with
        handles := adjust source (fun _ => none) state.handles ++ [(handle, state.owned source)] }
  | assigned {handle source : Nat} (left : state.live handle = true)
      (right : state.live source = true) (differs : handle ≠ source) :
      Stepped state (.moveAssign handle source) { state with
        handles := adjust source (fun _ => none)
          (adjust handle (fun _ => state.owned source) state.handles) }
  | republished {action : SpanAction} {handle index : Nat} {after : Tracing}
      (owner : state.owned handle = some index) (step : Republished state index after) :
      Stepped state action after
  | abandoned {action : SpanAction} {handle index : Nat} {after : Tracing}
      (owner : state.owned handle = some index) (step : Republished state index after)
      (closed : after.isOpen index = false) :
      Stepped state action { after with handles := eraseKey handle after.handles }
  | destroyed {action : SpanAction} {handle : Nat}
      (closed : ∀ index, state.owned handle = some index → state.isOpen index = false) :
      Stepped state action { state with handles := eraseKey handle state.handles }

theorem stepped_finish (handle : Nat) {status : String} (terminal : terminalStatus status)
    (outputs : Fields) (errorCode errorMessage : Bytes) (clock : ClockReading) :
    Stepped state action (state.finishSpan options (state.owned handle) status outputs errorCode
      errorMessage clock) := by
  rcases finishSpan_cases options state (state.owned handle) terminal outputs errorCode
    errorMessage clock with ⟨same, -⟩ | ⟨index, owner, step, -⟩
  · rw [same]
    exact .idle _
  · exact .republished owner step

theorem step_stepped (action : SpanAction) : Stepped state action (state.step options action) := by
  cases action with
  | construct handle =>
    cases dead : state.live handle with
    | true => simpa [Tracing.step, dead] using Stepped.idle _
    | false => simpa [Tracing.step, dead] using Stepped.constructed dead
  | startBusiness handle businessName inputs businessInstanceId context =>
    cases dead : state.live handle with
    | true => simpa [Tracing.step, dead] using Stepped.idle _
    | false =>
      simp only [Tracing.step, dead, Bool.false_eq_true, if_false]
      exact .created dead rfl rfl
  | continueBusiness handle businessName operation parent businessInstanceId inputs context =>
    cases refused : state.live handle || parent.isEmpty with
    | true => simpa [Tracing.step, refused] using Stepped.idle _
    | false =>
      simp only [Tracing.step, refused, Bool.false_eq_true, if_false]
      exact .created (Bool.or_eq_false_iff.mp refused).1 rfl rfl
  | startStep handle source operation inputs context =>
    simp only [Tracing.step]
    cases dead : state.live handle with
    | true => exact .idle _
    | false =>
      simp only [Bool.false_eq_true, if_false]
      split
      · exact .idle _
      · split
        · exact .idle _
        · exact .created dead rfl rfl
  | moveConstruct handle source =>
    cases dead : state.live handle with
    | true => simpa [Tracing.step, dead] using Stepped.idle _
    | false =>
      cases alive : state.live source with
      | false => simpa [Tracing.step, dead, alive] using Stepped.idle _
      | true => simpa [Tracing.step, dead, alive] using Stepped.moved dead alive
  | moveAssign handle source =>
    simp only [Tracing.step]
    split
    · exact .idle _
    · next valid =>
      simp only [Bool.or_eq_true, Bool.not_eq_true', beq_iff_eq, not_or, Bool.not_eq_false] at valid
      exact .assigned valid.1.1 valid.1.2 valid.2
  | log handle message level fields now =>
    rcases logSpan_cases options state (state.owned handle) message level fields now with
      same | ⟨index, owner, step⟩
    · simp only [Tracing.step, same]
      exact .idle _
    · exact .republished owner step
  | success handle outputs clock => exact stepped_finish handle (.inl rfl) outputs [] [] clock
  | failure handle errorCode errorMessage outputs clock =>
    exact stepped_finish handle (.inr (.inl rfl)) outputs errorCode errorMessage clock
  | cancel handle reason clock => exact stepped_finish handle (.inr (.inr rfl)) [] _ reason clock
  | destroy handle clock =>
    simp only [Tracing.step]
    rcases finishSpan_cases options state (state.owned handle)
      (show terminalStatus "cancelled" from .inr (.inr rfl)) [] (bytes "scope_abandoned")
      (bytes "business span left scope without an explicit result") clock with
      ⟨same, closed⟩ | ⟨index, owner, step, closed⟩
    · rw [same]
      exact .destroyed closed
    · exact .abandoned owner step closed

theorem Republished.owned {index handle : Nat} {after : Tracing} (step : Republished state index after) :
    after.owned handle = state.owned handle := by
  obtain ⟨impl, next, -, -, rfl, -⟩ := step
  rfl

/-- Publishing one span again leaves the others open or closed. -/
theorem Republished.isOpen {index other : Nat} {after : Tracing}
    (step : Republished state index after) (differs : other ≠ index) :
    after.isOpen other = state.isOpen other := by
  obtain ⟨impl, next, -, -, rfl, -⟩ := step
  have skipped : ¬index = other := fun same => differs same.symm
  simp [Tracing.isOpen, skipped]

theorem isOpen_append {index : Nat} {impl : SpanImpl} (handles : List (Nat × Option Nat))
    (published : List (Nat × SpanSnapshot)) (earlier : index ≠ state.spans.length) :
    isOpen ⟨state.spans ++ [impl], handles, published⟩ index = state.isOpen index := by
  unfold isOpen
  rcases Nat.lt_or_gt_of_ne earlier with before | beyond
  · rw [List.getElem?_append_left before]
  · rw [List.getElem?_eq_none (by simp; omega), List.getElem?_eq_none (by omega)]

theorem Tidy.erased (tidy : Tidy state) (handle : Nat) :
    Tidy { state with handles := eraseKey handle state.handles } := by
  have owned := fun other => owned_eraseKey state handle other state.spans state.published
  refine tidy.rehandled (nodup_keys_eraseKey tidy.distinct handle) ?_ ?_
  · intro other index held
    rw [owned] at held
    split at held
    · cases held
    · exact ⟨other, held⟩
  · intro first second index one two
    rw [owned] at one two
    split at one
    · cases one
    · split at two
      · cases two
      · exact tidy.unique first second index one two

theorem Tidy.stepped {after : Tracing} (tidy : Tidy state) (step : Stepped state action after) :
    Tidy after := by
  cases step with
  | idle => exact tidy
  | @constructed handle dead =>
    have owned := owned_append dead none state.spans state.published
    refine tidy.rehandled ?_ ?_ ?_
    · simp only [keys, List.map_append, List.map_cons, List.map_nil]
      exact tidy.distinct.append (by simp) (List.disjoint_singleton.mpr (not_live_iff.mp dead))
    · intro other index held
      rw [owned] at held
      split at held
      · cases held
      · exact ⟨other, held⟩
    · intro first second index one two
      rw [owned] at one two
      split at one
      · cases one
      · split at two
        · cases two
        · exact tidy.unique first second index one two
  | created dead open' running => exact tidy.created dead open' running
  | @moved handle source dead alive =>
    have owned := owned_moveConstruct dead alive
    refine tidy.rehandled ?_ ?_ ?_
    · have same : List.map Prod.fst (adjust source (fun _ => none) state.handles) =
          keys state.handles := keys_adjust source _ state.handles
      simp only [keys, List.map_append, List.map_cons, List.map_nil]
      rw [same]
      exact tidy.distinct.append (by simp) (List.disjoint_singleton.mpr (not_live_iff.mp dead))
    · intro other index held
      rw [owned] at held
      split at held
      · exact ⟨source, held⟩
      · split at held
        · cases held
        · exact ⟨other, held⟩
    · -- The new handle owns what the source owned, and the source owns nothing now.
      intro first second index one two
      rw [owned] at one two
      split at one <;> split at two
      · next same same' => rw [same, same']
      · split at two
        · cases two
        · next differs => exact absurd (tidy.unique _ _ index two one) differs
      · split at one
        · cases one
        · next differs => exact absurd (tidy.unique _ _ index one two) differs
      · split at one
        · cases one
        · split at two
          · cases two
          · exact tidy.unique first second index one two
  | @assigned handle source left right differs =>
    have owned := owned_moveAssign left right
    refine tidy.rehandled ?_ ?_ ?_
    · simpa using tidy.distinct
    · intro other index held
      rw [owned] at held
      split at held
      · cases held
      · split at held
        · exact ⟨source, held⟩
        · exact ⟨other, held⟩
    · intro first second index one two
      rw [owned] at one two
      split at one
      · cases one
      · next firstOther =>
        split at two
        · cases two
        · next secondOther =>
          split at one <;> split at two
          · next same same' => rw [same, same']
          · exact absurd (tidy.unique _ _ index two one) secondOther
          · exact absurd (tidy.unique _ _ index one two) firstOther
          · exact tidy.unique first second index one two
  | republished owner step => exact tidy.republished step
  | @abandoned _ handle _ after owner step closed => exact (tidy.republished step).erased handle
  | @destroyed _ handle closed => exact tidy.erased handle

/-- Unless an open span is overwritten, every open span keeps a handle. -/
theorem AllOwned.stepped {after : Tracing} (all : AllOwned state)
    (step : Stepped state action after) (spared : overwritesOpen state action = false) :
    AllOwned after := by
  intro index isOpen
  cases step with
  | idle => exact all index isOpen
  | @constructed handle dead =>
    obtain ⟨owner, held⟩ := all index isOpen
    refine ⟨owner, ?_⟩
    rw [owned_append dead none state.spans state.published]
    -- The owner was alive, so it is not the new handle.
    rw [if_neg, held]
    rintro rfl
    rw [owned_of_not_live dead] at held
    cases held
  | @created _ handle impl dead open' running =>
    have owned := owned_append dead (some state.spans.length) (state.spans ++ [impl])
      (state.published ++ [(state.spans.length, impl.snapshot)])
    by_cases new : index = state.spans.length
    · exact ⟨handle, by rw [owned, if_pos rfl, new]⟩
    · rw [isOpen_append _ _ new] at isOpen
      obtain ⟨owner, held⟩ := all index isOpen
      refine ⟨owner, ?_⟩
      rw [owned, if_neg, held]
      rintro rfl
      rw [owned_of_not_live dead] at held
      cases held
  | @moved handle source dead alive =>
    have owned := owned_moveConstruct dead alive
    obtain ⟨owner, held⟩ := all index isOpen
    by_cases given : owner = source
    · exact ⟨handle, by rw [owned, if_pos rfl, ← given, held]⟩
    · refine ⟨owner, ?_⟩
      rw [owned, if_neg, if_neg given, held]
      rintro rfl
      rw [owned_of_not_live dead] at held
      cases held
  | @assigned handle source left right differs =>
    have owned := owned_moveAssign left right
    obtain ⟨owner, held⟩ := all index isOpen
    by_cases given : owner = source
    · exact ⟨handle, by rw [owned, if_neg differs, if_pos rfl, ← given, held]⟩
    · refine ⟨owner, ?_⟩
      rw [owned, if_neg given, if_neg, held]
      -- The assigned handle owned no open span.
      rintro rfl
      have overwrites : overwritesOpen state (.moveAssign owner source) = true := by
        have wasOpen : state.isOpen index = true := isOpen
        simp [overwritesOpen, left, right, given, held, wasOpen]
      rw [spared] at overwrites
      cases overwrites
  | @republished _ handle shown after owner step =>
    by_cases same : index = shown
    · exact ⟨handle, by rw [step.owned, owner, same]⟩
    · rw [step.isOpen same] at isOpen
      obtain ⟨other, held⟩ := all index isOpen
      exact ⟨other, by rw [step.owned, held]⟩
  | @abandoned _ handle shown after owner step closed =>
    have stillOpen : after.isOpen index = true := isOpen
    -- The handle that goes away owned a span that has just ended.
    by_cases same : index = shown
    · rw [same, closed] at stillOpen
      cases stillOpen
    · rw [step.isOpen same] at stillOpen
      obtain ⟨other, held⟩ := all index stillOpen
      refine ⟨other, ?_⟩
      rw [owned_eraseKey after, if_neg, step.owned, held]
      rintro rfl
      rw [held] at owner
      exact same (Option.some.inj owner)
  | @destroyed _ handle closed =>
    obtain ⟨other, held⟩ := all index isOpen
    refine ⟨other, ?_⟩
    rw [owned_eraseKey state, if_neg, held]
    rintro rfl
    have wasOpen : state.isOpen index = true := isOpen
    rw [closed index held] at wasOpen
    cases wasOpen

/-- A lost span stays open, and no handle can find it again. -/
theorem Lost.stepped {after : Tracing} {index : Nat} (lost : Lost index state)
    (step : Stepped state action after) : Lost index after := by
  obtain ⟨isOpen, unowned⟩ := lost
  cases step with
  | idle => exact ⟨isOpen, unowned⟩
  | @constructed handle dead =>
    refine ⟨isOpen, ?_⟩
    intro other
    rw [owned_append dead none state.spans state.published]
    split
    · simp
    · exact unowned other
  | @created _ handle impl dead open' running =>
    -- An open span is one of those already there.
    have earlier : index ≠ state.spans.length := by
      rintro rfl
      simp [Tracing.isOpen] at isOpen
    refine ⟨by rw [isOpen_append _ _ earlier, isOpen], ?_⟩
    intro other
    rw [owned_append dead]
    split
    · simpa using earlier.symm
    · exact unowned other
  | @moved handle source dead alive =>
    refine ⟨isOpen, ?_⟩
    intro other
    rw [owned_moveConstruct dead alive]
    split
    · exact unowned source
    · split
      · simp
      · exact unowned other
  | @assigned handle source left right differs =>
    refine ⟨isOpen, ?_⟩
    intro other
    rw [owned_moveAssign left right]
    split
    · simp
    · split
      · exact unowned source
      · exact unowned other
  | @republished _ handle shown after owner step =>
    have differs : index ≠ shown := by
      rintro rfl
      exact unowned handle owner
    refine ⟨(step.isOpen differs).trans isOpen, ?_⟩
    intro other
    rw [step.owned]
    exact unowned other
  | @abandoned _ handle shown after owner step closed =>
    have differs : index ≠ shown := by
      rintro rfl
      exact unowned handle owner
    refine ⟨(step.isOpen differs).trans isOpen, ?_⟩
    intro other
    rw [owned_eraseKey after]
    split
    · simp
    · rw [step.owned]
      exact unowned other
  | @destroyed _ handle closed =>
    refine ⟨isOpen, ?_⟩
    intro other
    rw [owned_eraseKey state]
    split
    · simp
    · exact unowned other

/-- Moving a handle onto one that owns an open span loses that span. -/
theorem lost_of_overwritesOpen (options : TracerOptions) (tidy : Tidy state)
    (overwrites : overwritesOpen state action = true) :
    ∃ index, Lost index (state.step options action) := by
  cases action with
  | moveAssign handle source =>
    simp only [overwritesOpen, Bool.and_eq_true, bne_iff_ne, Option.any_eq_true] at overwrites
    obtain ⟨⟨⟨left, right⟩, differs⟩, index, held, isOpen⟩ := overwrites
    refine ⟨index, ?_⟩
    have taken : (!state.live handle || !state.live source || handle == source) = false := by
      simp [left, right, differs]
    simp only [Tracing.step, taken, Bool.false_eq_true, if_false]
    refine ⟨isOpen, ?_⟩
    intro other
    rw [owned_moveAssign left right]
    split
    · simp
    · split
      · -- The source owns another span than the handle it is moved onto.
        intro shared
        exact differs (tidy.unique handle source index held shared)
      · next notHandle =>
        intro shared
        exact notHandle (tidy.unique other handle index shared held)
  | _ => simp [overwritesOpen] at overwrites

end Steps

section Programs

variable (options : TracerOptions)

theorem AllOwned.initial : AllOwned .initial := by
  intro index isOpen
  simp [Tracing.isOpen, Tracing.initial] at isOpen

theorem Tidy.after {state : Tracing} (tidy : Tidy state) (actions : List SpanAction) :
    Tidy (actions.foldl (Tracing.step options) state) :=
  Along.invariant (fun _ action kept _ => kept.stepped (step_stepped action)) tidy
    (Along.free state actions)

theorem Lost.after {state : Tracing} {index : Nat} (lost : Lost index state)
    (actions : List SpanAction) : Lost index (actions.foldl (Tracing.step options) state) :=
  Along.invariant (fun _ action kept _ => kept.stepped (step_stepped action)) lost
    (Along.free state actions)

theorem lost_of_not_along {state : Tracing} (tidy : Tidy state) {actions : List SpanAction}
    (overwritten : ¬Along (Tracing.step options)
      (fun state action => overwritesOpen state action = false) state actions) :
    ∃ index, Lost index (actions.foldl (Tracing.step options) state) := by
  induction actions generalizing state with
  | nil => exact absurd trivial overwritten
  | cons action rest ih =>
    cases overwrites : overwritesOpen state action with
    | true =>
      obtain ⟨index, lost⟩ := lost_of_overwritesOpen options tidy overwrites
      exact ⟨index, lost.after options rest⟩
    | false =>
      refine ih (tidy.stepped (step_stepped action)) ?_
      intro along
      exact overwritten ⟨overwrites, along⟩

theorem Lost.not_allEnded {state : Tracing} {index : Nat} (tidy : Tidy state)
    (lost : Lost index state) : ¬state.AllEnded := by
  intro all
  have isOpen := lost.1
  unfold Tracing.isOpen at isOpen
  cases found : state.spans[index]? with
  | none => simp [found] at isOpen
  | some impl =>
    simp only [found, Bool.not_eq_true'] at isOpen
    obtain ⟨running, last, same, -, -, terminal⟩ :=
      all index (List.getElem?_eq_some_iff.mp found).1
    rcases tidy.shown index impl found with ⟨-, -, -, allRunning⟩ | ⟨ended, -⟩
    · -- The last status of an open span is running, which is not terminal.
      have shown := allRunning last (by rw [same]; simp)
      rw [shown] at terminal
      simp [terminalStatus] at terminal
    · rw [isOpen] at ended
      cases ended

/-- When every handle is gone, the spans have all ended once exactly if none was overwritten. -/
theorem all_ended_iff_none_overwritten (actions : List SpanAction)
    (gone : (Tracing.run options actions).handles = []) :
    (Tracing.run options actions).AllEnded ↔
      Along (Tracing.step options) (fun state action => overwritesOpen state action = false)
        .initial actions := by
  have tidy : Tidy (Tracing.run options actions) := Tidy.initial.after options actions
  constructor
  · intro all
    by_contra overwritten
    obtain ⟨index, lost⟩ := lost_of_not_along options Tidy.initial overwritten
    exact Lost.not_allEnded tidy lost all
  · intro spared index within
    have all : AllOwned (Tracing.run options actions) :=
      Along.invariant (fun _ action kept free => kept.stepped (step_stepped action) free)
        AllOwned.initial spared
    rcases tidy.shown index _ (List.getElem?_eq_getElem within) with ⟨open', -⟩ | ⟨-, once⟩
    · -- An open span would have a handle, and there is none.
      obtain ⟨handle, held⟩ := all index (by
        simp [Tracing.isOpen, List.getElem?_eq_getElem within, open'])
      simp [Tracing.owned, gone] at held
    · exact once

/-- A library that reads no document. -/
def sampleOptions : TracerOptions := ⟨⟨fun _ => none, fun _ => []⟩, {}⟩

def sampleContext (spanId : String) : SpanContext :=
  ⟨"instance", "trace", spanId, "parent", 0, 0⟩

/-- One handle, with a result before it goes away. -/
def sampleProgram : List SpanAction :=
  [.startBusiness 0 "order" [] "" (sampleContext "first"), .success 0 [] ⟨5, 5⟩,
    .destroy 0 ⟨6, 6⟩]

/-- A program that ends its only span. -/
theorem all_ended_single : (Tracing.run sampleOptions sampleProgram).AllEnded :=
  (all_ended_iff_none_overwritten sampleOptions sampleProgram (by decide +kernel)).mpr
    ⟨rfl, rfl, rfl, trivial⟩

/-- Two handles, the first moved onto the second while both are open. -/
def overwritingProgram : List SpanAction :=
  [.startBusiness 0 "order" [] "" (sampleContext "first"),
    .startBusiness 1 "order" [] "" (sampleContext "second"), .moveAssign 1 0,
    .destroy 1 ⟨6, 6⟩, .destroy 0 ⟨7, 7⟩]

/-- The overwritten span is published once, as running, and never again. -/
theorem overwritten_span_never_ends :
    (Tracing.run sampleOptions overwritingProgram).handles = [] ∧
      (Tracing.run sampleOptions overwritingProgram).statusesOf 1 = ["running"] ∧
      ¬(Tracing.run sampleOptions overwritingProgram).AllEnded := by
  have statuses : (Tracing.run sampleOptions overwritingProgram).statusesOf 1 = ["running"] := by
    decide +kernel
  refine ⟨by decide +kernel, statuses, ?_⟩
  intro all
  obtain ⟨running, last, same, -, -, terminal⟩ := all 1 (by decide +kernel)
  rw [statuses] at same
  have shown : last = "running" := by
    have member : last ∈ ["running"] := by
      rw [same]
      simp
    exact List.mem_singleton.mp member
  rw [shown] at terminal
  simp [terminalStatus] at terminal

end Programs

end PocoDDS.Observability
