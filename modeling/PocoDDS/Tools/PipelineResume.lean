import PocoDDS.Tools.ReleasePipeline

/-! An interrupted pipeline that is resumed ends like one that was never interrupted. -/

namespace PocoDDS.Tools.ReleasePipeline

open CrashLogic ProcessLogic Process OutcomeLogic

section Specification

variable {τ : Type} (host : PipelineHost τ)

/-- What the stages from a state and a tree on come to when nothing interrupts them: the result, the
state document and the tree. -/
def finish : PipelineState → List PipelineStage → τ → Except String Nat × PipelineState × τ
  | state, [], tree => (.ok 0, { state with status := .complete }, tree)
  | state, stage :: rest, tree =>
    let running : StageState := { id := stage.id, status := .running, command := stage.command }
    let built := (host.execute stage tree).2
    match fileEvidence host tree stage.requiredInputs with
    | .error message => (.error message, state, tree)
    | .ok _ =>
      match (host.execute stage tree).1 with
      | .exited code =>
        if code ≠ 0 then
          (.ok 1, { state with
            status := .failed
            stages := state.stages ++ [{ running with exitCode := some code, status := .failed }] },
            built)
        else
          match fileEvidence host built stage.requiredOutputs with
          | .error message =>
            (.error message, { state with stages := state.stages ++ [running] }, built)
          | .ok outputs =>
            finish { state with stages := state.stages ++
              [{ running with exitCode := some code, outputs, status := .passed }] } rest built
      | .timedOut =>
        (.ok 1, { state with
          status := .failed
          stages := state.stages ++ [{ running with status := .timedOut }] }, built)

/-- The trees that interruptions around the command of a stage, however often it is begun again, may
leave. -/
inductive Leftover (stage : PipelineStage) (tree : τ) : τ → Prop
  | untouched : Leftover stage tree tree
  | finished {left : τ} : Leftover stage tree left → Leftover stage tree (host.execute stage left).2
  | broken {left part : τ} : Leftover stage tree left → part ∈ host.partials stage left →
      Leftover stage tree part

/-- The command of a stage is idempotent, and can be repeated after an interruption as if it had not
been begun. -/
structure Repeatable (stage : PipelineStage) : Prop where
  finished : ∀ tree, host.execute stage (host.execute stage tree).2 = host.execute stage tree
  broken : ∀ tree, ∀ part ∈ host.partials stage tree,
    host.execute stage part = host.execute stage tree

/-- Along the run, no stage changes a required output of a stage before it, and none takes away its
own required inputs. -/
def Orderly : List PipelineStage → List PipelineStage → τ → Prop
  | _, [], _ => True
  | done, stage :: rest, tree =>
    (∀ path ∈ stage.requiredInputs, (host.read tree path).isSome) →
      (∀ left, Leftover host stage tree left →
        (∀ earlier ∈ done, ∀ path ∈ earlier.requiredOutputs,
          host.read left path = host.read tree path) ∧
        ∀ path ∈ stage.requiredInputs, (host.read left path).isSome) ∧
      ((host.execute stage tree).1 = .exited 0 →
        Orderly (done ++ [stage]) rest (host.execute stage tree).2)

/-- Every stage of a plan is recorded as passed, with outputs that the build tree holds. -/
structure Certified (plan : ReleasePlan) (state : PipelineState) (tree : τ) : Prop where
  stages : state.stages.map StageState.id = plan.stages.map PipelineStage.id
  passed : ∀ item ∈ state.stages, item.status = .passed
  outputs : ∀ item ∈ state.stages, ∀ output ∈ item.outputs, output.matches host tree = true

end Specification

section Evidence

variable {τ : Type} {host : PipelineHost τ}

theorem fileEvidence_isOk {tree : τ} {paths : List String} :
    (∃ evidence, fileEvidence host tree paths = .ok evidence) ↔
      ∀ path ∈ paths, (host.read tree path).isSome := by
  induction paths with
  | nil => simp [fileEvidence]
  | cons path rest ih =>
    rw [List.forall_mem_cons, ← ih, fileEvidence]
    cases host.read tree path with
    | none => simp
    | some content => cases fileEvidence host tree rest <;> simp

theorem fileEvidence_matches {tree : τ} {paths : List String} {evidence : List OutputEvidence}
    (taken : fileEvidence host tree paths = .ok evidence) :
    ∀ item ∈ evidence, item.path ∈ paths ∧ item.matches host tree = true := by
  induction paths generalizing evidence with
  | nil =>
    obtain rfl : [] = evidence := Except.ok.inj taken
    simp
  | cons path rest ih =>
    rw [fileEvidence] at taken
    cases present : host.read tree path with
    | none => simp [present] at taken
    | some content =>
      simp only [present] at taken
      obtain ⟨others, found, joined⟩ := bind_eq_ok.mp taken
      obtain rfl := pure_eq_ok.mp joined
      intro item member
      rcases List.mem_cons.mp member with rfl | later
      · exact ⟨by simp, by simp [OutputEvidence.matches, present]⟩
      · obtain ⟨listed, same⟩ := ih found item later
        exact ⟨List.mem_cons_of_mem _ listed, same⟩

/-- Only the file itself matters for whether a recorded output matches. -/
theorem OutputEvidence.matches_congr {item : OutputEvidence} {first second : τ}
    (same : host.read first item.path = host.read second item.path) :
    item.matches host first = item.matches host second := by
  simp [OutputEvidence.matches, same]

theorem verifyCompletedOutputs_ok {tree : τ} {outputs : List OutputEvidence}
    (matching : ∀ item ∈ outputs, item.matches host tree = true) :
    verifyCompletedOutputs host tree outputs = .ok () := by
  induction outputs with
  | nil => rfl
  | cons item rest ih =>
    rw [verifyCompletedOutputs, if_pos (matching item (by simp))]
    exact ih fun other member => matching other (List.mem_cons_of_mem _ member)

end Evidence

section Records

variable {stages : List StageState}

/-- A record is found under its id when it is the only one with it. -/
theorem lookupStage_of_mem {item : StageState} (member : item ∈ stages)
    (distinct : (stages.map StageState.id).Nodup) : lookupStage stages item.id = some item := by
  unfold lookupStage
  cases found : stages.reverse.find? fun other => other.id = item.id with
  | none =>
    have absent := List.find?_eq_none.mp found item (List.mem_reverse.mpr member)
    simp at absent
  | some other =>
    have listed := List.mem_reverse.mp (List.mem_of_find?_eq_some found)
    have same : other.id = item.id := by simpa using List.find?_some found
    rw [List.inj_on_of_nodup_map distinct listed member same]

theorem lookupStage_of_not_mem {id : String} (absent : id ∉ stages.map StageState.id) :
    lookupStage stages id = none := by
  refine List.find?_eq_none.mpr ?_
  intro item member
  have differs : item.id ≠ id := by
    intro same
    exact absent (List.mem_map.mpr ⟨item, List.mem_reverse.mp member, same⟩)
  simpa using differs

/-- Placing a record at the end appends it. -/
theorem placeStage_length (stages : List StageState) (item : StageState) :
    placeStage stages stages.length item = stages ++ [item] := by
  simp [placeStage]

theorem placeStage_last {last : StageState} (apart : last ∉ stages) (item : StageState) :
    placeStage (stages ++ [last]) ((stages ++ [last]).idxOf last) item = stages ++ [item] := by
  have position : (stages ++ [last]).idxOf last = stages.length := by
    simp [List.idxOf_append, apart]
  rw [position, placeStage]
  simp

end Records

section Progress

variable {τ : Type} {host : PipelineHost τ} {task : PipelineTask} {start : τ}

/-- A state document of this task. -/
def stateWith (task : PipelineTask) (status : PipelineStatus) (stages : List StageState) :
    PipelineState :=
  { initialState task with status, stages }

def passedRecord (stage : PipelineStage) (outputs : List OutputEvidence) : StageState where
  id := stage.id
  status := .passed
  command := stage.command
  exitCode := some 0
  outputs := outputs

/-- Some stages have passed, and the others go on from there to the end of the whole run. -/
structure Reached (host : PipelineHost τ) (task : PipelineTask) (start : τ)
    (done rest : List PipelineStage) (records : List StageState) (tree : τ) : Prop where
  split : task.plan.stages = done ++ rest
  same : finish host (initialState task) task.plan.stages start =
    finish host (stateWith task .running records) rest tree
  ids : records.map StageState.id = done.map PipelineStage.id
  passed : ∀ item ∈ records, item.status = .passed
  outputs : ∀ item ∈ records, ∀ output ∈ item.outputs,
    output.matches host tree = true ∧ ∃ stage ∈ done, output.path ∈ stage.requiredOutputs
  orderly : Orderly host done rest tree
  repeatable : ∀ stage ∈ rest, Repeatable host stage

/-- The next stage was begun: its record says so, and the tree is one that its command may have
left. A failure is recorded only if the stage does fail. -/
structure Begun (host : PipelineHost τ) (stage : PipelineStage) (tree : τ) (item : StageState)
    (status : PipelineStatus) (left : τ) : Prop where
  id : item.id = stage.id
  unpassed : item.status ≠ .passed
  inputs : ∀ path ∈ stage.requiredInputs, (host.read tree path).isSome
  left : Leftover host stage tree left
  status : status = .running ∨
    (status = .failed ∧ (host.execute stage tree).1 ≠ .exited 0)

/-- What an interruption leaves once the state document exists. -/
inductive Interrupted (host : PipelineHost τ) (task : PipelineTask) (start : τ)
    (disk : PipelineDisk τ) : Prop
  | between (done rest : List PipelineStage) (records : List StageState)
      (reached : Reached host task start done rest records disk.tree)
      (status : PipelineStatus) (ended : status = .running ∨ status = .complete ∧ rest = [])
      (state : disk.state = some (stateWith task status records))
  | within (done : List PipelineStage) (stage : PipelineStage) (later : List PipelineStage)
      (records : List StageState) (tree : τ) (item : StageState) (status : PipelineStatus)
      (reached : Reached host task start done (stage :: later) records tree)
      (begun : Begun host stage tree item status disk.tree)
      (state : disk.state = some (stateWith task status (records ++ [item])))

/-- The disk at the end holds what the whole run comes to, and can still be resumed from. -/
structure Ended (host : PipelineHost τ) (task : PipelineTask) (start : τ)
    (outcome : Except String Nat) (disk : PipelineDisk τ) : Prop where
  whole : ∃ state, disk.state = some state ∧
    finish host (initialState task) task.plan.stages start = (outcome, state, disk.tree)
  interrupted : Interrupted host task start disk

theorem Reached.begin (orderly : Orderly host [] task.plan.stages start)
    (repeatable : ∀ stage ∈ task.plan.stages, Repeatable host stage) :
    Reached host task start [] task.plan.stages [] start where
  split := rfl
  same := rfl
  ids := rfl
  passed := by simp
  outputs := by simp
  orderly := orderly
  repeatable := repeatable

variable {done : List PipelineStage} {tree : τ} {records : List StageState} {stage : PipelineStage}
  {later : List PipelineStage}
  (reached : Reached host task start done (stage :: later) records tree)
  (inputs : ∀ path ∈ stage.requiredInputs, (host.read tree path).isSome)
include reached inputs

theorem Reached.kept {left : τ} (member : Leftover host stage tree left) :
    ∀ item ∈ records, ∀ output ∈ item.outputs, output.matches host left = true := by
  intro item listed output recorded
  obtain ⟨matching, earlier, before, path⟩ := reached.outputs item listed output recorded
  have untouched := (reached.orderly inputs).1 left member |>.1 earlier before _ path
  rw [OutputEvidence.matches_congr untouched]
  exact matching

theorem Reached.pass {outputs : List OutputEvidence}
    (exited : (host.execute stage tree).1 = .exited 0)
    (taken : fileEvidence host (host.execute stage tree).2 stage.requiredOutputs = .ok outputs) :
    Reached host task start (done ++ [stage]) later
      (records ++ [passedRecord stage outputs]) (host.execute stage tree).2 := by
  have built : Leftover host stage tree (host.execute stage tree).2 := .finished .untouched
  obtain ⟨evidence, present⟩ := fileEvidence_isOk.mpr inputs
  constructor
  · rw [reached.split, List.append_assoc, List.singleton_append]
  · rw [reached.same, finish]
    simp only [present, exited, ne_eq, not_true_eq_false, if_false, taken]
    rfl
  · simp [reached.ids, passedRecord]
  · intro item member
    rcases List.mem_append.mp member with earlier | new
    · exact reached.passed item earlier
    · rw [List.mem_singleton.mp new, passedRecord]
  · intro item member output recorded
    rcases List.mem_append.mp member with earlier | new
    · obtain ⟨-, owner, before, path⟩ := reached.outputs item earlier output recorded
      exact ⟨reached.kept inputs built item earlier output recorded, owner,
        List.mem_append_left _ before, path⟩
    · rw [List.mem_singleton.mp new] at recorded
      obtain ⟨path, matching⟩ := fileEvidence_matches taken output recorded
      exact ⟨matching, stage, by simp, path⟩
  · exact (reached.orderly inputs).2 exited
  · exact fun other member => reached.repeatable other (List.mem_cons_of_mem _ member)

omit reached inputs

theorem Interrupted.certified {disk : PipelineDisk τ} {state : PipelineState}
    (interrupted : Interrupted host task start disk) (found : disk.state = some state)
    (complete : state.status = .complete) : Certified host task.plan state disk.tree := by
  cases interrupted with
  | between done rest records reached status ended stored =>
    obtain rfl := Option.some.inj (found.symm.trans stored)
    obtain rfl : rest = [] := by
      rcases ended with running | ⟨-, none⟩
      · simp [stateWith, running] at complete
      · exact none
    have all : task.plan.stages = done := by simpa using reached.split
    exact ⟨reached.ids.trans (by rw [all]), reached.passed,
      fun item member output recorded => (reached.outputs item member output recorded).1⟩
  | within done stage later records tree item status reached begun stored =>
    obtain rfl := Option.some.inj (found.symm.trans stored)
    rcases begun.status with running | ⟨failed, -⟩
    · simp [stateWith, running] at complete
    · simp [stateWith, failed] at complete

end Progress

section Stages

variable {τ : Type} {host : PipelineHost τ} {task : PipelineTask} {start : τ}
variable {stage : PipelineStage} {state : PipelineState} {disk : PipelineDisk τ}
  {post : Except String Unit → PipelineDisk τ → Prop} {previous : Option StageState}
  {existing : List StageState}

/-- Repeating the command on what an interruption left gives what it would have given. -/
theorem Repeatable.execute_eq (repeatable : Repeatable host stage) {tree left : τ}
    (leftover : Leftover host stage tree left) :
    host.execute stage left = host.execute stage tree := by
  induction leftover with
  | untouched => rfl
  | finished _ ih => rw [repeatable.finished, ih]
  | broken _ member ih => rw [repeatable.broken _ _ member, ih]

/-- Every step leaves something that can be resumed, once there is a state document. -/
def Resumable (host : PipelineHost τ) (task : PipelineTask) (start : τ)
    (_ after : PipelineDisk τ) : Prop :=
  after.state.isSome → Interrupted host task start after

variable {allowed : PipelineDisk τ → PipelineDisk τ → Prop}

theorem writeState_wp : (writeState state).wp false allowed post disk ↔
      allowed disk { disk with state := some state } ∧
        post (.ok ()) { disk with state := some state } := by
  rw [writeState, wp_perform]
  simp [Action.atomic]

theorem setLock_wp {owner : Option Nat} : (setLock owner).wp false allowed post disk ↔
      allowed disk { disk with lock := owner } ∧ post (.ok ()) { disk with lock := owner } := by
  rw [setLock, wp_perform]
  simp [Action.atomic]

theorem runCommand_wp {post : Except String CommandOutcome → PipelineDisk τ → Prop} :
    (runCommand host stage).wp false allowed post disk ↔
      (∀ part ∈ host.partials stage disk.tree, allowed disk { disk with tree := part }) ∧
      allowed disk { disk with tree := (host.execute stage disk.tree).2 } ∧
      post (.ok (host.execute stage disk.tree).1)
        { disk with tree := (host.execute stage disk.tree).2 } := by
  rw [runCommand, wp_get_andThen, wp_andThen, wp_perform]
  simp

/-- How a stage that has not passed is entered: for the first time, or again. -/
inductive Entry (host : PipelineHost τ) (task : PipelineTask) (stage : PipelineStage)
    (records : List StageState) (tree : τ) (disk : PipelineDisk τ) :
    Option StageState → PipelineState → Prop
  | fresh (untouched : disk.tree = tree) :
      Entry host task stage records tree disk none (stateWith task .running records)
  | again {item : StageState} {status : PipelineStatus}
      (begun : Begun host stage tree item status disk.tree) :
      Entry host task stage records tree disk (some item)
        (stateWith task status (records ++ [item]))

/-- What running a stage guarantees. -/
def StageDone (host : PipelineHost τ) (task : PipelineTask) (start : τ)
    (done later : List PipelineStage) (stage : PipelineStage) (records : List StageState) :
    Except String (Bool × PipelineState) → PipelineDisk τ → Prop
  | .error message, after => Ended host task start (.error message) after
  | .ok (false, _), after => Ended host task start (.ok 1) after
  | .ok (true, state), after => after.state = some state ∧ ∃ outputs,
      state = stateWith task .running (records ++ [passedRecord stage outputs]) ∧
      Reached host task start (done ++ [stage]) later (records ++ [passedRecord stage outputs])
        after.tree

/-- What the two ways of entering have in common once the inputs are there. -/
structure Underway (host : PipelineHost τ) (task : PipelineTask) (stage : PipelineStage)
    (tree left : τ) (status : PipelineStatus) : Prop where
  inputs : ∀ path ∈ stage.requiredInputs, (host.read tree path).isSome
  leftover : Leftover host stage tree left
  status : status = .running ∨ status = .failed ∧ (host.execute stage tree).1 ≠ .exited 0

/-- The inputs of an entered stage are checked as in the uninterrupted run. -/
theorem Entry.underway {done later : List PipelineStage} {records : List StageState} {tree : τ}
    (entry : Entry host task stage records tree disk previous state)
    (reached : Reached host task start done (stage :: later) records tree)
    (stored : disk.state = some state) :
    match fileEvidence host disk.tree stage.requiredInputs with
    | .ok _ => Underway host task stage tree disk.tree state.status
    | .error message => Ended host task start (.error message) disk := by
  cases entry with
  | fresh untouched =>
    rw [untouched]
    cases taken : fileEvidence host tree stage.requiredInputs with
    | ok evidence => exact ⟨fileEvidence_isOk.mp ⟨evidence, taken⟩, .untouched, .inl rfl⟩
    | error message =>
      refine ⟨⟨_, stored, ?_⟩, .between done _ records (untouched ▸ reached) _ (.inl rfl) stored⟩
      rw [reached.same, finish, taken, untouched]
  | again begun =>
    -- The inputs were there before the command was begun, and it does not take them away.
    have present := ((reached.orderly begun.inputs).1 _ begun.left).2
    obtain ⟨evidence, taken⟩ := fileEvidence_isOk.mpr present
    rw [taken]
    exact ⟨begun.inputs, begun.left, begun.status⟩

theorem Underway.interrupted {done later : List PipelineStage} {records : List StageState}
    {tree left : τ} {status : PipelineStatus} {item : StageState} {lock : Option Nat}
    (underway : Underway host task stage tree left status)
    (reached : Reached host task start done (stage :: later) records tree) (id : item.id = stage.id)
    (unpassed : item.status ≠ .passed) :
    Interrupted host task start
      { lock, state := some (stateWith task status (records ++ [item])), tree := left } :=
  .within done stage later records tree item status reached
    ⟨id, unpassed, underway.inputs, underway.leftover, underway.status⟩ rfl

/-- A stage that is entered, for the first time or again, ends as in the uninterrupted run. -/
theorem runStage_wp {done later : List PipelineStage} {records : List StageState} {tree : τ}
    (reached : Reached host task start done (stage :: later) records tree)
    (entry : Entry host task stage records tree disk previous state)
    (stored : disk.state = some state) :
    (runStage host state previous stage).wp false (Resumable host task start)
      (StageDone host task start done later stage records) disk := by
  -- The new record goes where the old one was, or to the end.
  have placed : ∀ status item, { state with
      status
      stages := placeStage state.stages (previous.elim state.stages.length state.stages.idxOf)
        item } = stateWith task status (records ++ [item]) := by
    intro status item
    cases entry with
    | fresh untouched =>
      simp only [Option.elim_none]
      rw [stateWith, placeStage_length]
      rfl
    | again begun =>
      have apart : _ ∉ records := fun member => begun.unpassed (reached.passed _ member)
      simp only [Option.elim_some]
      rw [stateWith, placeStage_last apart]
      rfl
  have checked := entry.underway reached stored
  rw [runStage, wp_get_andThen, wp_andThen, wp_ofExcept]
  cases taken : fileEvidence host disk.tree stage.requiredInputs with
  | error message =>
    rw [taken] at checked
    exact checked
  | ok evidence =>
    have underway : Underway host task stage tree disk.tree state.status := by
      simpa [taken] using checked
    have same := (reached.repeatable stage (by simp)).execute_eq underway.leftover
    obtain ⟨found, present⟩ := fileEvidence_isOk.mpr underway.inputs
    have whole := reached.same
    rw [finish, present] at whole
    simp only [placed]
    rw [wp_andThen, writeState_wp]
    refine ⟨fun _ => underway.interrupted reached rfl (by simp), ?_⟩
    dsimp only
    rw [wp_andThen, runCommand_wp]
    have built : Underway host task stage tree (host.execute stage tree).2 state.status :=
      ⟨underway.inputs, .finished .untouched, underway.status⟩
    refine ⟨?_, ?_, ?_⟩
    · intro part member _
      exact Underway.interrupted ⟨underway.inputs, .broken underway.leftover member,
        underway.status⟩ reached rfl (by simp)
    · rw [same]
      exact fun _ => built.interrupted reached rfl (by simp)
    rw [same]
    dsimp only
    cases outcome : (host.execute stage tree).1 with
    | timedOut =>
      simp only [outcome] at whole
      have stopped : Underway host task stage tree (host.execute stage tree).2 .failed :=
        ⟨underway.inputs, .finished .untouched, .inr ⟨rfl, by simp [outcome]⟩⟩
      rw [wp_andThen, writeState_wp]
      exact ⟨fun _ => stopped.interrupted reached rfl (by simp), ⟨_, rfl, whole⟩,
        stopped.interrupted reached rfl (by simp)⟩
    | exited code =>
      dsimp only
      by_cases zero : code = 0
      · subst zero
        -- A stage that passes cannot have been recorded as failed before.
        have running : state.status = .running := by
          rcases underway.status with running | ⟨-, fails⟩
          · exact running
          · exact absurd outcome fails
        simp only [outcome, ne_eq, not_true_eq_false, if_false] at whole ⊢
        rw [wp_get_andThen, wp_andThen, wp_ofExcept]
        cases outputs : fileEvidence host (host.execute stage tree).2 stage.requiredOutputs with
        | error message =>
          rw [outputs] at whole
          refine ⟨⟨_, rfl, ?_⟩, built.interrupted reached rfl (by simp)⟩
          rw [running]
          exact whole
        | ok evidence =>
          have passes := reached.pass underway.inputs outcome outputs
          dsimp only
          rw [wp_andThen, writeState_wp, running]
          exact ⟨fun _ => .between _ _ _ passes _ (.inl rfl) rfl, rfl, evidence, rfl, passes⟩
      · simp only [outcome, ne_eq, zero, not_false_eq_true, if_true] at whole ⊢
        have stopped : Underway host task stage tree (host.execute stage tree).2 .failed :=
          ⟨underway.inputs, .finished .untouched, .inr ⟨rfl, by simp [outcome, zero]⟩⟩
        rw [wp_andThen, writeState_wp]
        exact ⟨fun _ => stopped.interrupted reached rfl (by simp), ⟨_, rfl, whole⟩,
          stopped.interrupted reached rfl (by simp)⟩

theorem completed_wp {done : List PipelineStage} {records : List StageState}
    {status : PipelineStatus} (reached : Reached host task start done [] records disk.tree) :
    (stageLoop host existing (stateWith task status records) []).wp false
      (Resumable host task start) (Ended host task start) disk := by
  have complete : Interrupted host task start
      { disk with state := some (stateWith task .complete records) } :=
    .between done [] records reached .complete (.inr ⟨rfl, rfl⟩) rfl
  rw [stageLoop, wp_andThen, writeState_wp]
  exact ⟨fun _ => complete, ⟨_, rfl, reached.same⟩, complete⟩

theorem stageLoop_fresh_wp {done rest : List PipelineStage} {records : List StageState}
    (reached : Reached host task start done rest records disk.tree)
    (stored : disk.state = some (stateWith task .running records))
    (unknown : ∀ stage ∈ rest, lookupStage existing stage.id = none) :
    (stageLoop host existing (stateWith task .running records) rest).wp false
      (Resumable host task start) (Ended host task start) disk := by
  induction rest generalizing done records disk with
  | nil => exact completed_wp reached
  | cons stage later ih =>
    rw [stageLoop]
    simp only [unknown stage (by simp), Option.any_none, Bool.false_eq_true, if_false]
    rw [wp_andThen]
    refine wp_mono ?_ (runStage_wp reached (.fresh rfl) stored)
    intro outcome after ended
    match outcome with
    | .error message => exact ended
    | .ok (false, _) => exact ended
    | .ok (true, state) =>
      obtain ⟨stored, outputs, rfl, passes⟩ := ended
      exact ih passes stored fun other member => unknown other (List.mem_cons_of_mem _ member)

theorem stageLoop_again_wp {done later : List PipelineStage} {records : List StageState} {tree : τ}
    {item : StageState} {status : PipelineStatus}
    (reached : Reached host task start done (stage :: later) records tree)
    (begun : Begun host stage tree item status disk.tree)
    (stored : disk.state = some (stateWith task status (records ++ [item])))
    (known : lookupStage existing stage.id = some item)
    (unknown : ∀ stage ∈ later, lookupStage existing stage.id = none) :
    (stageLoop host existing (stateWith task status (records ++ [item])) (stage :: later)).wp false
      (Resumable host task start) (Ended host task start) disk := by
  rw [stageLoop]
  simp only [known, Option.any_some, decide_eq_true_eq, begun.unpassed, if_false]
  rw [wp_andThen]
  refine wp_mono ?_ (runStage_wp reached (.again begun) stored)
  intro outcome after ended
  match outcome with
  | .error message => exact ended
  | .ok (false, _) => exact ended
  | .ok (true, state) =>
    obtain ⟨stored, outputs, rfl, passes⟩ := ended
    exact stageLoop_fresh_wp passes stored unknown

theorem stageLoop_skip_wp {skipped rest : List PipelineStage}
    {post : Except String Nat → PipelineDisk τ → Prop}
    (known : ∀ stage ∈ skipped, ∃ item, lookupStage existing stage.id = some item ∧
      item.status = .passed ∧ ∀ output ∈ item.outputs, output.matches host disk.tree = true)
    (ended : (stageLoop host existing state rest).wp false allowed post disk) :
    (stageLoop host existing state (skipped ++ rest)).wp false allowed post disk := by
  induction skipped with
  | nil => exact ended
  | cons stage later ih =>
    obtain ⟨item, found, passed, matching⟩ := known stage (by simp)
    rw [List.cons_append, stageLoop]
    simp only [found, Option.any_some, passed, decide_true, if_true, Option.elim_some]
    rw [wp_get_andThen, wp_andThen, wp_ofExcept, verifyCompletedOutputs_ok matching]
    exact ih fun other member => known other (List.mem_cons_of_mem _ member)

end Stages

section Runs

variable {τ : Type} {host : PipelineHost τ} {task : PipelineTask} {start : τ}
variable {disk : PipelineDisk τ} {invocation : Invocation}

theorem Reached.lookup {done rest : List PipelineStage} {records tail : List StageState} {tree : τ}
    (reached : Reached host task start done rest records tree)
    (distinct : ((records ++ tail).map StageState.id).Nodup) {stage : PipelineStage}
    (member : stage ∈ done) :
    ∃ item ∈ records, lookupStage (records ++ tail) stage.id = some item := by
  have listed : stage.id ∈ records.map StageState.id := by
    rw [reached.ids]
    exact List.mem_map_of_mem member
  obtain ⟨item, recorded, same⟩ := List.mem_map.mp listed
  refine ⟨item, recorded, ?_⟩
  rw [← same]
  exact lookupStage_of_mem (List.mem_append_left _ recorded) distinct

/-- Resuming from what an interruption left comes to the end of the uninterrupted run. -/
theorem stageLoop_resume_wp {state : PipelineState} (interrupted : Interrupted host task start disk)
    (stored : disk.state = some state) :
    (stageLoop host state.stages state task.plan.stages).wp false (Resumable host task start)
      (Ended host task start) disk := by
  have distinct := task.plan.distinct
  cases interrupted with
  | between done rest records reached status ended found =>
    obtain rfl := Option.some.inj (stored.symm.trans found)
    rw [reached.split, List.map_append, ← reached.ids] at distinct
    obtain ⟨once, -, apart⟩ := List.nodup_append.mp distinct
    rw [reached.split]
    refine stageLoop_skip_wp ?_ ?_
    · intro stage member
      have alone : ((records ++ []).map StageState.id).Nodup := by simpa using once
      obtain ⟨item, recorded, known⟩ := reached.lookup alone member
      rw [List.append_nil] at known
      exact ⟨item, known, reached.passed item recorded,
        fun output listed => (reached.outputs item recorded output listed).1⟩
    · rcases ended with rfl | ⟨rfl, rfl⟩
      · refine stageLoop_fresh_wp reached stored fun stage member => lookupStage_of_not_mem ?_
        intro known
        exact apart _ known _ (List.mem_map_of_mem member) rfl
      · -- Everything has passed, and the same document is written once more.
        exact completed_wp reached
  | within done stage later records tree item status reached begun found =>
    obtain rfl := Option.some.inj (stored.symm.trans found)
    have split : task.plan.stages.map PipelineStage.id =
        (records ++ [item]).map StageState.id ++ later.map PipelineStage.id := by
      simp [reached.split, ← reached.ids, begun.id]
    rw [split] at distinct
    obtain ⟨once, -, apart⟩ := List.nodup_append.mp distinct
    rw [reached.split]
    refine stageLoop_skip_wp ?_ ?_
    · intro earlier member
      obtain ⟨known, recorded, found⟩ := reached.lookup once member
      exact ⟨known, found, reached.passed known recorded,
        reached.kept begun.inputs begun.left known recorded⟩
    · refine stageLoop_again_wp reached begun stored ?_ ?_
      · rw [← begun.id]
        exact lookupStage_of_mem (by simp [stateWith]) once
      · intro other member
        refine lookupStage_of_not_mem fun known => ?_
        exact apart _ known _ (List.mem_map_of_mem member) rfl

/-- The lock is no part of what a resumption builds on. -/
theorem Interrupted.relock (interrupted : Interrupted host task start disk) (lock : Option Nat) :
    Interrupted host task start { disk with lock } := by
  cases interrupted with
  | between done rest records reached status ended state =>
    exact .between done rest records reached status ended state
  | within done stage later records tree item status reached begun state =>
    exact .within done stage later records tree item status reached begun state

/-- A lock that an invocation can take: there is none, or its owner is gone. -/
def Takeable (invocation : Invocation) (lock : Option Nat) : Prop :=
  ∀ owner ∈ lock, owner ≠ 0 ∧ invocation.alive owner = false

theorem createLock_wp {allowed : PipelineDisk τ → PipelineDisk τ → Prop}
    (takeable : Takeable invocation disk.lock)
    (harmless : ∀ before lock, allowed before { disk with lock }) :
    (createLock invocation 2).wp false allowed
      (fun outcome after => outcome = .ok () ∧ after = { disk with lock := some 0 }) disk := by
  rw [createLock, wp_get_andThen]
  cases held : disk.lock with
  | none =>
    dsimp only
    rw [setLock_wp]
    exact ⟨harmless _ _, rfl, rfl⟩
  | some owner =>
    obtain ⟨named, gone⟩ := takeable owner held
    dsimp only
    rw [wp_andThen, wp_reject]
    simp only [named, gone, decide_false, Bool.or_false, Bool.false_eq_true, if_false]
    rw [wp_andThen, setLock_wp]
    refine ⟨harmless _ _, ?_⟩
    -- The second round finds no lock any more.
    dsimp only
    rw [createLock, wp_get_andThen]
    dsimp only
    rw [setLock_wp]
    exact ⟨harmless _ _, rfl, rfl⟩

/-- What an invocation guarantees at its end. -/
def Finished (host : PipelineHost τ) (task : PipelineTask) (start : τ)
    (outcome : Except String Nat) (after : PipelineDisk τ) : Prop :=
  Ended host task start outcome after ∧ after.lock = none

theorem execute_wp {resume : Bool} (confirmed : invocation.confirmRun = true)
    (takeable : Takeable invocation disk.lock)
    (resumable : ∀ before lock, Resumable host task start before { disk with lock })
    (planned : (executePlan host task resume).wp false (Resumable host task start)
      (Ended host task start) { disk with lock := some invocation.pid }) :
    (execute host task invocation resume).wp false (Resumable host task start)
      (Finished host task start) disk := by
  rw [execute, wp_andThen, wp_reject, confirmed]
  simp only [Bool.not_true, Bool.false_eq_true, if_false]
  rw [wp_andThen]
  refine wp_mono ?_ (createLock_wp takeable resumable)
  intro outcome locked created
  obtain ⟨rfl, rfl⟩ := created
  dsimp only
  rw [wp_ensuring, executeLocked, wp_andThen, setLock_wp]
  refine ⟨resumable _ _, wp_mono ?_ planned⟩
  intro result after ended
  rw [setLock_wp]
  exact ⟨fun _ => ended.interrupted.relock none, ⟨ended.whole, ended.interrupted.relock none⟩, rfl⟩

/-- An invocation that is confirmed and finds a lock it can take. -/
structure Admitted (invocation : Invocation) (disk : PipelineDisk τ) : Prop where
  confirmed : invocation.confirmRun = true
  takeable : Takeable invocation disk.lock

/-- A first run leaves only what can be resumed, and ends as it should. -/
theorem execute_run {fresh : PipelineDisk τ}
    (repeatable : ∀ stage ∈ task.plan.stages, Repeatable host stage)
    (orderly : Orderly host [] task.plan.stages fresh.tree) (unused : fresh.state = none)
    (admitted : Admitted invocation fresh) :
    (∀ point ∈ ((execute host task invocation false).start fresh []).2.seen,
      point.state.isSome → Interrupted host task fresh.tree point) ∧
    Finished host task fresh.tree ((execute host task invocation false).start fresh []).1
      ((execute host task invocation false).start fresh []).2.state := by
  have reached := Reached.begin orderly repeatable
  have begun : ∀ before lock, Resumable host task fresh.tree before { fresh with lock } := by
    intro before lock present
    simp [unused] at present
  have planned : (executePlan host task false).wp false (Resumable host task fresh.tree)
      (Ended host task fresh.tree) { fresh with lock := some invocation.pid } := by
    rw [executePlan, wp_get_andThen]
    simp only [Bool.false_eq_true, if_false, unused, Option.isSome_none]
    rw [wp_andThen, wp_reject]
    simp only [Bool.false_eq_true, if_false]
    rw [wp_andThen, writeState_wp]
    refine ⟨fun _ => .between [] _ [] reached .running (.inl rfl) rfl, ?_⟩
    exact stageLoop_fresh_wp reached rfl fun stage _ => rfl
  refine start_of_wp (execute_wp admitted.confirmed admitted.takeable begun planned) ?_ ?_
    fun _ => rfl
  · exact fun before after resumable => resumable
  · intro present
    simp [unused] at present

/-- A resumption leaves only what can be resumed again, and ends like the uninterrupted run. -/
theorem execute_resume (interrupted : Interrupted host task start disk)
    (admitted : Admitted invocation disk) :
    (∀ point ∈ ((execute host task invocation true).start disk []).2.seen,
      point.state.isSome → Interrupted host task start point) ∧
    Finished host task start ((execute host task invocation true).start disk []).1
      ((execute host task invocation true).start disk []).2.state := by
  have begun : ∀ before lock, Resumable host task start before { disk with lock } :=
    fun _ lock _ => interrupted.relock lock
  have stored : ∃ status stages, disk.state = some (stateWith task status stages) := by
    cases interrupted with
    | between done rest records reached status ended state => exact ⟨_, _, state⟩
    | within done stage later records tree item status reached begun state => exact ⟨_, _, state⟩
  obtain ⟨status, stages, stored⟩ := stored
  have planned : (executePlan host task true).wp false (Resumable host task start)
      (Ended host task start) { disk with lock := some invocation.pid } := by
    rw [executePlan, wp_get_andThen]
    simp only [stored, if_true]
    -- The plan and the source are those that the document was made for.
    rw [wp_andThen, wp_reject]
    simp only [stateWith, initialState, ne_eq, not_true_eq_false, decide_false, Bool.or_false,
      Bool.false_eq_true, if_false]
    have held := interrupted.relock (some invocation.pid)
    rw [stored] at held
    exact stageLoop_resume_wp held rfl
  refine start_of_wp (execute_wp admitted.confirmed admitted.takeable begun planned) ?_ ?_
    fun _ => rfl
  · exact fun before after resumable => resumable
  · exact fun _ => interrupted

/-- What is left when a run, and any number of resumptions after it, were killed: each after it had
a state document, and not between creating its lock and writing its process id into it. -/
inductive Killed (host : PipelineHost τ) (task : PipelineTask) (first : Invocation)
    (fresh : PipelineDisk τ) : PipelineDisk τ → Prop
  | run {point : PipelineDisk τ}
      (passed : point ∈ ((execute host task first false).start fresh []).2.seen)
      (stored : point.state.isSome) (named : point.lock ≠ some 0) : Killed host task first fresh point
  | resume {before point : PipelineDisk τ} {invocation : Invocation}
      (killed : Killed host task first fresh before) (admitted : Admitted invocation before)
      (passed : point ∈ ((execute host task invocation true).start before []).2.seen)
      (stored : point.state.isSome) (named : point.lock ≠ some 0) : Killed host task first fresh point

/-- However often it was killed, what is left can be resumed. -/
theorem Killed.interrupted {first : Invocation} {fresh point : PipelineDisk τ}
    (killed : Killed host task first fresh point)
    (repeatable : ∀ stage ∈ task.plan.stages, Repeatable host stage)
    (orderly : Orderly host [] task.plan.stages fresh.tree) (unused : fresh.state = none)
    (admitted : Admitted first fresh) : Interrupted host task fresh.tree point := by
  induction killed with
  | run passed stored _ =>
    exact (execute_run repeatable orderly unused admitted).1 _ passed stored
  | resume _ again passed stored _ ih => exact (execute_resume ih again).1 _ passed stored

/-- A build tree of two files, and commands that write their own bytes to one of them. -/
def sampleHost : PipelineHost (List UInt8 × List UInt8) where
  read := fun tree path => if path = "first.txt" then some tree.1 else some tree.2
  sha256 := fun content => if content = [1] then "4bf5122f" else "dbc1b4c9"
  execute := fun stage tree =>
    (.exited 0, if stage.command = ["write", "first.txt", "1"] then ([1], tree.2)
      else if stage.command = ["write", "first.txt", "2"] then ([2], tree.2) else (tree.1, [2]))
  partials := fun _ _ => []

def sampleFirst : PipelineStage where
  id := "first"
  command := ["write", "first.txt", "1"]
  requiredOutputs := ["first.txt"]

def sampleSecond (file : String) : PipelineStage where
  id := "second"
  command := ["write", file, "2"]
  requiredOutputs := [file]

def sampleDocument (file : String) : PlanDocument where
  schemaVersion := 1
  pipelineId := "sample"
  rootsExist := true
  stages := [sampleFirst, sampleSecond file]
  insideBuild := fun _ => true
  insideRoots := fun _ => true

def sampleTask (file : String) : PipelineTask where
  plan :=
    { pipelineId := "sample"
      stages := (sampleDocument file).stages
      nonempty := by simp [sampleDocument]
      distinct := by simp [sampleDocument, sampleFirst, sampleSecond] }
  planSha256 := "e3b0c442"
  source := "0a1b2c3d"

def sampleInvocation (pid : Nat) (positive : 0 < pid) : Invocation where
  pid := pid
  alive := fun other => other == pid
  positive := positive

def sampleFresh : PipelineDisk (List UInt8 × List UInt8) where
  tree := ([], [])

/-- The disk after the second stage was recorded, before the document was marked complete. -/
def sampleKilled (file : String) (tree : List UInt8 × List UInt8) :
    PipelineDisk (List UInt8 × List UInt8) where
  lock := some 7
  state := some (stateWith (sampleTask file) .running
    [passedRecord sampleFirst [⟨"first.txt", 1, "4bf5122f"⟩],
      passedRecord (sampleSecond file) [⟨file, 1, "dbc1b4c9"⟩]])
  tree := tree

theorem sample_repeatable (stage : PipelineStage) : Repeatable sampleHost stage where
  finished := by
    intro tree
    simp only [sampleHost]
    split
    · rfl
    · split <;> rfl
  broken := by simp [sampleHost]

/-- A second stage with a file of its own leaves the first file alone, however it is interrupted. -/
theorem sample_leftover {tree left : List UInt8 × List UInt8}
    (leftover : Leftover sampleHost (sampleSecond "second.txt") tree left) : left.1 = tree.1 := by
  induction leftover with
  | untouched => rfl
  | finished _ ih => simpa [sampleHost, sampleSecond] using ih
  | broken _ member _ => simp [sampleHost] at member

theorem sample_orderly :
    Orderly sampleHost [] (sampleTask "second.txt").plan.stages sampleFresh.tree := by
  refine fun _ => ⟨fun left _ => ⟨by simp, by simp [sampleFirst]⟩, fun _ _ => ⟨?_, by simp [Orderly]⟩⟩
  intro left leftover
  refine ⟨?_, by simp [sampleSecond]⟩
  intro earlier member path required
  obtain rfl : earlier = sampleFirst := by simpa using member
  obtain rfl : path = "first.txt" := by simpa [sampleFirst] using required
  have same := sample_leftover leftover
  simp [sampleHost, same]

theorem sample_admitted {pid : Nat} (positive : 0 < pid)
    {disk : PipelineDisk (List UInt8 × List UInt8)}
    (other : ∀ owner ∈ disk.lock, owner ≠ 0 ∧ owner ≠ pid) :
    Admitted (sampleInvocation pid positive) disk where
  confirmed := rfl
  takeable := fun owner held => ⟨(other owner held).1, by
    simpa [sampleInvocation] using (other owner held).2⟩

end Runs

end PocoDDS.Tools.ReleasePipeline
