import PocoDDS.Lib.Outcome
import PocoDDS.Lib.Process

/-! The release pipeline: stages that are run, recorded, and resumed after an interruption. -/

namespace PocoDDS.Tools.ReleasePipeline

open CrashLogic ProcessLogic Process OutcomeLogic

/-- One stage of a plan. -/
structure PipelineStage where
  id : String
  command : List String
  timeoutSeconds : ℚ := 600
  requiredInputs : List String := []
  requiredOutputs : List String := []
  workingDirectory : Option String := none
  deriving DecidableEq

/-- The plan document, with what the file system says about its two roots. -/
structure PlanDocument where
  schemaVersion : Int
  pipelineId : String
  rootsExist : Bool
  stages : List PipelineStage
  /-- A path that stays inside the build root. -/
  insideBuild : String → Bool
  /-- A working directory inside the source or the build root. -/
  insideRoots : String → Bool

/-- A plan that `load_plan` returns. -/
structure ReleasePlan where
  pipelineId : String
  stages : List PipelineStage
  nonempty : stages ≠ []
  distinct : (stages.map PipelineStage.id).Nodup

/-- Letters and digits, and after the first character also dots, underscores and dashes. -/
def isIdentity (text : String) : Bool :=
  match text.toList with
  | [] => false
  | first :: rest => first.isAlphanum && rest.all fun character =>
      character.isAlphanum || character == '.' || character == '_' || character == '-'

/-- The checks of one stage, in the order in which they are made. -/
def checkStage (document : PlanDocument) (stage : PipelineStage) : Except String Unit := do
  if !isIdentity stage.id then .error "release pipeline stage identity is invalid"
  if stage.command.isEmpty || stage.command.any (·.toList.contains '\x00') then
    .error ("release pipeline stage command is invalid: " ++ stage.id)
  if stage.timeoutSeconds ≤ 0 ∨ 86400 < stage.timeoutSeconds then
    .error ("release pipeline stage timeout is invalid: " ++ stage.id)
  for value in stage.requiredInputs do
    if !document.insideBuild value then
      .error ("release pipeline requiredInputs escapes its root: " ++ value)
  for value in stage.requiredOutputs do
    if !document.insideBuild value then
      .error ("release pipeline requiredOutputs escapes its root: " ++ value)
  if stage.workingDirectory.any (!document.insideRoots ·) then
    .error "release pipeline working directory escapes source/build roots"

/-- `load_plan`, for documents whose values are of the types it asks for. -/
def loadPlan (document : PlanDocument) : Except String ReleasePlan := do
  if document.schemaVersion ≠ 1 || !isIdentity document.pipelineId then
    .error "release pipeline plan identity is invalid"
  if !document.rootsExist then .error "release pipeline source/build root does not exist"
  if nonempty : document.stages ≠ [] then
    for stage in document.stages do
      checkStage document stage
    if distinct : (document.stages.map PipelineStage.id).Nodup then
      return { pipelineId := document.pipelineId, stages := document.stages, nonempty, distinct }
    else .error "release pipeline stage ids are duplicated"
  else .error "release pipeline has no stages"

/-- What is recorded of a required output. -/
structure OutputEvidence where
  path : String
  size : Nat
  sha256 : String
  deriving DecidableEq

inductive StageStatus
  | running
  | passed
  | failed
  | timedOut
  deriving DecidableEq

/-- The record of a stage; times and the path of its log are left out. -/
structure StageState where
  id : String
  status : StageStatus
  command : List String
  exitCode : Option Int := none
  outputs : List OutputEvidence := []
  deriving DecidableEq

inductive PipelineStatus
  | running
  | failed
  | complete
  deriving DecidableEq

/-- The state document. -/
structure PipelineState where
  pipelineId : String
  status : PipelineStatus
  planSha256 : String
  source : String
  stages : List StageState
  deriving DecidableEq

/-- How the command of a stage ends. -/
inductive CommandOutcome
  | exited (code : Int)
  | timedOut
  deriving DecidableEq

/-- The file system of the build root and the commands, as functions of the build tree. -/
structure PipelineHost (τ : Type) where
  read : τ → String → Option (List UInt8)
  sha256 : List UInt8 → String
  execute : PipelineStage → τ → CommandOutcome × τ
  /-- The trees that an interruption in the middle of a command may leave. -/
  partials : PipelineStage → τ → List τ

/-- What an invocation works on: the plan, its digest and the fingerprint of the source. -/
structure PipelineTask where
  plan : ReleasePlan
  planSha256 : String
  source : String

/-- One call of the tool. -/
structure Invocation where
  confirmRun : Bool := true
  pid : Nat
  alive : Nat → Bool
  positive : 0 < pid

/-- What survives an interruption. A lock file without a process id counts as one of process 0. -/
structure PipelineDisk (τ : Type) where
  lock : Option Nat := none
  state : Option PipelineState := none
  tree : τ
  deriving DecidableEq

section Execution

variable {τ : Type} (host : PipelineHost τ)

/-- `file_evidence`. -/
def fileEvidence (tree : τ) : List String → Except String (List OutputEvidence)
  | [] => .ok []
  | value :: rest =>
    match host.read tree value with
    | none => .error ("release pipeline required file is missing: " ++ value)
    | some content => do
      let others ← fileEvidence tree rest
      return { path := value, size := content.length, sha256 := host.sha256 content } :: others

/-- Whether a recorded output is what the build tree holds. -/
def OutputEvidence.matches (item : OutputEvidence) (tree : τ) : Bool :=
  match host.read tree item.path with
  | none => false
  | some content => content.length == item.size && host.sha256 content == item.sha256

/-- `verify_completed_outputs`. -/
def verifyCompletedOutputs (tree : τ) : List OutputEvidence → Except String Unit
  | [] => .ok ()
  | item :: rest =>
    if item.matches host tree then verifyCompletedOutputs tree rest
    else .error ("completed release pipeline output changed: " ++ item.path)

/-- `atomic_json` of the state document. -/
def writeState (state : PipelineState) : Process (PipelineDisk τ) Unit :=
  perform (.atomic fun disk => .ok { disk with state := some state })

def runCommand (stage : PipelineStage) : Process (PipelineDisk τ) CommandOutcome := do
  let outcome ← get fun disk => (host.execute stage disk.tree).1
  perform
    { effect := fun disk => .ok { disk with tree := (host.execute stage disk.tree).2 }
      torn := fun disk => (host.partials stage disk.tree).map fun tree => { disk with tree } }
  return outcome

/-- The entry of a dictionary of records made from a list: later records replace earlier ones. -/
def lookupStage (stages : List StageState) (id : String) : Option StageState :=
  stages.reverse.find? fun item => item.id = id

/-- The list with the record at a position replaced; at the end, the record is appended. -/
def placeStage (stages : List StageState) (position : Nat) (item : StageState) : List StageState :=
  stages.take position ++ item :: stages.drop (position + 1)

/-- One stage that has not passed before: whether it passes now, and the state it leaves. -/
def runStage (state : PipelineState) (previous : Option StageState) (stage : PipelineStage) :
    Process (PipelineDisk τ) (Bool × PipelineState) := do
  let tree ← get PipelineDisk.tree
  let _ ← ofExcept (fileEvidence host tree stage.requiredInputs)
  let position := previous.elim state.stages.length state.stages.idxOf
  let record := fun (status : PipelineStatus) (item : StageState) =>
    { state with status, stages := placeStage state.stages position item }
  let running : StageState := { id := stage.id, status := .running, command := stage.command }
  writeState (record state.status running)
  let outcome ← runCommand host stage
  match outcome with
  | .exited code =>
    if code ≠ 0 then do
      let after := record .failed { running with exitCode := some code, status := .failed }
      writeState after
      return (false, after)
    else do
      let built ← get PipelineDisk.tree
      -- A missing output raises, and the record on disk still says that the stage is running.
      let outputs ← ofExcept (fileEvidence host built stage.requiredOutputs)
      let after := record state.status
        { running with exitCode := some code, outputs, status := .passed }
      writeState after
      return (true, after)
  | .timedOut => do
    let after := record .failed { running with status := .timedOut }
    writeState after
    return (false, after)

/-- The loop over the stages; `existing` are the records that the invocation found. -/
def stageLoop (existing : List StageState) : PipelineState → List PipelineStage →
    Process (PipelineDisk τ) Nat
  | state, [] => do
    writeState { state with status := .complete }
    return 0
  | state, stage :: rest => do
    let previous := lookupStage existing stage.id
    if previous.any fun item => item.status = .passed then do
      let tree ← get PipelineDisk.tree
      ofExcept (verifyCompletedOutputs host tree (previous.elim [] StageState.outputs))
      stageLoop existing state rest
    else do
      let (passed, after) ← runStage host state previous stage
      if passed then stageLoop existing after rest else return 1

variable (task : PipelineTask)

/-- The state document that a run begins with. -/
def initialState : PipelineState where
  pipelineId := task.plan.pipelineId
  status := .running
  planSha256 := task.planSha256
  source := task.source
  stages := []

/-- `_execute`, for a run or to resume one. -/
def executePlan (resume : Bool) : Process (PipelineDisk τ) Nat := do
  let found ← get PipelineDisk.state
  if resume then
    match found with
    | none => raise "release pipeline state does not exist"
    | some state => do
      reject (state.planSha256 ≠ task.planSha256 || state.source ≠ task.source)
        "release pipeline plan or source changed; resume is unsafe"
      stageLoop host state.stages state task.plan.stages
  else do
    reject found.isSome "release pipeline state already exists; use resume or a new state path"
    writeState (initialState task)
    stageLoop host [] (initialState task) task.plan.stages

/-- The lock file says whose it is, or is removed. -/
def setLock (owner : Option Nat) : Process (PipelineDisk τ) Unit :=
  perform (.atomic fun disk => .ok { disk with lock := owner })

/-- The lock file is created, empty at first, in at most the given number of rounds. -/
def createLock (invocation : Invocation) : Nat → Process (PipelineDisk τ) Unit
  | 0 => raise "cannot acquire release pipeline lock"
  | rounds + 1 => do
    let lock ← get PipelineDisk.lock
    match lock with
    | none => setLock (some 0)
    | some owner => do
      reject (owner = 0 || invocation.alive owner) "release pipeline state is locked"
      setLock none
      createLock invocation rounds

/-- What happens while the lock is held. -/
def executeLocked (invocation : Invocation) (resume : Bool) : Process (PipelineDisk τ) Nat := do
  setLock (some invocation.pid)
  executePlan host task resume

/-- `execute`: the plan under the lock, which is removed at the end in any case. -/
def execute (invocation : Invocation) (resume : Bool) : Process (PipelineDisk τ) Nat := do
  reject (!invocation.confirmRun) "release pipeline execution requires --confirm-run"
  createLock invocation 2
  (executeLocked host task invocation resume).ensuring (setLock none)

/-- The exit code of the tool: an exception is reported and ends it with 1. -/
def exitCode : Except String Nat → Nat
  | .ok code => code
  | .error _ => 1

end Execution

end PocoDDS.Tools.ReleasePipeline
