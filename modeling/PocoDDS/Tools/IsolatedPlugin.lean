import PocoDDS.Lib.PyJson
import PocoDDS.Lib.SingleFault
import PocoDDS.Tools.BundleInspection
import PocoDDS.Tools.ReleaseTree

/-! Scaffolding an isolated plugin: an instance directory with the plugin, its dependencies and
generated configurations. -/

namespace PocoDDS.Tools

open AssocList CrashLogic JsonModel PosixPaths ProcessLogic Process

structure ScaffoldReport where
  pluginId : String
  pluginVersion : String
  artifactSha256 : String
  directory : String
  bundles : List String
  hostConfiguration : String
  launcherConfiguration : String
  subprocessSnippet : String
  deploymentFiles : List (String × String)
  memoryBytes : Int
  activeProcessLimit : Int
  cpuRatePercent : Int
  linuxCgroupPath : String
  approvalReport : String
  publisherVerified : Bool
  diagnosticBypass : Bool
  deriving DecidableEq, Repr

/-- The libraries for archives, digests and JSON, and the files as they are when the call begins.
What is read does not change during the call. -/
structure ScaffoldHost where
  zip : ZipReader
  sha256 : List UInt8 → String
  loads : List UInt8 → Except String Json
  dumps : ScaffoldReport → List UInt8
  resolve : PosixPath → PosixPath
  isDirectory : PosixPath → Bool
  file : PosixPath → Option (List UInt8)

structure ScaffoldArguments where
  artifact : PosixPath
  runtimeRoot : PosixPath
  instanceName : String
  dependencyBundles : List PosixPath := []
  approvalReport : PosixPath
  allowDiagnosticBypass : Bool := false
  launcherPath : PosixPath := ⟨false, ["processes", "pdr-launcher", "pdr-launcher"]⟩
  hostPath : PosixPath := ⟨false, ["processes", "pdr-plugin-host", "pdr-plugin-host"]⟩
  heartbeatInterval : Int := 1000
  heartbeatTimeout : Int := 5000
  watchdogInterval : Int := 500
  startupGrace : Int := 10000
  restartDelay : Int := 1000
  maxRestarts : Int := 5
  restartWindow : Int := 60000
  memoryBytes : Int := 0
  activeProcessLimit : Int := 0
  cpuRatePercent : Int := 0
  linuxCgroupPath : Option String := none
  report : Option PosixPath := none

/-- What is below the processes directory, which is itself at the empty path, and the reports that
are written elsewhere. The directory above exists. -/
structure ScaffoldDisk where
  processes : Tree
  elsewhere : List (PosixPath × List UInt8) := []
  deriving DecidableEq, Repr

/-- The disk, and what has been printed. -/
abbrev ScaffoldState :=
  ScaffoldDisk × List String

/-- A bundle that has been inspected. -/
structure BundleSource where
  path : PosixPath
  content : List UInt8
  info : BundleInfo
  deriving DecidableEq, Repr

/-- The name of its file, which is also that of its copy. -/
def BundleSource.fileName (source : BundleSource) : String :=
  source.path.name

/-- What the checks hand on to the part that creates the instance. -/
structure ScaffoldPlan where
  artifact : BundleSource
  artifactSha256 : String
  publisherVerified : Bool
  diagnosticBypass : Bool
  runtimeRoot : PosixPath
  processesRoot : PosixPath
  /-- The instance directory, below the processes directory. -/
  parts : List String
  launcher : PosixPath
  host : PosixPath
  dependencies : List (String × BundleSource)
  deriving DecidableEq, Repr

/-- A file operation that reads only may raise all the same. -/
def ask {α : Type} (answer : α) : Process ScaffoldState α := do
  durable (.atomic fun disk => .ok disk)
  return answer

def makePath (path : List String) : Action ScaffoldDisk :=
  .atomic fun disk =>
    match disk.processes.entry path with
    | some _ => .error "File exists"
    | none => .ok { disk with processes := disk.processes.withDirectory path }

/-- Writing replaces a file, and leaves a part of the content when it is interrupted. -/
def writePath (path : List String) (content : List UInt8) : Action ScaffoldDisk where
  effect disk :=
    -- A directory refuses to be opened for writing, and nothing has been truncated then.
    if disk.processes.entry path = some .directory then .error "Is a directory"
    else .ok { disk with processes := disk.processes.withFile path content }
  torn disk :=
    if disk.processes.entry path = some .directory then []
    else (List.range content.length).map fun size =>
      { disk with processes := disk.processes.withFile path (content.take size) }

/-- `os.replace` of a finished temporary file. -/
def replacePath (path : List String) (content : List UInt8) : Action ScaffoldDisk :=
  .atomic fun disk =>
    if disk.processes.entry path = some .directory then .error "Is a directory"
    else .ok { disk with processes := disk.processes.withFile path content }

def replaceElsewhere (path : PosixPath) (content : List UInt8) : Action ScaffoldDisk :=
  .atomic fun disk => .ok { disk with elsewhere := assign path content disk.elsewhere }

/-- One of the directories of `mkdir(parents=True, exist_ok=True)`. Trying to make a directory below
one that is missing changes nothing, and is no step of its own. -/
def makeMissing (path : List String) : Process ScaffoldState Unit := do
  let found ← get fun state => state.1.processes.entry path
  whenever (found ≠ some .directory) (durable (makePath path))

/-- `atomic_json` -/
def writeScaffoldReport (host : ScaffoldHost) (plan : ScaffoldPlan) (path : PosixPath)
    (report : ScaffoldReport) : Process ScaffoldState Unit :=
  match path.relativeTo plan.processesRoot with
  | some parts => do
    -- The report may lie below the processes directory, like the instance itself.
    forEach parts.dropLast.inits makeMissing
    durable (replacePath parts (host.dumps report))
  | none => durable (replaceElsewhere path (host.dumps report))

/-- `inspect_bundle` of a path that has been resolved. -/
def inspectSource (host : ScaffoldHost) (path : PosixPath) (requirePlugin : Bool) :
    Process ScaffoldState BundleSource := do
  match ← ask (host.file path) with
  | none => raise "plugin artifact must be an existing .bndl file"
  | some content =>
    let info ← ofExcept (readBundle host.zip host.sha256 path.name content requirePlugin)
    return ⟨path, content, info⟩

/-- The numbers that have a least value. -/
def minima (arguments : ScaffoldArguments) : List (String × Int × Int) :=
  [("heartbeat-interval", arguments.heartbeatInterval, 10),
    ("heartbeat-timeout", arguments.heartbeatTimeout, 1),
    ("watchdog-interval", arguments.watchdogInterval, 1),
    ("startup-grace", arguments.startupGrace, 0),
    ("restart-delay", arguments.restartDelay, 0),
    ("max-restarts", arguments.maxRestarts, 0),
    ("restart-window", arguments.restartWindow, 1),
    ("memory-bytes", arguments.memoryBytes, 0),
    ("active-process-limit", arguments.activeProcessLimit, 0)]

def cgroupPath (arguments : ScaffoldArguments) : String :=
  arguments.linuxCgroupPath.getD ""

/-- The checks of the numbers, on a POSIX host. -/
def checkLimits (arguments : ScaffoldArguments) : Process ScaffoldState Unit := do
  forEach (minima arguments) fun (name, value, minimum) =>
    reject (value < minimum) (name ++ " must be at least " ++ toString minimum)
  reject (arguments.cpuRatePercent < 0 || arguments.cpuRatePercent > 100)
    "cpu-rate-percent must be between 0 and 100"
  reject ((arguments.memoryBytes ≠ 0 || arguments.activeProcessLimit ≠ 0 ||
      arguments.cpuRatePercent ≠ 0) && cgroupPath arguments = "")
    "numeric resource limits on Linux require --linux-cgroup-path"

/-- `document.get(key, {})` -/
def getObject (document : Json) (key : String) : Except String Json :=
  (document.get key).map fun found => found.getD (.obj [])

def approvedPreflight (report : Json) : Except String Json := do
  let approval ←
    -- An installation report carries the preflight report inside it.
    if Json.isText (← report.get "operation") "plugin-install" then getObject report "preflight"
    else .ok report
  if !Json.isText (← approval.get "operation") "plugin-preflight" ||
      !Json.isTrue (← approval.get "passed") then
    .error "approval report must contain a successful plugin preflight"
  else .ok approval

def checkApprovedArtifact (approval : Json) (sha256 pluginId : String) : Except String Unit := do
  let approved ← getObject approval "artifact"
  if !Json.isText (← approved.get "sha256") sha256 ||
      !Json.isText (← approved.get "symbolicName") pluginId then
    .error "approval report artifact identity or SHA-256 does not match"
  else .ok ()

/-- Whether the publisher has been verified, and whether that has been bypassed. -/
def checkProvenance (approval : Json) (allowDiagnosticBypass : Bool) :
    Except String (Bool × Bool) := do
  let provenance ← getObject approval "provenance"
  let diagnosticBypass := Json.isTrue (← provenance.get "diagnosticBypass")
  let verified := Json.isTrue (← provenance.get "verified")
  if !verified && !(diagnosticBypass && allowDiagnosticBypass) then
    .error "publisher provenance is not verified; diagnostic bypass was not authorized"
  else .ok (verified, diagnosticBypass)

/-- The dependencies by their symbolic names, of which the last one of a name counts. -/
def inspectDependencies (host : ScaffoldHost) : List PosixPath → List (String × BundleSource) →
    Process ScaffoldState (List (String × BundleSource))
  | [], found => return found
  | path :: rest, found => do
    let path ← ask (host.resolve path)
    let source ← inspectSource host path false
    -- A later bundle of the same symbolic name replaces an earlier one.
    inspectDependencies host rest (upsert source.info.symbolicName source (fun _ => source) found)

def requireFile (host : ScaffoldHost) (path : PosixPath) (label : String) :
    Process ScaffoldState Unit := do
  let found ← ask (host.file path)
  reject found.isNone (label ++ " executable not found: " ++ path.asPosix)

def sortedNames (names : List String) : List String :=
  names.insertionSort (· ≤ ·)

/-- Everything that is checked before anything is created. -/
def scaffoldChecks (host : ScaffoldHost) (arguments : ScaffoldArguments) :
    Process ScaffoldState ScaffoldPlan := do
  let path ← ask (host.resolve arguments.artifact)
  let runtimeRoot ← ask (host.resolve arguments.runtimeRoot)
  let present ← ask (host.isDirectory runtimeRoot)
  reject (!present) ("runtime root does not exist: " ++ runtimeRoot.asPosix)
  reject (!isSymbolicName arguments.instanceName)
    "instance name must contain only letters, digits, dot, underscore or hyphen"
  checkLimits arguments
  let artifact ← inspectSource host path true
  let pluginId := artifact.info.symbolicName
  let reportPath ← ask (host.resolve arguments.approvalReport)
  let report ← ask (host.file reportPath)
  let document ← ofExcept (report.elim (.error "No such file or directory") host.loads)
  let approval ← ofExcept (approvedPreflight document)
  let artifactSha256 ← ask (host.sha256 artifact.content)
  ofExcept (checkApprovedArtifact approval artifactSha256 pluginId)
  let (publisherVerified, diagnosticBypass) ←
    ofExcept (checkProvenance approval arguments.allowDiagnosticBypass)
  let directory ← ask (host.resolve ((runtimeRoot.child "processes").child arguments.instanceName))
  let processesRoot ← ask (host.resolve (runtimeRoot.child "processes"))
  -- Both paths are resolved, so a link out of the processes directory shows here.
  let parts := (directory.relativeTo processesRoot).getD []
  reject parts.isEmpty "isolated plugin instance escapes the Runtime processes directory"
  -- `exists()` looks once; the directory is only created much later.
  let occupied ← get fun state => state.1.processes.entries.any (parts.isPrefixOf ·.1)
  let occupied ← ask occupied
  reject occupied ("isolated plugin instance already exists: " ++ directory.asPosix)
  let launcher ← ask (host.resolve (runtimeRoot.join arguments.launcherPath))
  let pluginHost ← ask (host.resolve (runtimeRoot.join arguments.hostPath))
  requireFile host launcher "launcher"
  requireFile host pluginHost "plugin host"
  let dependencies ← inspectDependencies host arguments.dependencyBundles []
  -- What the dependencies themselves depend on is not asked for.
  let missing := (artifact.info.dependencies.map Prod.fst).filter fun name =>
    name ≠ pluginId ∧ name ∉ keys dependencies
  reject (!missing.isEmpty)
    ("missing dependency Bundle(s): " ++ ", ".intercalate (sortedNames missing))
  return { artifact, artifactSha256, publisherVerified, diagnosticBypass, runtimeRoot,
           processesRoot, parts, launcher, host := pluginHost, dependencies }

namespace ScaffoldPlan

variable (plan : ScaffoldPlan) (arguments : ScaffoldArguments)

def pluginId : String :=
  plan.artifact.info.symbolicName

/-- The instance directory. -/
def directory : PosixPath :=
  ⟨plan.processesRoot.absolute, plan.processesRoot.parts ++ plan.parts⟩

/-- The bundle directory of the instance, below the processes directory. -/
def bundles : List String :=
  plan.parts ++ ["bundles"]

def hostConfig : PosixPath :=
  plan.directory.child "pdr-plugin-host.properties"

def launcherConfig : PosixPath :=
  plan.directory.child "pdr-launcher.properties"

def snippet : PosixPath :=
  plan.directory.child "pdr-subprocess-entry.properties"

def hostConfigLines : List String :=
  -- The core bundle is always allowed and is left out of the list.
  let allowed := (keys plan.dependencies).filter (· ≠ "osp.core")
  ["pluginHost.pluginId = " ++ plan.pluginId,
    "pluginHost.allowedBundles = " ++ ",".intercalate (sortedNames allowed),
    "pluginHost.heartbeatFile = " ++ (plan.directory.child "plugin-host.heartbeat").asPosix,
    "pluginHost.stateFile = " ++ (plan.directory.child "pdr-process-status.json").asPosix,
    "pluginHost.heartbeatIntervalMilliseconds = " ++ toString arguments.heartbeatInterval,
    "osp.bundleRepository = " ++ (plan.directory.child "bundles").asPosix,
    "osp.codeCache = " ++ (plan.directory.child "codeCache").asPosix,
    "osp.data = " ++ (plan.directory.child "data").asPosix,
    "logging.loggers.root.channel = console", "logging.loggers.root.level = information",
    "logging.channels.console.class = ConsoleChannel"]

def launcherConfigLines : List String :=
  ["relaunchDelay = " ++ toString arguments.restartDelay,
    "restartBudget.maxRestarts = " ++ toString arguments.maxRestarts,
    "restartBudget.windowMilliseconds = " ++ toString arguments.restartWindow,
    "resourceLimits.killProcessTreeOnExit = true",
    "resourceLimits.memoryBytes = " ++ toString arguments.memoryBytes,
    "resourceLimits.activeProcessLimit = " ++ toString arguments.activeProcessLimit,
    "resourceLimits.cpuRatePercent = " ++ toString arguments.cpuRatePercent,
    "resourceLimits.linuxCgroupPath = " ++ cgroupPath arguments,
    "watchdog.file = " ++ (plan.directory.child "plugin-host.heartbeat").asPosix,
    "watchdog.timeout = " ++ toString arguments.heartbeatTimeout,
    "watchdog.interval = " ++ toString arguments.watchdogInterval,
    "watchdog.startupGraceMilliseconds = " ++ toString arguments.startupGrace,
    "watchdog.requireFile = true", "childArgument.count = 1",
    "childArgument.0 = --config-file=" ++ plan.hostConfig.asPosix,
    "osp.bundleMonitor.enabled = false",
    "osp.bundleRepository = " ++ (plan.directory.child "launcher-bundles").asPosix,
    "logging.loggers.root.channel = console", "logging.loggers.root.level = information",
    "logging.channels.console.class = ConsoleChannel"]

/-- The subprocess slot, given the launcher and the instance relative to the runtime root. -/
def snippetLines (launcher directory : List String) : List String :=
  ["# Merge this slot into pdr-subprocesses.properties and adjust N/count.",
    "subprocess.N.enabled = true", "subprocess.N.name = " ++ arguments.instanceName,
    "subprocess.N.location = local", "subprocess.N.required = true",
    "subprocess.N.path = " ++ (PosixPath.mk false launcher).asPosix,
    "subprocess.N.workingDirectory = " ++ (PosixPath.mk false directory).asPosix,
    "subprocess.N.argument.count = 2",
    "subprocess.N.argument.0 = --config-file=" ++ plan.launcherConfig.asPosix,
    "subprocess.N.argument.1 = " ++ plan.host.asPosix]

end ScaffoldPlan

/-- The lines of a text file in UTF-8, each with a line feed. -/
def encodeLines (lines : List String) : List UInt8 :=
  ("\n".intercalate lines ++ "\n").toUTF8.data.toList

/-- The names in a directory. -/
def Tree.children (tree : Tree) (path : List String) : List String :=
  tree.entries.filterMap fun entry =>
    match entry.1.getLast? with
    | some name => if entry.1 = path ++ [name] then some name else none
    | none => none

/-- The files of the deployment with their digests. -/
def deploymentFiles (host : ScaffoldHost) (plan : ScaffoldPlan) (disk : ScaffoldDisk)
    (names : List String) : List (String × String) :=
  let files := ["pdr-plugin-host.properties", "pdr-launcher.properties",
      "pdr-subprocess-entry.properties"].map ([·]) ++ names.map (["bundles", ·])
  files.map fun path =>
    ("/".intercalate path, host.sha256 ((disk.processes.fileAt (plan.parts ++ path)).getD []))

def scaffoldReport (host : ScaffoldHost) (arguments : ScaffoldArguments) (plan : ScaffoldPlan)
    (disk : ScaffoldDisk) : ScaffoldReport :=
  let names := sortedNames (disk.processes.children plan.bundles)
  { pluginId := plan.pluginId
    pluginVersion := plan.artifact.info.version
    artifactSha256 := plan.artifactSha256
    directory := plan.directory.asPosix
    bundles := names
    hostConfiguration := plan.hostConfig.asPosix
    launcherConfiguration := plan.launcherConfig.asPosix
    subprocessSnippet := plan.snippet.asPosix
    deploymentFiles := deploymentFiles host plan disk names
    memoryBytes := arguments.memoryBytes
    activeProcessLimit := arguments.activeProcessLimit
    cpuRatePercent := arguments.cpuRatePercent
    linuxCgroupPath := cgroupPath arguments
    approvalReport := (host.resolve arguments.approvalReport).asPosix
    publisherVerified := plan.publisherVerified
    diagnosticBypass := plan.diagnosticBypass }

/-- The directories in the instance and the copies of the bundles. -/
def createBundles (plan : ScaffoldPlan) : Process ScaffoldState Unit := do
  -- None of these calls has a handler: an error leaves what has been made so far.
  durable (makePath plan.bundles)
  durable (makePath (plan.parts ++ ["codeCache"]))
  durable (makePath (plan.parts ++ ["data"]))
  -- Copies go under the file names of their sources, not under symbolic names.
  durable (writePath (plan.bundles ++ [plan.artifact.fileName]) plan.artifact.content)
  forEach plan.dependencies fun (_, source) =>
    durable (writePath (plan.bundles ++ [source.fileName]) source.content)

def belowRoot (path root : PosixPath) : Except String (List String) :=
  match path.relativeTo root with
  | some parts => .ok parts
  | none => .error (path.asPosix ++ " is not in the subpath of " ++ root.asPosix)

/-- The three configurations. -/
def createConfigurations (arguments : ScaffoldArguments) (plan : ScaffoldPlan) :
    Process ScaffoldState Unit := do
  durable (writePath (plan.parts ++ ["pdr-plugin-host.properties"])
    (encodeLines (plan.hostConfigLines arguments)))
  durable (writePath (plan.parts ++ ["pdr-launcher.properties"])
    (encodeLines (plan.launcherConfigLines arguments)))
  durable (makePath (plan.parts ++ ["launcher-bundles"]))
  let launcher ← ofExcept (belowRoot plan.launcher plan.runtimeRoot)
  let directory ← ofExcept (belowRoot plan.directory plan.runtimeRoot)
  durable (writePath (plan.parts ++ ["pdr-subprocess-entry.properties"])
    (encodeLines (plan.snippetLines arguments launcher directory)))

/-- The report of the scaffold, and a second one where that is asked for. -/
def createReports (host : ScaffoldHost) (arguments : ScaffoldArguments) (plan : ScaffoldPlan) :
    Process ScaffoldState Unit := do
  -- The bundle directory is listed twice, and each file of the deployment is read.
  let names ← get fun state => state.1.processes.children plan.bundles
  ask ()
  ask ()
  forEach (List.range (names.length + 3)) fun _ => ask ()
  let report ← get fun state => scaffoldReport host arguments plan state.1
  let manifest := plan.directory.child "scaffold-report.json"
  writeScaffoldReport host plan manifest report
  match arguments.report with
  | none => return
  | some path =>
    let path ← ask (host.resolve path)
    -- The report that was asked for may be the one that has just been written.
    whenever (path ≠ manifest) (writeScaffoldReport host plan path report)

/-- What is put into the instance directory. -/
def fillInstance (host : ScaffoldHost) (arguments : ScaffoldArguments) (plan : ScaffoldPlan) :
    Process ScaffoldState Nat := do
  createBundles plan
  createConfigurations arguments plan
  createReports host arguments plan
  set fun state => (state.1, state.2 ++ ["PLUGIN_ISOLATED_SCAFFOLD_PASS plugin=" ++ plan.pluginId ++
    " instance=" ++ plan.directory.asPosix])
  return 0

/-- The directories above the bundle directory are made together with it. -/
def createInstance (host : ScaffoldHost) (arguments : ScaffoldArguments) (plan : ScaffoldPlan) :
    Process ScaffoldState Nat := do
  forEach plan.parts.inits makeMissing
  fillInstance host arguments plan

/-- `scaffold_isolated_plugin` -/
def scaffoldIsolatedPlugin (host : ScaffoldHost) (arguments : ScaffoldArguments) :
    Process ScaffoldState Nat := do
  let plan ← scaffoldChecks host arguments
  createInstance host arguments plan

end PocoDDS.Tools
