import PocoDDS.Lib.Assoc
import PocoDDS.ProcessManagement.SubprocessConfiguration
import PocoDDS.Tools.ExternalAcceptance
import PocoDDS.Tools.PythonText
import Mathlib.Data.List.Sort

/-! The properties file of the subprocesses, as the tools edit it and as the runtime reads it. -/

namespace PocoDDS.Tools

open AssocList JsonModel TrimLogic
open ProcessManagement (ConfiguredProcess Host Properties ReadFault Text decimal entryProperties
  getBool readCount readEntry)

/-- What both line patterns end with, `([^=]+?)\s*=\s*(.*)\s*$`, and the stripping of its groups. -/
def assignment (text : Text) : Option (Text × Text) :=
  let field := text.takeWhile (· ≠ '=')
  match text.dropWhile (· ≠ '=') with
  | [] => none
  | _ :: value => if field = [] then none else some (stripText field, stripText value)

/-- `\s*subprocess\.(\d+)\.([^=]+?)\s*=\s*(.*)\s*$` -/
def slotLine (raw : Text) : Option (Nat × Text × Text) := do
  let rest ← (raw.dropWhile isSpace).dropPrefix? "subprocess.".toList
  let digits := rest.takeWhile isDigit
  if digits = [] then none
  else do
    let rest ← (rest.dropWhile isDigit).dropPrefix? ['.']
    let (field, value) ← assignment rest
    return (digitsValue digits, field, value)

/-- `\s*subprocess\.N\.([^=]+?)\s*=\s*(.*)\s*$` -/
def snippetLine (raw : Text) : Option (Text × Text) := do
  let rest ← (raw.dropWhile isSpace).dropPrefix? "subprocess.N.".toList
  assignment rest

/-- `\s*subprocess\.count\s*=` -/
def countLine (raw : Text) : Bool :=
  match (raw.dropWhile isSpace).dropPrefix? "subprocess.count".toList with
  | some rest => (rest.dropWhile isSpace).head? = some '='
  | none => false

/-- The fields of a slot, in the order in which they have been set first. -/
abbrev Slot := List (Text × Text)

def setField (field value : Text) (slot : Slot) : Slot :=
  upsert field value (fun _ => value) slot

def parseLine (parsed : List Text × List (Nat × Slot)) (raw : Text) :
    List Text × List (Nat × Slot) :=
  match slotLine raw with
  | some (index, field, value) =>
    (parsed.1, upsert index [(field, value)] (setField field value) parsed.2)
  | none => if countLine raw then parsed else (parsed.1 ++ [raw], parsed.2)

/-- The preserved lines of a file and its slots by their numbers, in the order of the file. -/
def parseLines (lines : List Text) : List Text × List (Nat × Slot) :=
  lines.foldl parseLine ([], [])

/-- The slots of a file in the order of their numbers. -/
def sortedSlots (lines : List Text) : List (Nat × Slot) :=
  (parseLines lines).2.insertionSort fun first second => first.1 ≤ second.1

/-- The lines of a file, or none where there is no file. -/
abbrev SubprocessFile := Option (List Text)

def parseSubprocessConfiguration : SubprocessFile → List Text × List Slot
  | none => ([], [])
  | some lines => ((parseLines lines).1, (sortedSlots lines).map Prod.snd)

def preferredFields : List Text :=
  ["enabled", "name", "location", "required", "path", "workingDirectory", "argument.count",
    "pdrManaged", "pdrInstanceManifest"].map String.toList

def orderedFields (slot : Slot) : List Text :=
  let fields := preferredFields.filter fun field => field ∈ keys slot
  fields ++ ((keys slot).filter fun field => field ∉ fields).insertionSort (· ≤ ·)

def slotFieldLine (index : Nat) (field value : Text) : Text :=
  "subprocess.".toList ++ decimal index ++ '.' :: field ++ " = ".toList ++ value

def slotLines (index : Nat) (slot : Slot) : List Text :=
  [] :: (orderedFields slot).map fun field =>
    slotFieldLine index field ((valueAt slot field).getD [])

def writeSubprocessConfiguration (preserved : List Text) (slots : List Slot) : List Text :=
  let lines := preserved.rdropWhile fun line => (stripText line).isEmpty
  let lines := if lines = [] then lines else lines ++ [[]]
  lines ++ ["subprocess.count = ".toList ++ decimal slots.length] ++
    slots.zipIdx.flatMap fun slot => slotLines slot.2 slot.1

/-- Equality of dictionaries. -/
def sameSlot (first second : Slot) : Bool :=
  (keys first ++ keys second).all fun field => valueAt first field = valueAt second field

/-- The tools' arguments, apart from the paths. -/
structure EditArguments where
  instanceName : Text
  confirmRuntimeStopped : Bool
  purge : Bool

/-- What an edit meets outside of the properties file. -/
structure Workspace where
  /-- The path that is configured lies inside the runtime root. -/
  configurationPath : Except String Unit
  /-- The scaffold report of an instance passes its checks, and so do the files that it lists. -/
  scaffoldReport : Text → Except String Unit
  /-- The lines of the instance's `pdr-subprocess-entry.properties`. -/
  snippet : Text → List Text
  insideProcesses : Text → Bool
  instanceExists : Text → Bool
  /-- The lock beside the properties file is acquired. -/
  lock : Except String Unit

/-- What an edit did: `written` is what it handed to `_write_subprocess_configuration`, if it
called it. -/
structure Edit where
  changed : Bool
  purged : Bool
  written : Option (List Text × List Slot)

def Edit.after (edit : Edit) (file : SubprocessFile) : SubprocessFile :=
  match edit.written with
  | some (preserved, slots) => some (writeSubprocessConfiguration preserved slots)
  | none => file

/-- `[A-Za-z0-9][A-Za-z0-9._-]*` -/
def validInstanceName (name : Text) : Bool :=
  match name with
  | [] => false
  | first :: rest => first.isAlphanum && rest.all fun character =>
      character.isAlphanum || character = '.' || character = '_' || character = '-'

def loadIsolatedManifest (workspace : Workspace) (name : Text) : Except String Unit := do
  require (validInstanceName name)
    "instance name must contain only letters, digits, dot, underscore or hyphen"
  workspace.scaffoldReport name

/-- `name` is the slot's name. -/
def named (name : Text) (slot : Slot) : Bool := valueAt slot "name".toList = some name

def managed (slot : Slot) : Bool :=
  ((valueAt slot "pdrManaged".toList).getD []).map Char.toLower = "true".toList

/-- The slot that the snippet of an instance describes. -/
def snippetSlot (snippet : List Text) : Slot :=
  snippet.foldl (fun slot raw =>
    match snippetLine raw with
    | some (field, value) => setField field value slot
    | none => slot) []

def managedSlot (name : Text) (snippet : List Text) : Slot :=
  setField "pdrInstanceManifest".toList
    ("processes/".toList ++ name ++ "/scaffold-report.json".toList)
    (setField "pdrManaged".toList "true".toList (snippetSlot snippet))

/-- What `apply_isolated_plugin` does under its lock: the slots, if they are to be written. -/
def placeSlot (name : Text) (slot : Slot) (slots : List Slot) :
    Except String (Option (List Slot)) :=
  match slots.findIdx? (named name) with
  | none => .ok (some (slots ++ [slot]))
  | some index => do
    let current := slots.getD index []
    require (managed current)
      ("subprocess name is owned by an unmanaged entry: " ++ String.ofList name)
    return if sameSlot current slot then none else some (slots.set index slot)

def applyIsolatedPlugin (workspace : Workspace) (arguments : EditArguments)
    (file : SubprocessFile) : Except String Edit := do
  require arguments.confirmRuntimeStopped
    "refusing configuration mutation without --confirm-runtime-stopped"
  loadIsolatedManifest workspace arguments.instanceName
  workspace.configurationPath
  let snippet := workspace.snippet arguments.instanceName
  require (parseSubprocessConfiguration (some snippet)).2.isEmpty
    "isolated scaffold snippet must use the N placeholder"
  require (named arguments.instanceName (snippetSlot snippet) &&
      (valueAt (snippetSlot snippet) "path".toList).isSome)
    "isolated scaffold snippet identity is invalid"
  workspace.lock
  let parsed := parseSubprocessConfiguration file
  let slots ←
    placeSlot arguments.instanceName (managedSlot arguments.instanceName snippet) parsed.2
  return { changed := slots.isSome, purged := false, written := slots.map (parsed.1, ·) }

/-- What `remove_isolated_plugin` does under its lock: the slots, if they are to be written. -/
def dropSlot (name : Text) (slots : List Slot) : Except String (Option (List Slot)) :=
  match slots.findIdx? (named name) with
  | none => .ok none
  | some index => do
    require (managed (slots.getD index []))
      ("refusing to remove unmanaged subprocess: " ++ String.ofList name)
    return some (slots.eraseIdx index)

def removeIsolatedPlugin (workspace : Workspace) (arguments : EditArguments)
    (file : SubprocessFile) : Except String Edit := do
  require arguments.confirmRuntimeStopped
    "refusing configuration mutation without --confirm-runtime-stopped"
  workspace.configurationPath
  require (workspace.insideProcesses arguments.instanceName)
    "isolated plugin instance escapes the Runtime processes directory"
  workspace.lock
  let parsed := parseSubprocessConfiguration file
  let slots ← dropSlot arguments.instanceName parsed.2
  let purges := arguments.purge && workspace.instanceExists arguments.instanceName
  -- Files that belong to no slot are removed only if they are those of a scaffold.
  if purges && slots.isNone then loadIsolatedManifest workspace arguments.instanceName
  return { changed := slots.isSome, purged := purges, written := slots.map (parsed.1, ·) }

end PocoDDS.Tools
