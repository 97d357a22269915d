import Mathlib.Data.List.Basic
import Mathlib.Tactic

/-! What the subprocess manager reads from its properties file. -/

namespace PocoDDS.ProcessManagement

/-- Text, character by character. -/
abbrev Text := List Char

/-- The library and the file system that the reader relies on. -/
structure Host where
  parseInt : Text → Option Int
  parseBool : Text → Option Bool
  /-- The path below the root directory, unless it is absolute or leads out of it. -/
  resolveRelativePath : Text → Option Text
  isFile : Text → Bool
  parentDirectory : Text → Text
  baseName : Text → Text

/-- The exceptions that the reader throws. -/
inductive ReadFault
  | notFound (key : Text)
  | syntaxError (key : Text)
  | badPath (path : Text)
  | noExecutable (executable : Text)
  | badLocation (location : Text)
  deriving DecidableEq, Repr

structure ConfiguredProcess where
  name : Text
  executable : Text
  arguments : List Text
  initialDirectory : Text
  location : Text := "local".toList
  required : Bool := true
  deriving DecidableEq, Repr

/-- The properties of a file, by their keys. -/
abbrev Properties := Text → Option Text

def decimal (number : Nat) : Text := Nat.toDigits 10 number

section Reading

variable (host : Host)

def getString (properties : Properties) (key : Text) : Except ReadFault Text :=
  match properties key with
  | some value => .ok value
  | none => .error (.notFound key)

def getInt (properties : Properties) (key : Text) (default : Int) : Except ReadFault Int :=
  match properties key with
  | none => .ok default
  | some value =>
    match host.parseInt value with
    | some number => .ok number
    | none => .error (.syntaxError key)

def getBool (properties : Properties) (key : Text) (default : Bool) : Except ReadFault Bool :=
  match properties key with
  | none => .ok default
  | some value =>
    match host.parseBool value with
    | some answer => .ok answer
    | none => .error (.syntaxError key)

def resolve (path : Text) : Except ReadFault Text :=
  match host.resolveRelativePath path with
  | some resolved => .ok resolved
  | none => .error (.badPath path)

/-- The entry of one index, from its properties without their prefix; a disabled one is skipped. -/
def readEntry (properties : Properties) : Except ReadFault (Option ConfiguredProcess) := do
  if !(← getBool host properties "enabled".toList true) then
    return none
  let relativePath ← getString properties "path".toList
  let executable ← resolve host relativePath
  if !host.isFile executable then
    throw (.noExecutable executable)
  let argumentCount ← getInt host properties "argument.count".toList 0
  let arguments ← (List.range argumentCount.toNat).mapM fun argument =>
    getString properties ("argument.".toList ++ decimal argument)
  let initialDirectory ←
    if (properties "workingDirectory".toList).isSome then do
      let directory ← getString properties "workingDirectory".toList
      resolve host directory
    else pure (host.parentDirectory executable)
  let name := (properties "name".toList).getD (host.baseName executable)
  let location := ((properties "location".toList).getD "local".toList).map Char.toLower
  if location ≠ "local".toList ∧ location ≠ "remote".toList then
    throw (.badLocation location)
  let required ← getBool host properties "required".toList true
  return some { name, executable, arguments, initialDirectory, location, required }

/-- The properties under the prefix of an index. -/
def entryProperties (properties : Properties) (index : Nat) : Properties :=
  fun field => properties ("subprocess.".toList ++ decimal index ++ '.' :: field)

def readCount (properties : Properties) : Except ReadFault Nat := do
  let count ← getInt host properties "subprocess.count".toList 0
  return count.toNat

/-- What the loop of `start` meets, index by index: an entry to start, or an exception. -/
def readSteps (properties : Properties) (count : Nat) :
    List (Except ReadFault (Option ConfiguredProcess)) :=
  (List.range count).map fun index => readEntry host (entryProperties properties index)

/-- The entries of a file that is read to its end. -/
def readEntries (properties : Properties) : Except ReadFault (List ConfiguredProcess) := do
  let count ← readCount host properties
  let entries ← (readSteps host properties count).mapM id
  return entries.filterMap id

end Reading

end PocoDDS.ProcessManagement
