import PocoDDS.Lib.PosixPath
import PocoDDS.Tools.EvidenceBundle
import PocoDDS.Tools.PluginManager
import PocoDDS.Tools.PythonText

/-! Inspecting a bundle: what its archive must look like, and what its manifest says. -/

namespace PocoDDS.Tools

open AssocList EvidenceBundle ExternalAcceptance OutcomeLogic PosixPaths

/-- A line that begins with a blank continues the one before. -/
def unfoldLine (unfolded : List (List Char)) (line : List Char) : List (List Char) :=
  match line, unfolded.getLast? with
  | ' ' :: rest, some last =>
    -- The blanks around a break go, and a backslash before it.
    let previous := stripEnd last
    let previous :=
      if previous.getLast? = some '\\' then stripEnd previous.dropLast else previous
    unfolded.dropLast ++ [previous ++ ' ' :: stripStart rest]
  | _, _ => unfolded ++ [line]

/-- `parse_manifest`: the headers of a manifest, of which the last one of a name counts. -/
def parseManifest (text : String) : List (String × String) :=
  ((splitLines text.toList).foldl unfoldLine []).foldl (fun result line =>
    match partition ':' line with
    | (key, some value) =>
      assign (String.ofList (stripText key)) (String.ofList (stripText value)) result
    | (_, none) => result) []

/-- `manifest.get(name, "")`. -/
def header (manifest : List (String × String)) (name : String) : String :=
  (manifest.lookup name).getD ""

/-- The rest of `split_dependencies`, given what has been read of the current item and how many
brackets are open. -/
def splitDependenciesFrom (item : List Char) (depth : Nat) : List Char → List (List Char)
  | [] => if stripText item = [] then [] else [stripText item]
  | character :: rest =>
    if character = '[' ∨ character = '(' then
      splitDependenciesFrom (item ++ [character]) (depth + 1) rest
    -- A bracket too many is taken as it is: the depth does not go below zero.
    else if (character = ']' ∨ character = ')') ∧ depth ≠ 0 then
      splitDependenciesFrom (item ++ [character]) (depth - 1) rest
    else if character = ',' ∧ depth = 0 then stripText item :: splitDependenciesFrom [] 0 rest
    else splitDependenciesFrom (item ++ [character]) depth rest

def splitDependencies (value : String) : List (List Char) :=
  splitDependenciesFrom [] 0 value.toList

/-- The value of a parameter `bundle-version=`, if that is what it is. -/
def bundleVersion (parameter : List Char) : Option String :=
  if "bundle-version=".toList.isPrefixOf parameter then
    let value := stripText (parameter.drop "bundle-version=".length)
    -- Any number of quotes is taken off, also of unmatched ones.
    some (String.ofList ((value.dropWhile (· = '"')).rdropWhile (· = '"')))
  else none

/-- A required bundle with the version that is requested of it, of which the last one counts. -/
def dependency (item : List Char) : Option (String × String) :=
  match (item.splitOn ';').filterMap fun part =>
      if stripText part = [] then none else some (stripText part) with
  | [] => none
  | id :: parameters =>
    some (String.ofList id, (parameters.filterMap bundleVersion).getLast?.getD "*")

/-- `version_tuple`: `[vV]?(\d+(?:\.\d+){0,3})(?:[-+].*)?` of the stripped text. -/
def bundleVersionTuple (value : String) : Except String (List Nat) :=
  let text := stripText value.toList
  let text := match text with
    | 'v' :: rest => rest
    | 'V' :: rest => rest
    | _ => text
  -- No digit and no dot ends the numbers; a sign does, and begins the free suffix.
  let numbers := text.takeWhile fun character => character ≠ '-' && character ≠ '+'
  let suffix := text.dropWhile fun character => character ≠ '-' && character ≠ '+'
  let parts := numbers.splitOn '.'
  if parts.length ≤ 4 && parts.all (fun part => part ≠ [] && part.all isDigit) &&
      !suffix.contains '\n' then
    .ok (parts.map digitsValue ++ List.replicate (4 - parts.length) 0)
  else .error ("unsupported Bundle version: " ++ value)

structure ArchiveEntry where
  filename : String
  externalAttr : Nat
  fileSize : Nat
  deriving DecidableEq, Repr

/-- The library that reads archives: the entries of one, and an entry as text. -/
structure ZipReader where
  infolist : List UInt8 → Except String (List ArchiveEntry)
  readText : List UInt8 → ArchiveEntry → Except String String

def maxArchiveBytes : Nat := 128 * 1024 * 1024

def maxExpandedBytes : Nat := 512 * 1024 * 1024

def maxFiles : Nat := 4096

/-- `path.suffix`: what begins at the last dot, unless that is an end of the name. -/
def pathSuffix (name : String) : List Char :=
  let extension := name.toList.rtakeWhile (· ≠ '.')
  let stem := (name.toList.rdropWhile (· ≠ '.')).dropLast
  if stem ≠ [] ∧ extension ≠ [] then '.' :: extension else []

/-- Whether the Unix mode of an entry says that it is a link. -/
def ArchiveEntry.isLink (entry : ArchiveEntry) : Bool :=
  (entry.externalAttr >>> 16) &&& 0o170000 == 0o120000

/-- One entry: a path inside the archive that is no link and new, within the size limit. -/
def checkArchiveEntry (state : List String × Nat) (entry : ArchiveEntry) :
    Except String (List String × Nat) := do
  let (names, expanded) := state
  let normalized := PosixPath.parse (String.ofList (entry.filename.toList.map fun character =>
    if character = '\\' then '/' else character))
  require (!(normalized.absolute || normalized.parts.contains ".." || entry.isLink ||
      normalized.parts.isEmpty || names.contains normalized.asPosix))
    ("unsafe or duplicate plugin archive entry: " ++ entry.filename)
  require (expanded + entry.fileSize ≤ maxExpandedBytes)
    "plugin archive exceeds the expanded size limit"
  return (names ++ [normalized.asPosix], expanded + entry.fileSize)

def isSymbolicCharacter (character : Char) : Bool :=
  isAlphanumeric character || character = '.' || character = '_' || character = '-'

/-- `[A-Za-z0-9][A-Za-z0-9._-]*` -/
def isSymbolicName (name : String) : Bool :=
  matchesName isAlphanumeric isSymbolicCharacter name

/-- `pdr\.plugin\.[a-z0-9][a-z0-9._-]*` -/
def isPluginName (name : String) : Bool :=
  match name.toList.dropPrefix? "pdr.plugin.".toList with
  | some rest => matchesName isLowerAlphanumeric (fun character =>
      isLowerAlphanumeric character || character = '.' || character = '_' || character = '-')
      (String.ofList rest)
  | none => false

/-- What a manifest says of its bundle. -/
def bundleInfo (fileName digest : String) (manifest : List (String × String)) : BundleInfo where
  fileName
  canonicalFileName :=
    header manifest "Bundle-SymbolicName" ++ "_" ++ header manifest "Bundle-Version" ++ ".bndl"
  sha256 := digest
  symbolicName := header manifest "Bundle-SymbolicName"
  version := header manifest "Bundle-Version"
  dependencies := (splitDependencies (header manifest "Require-Bundle")).filterMap dependency
  pluginContract := {
    apiVersion := header manifest "PDR-Plugin-API"
    abiVersion := header manifest "PDR-Plugin-ABI"
    abiFingerprint := header manifest "PDR-Plugin-ABI-Fingerprint"
    runtimeVersionRange := header manifest "PDR-Runtime-Version" }

/-- The manifest of an archive, if the archive is one that is allowed. -/
def readManifest (zip : ZipReader) (content : List UInt8) :
    Except String (List (String × String)) := do
  require (content.length ≤ maxArchiveBytes)
    "plugin artifact is a link or exceeds the archive size limit"
  let entries ← zip.infolist content
  require (!entries.isEmpty && entries.length ≤ maxFiles)
    "plugin archive has an invalid file count"
  let _ ← entries.foldlM checkArchiveEntry ([], 0)
  match entries.filter (·.filename = "META-INF/manifest.mf") with
  | [entry] => return parseManifest (← zip.readText content entry)
  | _ => .error "plugin archive must contain exactly one META-INF/manifest.mf"

/-- `inspect_bundle` of a file that exists and is no link. -/
def readBundle (zip : ZipReader) (sha256 : List UInt8 → String) (fileName : String)
    (content : List UInt8) (requirePlugin : Bool) : Except String BundleInfo := do
  require ((pathSuffix fileName).map Char.toLower == ".bndl".toList)
    "plugin artifact must be an existing .bndl file"
  let manifest ← readManifest zip content
  let info := bundleInfo fileName (sha256 content) manifest
  require (isSymbolicName info.symbolicName) "Bundle manifest contains an invalid symbolic name"
  require (!requirePlugin || isPluginName info.symbolicName)
    "only pdr.plugin.* Bundle symbolic names can use plugin transactions"
  let _ ← bundleVersionTuple info.version
  return info

section Accepted

variable {zip : ZipReader} {sha256 : List UInt8 → String} {fileName : String}
  {content : List UInt8} {requirePlugin : Bool} {info : BundleInfo}

/-- What it takes for a bundle to be accepted, apart from the name of its file. -/
structure Acceptable (zip : ZipReader) (content : List UInt8) (requirePlugin : Bool)
    (manifest : List (String × String)) : Prop where
  read : readManifest zip content = .ok manifest
  symbolic : isSymbolicName (header manifest "Bundle-SymbolicName") = true
  plugin : requirePlugin = true → isPluginName (header manifest "Bundle-SymbolicName") = true
  version : ∃ numbers, bundleVersionTuple (header manifest "Bundle-Version") = .ok numbers

theorem readBundle_eq_ok : readBundle zip sha256 fileName content requirePlugin = .ok info ↔
    (pathSuffix fileName).map Char.toLower = ".bndl".toList ∧
      ∃ manifest, Acceptable zip content requirePlugin manifest ∧
        info = bundleInfo fileName (sha256 content) manifest := by
  unfold readBundle
  rw [andThen_eq_ok, require_eq_ok, beq_iff_eq, bind_eq_ok]
  refine and_congr_right fun _ => exists_congr fun manifest => ?_
  rw [andThen_eq_ok, andThen_eq_ok, require_eq_ok, require_eq_ok, bind_eq_ok]
  simp only [pure_eq_ok, Bool.or_eq_true, Bool.not_eq_true']
  constructor
  · rintro ⟨read, symbolic, plugin, numbers, version, rfl⟩
    refine ⟨⟨read, symbolic, fun required => plugin.resolve_left ?_, numbers, version⟩, rfl⟩
    simp [required]
  · rintro ⟨⟨read, symbolic, plugin, numbers, version⟩, rfl⟩
    refine ⟨read, symbolic, ?_, numbers, version, rfl⟩
    cases requirePlugin with
    | false => exact .inl rfl
    | true => exact .inr (plugin rfl)

/-- The file name of a plugin ends as the inventory expects it to. -/
theorem suffix_canonical {front : String} :
    ".bndl".toList.isSuffixOf (front ++ ".bndl").toList = true := by
  rw [List.isSuffixOf_iff_suffix, String.toList_append]
  exact List.suffix_append _ _

end Accepted

end PocoDDS.Tools
