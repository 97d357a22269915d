import PocoDDS.Tools.EvidenceCollection
import PocoDDS.Tools.ReleaseTransfer

/-! The two verifiers of a release manifest, and the manifests on which they agree. -/

namespace PocoDDS.Tools.ReleaseManifest

open EvidenceBundle ExternalAcceptance JsonModel OutcomeLogic PosixPaths

/-- The directory of a package: a tree without links, whose names are those of a file system. -/
structure Package where
  tree : Tree
  formed : tree.WellFormed
  named : ∀ entry ∈ tree.entries, ∀ part ∈ entry.1, IsComponent part

/-- `as_posix()` of a path below a root. -/
def asPosix (parts : List String) : String :=
  "/".intercalate parts

/-- The paths of the files that belong to a release. -/
def actualPaths (root : Tree) : List String :=
  root.released.map fun entry => asPosix entry.1

/-- The paths of a release that no entry has named, in order. -/
def unexpectedPaths (root : Tree) (expected : List String) : List String :=
  ((actualPaths root).filter (!expected.contains ·)).dedup.insertionSort (· ≤ ·)

/-- Whether an entry states the size and the digest of a content; booleans are integers. -/
def describes (sha256 : List UInt8 → String) (entry : Json) (content : List UInt8) : Bool :=
  Json.int? (entry.member "size") == some (content.length : Int) &&
    Json.str? (entry.member "sha256") == some (sha256 content)

/-- `safe_relative`. -/
def safeRelative (value : String) : Except String (List String) :=
  if safeMember value then .ok (PosixPath.parse value).parts
  else .error ("unsafe artifact path: " ++ value)

/-- One round of the loop of `validate_manifest`: paths are remembered in their normal form. -/
def validateEntry (sha256 : List UInt8 → String) (package : Tree) (expected : List String)
    (entry : Json) : Except String (List String) :=
  match Json.str? (entry.member "path") with
  | none => .error "malformed artifact entry"
  | some text => do
    let relative ← safeRelative text
    let normalized := asPosix relative
    require (!expected.contains normalized) ("duplicate artifact entry: " ++ normalized)
    match package.entry relative with
    | some (.file content) =>
      require (describes sha256 entry content) ("artifact verification failed: " ++ normalized)
      return expected ++ [normalized]
    | _ => .error ("missing artifact: " ++ normalized)

/-- `validate_manifest`: the first finding is raised. -/
def validateManifest (sha256 : List UInt8 → String) (document : Json) (package : Tree) :
    Except String Json := do
  let product ← document.get "product"
  require (Json.isText product "PocoDDSRuntime" && Json.isInt (document.member "schemaVersion") 1)
    "unsupported release manifest"
  require (Json.truthy (document.member "files")) "release manifest contains no files"
  let entries ← Json.iterate (document.member "files")
  let expected ← entries.foldlM (validateEntry sha256 package) []
  match unexpectedPaths package expected with
  | [] => return document
  | unexpected :: _ => .error ("unexpected artifact: " ++ unexpected)

/-- One round of the loop of `verify`: findings are collected, and paths remembered as they are
written. -/
def verifyEntry (sha256 : List UInt8 → String) (root : Tree) (state : List String × List String)
    (entry : Json) : List String × List String :=
  let (errors, expectedPaths) := state
  match Json.str? (entry.member "path") with
  | none => (errors ++ ["malformed artifact entry"], expectedPaths)
  | some relativeText =>
    if !safeMember relativeText then
      (errors ++ ["unsafe artifact path: " ++ relativeText], expectedPaths)
    else if expectedPaths.contains relativeText then
      (errors ++ ["duplicate artifact entry: " ++ relativeText], expectedPaths)
    else
      let found := match root.entry (PosixPath.parse relativeText).parts with
        | some (.file content) =>
          if describes sha256 entry content then [] else ["artifact changed: " ++ relativeText]
        | _ => ["missing artifact: " ++ relativeText]
      (errors ++ found, expectedPaths ++ [relativeText])

/-- `verify` without a signature: the code that it returns and the errors that it prints. -/
def verify (sha256 : List UInt8 → String) (document : Json) (root : Tree) :
    Except String (Nat × List String) := do
  let schemaVersion ← document.get "schemaVersion"
  match (document.member "files").bind Json.items? with
  | none => return (1, ["unsupported or malformed release manifest"])
  | some files =>
    if !(Json.isInt schemaVersion 1 && Json.isText (document.member "product") "PocoDDSRuntime") then
      return (1, ["unsupported or malformed release manifest"])
    let (errors, expectedPaths) := files.foldl (verifyEntry sha256 root) ([], [])
    let errors := errors ++
      (unexpectedPaths root expectedPaths).map fun unexpected => "unexpected artifact: " ++ unexpected
    return (if errors.isEmpty then 0 else 1, errors)

section Entries

variable {sha256 : List UInt8 → String} {root : Tree} {entry : Json}
variable {expected : List String} {entries : List Json}

/-- The path of an entry, as it is written. -/
def pathText (entry : Json) : String :=
  (Json.str? (entry.member "path")).getD ""

def pathParts (entry : Json) : List String :=
  (PosixPath.parse (pathText entry)).parts

/-- The path of an entry in its normal form. -/
def pathNormal (entry : Json) : String :=
  asPosix (pathParts entry)

/-- An entry that both verifiers find in order: its path is safe, and the file is there as the entry
states it. -/
structure Sound (sha256 : List UInt8 → String) (root : Tree) (entry : Json) : Prop where
  isText : Json.str? (entry.member "path") = some (pathText entry)
  safe : safeMember (pathText entry) = true
  present : ∃ content, root.entry (pathParts entry) = some (.file content) ∧
    describes sha256 entry content = true

/-- One more entry is accepted when it is sound and its path is new, in the normal form. -/
theorem validateEntry_eq_ok {after : List String} :
    validateEntry sha256 root expected entry = .ok after ↔
      Sound sha256 root entry ∧ pathNormal entry ∉ expected ∧
        after = expected ++ [pathNormal entry] := by
  have spelled : ∀ {text}, Json.str? (entry.member "path") = some text → pathText entry = text := by
    intro text found
    rw [pathText, found, Option.getD_some]
  unfold validateEntry
  cases found : Json.str? (entry.member "path") with
  | none =>
    refine iff_of_false nofun ?_
    rintro ⟨sound, -⟩
    rw [sound.isText] at found
    cases found
  | some text =>
    obtain rfl := spelled found
    simp only [safeRelative]
    by_cases safe : safeMember (pathText entry) = true
    · rw [if_pos safe, bind_eq_ok]
      simp only [Except.ok.injEq, exists_eq_left', andThen_eq_ok, require_eq_ok]
      constructor
      · rintro ⟨fresh, rest⟩
        -- Only a file can be there, and only one that the entry describes.
        split at rest
        · next content there =>
          rw [andThen_eq_ok, require_eq_ok, pure_eq_ok] at rest
          have fresh' : asPosix (PosixPath.parse (pathText entry)).parts ∉ expected := by
            simpa using fresh
          exact ⟨⟨found, safe, content, there, rest.1⟩, fresh', rest.2.symm⟩
        · cases rest
      · rintro ⟨⟨-, -, content, there, described⟩, fresh, rfl⟩
        have fresh' : asPosix (PosixPath.parse (pathText entry)).parts ∉ expected := fresh
        refine ⟨by simpa using fresh', ?_⟩
        have there' : root.entry (PosixPath.parse (pathText entry)).parts =
            some (.file content) := there
        rw [there']
        simp only [described, andThen_eq_ok, require_eq_ok, pure_eq_ok, true_and]
        rfl
    · rw [if_neg safe, bind_eq_ok]
      refine iff_of_false (by simp) ?_
      rintro ⟨sound, -⟩
      exact safe sound.safe

theorem verifyEntry_clean {errors : List String} :
    (verifyEntry sha256 root (errors, expected) entry).1 = [] ↔
      errors = [] ∧ Sound sha256 root entry ∧ pathText entry ∉ expected := by
  unfold verifyEntry
  cases found : Json.str? (entry.member "path") with
  | none =>
    refine iff_of_false (by simp) ?_
    rintro ⟨-, sound, -⟩
    rw [sound.isText] at found
    cases found
  | some text =>
    have spelled : pathText entry = text := by rw [pathText, found, Option.getD_some]
    subst spelled
    dsimp only
    by_cases safe : safeMember (pathText entry) = true
    · by_cases listed : pathText entry ∈ expected
      · simp [safe, listed]
      · simp only [safe, Bool.not_true, Bool.false_eq_true, if_false, List.contains_iff_mem, listed,
          List.append_eq_nil_iff, not_false_eq_true, and_true]
        refine and_congr_right fun _ => ?_
        constructor
        · intro clean
          -- Nothing is found wrong only with a file that the entry describes.
          split at clean
          · next content there =>
            split at clean
            · next described => exact ⟨found, safe, content, there, described⟩
            · cases clean
          · cases clean
        · rintro ⟨-, -, content, there, described⟩
          have there' : root.entry (PosixPath.parse (pathText entry)).parts =
              some (.file content) := there
          rw [there']
          simp [described]
    · refine iff_of_false (by simp [safe]) ?_
      rintro ⟨-, sound, -⟩
      exact safe sound.safe

theorem verifyEntry_paths {errors : List String} (sound : Sound sha256 root entry)
    (fresh : pathText entry ∉ expected) :
    (verifyEntry sha256 root (errors, expected) entry).2 = expected ++ [pathText entry] := by
  unfold verifyEntry
  rw [sound.isText]
  simp [sound.safe, fresh]

/-- Paths that are new one after another, given those before. -/
def NewPaths (before paths : List String) : Prop :=
  paths.Nodup ∧ ∀ path ∈ paths, path ∉ before

theorem newPaths_cons {before paths : List String} {path : String} :
    NewPaths before (path :: paths) ↔ path ∉ before ∧ NewPaths (before ++ [path]) paths := by
  simp only [NewPaths, List.nodup_cons, List.forall_mem_cons, List.mem_append, List.mem_singleton,
    not_or]
  constructor
  · rintro ⟨⟨once, distinct⟩, fresh, apart⟩
    refine ⟨fresh, distinct, fun other named => ⟨apart other named, ?_⟩⟩
    rintro rfl
    exact once named
  · rintro ⟨fresh, distinct, apart⟩
    exact ⟨⟨fun again => (apart path again).2 rfl, distinct⟩, fresh,
      fun other named => (apart other named).1⟩

theorem newPaths_nil {paths : List String} : NewPaths [] paths ↔ paths.Nodup := by
  simp [NewPaths]

theorem validateEntries_eq_ok {after : List String} :
    entries.foldlM (validateEntry sha256 root) expected = .ok after ↔
      (∀ entry ∈ entries, Sound sha256 root entry) ∧ NewPaths expected (entries.map pathNormal) ∧
        after = expected ++ entries.map pathNormal := by
  -- The paths that have been named are those before, with those of the entries read since.
  induction entries generalizing expected with
  | nil =>
    rw [List.foldlM_nil, pure_eq_ok]
    simp [NewPaths, eq_comm]
  | cons entry rest ih =>
    rw [List.foldlM_cons, bind_eq_ok, List.map_cons, newPaths_cons, List.forall_mem_cons]
    simp only [validateEntry_eq_ok, ih]
    constructor
    · rintro ⟨_, ⟨sound, fresh, rfl⟩, others, apart, rfl⟩
      exact ⟨⟨sound, others⟩, ⟨fresh, apart⟩, List.append_assoc _ _ _⟩
    · rintro ⟨⟨sound, others⟩, ⟨fresh, apart⟩, rfl⟩
      exact ⟨_, ⟨sound, fresh, rfl⟩, others, apart, List.append_cons _ _ _⟩

/-- Errors that have been found stay. -/
theorem verifyEntries_errors {state : List String × List String}
    (clean : (entries.foldl (verifyEntry sha256 root) state).1 = []) : state.1 = [] := by
  induction entries generalizing state with
  | nil => exact clean
  | cons entry rest ih =>
    rw [List.foldl_cons] at clean
    exact (verifyEntry_clean.mp (ih clean)).1

theorem verifyEntries_eq {after : List String} :
    entries.foldl (verifyEntry sha256 root) ([], expected) = ([], after) ↔
      (∀ entry ∈ entries, Sound sha256 root entry) ∧ NewPaths expected (entries.map pathText) ∧
        after = expected ++ entries.map pathText := by
  induction entries generalizing expected with
  | nil => simp [NewPaths, eq_comm]
  | cons entry rest ih =>
    rw [List.foldl_cons, List.map_cons, newPaths_cons, List.forall_mem_cons]
    have next : Sound sha256 root entry → pathText entry ∉ expected →
        verifyEntry sha256 root ([], expected) entry = ([], expected ++ [pathText entry]) :=
      fun sound fresh => Prod.ext (verifyEntry_clean.mpr ⟨rfl, sound, fresh⟩)
        (verifyEntry_paths sound fresh)
    constructor
    · intro clean
      -- An error of this entry would still be among the errors at the end.
      have first := verifyEntries_errors (congrArg Prod.fst clean)
      obtain ⟨-, sound, fresh⟩ := verifyEntry_clean.mp first
      rw [next sound fresh, ih] at clean
      obtain ⟨others, apart, rfl⟩ := clean
      exact ⟨⟨sound, others⟩, ⟨fresh, apart⟩, List.append_assoc _ _ _⟩
    · rintro ⟨⟨sound, others⟩, ⟨fresh, apart⟩, rfl⟩
      rw [next sound fresh, ih]
      exact ⟨others, apart, List.append_cons _ _ _⟩

theorem unexpectedPaths_eq_nil :
    unexpectedPaths root expected = [] ↔ ∀ path ∈ actualPaths root, path ∈ expected := by
  have empty : unexpectedPaths root expected = [] ↔
      ∀ path, path ∉ unexpectedPaths root expected := List.eq_nil_iff_forall_not_mem
  rw [empty]
  simp only [unexpectedPaths, (List.perm_insertionSort _ _).mem_iff, List.mem_dedup,
    List.mem_filter, Bool.not_eq_true', not_and, Bool.not_eq_false, List.contains_iff_mem]

end Entries

section Documents

variable {sha256 : List UInt8 → String} {package : Package} {document : Json} {files : List Json}

/-- A manifest of the kind that both verifiers read: its head, and a list of entries. -/
structure IsManifest (document : Json) (files : List Json) : Prop where
  product : Json.isText (document.member "product") "PocoDDSRuntime" = true
  schemaVersion : Json.isInt (document.member "schemaVersion") 1 = true
  listed : document.member "files" = some (.arr files)
  filled : files ≠ []

theorem IsManifest.isObject (manifest : IsManifest document files) : document.isObject = true := by
  have listed := manifest.listed
  cases document <;> first | rfl | cases listed

/-- What `validate_manifest` accepts: each released file is named, and no path twice. -/
theorem validateManifest_iff (manifest : IsManifest document files) {root : Tree} :
    validateManifest sha256 document root = .ok document ↔
      (∀ entry ∈ files, Sound sha256 root entry) ∧ (files.map pathNormal).Nodup ∧
        ∀ path ∈ actualPaths root, path ∈ files.map pathNormal := by
  have filled : Json.truthy (some (.arr files)) = true := by
    simpa [Json.truthy] using manifest.filled
  unfold validateManifest
  rw [Json.get, if_pos manifest.isObject, manifest.listed, filled, manifest.schemaVersion]
  rw [bind_eq_ok]
  simp only [Except.ok.injEq, exists_eq_left', manifest.product, Bool.and_self, Json.iterate]
  rw [andThen_eq_ok, andThen_eq_ok, bind_eq_ok]
  simp only [bind_eq_ok, Except.ok.injEq, exists_eq_left', require_eq_ok, true_and,
    validateEntries_eq_ok, newPaths_nil, List.nil_append]
  constructor
  · rintro ⟨_, ⟨sound, distinct, rfl⟩, ended⟩
    refine ⟨sound, distinct, unexpectedPaths_eq_nil.mp ?_⟩
    split at ended
    · next none => exact none
    · cases ended
  · rintro ⟨sound, distinct, named⟩
    refine ⟨_, ⟨sound, distinct, rfl⟩, ?_⟩
    rw [unexpectedPaths_eq_nil.mpr named]
    rfl

/-- What `verify` accepts: each released file is named in its normal form, and no text twice. -/
theorem verify_iff (manifest : IsManifest document files) {root : Tree} :
    (verify sha256 document root).map Prod.fst = .ok 0 ↔
      (∀ entry ∈ files, Sound sha256 root entry) ∧ (files.map pathText).Nodup ∧
        ∀ path ∈ actualPaths root, path ∈ files.map pathText := by
  unfold verify
  rw [Json.get, if_pos manifest.isObject, manifest.listed, manifest.product]
  have head : (Json.isInt (document.member "schemaVersion") 1 && true) = true := by
    rw [manifest.schemaVersion, Bool.and_self]
  simp only [bind, Except.bind, Option.bind_some, Json.items?, head, Bool.not_true,
    Bool.false_eq_true, if_false, pure, Except.pure, Except.map, Except.ok.injEq,
    List.isEmpty_iff, List.append_eq_nil_iff, List.map_eq_nil_iff, ite_eq_left_iff]
  simp only [one_ne_zero, imp_false, not_not]
  generalize scanned : files.foldl (verifyEntry sha256 root) ([], []) = state
  obtain ⟨errors, expected⟩ := state
  rw [unexpectedPaths_eq_nil]
  constructor
  · rintro ⟨rfl, named⟩
    obtain ⟨sound, distinct, rfl⟩ := verifyEntries_eq.mp scanned
    exact ⟨sound, newPaths_nil.mp distinct, named⟩
  · rintro ⟨sound, distinct, named⟩
    have clean := verifyEntries_eq.mpr ⟨sound, newPaths_nil.mpr distinct, rfl⟩
    rw [scanned] at clean
    cases clean
    exact ⟨rfl, named⟩

theorem pathNormal_of_actual {entry : Json} (actual : pathText entry ∈ actualPaths package.tree) :
    pathNormal entry = pathText entry := by
  obtain ⟨found, released, spelled⟩ := List.mem_map.mp actual
  have proper := package.named found (List.mem_filter.mp released).1
  have parts : pathParts entry = found.1 := by
    rw [pathParts, ← spelled]
    exact components_intercalate proper
  rw [pathNormal, parts, spelled]

/-- Where no two entries name one path, no two have one text. -/
theorem nodup_pathText (once : (files.map pathNormal).Nodup) : (files.map pathText).Nodup := by
  refine List.Nodup.of_map (fun text => asPosix (PosixPath.parse text).parts) ?_
  rw [List.map_map]
  exact once

/-- The spelling of the paths in a manifest does not make the verifiers differ: where all entries
are sound, no two have one text and every released file is named, then released files are named once
only in their normal form, and no path is named twice if all of them are named in that form. -/
structure SpelledAlike (sha256 : List UInt8 → String) (root : Tree) (files : List Json) : Prop where
  plain : (∀ entry ∈ files, Sound sha256 root entry) →
    (∀ path ∈ actualPaths root, path ∈ files.map pathNormal) → (files.map pathNormal).Nodup →
    ∀ entry ∈ files, pathNormal entry ∈ actualPaths root → pathText entry = pathNormal entry
  once : (∀ entry ∈ files, Sound sha256 root entry) → (files.map pathText).Nodup →
    (∀ path ∈ actualPaths root, path ∈ files.map pathText) → (files.map pathNormal).Nodup

theorem namedPlain_iff (named : ∀ path ∈ actualPaths package.tree, path ∈ files.map pathNormal)
    (once : (files.map pathNormal).Nodup) :
    (∀ path ∈ actualPaths package.tree, path ∈ files.map pathText) ↔
      ∀ entry ∈ files, pathNormal entry ∈ actualPaths package.tree →
        pathText entry = pathNormal entry := by
  constructor
  · intro plain entry listed actual
    obtain ⟨other, listed', same⟩ := List.mem_map.mp (plain _ actual)
    -- The entry with the normal text names the same path, so it is the same entry.
    have normal : pathNormal other = pathNormal entry :=
      (pathNormal_of_actual (same ▸ actual)).trans same
    rw [← List.inj_on_of_nodup_map once listed' listed normal] at same ⊢
    exact same
  · intro plain path actual
    obtain ⟨entry, listed, rfl⟩ := List.mem_map.mp (named path actual)
    exact List.mem_map.mpr ⟨entry, listed, plain entry listed actual⟩

/-- The two verifiers agree on a manifest exactly when the spelling of its paths makes no
difference. -/
theorem verifiers_agree_iff (sha256 : List UInt8 → String) (package : Package) (document : Json)
    (files : List Json) (manifest : IsManifest document files) :
    ((verify sha256 document package.tree).map Prod.fst = .ok 0 ↔
      validateManifest sha256 document package.tree = .ok document) ↔
        SpelledAlike sha256 package.tree files := by
  rw [verify_iff manifest, validateManifest_iff manifest]
  -- A file that is named by its text is named by its path.
  have named : (∀ path ∈ actualPaths package.tree, path ∈ files.map pathText) →
      ∀ path ∈ actualPaths package.tree, path ∈ files.map pathNormal := by
    intro plain path actual
    obtain ⟨entry, listed, rfl⟩ := List.mem_map.mp (plain path actual)
    exact List.mem_map.mpr ⟨entry, listed, pathNormal_of_actual actual⟩
  constructor
  · intro agree
    constructor
    · intro sound listed distinct
      exact (namedPlain_iff listed distinct).mp (agree.mpr ⟨sound, distinct, listed⟩).2.2
    · intro sound distinct plain
      exact (agree.mp ⟨sound, distinct, plain⟩).2.1
  · intro alike
    constructor
    · rintro ⟨sound, distinct, plain⟩
      exact ⟨sound, alike.once sound distinct plain, named plain⟩
    · rintro ⟨sound, distinct, listed⟩
      refine ⟨sound, nodup_pathText distinct, (namedPlain_iff listed distinct).mpr ?_⟩
      exact alike.plain sound listed distinct

theorem spelledAlike_of_normal (normal : ∀ entry ∈ files, pathText entry = pathNormal entry)
    {root : Tree} : SpelledAlike sha256 root files where
  plain _ _ _ entry listed _ := normal entry listed
  once _ distinct _ := by
    rwa [← List.map_congr_left normal]

def samplePackage : Package where
  tree := ⟨[(["app"], .file [49, 50])]⟩
  formed := ⟨by decide, by decide⟩
  named := by decide

def sampleDigest (content : List UInt8) : String :=
  String.ofList (content.map fun byte => Char.ofNat byte.toNat)

def sampleEntry (path : String) : Json :=
  .obj [("path", .str path), ("size", .num 2), ("sha256", .str "12")]

def sampleManifest (paths : List String) : Json :=
  .obj [("schemaVersion", .num 1), ("product", .str "PocoDDSRuntime"),
    ("files", .arr (paths.map sampleEntry))]

/-- The two agree on a file that is named as the generator names it. -/
theorem verifiers_agree_sample :
    (verify sampleDigest (sampleManifest ["app"]) samplePackage.tree).map Prod.fst = .ok 0 ↔
      validateManifest sampleDigest (sampleManifest ["app"]) samplePackage.tree =
        .ok (sampleManifest ["app"]) :=
  (verifiers_agree_iff sampleDigest samplePackage (sampleManifest ["app"]) [sampleEntry "app"]
    ⟨by decide, by decide, rfl, by simp⟩).mpr (spelledAlike_of_normal (by decide))

/-- A file that is named in two ways passes the other way round. -/
example : let document := sampleManifest ["app", "./app"]
    (verify sampleDigest document samplePackage.tree).map Prod.fst = .ok 0 ∧
      (validateManifest sampleDigest document samplePackage.tree).toOption.isNone = true := by
  decide

/-- A file that is named with a dot before it passes the one and not the other. -/
theorem dotted_path_divides_verifiers :
    ¬∀ (sha256 : List UInt8 → String) (package : Package) (document : Json) (files : List Json),
      IsManifest document files →
        ((verify sha256 document package.tree).map Prod.fst = .ok 0 ↔
          validateManifest sha256 document package.tree = .ok document) := by
  intro always
  have accepted : validateManifest sampleDigest (sampleManifest ["./app"]) samplePackage.tree =
      .ok (sampleManifest ["./app"]) := rfl
  have refused : (verify sampleDigest (sampleManifest ["./app"]) samplePackage.tree).map Prod.fst =
      .ok 1 := by decide
  have agree := always sampleDigest samplePackage (sampleManifest ["./app"]) [sampleEntry "./app"]
    ⟨by decide, by decide, rfl, by simp⟩
  have code : (Except.ok 1 : Except String Nat) = .ok 0 := refused.symm.trans (agree.mpr accepted)
  cases code

end Documents

end PocoDDS.Tools.ReleaseManifest
