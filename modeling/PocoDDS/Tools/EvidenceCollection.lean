import PocoDDS.Tools.EvidenceBundle

/-! What the collection of an evidence bundle's files has put together once it succeeds. -/

namespace PocoDDS.Tools.EvidenceBundle

open AssocList ExternalAcceptance JsonModel OutcomeLogic PosixPaths PosixPath

variable {Content : Type} {environment : Environment Content} {disk : Disk Content}

theorem get_eq_ok {value : Json} {key : String} {found : Option Json} :
    value.get key = .ok found ↔ value.isObject = true ∧ value.member key = found := by
  unfold Json.get
  cases value.isObject <;> simp

theorem addFile_eq_ok {files result : Files} {path role : String} {source : PosixPath} :
    addFile disk files path source role = .ok result ↔
      (safeMember path = true ∧ files.lookup path = none) ∧
        (disk.read (disk.resolve source)).isSome = true ∧
          result = files ++ [(path, ⟨disk.resolve source, role⟩)] := by
  unfold addFile
  rw [andThen_eq_ok, andThen_eq_ok, require_eq_ok, require_eq_ok, pure_eq_ok]
  simp only [Bool.and_eq_true, Option.isNone_iff_eq_none]
  constructor
  · rintro ⟨fresh, present, rfl⟩
    exact ⟨fresh, present, rfl⟩
  · rintro ⟨fresh, present, rfl⟩
    exact ⟨fresh, present, rfl⟩

/-- Collected files: each under its own safe path, and there to be read. -/
structure WellFormed (disk : Disk Content) (files : Files) : Prop where
  distinct : (files.map Prod.fst).Nodup
  safe : ∀ file ∈ files, safeMember file.1 = true
  present : ∀ file ∈ files, (disk.read file.2.source).isSome = true

/-- Collecting keeps what is there and adds files of one kind. -/
structure Collects (disk : Disk Content) (Kind : String × BundleFile → Prop)
    (files result : Files) : Prop where
  wellFormed : WellFormed disk files → WellFormed disk result
  kept : ∀ file ∈ files, file ∈ result
  kinds : ∀ file ∈ result, file ∈ files ∨ Kind file

open Collects

section Collects

variable {Kind : String × BundleFile → Prop} {files result : Files}

theorem Collects.refl (files : Files) : Collects disk Kind files files :=
  ⟨id, fun _ => id, fun _ => Or.inl⟩

theorem Collects.trans {one two three : Files} (first : Collects disk Kind one two)
    (second : Collects disk Kind two three) : Collects disk Kind one three where
  wellFormed := fun formed => second.wellFormed (first.wellFormed formed)
  kept := fun file listed => second.kept file (first.kept file listed)
  kinds := by
    intro file listed
    rcases second.kinds file listed with earlier | kind
    · exact first.kinds file earlier
    · exact Or.inr kind

theorem Collects.weaken {Wider : String × BundleFile → Prop}
    (collects : Collects disk Kind files result) (wider : ∀ file, Kind file → Wider file) :
    Collects disk Wider files result :=
  ⟨collects.wellFormed, collects.kept,
    fun file listed => (collects.kinds file listed).imp_right (wider file)⟩

variable {path : String} {source : PosixPath} {role : String}
  (added : addFile disk files path source role = .ok result)
include added

theorem addFile_collects (kind : Kind (path, ⟨disk.resolve source, role⟩)) :
    Collects disk Kind files result := by
  obtain ⟨⟨safe, fresh⟩, present, rfl⟩ := addFile_eq_ok.mp added
  refine ⟨fun formed => ⟨?_, ?_, ?_⟩, ?_, ?_⟩
  · -- The new path is not among the old ones.
    rw [List.map_append, List.nodup_append]
    refine ⟨formed.distinct, by simp, ?_⟩
    intro old listed new member same
    rw [List.map_singleton, List.mem_singleton] at member
    subst member
    have absent := lookup_eq_none_iff.mp fresh
    rw [same] at listed
    exact absent listed
  · intro file listed
    rcases List.mem_append.mp listed with old | new
    · exact formed.safe file old
    · rw [List.mem_singleton.mp new]
      exact safe
  · intro file listed
    rcases List.mem_append.mp listed with old | new
    · exact formed.present file old
    · rw [List.mem_singleton.mp new]
      exact present
  · intro file listed
    exact List.mem_append_left _ listed
  · intro file listed
    rcases List.mem_append.mp listed with old | new
    · exact Or.inl old
    · rw [List.mem_singleton.mp new]
      exact Or.inr kind

theorem mem_of_addFile :
    (path, ⟨disk.resolve source, role⟩) ∈ result := by
  obtain ⟨-, -, rfl⟩ := addFile_eq_ok.mp added
  simp

end Collects

/-- What is relied on of a host's file system. -/
structure Disk.Lawful (disk : Disk Content) : Prop where
  /-- A resolved path resolves to itself. -/
  resolved : ∀ path, disk.resolve (disk.resolve path) = disk.resolve path
  /-- A file has a name. -/
  named : ∀ path, (disk.read (disk.resolve path)).isSome = true →
    IsComponent (disk.resolve path).name

/-- The path in the bundle of a file of an acceptance. -/
def bundlePath (name : String) (path : List String) : String :=
  "external/" ++ name ++ "/" ++ "/".intercalate path

/-- The document in a file, or null. -/
def documentAt (environment : Environment Content) (disk : Disk Content) (path : String) : Json :=
  match disk.read (disk.resolve (PosixPath.parse path)) with
  | none => .null
  | some content =>
    match environment.loads content with
    | .ok document => document
    | .error _ => .null

/-- The values of a member that a loop runs through. -/
def listed (member : Option Json) : List Json :=
  match Json.iterate member with
  | .ok values => values
  | .error _ => []

/-- The files of an acceptance: where each belongs in the bundle, and where it comes from. -/
def acceptanceFiles (environment : Environment Content) (disk : Disk Content) (item : Json) :
    List (List String × PosixPath) :=
  let report := disk.resolve (PosixPath.parse (environment.text item "path"))
  let policy := disk.resolve (PosixPath.parse (environment.text item "trustPolicyPath"))
  let approvers := listed ((documentAt environment disk
    (environment.text item "trustPolicyPath")).member "allowedApprovers")
  let checks := listed ((documentAt environment disk (environment.text item "path")).member
    "checks")
  [(["report.json"], report),
    (["report.sig.json"], disk.resolve (PosixPath.parse (environment.text item "signaturePath"))),
    (["trust-policy.json"], policy)] ++
  (approvers.map fun approver =>
    let key := disk.resolve (policy.parent.join
      (PosixPath.parse (environment.text approver "publicKeyPath")))
    ([key.name], key)) ++
  (checks.flatMap fun check => listed (check.member "evidence")).map fun attachment =>
    let relative := PosixPath.parse (environment.text attachment "path")
    -- An absolute path has no place in the bundle.
    (if relative.absolute then [] else relative.parts,
      disk.resolve (report.parent.join relative))

/-- The path of a file below the directory of its acceptance. -/
def ProperPath (path : List String) : Prop :=
  path ≠ [] ∧ ∀ part ∈ path, IsComponent part

def ExternalFile (environment : Environment Content) (disk : Disk Content) (items : List Json)
    (file : String × BundleFile) : Prop :=
  ∃ item ∈ items, Json.truthy (item.member "verified") = true ∧
    externalName (environment.text item "name") = true ∧
      ∃ source ∈ acceptanceFiles environment disk item, ProperPath source.1 ∧
        file.1 = bundlePath (environment.text item "name") source.1

theorem ExternalFile.below {items : List Json} {file : String × BundleFile}
    (kind : ExternalFile environment disk items file) : ∃ rest, file.1 = "external/" ++ rest := by
  obtain ⟨item, -, -, -, source, -, -, same⟩ := kind
  refine ⟨environment.text item "name" ++ "/" ++ "/".intercalate source.1, ?_⟩
  rw [same, bundlePath]
  simp only [String.append_assoc]

/-- A file of local evidence. -/
def LocalFile (file : String × BundleFile) : Prop :=
  ∃ rest, file.1 = "local/" ++ rest

/-- The release manifest, or an artifact that it lists. -/
def ArtifactFile (environment : Environment Content) (entries : List Json)
    (file : String × BundleFile) : Prop :=
  file.1 = "artifacts/SHA256SUMS.json" ∨
    ∃ entry ∈ entries, file.1 = "artifacts/payload/" ++ environment.text entry "path"

section Collectors

variable {files result : Files}

theorem collectLocal_collects {item : Json}
    (collected : collectLocal environment disk files item = .ok result) :
    Collects disk LocalFile files result := by
  unfold collectLocal at collected
  obtain ⟨_, -, named⟩ := bind_eq_ok.mp collected
  obtain ⟨-, added⟩ := andThen_eq_ok.mp named
  refine addFile_collects added ⟨environment.text item "name" ++ ".json", ?_⟩
  rw [String.append_assoc]

theorem collectArtifact_added {root : PosixPath} {entry : Json}
    (collected : collectArtifact environment disk root files entry = .ok result) :
    safeMember (environment.text entry "path") = true ∧ entry.isObject = true ∧
      addFile disk files ("artifacts/payload/" ++ environment.text entry "path")
        (root.join (parse (environment.text entry "path"))) "artifact" = .ok result := by
  unfold collectArtifact at collected
  obtain ⟨_, found, named⟩ := bind_eq_ok.mp collected
  obtain ⟨safe, added⟩ := andThen_eq_ok.mp named
  exact ⟨require_eq_ok.mp safe, (get_eq_ok.mp found).1, added⟩

theorem isComponent_of_externalName {name : String} (matched : externalName name = true) :
    IsComponent name := by
  -- None of the characters that the name may have is a dot or a slash.
  have characters : ∀ character ∈ name.toList, character ≠ '.' ∧ character ≠ '/' := by
    intro character listed
    unfold externalName matchesName at matched
    cases shape : name.toList with
    | nil => simp [shape] at listed
    | cons first rest =>
      simp only [shape, Bool.and_eq_true, List.all_eq_true, Bool.or_eq_true, beq_iff_eq] at matched
      rw [shape] at listed
      constructor <;> rintro rfl
      · rcases List.mem_cons.mp listed with same | later
        · rw [← same] at matched
          exact absurd matched.1 (by decide)
        · exact absurd (matched.2 _ later) (by decide)
      · rcases List.mem_cons.mp listed with same | later
        · rw [← same] at matched
          exact absurd matched.1 (by decide)
        · exact absurd (matched.2 _ later) (by decide)
  refine ⟨?_, ?_, fun slash => (characters '/' slash).2 rfl⟩
  · rintro rfl
    exact absurd matched (by decide)
  · rintro rfl
    exact (characters '.' (by decide)).1 rfl

/-- A safe relative path is written with its components. -/
theorem asPosix_of_safe {text : String} (safe : safeMember (parse text).asPosix = true) :
    (parse text).asPosix = "/".intercalate (parse text).parts ∧
      (parse text).parts ≠ [] ∧ (parse text).absolute = false ∧
        ∀ part ∈ (parse text).parts, part ≠ ".." := by
  unfold safeMember at safe
  simp only [Bool.and_eq_true, Bool.not_eq_true', List.all_eq_true] at safe
  obtain ⟨⟨⟨filled, relative⟩, -⟩, plain⟩ := safe
  cases root : (parse text).absolute with
  | true =>
    -- The text of an absolute path starts with a slash.
    have start : ((parse text).asPosix).toList.head? = some '/' := by
      unfold PosixPath.asPosix
      simp [root]
    have absolute : (parse (parse text).asPosix).absolute = true :=
      beq_iff_eq.mpr start
    rw [absolute] at relative
    cases relative
  | false =>
    by_cases empty : (parse text).parts = []
    · unfold PosixPath.asPosix at filled
      simp only [root, empty, if_true, Bool.false_eq_true, if_false] at filled
      exact absurd filled (by decide)
    · have written : (parse text).asPosix = "/".intercalate (parse text).parts := by
        unfold PosixPath.asPosix
        simp [root, empty]
      refine ⟨written, empty, rfl, ?_⟩
      rw [written] at plain
      intro part listed
      have proper : components ("/".intercalate (parse text).parts).toList = (parse text).parts :=
        components_intercalate fun part listed => isComponent_of_mem listed
      have inside := plain part (by rw [← proper] at listed; exact listed)
      rintro rfl
      exact absurd inside (by decide)

/-- A file of the acceptance has been added, under a proper path. -/
def Holds (name : String) (result : Files) (source : List String × PosixPath) : Prop :=
  ProperPath source.1 ∧ ∃ role, (bundlePath name source.1, ⟨source.2, role⟩) ∈ result

/-- Adding files of one acceptance, of which some are known to be there. -/
structure Adds (disk : Disk Content) (name : String) (sources : List (List String × PosixPath))
    (files result : Files) : Prop where
  collects : Collects disk (fun file => ∃ source ∈ sources, ProperPath source.1 ∧
    file.1 = bundlePath name source.1) files result
  holds : ∀ source ∈ sources, Holds name result source

theorem Adds.nil {name : String} (files : Files) : Adds disk name [] files files :=
  ⟨refl files, by simp⟩

theorem Holds.later {name : String} {source : List String × PosixPath} {later : Files}
    (held : Holds name result source) (kept : ∀ file ∈ result, file ∈ later) :
    Holds name later source := by
  obtain ⟨proper, role, member⟩ := held
  exact ⟨proper, role, kept _ member⟩

theorem Adds.append {name : String} {one two : List (List String × PosixPath)} {middle : Files}
    (first : Adds disk name one files middle) (second : Adds disk name two middle result) :
    Adds disk name (one ++ two) files result where
  collects := by
    apply trans (first.collects.weaken _) (second.collects.weaken _)
    · rintro file ⟨source, listed, kind⟩
      exact ⟨source, List.mem_append_left _ listed, kind⟩
    · rintro file ⟨source, listed, kind⟩
      exact ⟨source, List.mem_append_right _ listed, kind⟩
  holds := by
    intro source listed
    rcases List.mem_append.mp listed with early | late
    · exact (first.holds source early).later second.collects.kept
    · exact second.holds source late

theorem addFile_adds {name text role : String} {path : List String} {source : PosixPath}
    (added : addFile disk files text source role = .ok result)
    (same : text = bundlePath name path) (proper : ProperPath path) :
    Adds disk name [(path, disk.resolve source)] files result where
  collects := addFile_collects added ⟨_, List.mem_singleton_self _, proper, same⟩
  holds := by
    intro held listed
    rw [List.mem_singleton.mp listed]
    have member := mem_of_addFile added
    rw [same] at member
    exact ⟨proper, role, member⟩

theorem bundlePath_singleton (name last : String) :
    bundlePath name [last] = "external/" ++ name ++ "/" ++ last := by
  rw [bundlePath, String.intercalate_singleton]

theorem properPath_singleton {last : String} (component : IsComponent last) : ProperPath [last] :=
  ⟨by simp, List.forall_mem_singleton.mpr component⟩

theorem foldlM_adds {α : Type} {name : String} {step : Files → α → Except String Files}
    {sources : α → List (List String × PosixPath)} {values : List α}
    (done : values.foldlM step files = .ok result)
    (each : ∀ before value after, step before value = .ok after →
      Adds disk name (sources value) before after) :
    Adds disk name (values.flatMap sources) files result := by
  induction values generalizing files with
  | nil =>
    rw [List.foldlM_nil, pure_eq_ok] at done
    subst done
    exact Adds.nil _
  | cons first rest ih =>
    rw [List.foldlM_cons, bind_eq_ok] at done
    obtain ⟨next, stepped, remaining⟩ := done
    exact (each _ _ _ stepped).append (ih remaining)

theorem collectKey_adds (lawful : Disk.Lawful disk) {name : String} {policy : PosixPath}
    {approver : Json}
    (collected : collectKey environment disk name policy files approver = .ok result) :
    Adds disk name [([(disk.resolve (policy.parent.join
        (parse (environment.text approver "publicKeyPath")))).name],
      disk.resolve (policy.parent.join
        (parse (environment.text approver "publicKeyPath"))))] files result := by
  unfold collectKey at collected
  obtain ⟨_, -, added⟩ := bind_eq_ok.mp collected
  obtain ⟨-, present, -⟩ := addFile_eq_ok.mp added
  rw [lawful.resolved] at present
  have adds := addFile_adds added (bundlePath_singleton _ _).symm
    (properPath_singleton (lawful.named _ present))
  rwa [lawful.resolved] at adds

theorem collectAttachment_adds {name : String} {report : PosixPath} {attachment : Json}
    (collected : collectAttachment environment disk name report files attachment = .ok result) :
    Adds disk name [(if (parse (environment.text attachment "path")).absolute then []
        else (parse (environment.text attachment "path")).parts,
      disk.resolve (report.parent.join
        (parse (environment.text attachment "path"))))] files result := by
  unfold collectAttachment at collected
  obtain ⟨_, -, checked⟩ := bind_eq_ok.mp collected
  obtain ⟨safe, added⟩ := andThen_eq_ok.mp checked
  obtain ⟨written, filled, relative, -⟩ := asPosix_of_safe (require_eq_ok.mp safe)
  rw [relative, if_neg (by simp)]
  refine addFile_adds added ?_ ⟨filled, fun part listed => isComponent_of_mem listed⟩
  rw [bundlePath, written]

theorem listed_eq {member : Option Json} {values : List Json}
    (iterated : Json.iterate member = .ok values) : listed member = values := by
  unfold listed
  rw [iterated]

theorem collectCheck_adds {name : String} {report : PosixPath} {check : Json}
    (collected : collectCheck environment disk name report files check = .ok result) :
    Adds disk name ((listed (check.member "evidence")).map fun attachment =>
      (if (parse (environment.text attachment "path")).absolute then []
          else (parse (environment.text attachment "path")).parts,
        disk.resolve (report.parent.join
          (parse (environment.text attachment "path"))))) files result := by
  unfold collectCheck at collected
  obtain ⟨_, found, rest⟩ := bind_eq_ok.mp collected
  obtain ⟨values, iterated, added⟩ := bind_eq_ok.mp rest
  obtain ⟨-, rfl⟩ := get_eq_ok.mp found
  rw [listed_eq iterated, List.map_eq_flatMap]
  exact foldlM_adds added fun _ _ _ => collectAttachment_adds

theorem documentAt_eq {path : String} {content : Content} {document : Json}
    (read : disk.read (disk.resolve (parse path)) = some content)
    (loaded : environment.loads content = .ok document) :
    documentAt environment disk path = document := by
  unfold documentAt
  simp only [read, loaded]

/-- The collection of one acceptance: nothing if it is not verified, and else all its files. -/
theorem collectExternal_spec (lawful : Disk.Lawful disk) {item : Json}
    (collected : collectExternal environment disk files item = .ok result) :
    item.isObject = true ∧ (Json.truthy (item.member "verified") = false → result = files) ∧
      (Json.truthy (item.member "verified") = true →
        externalName (environment.text item "name") = true ∧
          Adds disk (environment.text item "name") (acceptanceFiles environment disk item)
            files result) := by
  unfold collectExternal at collected
  obtain ⟨verified, found, rest⟩ := bind_eq_ok.mp collected
  obtain ⟨object, rfl⟩ := get_eq_ok.mp found
  cases truth : Json.truthy (item.member "verified") with
  | false =>
    simp only [truth, Bool.not_false, if_true, pure_eq_ok] at rest
    exact ⟨object, fun _ => rest.symm, by simp⟩
  | true =>
    simp only [truth, Bool.not_true, Bool.false_eq_true, if_false, bind_eq_ok] at rest
    obtain ⟨_, matched, withReport, addedReport, withSignature, addedSignature, withPolicy,
      addedPolicy, policyContent, policyRead, policyDocument, policyLoaded, _, approversFound,
      approvers, approversIterated, withKeys, addedKeys, reportContent, reportRead,
      reportDocument, reportLoaded, _, checksFound, checks, checksIterated, addedChecks⟩ := rest
    refine ⟨object, by simp, fun _ => ⟨require_eq_ok.mp matched, ?_⟩⟩
    -- The documents whose lists were collected are those in the files.
    have policyAt := documentAt_eq (load_eq_ok.mp policyRead) policyLoaded
    have reportAt := documentAt_eq (load_eq_ok.mp reportRead) reportLoaded
    obtain ⟨-, rfl⟩ := get_eq_ok.mp approversFound
    obtain ⟨-, rfl⟩ := get_eq_ok.mp checksFound
    have fixed : ∀ last, "external/" ++ environment.text item "name" ++ ("/" ++ last) =
        bundlePath (environment.text item "name") [last] := by
      intro last
      simp only [bundlePath_singleton, String.append_assoc]
    have first := addFile_adds addedReport (fixed "report.json") (properPath_singleton (by decide))
    have second := addFile_adds addedSignature (fixed "report.sig.json")
      (properPath_singleton (by decide))
    have third := addFile_adds addedPolicy (fixed "trust-policy.json")
      (properPath_singleton (by decide))
    have fourth := foldlM_adds addedKeys fun _ _ _ => collectKey_adds lawful
    have fifth := foldlM_adds addedChecks fun _ _ _ => collectCheck_adds
    rw [lawful.resolved] at first third
    have all := (((first.append second).append third).append fourth).append fifth
    unfold acceptanceFiles
    simp only [policyAt, reportAt, listed_eq approversIterated, listed_eq checksIterated]
    simpa [List.map_eq_flatMap, List.flatMap_assoc] using all

theorem collectExternal_collects (lawful : Disk.Lawful disk) {items : List Json} {item : Json}
    (listed : item ∈ items)
    (collected : collectExternal environment disk files item = .ok result) :
    Collects disk (ExternalFile environment disk items) files result := by
  obtain ⟨-, skipped, added⟩ := collectExternal_spec lawful collected
  cases truth : Json.truthy (item.member "verified") with
  | false =>
    rw [skipped truth]
    exact refl files
  | true =>
    obtain ⟨named, adds⟩ := added truth
    apply adds.collects.weaken
    rintro file ⟨source, member, proper, same⟩
    exact ⟨item, listed, truth, named, source, member, proper, same⟩

/-- What the collection of the artifacts leaves in the bundle. -/
structure ArtifactsCollected (environment : Environment Content) (disk : Disk Content)
    (includeArtifacts : Bool) (artifact : Json) (entries : List Json) (content : Content)
    (result : Files) : Prop where
  manifest : ("artifacts/SHA256SUMS.json",
    ⟨disk.resolve (PosixPath.parse (environment.text artifact "path")),
      "artifact-manifest"⟩) ∈ result
  read : disk.read (disk.resolve (PosixPath.parse (environment.text artifact "path"))) =
    some content
  listed : includeArtifacts = true → manifestEntries environment content = .ok entries
  payload : includeArtifacts = true → ∀ entry ∈ entries, entry.isObject = true ∧
    safeMember (environment.text entry "path") = true ∧
      ("artifacts/payload/" ++ environment.text entry "path",
        ⟨disk.resolve ((disk.resolve (PosixPath.parse
            (environment.text artifact "artifactRoot"))).join
          (PosixPath.parse (environment.text entry "path"))), "artifact"⟩) ∈ result

theorem ArtifactsCollected.later {includeArtifacts : Bool} {artifact : Json}
    {entries : List Json} {content : Content} {later : Files}
    (collected : ArtifactsCollected environment disk includeArtifacts artifact entries content
      result) (kept : ∀ file ∈ result, file ∈ later) :
    ArtifactsCollected environment disk includeArtifacts artifact entries content later where
  manifest := kept _ collected.manifest
  read := collected.read
  listed := collected.listed
  payload := by
    intro asked entry member
    obtain ⟨object, safe, added⟩ := collected.payload asked entry member
    exact ⟨object, safe, kept _ added⟩

/-- The collection of the artifacts: the manifest, and what it lists if that is asked for. -/
theorem collectArtifacts_spec {includeArtifacts : Bool} {qualification : Json}
    (collected : collectArtifacts environment disk includeArtifacts qualification files =
      .ok result) :
    ∃ entries, Collects disk (ArtifactFile environment entries) files result ∧
      match artifactManifest? qualification with
      | none => result = files
      | some artifact => ∃ content,
        ArtifactsCollected environment disk includeArtifacts artifact entries content result := by
  unfold collectArtifacts at collected
  cases present : artifactManifest? qualification with
  | none =>
    simp only [present, Except.ok.injEq] at collected
    subst collected
    exact ⟨[], refl _, rfl⟩
  | some artifact =>
    simp only [present] at collected
    obtain ⟨withManifest, added, rest⟩ := bind_eq_ok.mp collected
    obtain ⟨content, read⟩ := Option.isSome_iff_exists.mp (addFile_eq_ok.mp added).2.1
    cases includeArtifacts with
    | false =>
      simp only [Bool.false_eq_true, if_false, pure_eq_ok] at rest
      subst rest
      refine ⟨[], addFile_collects added (Or.inl rfl), content, ?_⟩
      exact ⟨mem_of_addFile added, read, by simp, by simp⟩
    | true =>
      simp only [if_true, bind_eq_ok] at rest
      obtain ⟨loaded, reread, entries, listed, addedAll⟩ := rest
      obtain rfl := Option.some.inj (read.symm.trans (load_eq_ok.mp reread))
      -- Each step adds an artifact that the manifest lists.
      have steps : ∀ entry ∈ entries, ∀ before after, collectArtifact environment disk
          (disk.resolve (parse (environment.text artifact "artifactRoot"))) before
          entry = .ok after → Collects disk (ArtifactFile environment entries) before after := by
        intro entry member before after taken
        obtain ⟨-, -, addedOne⟩ := collectArtifact_added taken
        exact addFile_collects addedOne (Or.inr ⟨entry, member, rfl⟩)
      have first : Collects disk (ArtifactFile environment entries) files withManifest :=
        addFile_collects added (Or.inl rfl)
      have second : Collects disk (ArtifactFile environment entries) withManifest result :=
        foldlM_related refl trans steps addedAll
      refine ⟨entries, first.trans second, content, second.kept _ (mem_of_addFile added), read,
        fun _ => listed, ?_⟩
      intro _ entry member
      obtain ⟨_, _, -, taken, later⟩ := foldlM_visits refl trans steps addedAll
        member
      obtain ⟨safe, object, addedOne⟩ := collectArtifact_added taken
      exact ⟨object, safe, later.kept _ (mem_of_addFile addedOne)⟩

end Collectors

theorem hasStart_iff {start name : String} :
    hasStart start name = true ↔ start.toList <+: name.toList :=
  List.isPrefixOf_iff_prefix

theorem hasStart_append (start rest : String) : hasStart start (start ++ rest) = true := by
  rw [hasStart_iff, String.toList_append]
  exact List.prefix_append _ _

/-- Texts that part before the end of either do so whatever follows. -/
theorem hasStart_append_of_apart {start other : String} (first : hasStart start other = false)
    (second : hasStart other start = false) (rest : String) :
    hasStart start (other ++ rest) = false := by
  rw [Bool.eq_false_iff] at first second ⊢
  intro starts
  rw [hasStart_iff, String.toList_append] at starts
  rcases List.prefix_or_prefix_of_prefix starts (List.prefix_append _ _) with one | two
  · exact first (hasStart_iff.mpr one)
  · exact second (hasStart_iff.mpr two)

/-- A text with another start is another text. -/
theorem append_ne_of_start {start name : String} (apart : hasStart start name = false)
    (rest : String) : start ++ rest ≠ name := by
  rintro rfl
  rw [hasStart_append] at apart
  cases apart

/-- The kinds of files that a bundle has apart from the artifacts. -/
def OtherFile (environment : Environment Content) (disk : Disk Content) (items : List Json)
    (file : String × BundleFile) : Prop :=
  file.1 = "metadata/release-qualification.json" ∨ file.1 = "tests/ctest.log" ∨
    LocalFile file ∨ ExternalFile environment disk items file

/-- The kinds of files that a bundle consists of. -/
def AnyFile (environment : Environment Content) (disk : Disk Content) (items : List Json)
    (entries : List Json) (file : String × BundleFile) : Prop :=
  OtherFile environment disk items file ∨ ArtifactFile environment entries file

theorem OtherFile.no_artifact {items : List Json} {file : String × BundleFile}
    (other : OtherFile environment disk items file) :
    hasStart "artifacts/" file.1 = false := by
  rcases other with same | same | ⟨rest, same⟩ | external
  · rw [same]
    decide
  · rw [same]
    decide
  · rw [same]
    exact hasStart_append_of_apart (by decide) (by decide) rest
  · obtain ⟨rest, same⟩ := external.below
    rw [same]
    exact hasStart_append_of_apart (by decide) (by decide) rest

/-- What the collection for a qualification leaves in the bundle. -/
structure Gathered (environment : Environment Content) (disk : Disk Content)
    (arguments : CreateArguments Content) (qualification : Json) (content : Content)
    (entries : List Json) (items : List Json) (files : Files) : Prop where
  wellFormed : WellFormed disk files
  kinds : ∀ file ∈ files, AnyFile environment disk items entries file
  read : disk.read (disk.resolve arguments.qualification) = some content
  loaded : environment.loads content = .ok qualification
  object : qualification.isObject = true
  passed : Json.isTrue (qualification.member "passed") = true
  bundled : ("metadata/release-qualification.json",
    ⟨disk.resolve arguments.qualification, "qualification"⟩) ∈ files
  iterated : Json.iterate (qualification.member "externalAcceptance") = .ok items
  objects : ∀ item ∈ items, item.isObject = true
  collected : ∀ item ∈ items, Json.truthy (item.member "verified") = true →
    externalName (environment.text item "name") = true ∧
      ∀ source ∈ acceptanceFiles environment disk item,
        Holds (environment.text item "name") files source
  artifacts : match artifactManifest? qualification with
    | none => ∀ file ∈ files, OtherFile environment disk items file
    | some artifact => ∃ manifest, ArtifactsCollected environment disk
        arguments.includeArtifacts artifact entries manifest files

theorem collectFiles_spec (lawful : Disk.Lawful disk) {arguments : CreateArguments Content}
    {qualification : Json} {files : Files}
    (collected : collectFiles environment disk arguments = .ok (qualification, files)) :
    ∃ content entries items,
      Gathered environment disk arguments qualification content entries items files := by
  unfold collectFiles at collected
  simp only [bind_eq_ok, pure_eq_ok, Prod.mk.injEq] at collected
  obtain ⟨content, read, document, loaded, operation, operationFound, _, passing, withFirst,
    addedFirst, _, -, withTests, addedTests, evidence, -, withLocal, addedLocal, withArtifacts,
    addedArtifacts, items, iterated, last, addedExternal, rfl, rfl⟩ := collected
  obtain ⟨entries, artifactsAdded, artifacts⟩ := collectArtifacts_spec addedArtifacts
  have steps : ∀ item ∈ items, ∀ before after, collectExternal environment disk before item =
      .ok after → Collects disk (ExternalFile environment disk items) before after :=
    fun item listed before after taken => collectExternal_collects lawful listed taken
  -- The parts of the collection, each adding files of its own kind.
  have first : Collects disk (OtherFile environment disk items) [] withFirst :=
    addFile_collects addedFirst (Or.inl rfl)
  have second : Collects disk (OtherFile environment disk items) withFirst withTests :=
    addFile_collects addedTests (Or.inr (Or.inl rfl))
  have third : Collects disk (OtherFile environment disk items) withTests withLocal :=
    (foldlM_related refl trans (fun _ _ _ _ => collectLocal_collects) addedLocal).weaken
        fun file kind => Or.inr (Or.inr (Or.inl kind))
  have fifth : Collects disk (ExternalFile environment disk items) withArtifacts last :=
    foldlM_related refl trans steps addedExternal
  have before : Collects disk (OtherFile environment disk items) [] withLocal := first.trans (second.trans third)
  have whole : Collects disk (AnyFile environment disk items entries) [] last :=
    (before.weaken fun _ => Or.inl).trans ((artifactsAdded.weaken fun _ => Or.inr).trans
      (fifth.weaken fun file kind => Or.inl (Or.inr (Or.inr (Or.inr kind)))))
  have bundled := mem_of_addFile addedFirst
  rw [lawful.resolved] at bundled
  have passes := require_eq_ok.mp passing
  rw [Bool.and_eq_true] at passes
  refine ⟨content, entries, items, whole.wellFormed ⟨by simp, by simp, by simp⟩, ?_,
    load_eq_ok.mp read, loaded, (get_eq_ok.mp operationFound).1, passes.2, ?_, iterated, ?_, ?_,
    ?_⟩
  · intro file listed
    rcases whole.kinds file listed with none | kind
    · cases none
    · exact kind
  · exact fifth.kept _ (artifactsAdded.kept _ (third.kept _ (second.kept _ bundled)))
  · intro item listed
    obtain ⟨_, _, -, taken, -⟩ := foldlM_visits refl trans steps addedExternal
      listed
    exact (collectExternal_spec lawful taken).1
  · intro item listed verified
    obtain ⟨_, _, -, taken, later⟩ := foldlM_visits refl trans steps addedExternal listed
    obtain ⟨named, adds⟩ := (collectExternal_spec lawful taken).2.2 verified
    exact ⟨named, fun source member => (adds.holds source member).later later.kept⟩
  · cases present : artifactManifest? document with
    | none =>
      -- Without a manifest nothing was added between the local and the external files.
      rw [present] at artifacts
      simp only at artifacts
      subst artifacts
      have others : Collects disk (OtherFile environment disk items) [] last :=
        before.trans (fifth.weaken fun file kind => Or.inr (Or.inr (Or.inr kind)))
      intro file listed
      rcases others.kinds file listed with none | kind
      · cases none
      · exact kind
    | some artifact =>
      rw [present] at artifacts
      obtain ⟨manifest, held⟩ := artifacts
      exact ⟨manifest, held.later fifth.kept⟩

end PocoDDS.Tools.EvidenceBundle
