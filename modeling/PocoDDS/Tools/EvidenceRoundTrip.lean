import PocoDDS.Tools.EvidenceArchive

/-! When the verification of an evidence bundle accepts what its creation has produced. -/

namespace PocoDDS.Tools.EvidenceBundle

open AssocList ExternalAcceptance JsonModel OutcomeLogic PosixPaths PosixPath

variable {Content : Type} {environment : Environment Content} {disk : Disk Content}

/-- No place lies below another one. -/
def Apart (places : List (List String)) : Prop :=
  ∀ one ∈ places, ∀ other ∈ places, one <+: other → one = other

/-- A file is written where there is none, unless it would lie below a file or hold files. -/
theorem writeExtracted_eq_ok {tree result : Tree Content} {parts : List String}
    {content : Content} (fresh : parts ∉ keys tree) :
    writeExtracted tree parts content = .ok result ↔
      (∀ place ∈ keys tree, ¬ place <+: parts ∧ ¬ parts <+: place) ∧
        result = tree ++ [(parts, content)] := by
  have differs : ∀ file ∈ tree, file.1 ≠ parts := by
    intro file listed same
    exact fresh (List.mem_map.mpr ⟨file, listed, same⟩)
  have kept : tree.filter (fun file => decide (file.1 ≠ parts)) = tree := by
    rw [List.filter_eq_self]
    intro file listed
    exact decide_eq_true (differs file listed)
  have below : (tree.any fun file => file.1.isPrefixOf parts && decide (file.1 ≠ parts)) = true ↔
      ∃ place ∈ keys tree, place <+: parts := by
    rw [List.any_eq_true]
    constructor
    · rintro ⟨file, listed, inside⟩
      rw [Bool.and_eq_true, List.isPrefixOf_iff_prefix] at inside
      exact ⟨file.1, List.mem_map_of_mem listed, inside.1⟩
    · rintro ⟨place, listed, inside⟩
      obtain ⟨file, member, rfl⟩ := List.mem_map.mp listed
      exact ⟨file, member, by simp [inside, differs file member]⟩
  have above : (tree.any fun file => parts.isPrefixOf file.1 && decide (file.1 ≠ parts)) = true ↔
      ∃ place ∈ keys tree, parts <+: place := by
    rw [List.any_eq_true]
    constructor
    · rintro ⟨file, listed, inside⟩
      rw [Bool.and_eq_true, List.isPrefixOf_iff_prefix] at inside
      exact ⟨file.1, List.mem_map_of_mem listed, inside.1⟩
    · rintro ⟨place, listed, inside⟩
      obtain ⟨file, member, rfl⟩ := List.mem_map.mp listed
      exact ⟨file, member, by simp [inside, differs file member]⟩
  unfold writeExtracted
  rw [kept]
  simp only [below, above]
  split_ifs with one two
  · simp only [false_iff, not_and]
    obtain ⟨place, listed, inside⟩ := one
    intro clear
    exact absurd inside (clear place listed).1
  · simp only [false_iff, not_and]
    obtain ⟨place, listed, inside⟩ := two
    intro clear
    exact absurd inside (clear place listed).2
  · simp only [Except.ok.injEq]
    push Not at one two
    constructor
    · rintro rfl
      exact ⟨fun place listed => ⟨one place listed, two place listed⟩, rfl⟩
    · rintro ⟨-, rfl⟩
      rfl

theorem apart_append_singleton {places : List (List String)} {parts : List String}
    (apart : Apart places) (fresh : parts ∉ places) :
    Apart (places ++ [parts]) ↔ ∀ place ∈ places, ¬ place <+: parts ∧ ¬ parts <+: place := by
  constructor
  · intro all place listed
    have differs : place ≠ parts := fun same => fresh (same ▸ listed)
    constructor
    · intro inside
      exact differs (all place (by simp [listed]) parts (by simp) inside)
    · intro inside
      exact differs (all parts (by simp) place (by simp [listed]) inside).symm
  · intro clear one first other second inside
    rcases List.mem_append.mp first with oldFirst | newFirst
    · rcases List.mem_append.mp second with oldSecond | newSecond
      · exact apart one oldFirst other oldSecond inside
      · rw [List.mem_singleton.mp newSecond] at inside
        exact absurd inside (clear one oldFirst).1
    · rw [List.mem_singleton.mp newFirst] at inside ⊢
      rcases List.mem_append.mp second with oldSecond | newSecond
      · exact absurd inside (clear other oldSecond).2
      · exact (List.mem_singleton.mp newSecond).symm

/-- Files with distinct places are all written exactly when no place lies below another. -/
theorem writeAll_eq_ok {tree rest result : Tree Content}
    (distinct : (keys (tree ++ rest)).Nodup) (apart : Apart (keys tree)) :
    rest.foldlM (fun tree entry => writeExtracted tree entry.1 entry.2) tree = .ok result ↔
      Apart (keys (tree ++ rest)) ∧ result = tree ++ rest := by
  induction rest generalizing tree with
  | nil =>
    rw [List.foldlM_nil, pure_eq_ok, List.append_nil]
    constructor
    · rintro rfl
      exact ⟨apart, rfl⟩
    · rintro ⟨-, rfl⟩
      rfl
  | cons entry rest ih =>
    have shifted : tree ++ entry :: rest = (tree ++ [entry]) ++ rest := by simp
    have grown : keys (tree ++ [entry]) = keys tree ++ [entry.1] := by simp [keys]
    have fresh : entry.1 ∉ keys tree := by
      intro listed
      rw [keys, List.map_append] at distinct
      exact List.disjoint_of_nodup_append distinct listed (by simp)
    rw [List.foldlM_cons, bind_eq_ok]
    rw [shifted] at distinct ⊢
    constructor
    · rintro ⟨next, written, remaining⟩
      obtain ⟨clear, rfl⟩ := (writeExtracted_eq_ok fresh).mp written
      apply (ih distinct _).mp remaining
      rw [grown]
      exact (apart_append_singleton apart fresh).mpr clear
    · rintro ⟨all, rfl⟩
      have start : Apart (keys (tree ++ [entry])) := by
        intro one first other second inside
        apply all one _ other _ inside
        · rw [keys, List.map_append]
          exact List.mem_append_left _ first
        · rw [keys, List.map_append]
          exact List.mem_append_left _ second
      refine ⟨tree ++ [entry], (writeExtracted_eq_ok fresh).mpr ⟨?_, rfl⟩, ?_⟩
      · rw [grown] at start
        exact (apart_append_singleton apart fresh).mp start
      · exact (ih distinct start).mpr ⟨all, rfl⟩

section Bundled

variable {files : Files} {contents : List (String × BundleFile × Content)}
  {arguments : CreateArguments Content} {qualification manifest : Json} {content : Content}
  {entries items : List Json}

theorem parts_bundlePath {name : String} {path : List String} (named : IsComponent name)
    (proper : ProperPath path) :
    (parse (bundlePath name path)).parts = "external" :: name :: path := by
  have text : bundlePath name path = "/".intercalate ("external" :: name :: path) := by
    rw [bundlePath, String.intercalate_cons_cons, String.intercalate_cons_of_ne_nil proper.1]
    simp only [String.append_assoc]
    rfl
  rw [text]
  apply components_intercalate
  intro part listed
  rcases List.mem_cons.mp listed with rfl | later
  · decide
  rcases List.mem_cons.mp later with rfl | last
  · exact named
  · exact proper.2 part last

/-- The external evidence of an archive, by its place. -/
def externalMembers (archive : List (String × Content)) : Tree Content :=
  (archive.filter fun entry => hasStart "external/" entry.1).map fun entry =>
    ((PosixPath.parse entry.1).parts, entry.2)

theorem extract_eq (archive : List (String × Content)) :
    extract archive = (externalMembers archive).foldlM
      (fun tree entry => writeExtracted tree entry.1 entry.2) [] := by
  unfold extract externalMembers
  rw [List.foldlM_map]

/-- A file below the directory of the external evidence belongs to a verified acceptance. -/
theorem AnyFile.external_of_start {file : String × BundleFile}
    (kind : AnyFile environment disk items entries file)
    (start : hasStart "external/" file.1 = true) : ExternalFile environment disk items file := by
  have apart : ∀ {other rest : String}, hasStart "external/" other = false →
      hasStart other "external/" = false → file.1 ≠ other ++ rest := by
    intro other rest first second same
    rw [same, hasStart_append_of_apart first second] at start
    cases start
  rcases kind with (same | same | ⟨rest, same⟩ | external) | (same | ⟨entry, -, same⟩)
  · rw [same] at start
    exact absurd start (by decide)
  · rw [same] at start
    exact absurd start (by decide)
  · exact absurd same (apart (by decide) (by decide))
  · exact external
  · rw [same] at start
    exact absurd start (by decide)
  · exact absurd same (apart (by decide) (by decide))

variable (gathered : Gathered environment disk arguments qualification content entries items files)
  (read : readFiles disk files = .ok contents)
include gathered read

theorem mem_externalMembers {place : List String} {stored : Content}
    (member : (place, stored) ∈ externalMembers (archiveOf environment manifest contents)) :
    ∃ file ∈ files, ExternalFile environment disk items file ∧
      place = (parse file.1).parts ∧ disk.read file.2.source = some stored := by
  obtain ⟨entry, kept, same⟩ := List.mem_map.mp member
  obtain ⟨listed, start⟩ := List.mem_filter.mp kept
  obtain ⟨rfl, rfl⟩ := Prod.mk.inj same
  rcases List.mem_cons.mp listed with first | later
  · have other : ¬ hasStart "external/" manifestName = true := by decide
    rw [first] at start
    exact absurd start other
  · obtain ⟨file, inside, named⟩ := (mem_keys_members read).mp (List.mem_map_of_mem later)
    have found := lookup_members read gathered.wellFormed inside
    rw [named, (lookup_eq_some_iff (nodup_members read gathered.wellFormed)).mpr later] at found
    refine ⟨file, inside, (gathered.kinds file inside).external_of_start (named ▸ start), ?_,
      found.symm⟩
    rw [named]

omit gathered read in
theorem ExternalFile.same_path {one other : String × BundleFile}
    (first : ExternalFile environment disk items one)
    (second : ExternalFile environment disk items other)
    (same : (parse one.1).parts = (parse other.1).parts) :
    one.1 = other.1 := by
  obtain ⟨item, -, -, named, source, -, proper, path⟩ := first
  obtain ⟨item', -, -, named', source', -, proper', path'⟩ := second
  rw [path, path', parts_bundlePath (isComponent_of_externalName named) proper,
    parts_bundlePath (isComponent_of_externalName named') proper'] at same
  simp only [List.cons.injEq, true_and] at same
  rw [path, path', same.1, same.2]

theorem nodup_externalMembers :
    (keys (externalMembers (archiveOf environment manifest contents))).Nodup := by
  have distinct : (keys (archiveOf environment manifest contents)).Nodup :=
    nodup_archiveOf gathered read
  have places : keys (externalMembers (archiveOf environment manifest contents)) =
      (keys ((archiveOf environment manifest contents).filter fun entry =>
        hasStart "external/" entry.1)).map fun name => (parse name).parts := by
    simp only [keys, externalMembers, List.map_map]
    rfl
  rw [places]
  apply List.Nodup.map_on _ (nodup_keys_filter distinct _)
  -- Every name here belongs to a collected file.
  have origin : ∀ name ∈ keys ((archiveOf environment manifest contents).filter fun entry =>
      hasStart "external/" entry.1), ∃ file ∈ files, ExternalFile environment disk items file ∧
        file.1 = name := by
    intro name listed
    obtain ⟨entry, kept, rfl⟩ := List.mem_map.mp listed
    obtain ⟨member, start⟩ := List.mem_filter.mp kept
    rcases List.mem_cons.mp member with first | later
    · have other : ¬ hasStart "external/" manifestName = true := by decide
      rw [first] at start
      exact absurd start other
    · obtain ⟨file, inside, named⟩ := (mem_keys_members read).mp (List.mem_map_of_mem later)
      exact ⟨file, inside, (gathered.kinds file inside).external_of_start (named ▸ start), named⟩
  intro one first other second same
  obtain ⟨file, -, kind, rfl⟩ := origin one first
  obtain ⟨file', -, kind', rfl⟩ := origin other second
  exact kind.same_path kind' same

theorem lookup_externalMembers {item : Json} (listed : item ∈ items)
    (verified : Json.truthy (item.member "verified") = true) {source : List String × PosixPath}
    (member : source ∈ acceptanceFiles environment disk item) :
    valueAt (externalMembers (archiveOf environment manifest contents))
        ("external" :: environment.text item "name" :: source.1) = disk.read source.2 ∧
      (disk.read source.2).isSome = true := by
  obtain ⟨named, all⟩ := gathered.collected item listed verified
  obtain ⟨proper, role, inside⟩ := all source member
  have present := gathered.wellFormed.present _ inside
  refine ⟨?_, present⟩
  obtain ⟨stored, found⟩ := Option.isSome_iff_exists.mp present
  have archived : (archiveOf environment manifest contents).lookup
      (bundlePath (environment.text item "name") source.1) = some stored :=
    (lookup_archiveOf gathered read inside).trans found
  rw [lookup_eq_some_iff (nodup_archiveOf gathered read)] at archived
  rw [found, valueAt_eq_some_iff (nodup_externalMembers gathered read)]
  have start : hasStart "external/" (bundlePath (environment.text item "name") source.1) =
      true := by
    rw [bundlePath]
    simp only [String.append_assoc]
    exact hasStart_append _ _
  refine List.mem_map.mpr ⟨_, List.mem_filter.mpr ⟨archived, start⟩, ?_⟩
  rw [parts_bundlePath (isComponent_of_externalName named) proper]

/-- The files of the verified acceptances, by their places in the bundle. -/
def acceptancePlaces (environment : Environment Content) (disk : Disk Content)
    (items : List Json) : List (List String × PosixPath) :=
  items.flatMap fun item => (acceptanceFiles environment disk item).map fun source =>
    ("external" :: environment.text item "name" :: source.1, source.2)

/-- What is found at a place of the bundle. -/
def acceptanceContent (environment : Environment Content) (disk : Disk Content)
    (items : List Json) (place : List String) : Option Content :=
  (valueAt (acceptancePlaces environment disk items) place).bind disk.read

/-- The acceptances that are listed as verified. -/
def verifiedOf (items : List Json) : List Json :=
  items.filter fun item => Json.truthy (item.member "verified")

theorem externalMembers_lookup (place : List String) :
    valueAt (externalMembers (archiveOf environment manifest contents)) place =
      acceptanceContent environment disk (verifiedOf items) place := by
  have listed : ∀ source, (place, source) ∈ acceptancePlaces environment disk (verifiedOf items) →
      valueAt (externalMembers (archiveOf environment manifest contents)) place =
        disk.read source := by
    intro source member
    obtain ⟨item, inside, mapped⟩ := List.mem_flatMap.mp member
    obtain ⟨origin, given, same⟩ := List.mem_map.mp mapped
    obtain ⟨rfl, rfl⟩ := Prod.mk.inj same
    obtain ⟨inItems, verified⟩ := List.mem_filter.mp inside
    exact (lookup_externalMembers gathered read inItems verified given).1
  unfold acceptanceContent
  cases found : valueAt (acceptancePlaces environment disk (verifiedOf items)) place with
  | some source => exact listed source (mem_of_valueAt found)
  | none =>
    -- Nothing else is among the external evidence.
    rw [Option.bind_none, valueAt_eq_none_iff]
    intro stored
    obtain ⟨⟨_, held⟩, member, rfl⟩ := List.mem_map.mp stored
    obtain ⟨file, -, ⟨item, inItems, verified, named, source, given, proper, path⟩, same, -⟩ :=
      mem_externalMembers gathered read member
    rw [path, parts_bundlePath (isComponent_of_externalName named) proper] at same
    apply valueAt_eq_none_iff.mp found
    refine List.mem_map.mpr ⟨(_, source.2), List.mem_flatMap.mpr ⟨item,
      List.mem_filter.mpr ⟨inItems, verified⟩, List.mem_map.mpr ⟨source, given, rfl⟩⟩, ?_⟩
    exact same.symm

theorem mem_keys_externalMembers {place : List String} :
    place ∈ keys (externalMembers (archiveOf environment manifest contents)) ↔
      place ∈ keys (acceptancePlaces environment disk (verifiedOf items)) := by
  have same : valueAt (externalMembers (archiveOf environment manifest contents)) place = _ :=
    externalMembers_lookup gathered read place
  constructor
  · intro listed
    by_contra absent
    rw [acceptanceContent, valueAt_eq_none_iff.mpr absent, Option.bind_none] at same
    exact valueAt_eq_none_iff.mp same listed
  · intro listed
    obtain ⟨⟨_, _⟩, member, rfl⟩ := List.mem_map.mp listed
    obtain ⟨item, inside, mapped⟩ := List.mem_flatMap.mp member
    obtain ⟨origin, given, shape⟩ := List.mem_map.mp mapped
    obtain ⟨rfl, rfl⟩ := Prod.mk.inj shape
    obtain ⟨inItems, verified⟩ := List.mem_filter.mp inside
    by_contra absent
    obtain ⟨found, present⟩ := lookup_externalMembers gathered read inItems verified given
    rw [← found, valueAt_eq_none_iff.mpr absent] at present
    cases present

/-- The external evidence of the acceptances can be laid out in one directory. -/
def PlacesApart (environment : Environment Content) (disk : Disk Content) (items : List Json) :
    Prop :=
  Apart (keys (acceptancePlaces environment disk items))

theorem extract_created {tree : Tree Content} :
    extract (archiveOf environment manifest contents) = .ok tree ↔
      PlacesApart environment disk (verifiedOf items) ∧
        tree = externalMembers (archiveOf environment manifest contents) := by
  have distinct : (keys ([] ++ externalMembers (archiveOf environment manifest contents))).Nodup :=
    nodup_externalMembers gathered read
  have apart : Apart (keys (externalMembers (archiveOf environment manifest contents))) ↔
      PlacesApart environment disk (verifiedOf items) := by
    unfold PlacesApart Apart
    simp only [mem_keys_externalMembers gathered read]
  rw [extract_eq, writeAll_eq_ok distinct (by simp [Apart, keys]), List.nil_append, apart]

end Bundled

section Acceptance

variable {files : Files} {contents : List (String × BundleFile × Content)}
  {arguments : CreateArguments Content} {qualification manifest : Json} {content : Content}
  {entries items : List Json} {verifying : VerifyArguments Content}
variable {item attachment : Json} {now : Int} {policy : String × String} {signed : Signed Content}

/-- A fresh directory: files are found where they were put, and no link leads elsewhere. -/
structure Mounted (verifying : VerifyArguments Content) : Prop where
  resolve : ∀ files parts, (∀ part ∈ parts, part ≠ "..") →
    (verifying.mount files).resolve
      ⟨verifying.directory.absolute, verifying.directory.parts ++ parts⟩ =
        ⟨verifying.directory.absolute, verifying.directory.parts ++ parts⟩
  read : ∀ files parts, (∀ part ∈ parts, part ≠ "..") →
    (verifying.mount files).read
      ⟨verifying.directory.absolute, verifying.directory.parts ++ parts⟩ = files parts

/-- The files of an acceptance as the qualification names them. -/
def inPlacePaths (environment : Environment Content) (item : Json) : SignedReport where
  report := PosixPath.parse (environment.text item "path")
  signature := PosixPath.parse (environment.text item "signaturePath")
  policy := PosixPath.parse (environment.text item "trustPolicyPath")

/-- The candidate that a qualification is about, as an acceptance of it must name it. -/
def candidate (environment : Environment Content) (qualification item : Json) : Expected where
  type := environment.shown item "name"
  version := environment.shown qualification "version"
  commit := ((qualification.member "git").getD (.obj [])).member "commit"
  manifestSha256 := ((qualification.member "artifactManifest").getD (.obj [])).member "sha256"

/-- An acceptance that verifies where its files lie, under the policy recorded for it. -/
structure InPlace (environment : Environment Content) (disk : Disk Content) (now : Int)
    (verifier : Bool) (qualification item : Json) (policy : String × String)
    (signed : Signed Content) : Prop where
  recorded : recordedPolicy environment item = .ok policy
  passes : signed.Passes environment disk now verifier (inPlacePaths environment item) policy.1
    policy.2 (candidate environment qualification item)

theorem shown_eq_text (named : externalName (environment.text item "name") = true) :
    environment.shown item "name" = environment.text item "name" := by
  unfold Environment.shown Environment.text at *
  cases found : item.member "name" with
  | none =>
    rw [found] at named
    exact absurd named (by simp [externalName, matchesName, Environment.str])
  | some value => rfl

/-- The host that verifies, once the bundle is extracted. -/
def extracted (environment : Environment Content) (disk : Disk Content) (items : List Json)
    (verifying : VerifyArguments Content) : Disk Content :=
  verifying.mount (acceptanceContent environment disk items)

/-- From the acceptance's directory in the bundle, the policy's key path leads to the key. -/
def KeyBeside (environment : Environment Content) (disk : Disk Content) (items : List Json)
    (verifying : VerifyArguments Content) (item : Json) (signed : Signed Content) : Prop :=
  (extracted environment disk items verifying).read
    (keyPath environment (extracted environment disk items verifying)
      (bundledPaths verifying.directory (environment.text item "name")).policy signed.approver) =
        some signed.key

theorem checkReport_checks {document : Json} {expected : Expected} {checks : List Json}
    (passed : checkReport environment document expected = .ok checks) :
    document.member "checks" = some (.arr checks) := by
  unfold checkReport at passed
  simp only [bind_eq_ok, pure_eq_ok] at passed
  obtain ⟨_, -, _, -, _, -, _, -, _, -, _, -, _, -, _, -, _, -, _, -, _, -, _, final, same⟩ :=
    passed
  have present := (Bool.and_eq_true _ _ ▸ require_eq_ok.mp final).1
  cases found : document.member "checks" with
  | none => simp [found] at present
  | some value =>
    cases value with
    | arr values =>
      simp only [found, Option.bind_some, Json.items?, Option.getD_some] at same
      rw [same]
    | _ => simp [found, Json.items?] at present

theorem listed_evidence {check : Json} (attached : attachment ∈ attachments check) :
    listed (check.member "evidence") = attachments check := by
  unfold attachments at attached ⊢
  cases found : check.member "evidence" with
  | none => simp [found] at attached
  | some value =>
    cases value with
    | arr values => rfl
    | _ => simp [found, Json.items?] at attached

theorem read_extracted (mounted : Mounted verifying)
    (gathered : Gathered environment disk arguments qualification content entries items files)
    (read : readFiles disk files = .ok contents) (listed : item ∈ items)
    (verified : Json.truthy (item.member "verified") = true) {source : List String × PosixPath}
    (member : source ∈ acceptanceFiles environment disk item) :
    (extracted environment disk (verifiedOf items) verifying).resolve
        ⟨verifying.directory.absolute, verifying.directory.parts ++
          "external" :: environment.text item "name" :: source.1⟩ =
        ⟨verifying.directory.absolute, verifying.directory.parts ++
          "external" :: environment.text item "name" :: source.1⟩ ∧
      (extracted environment disk (verifiedOf items) verifying).read
        ⟨verifying.directory.absolute, verifying.directory.parts ++
          "external" :: environment.text item "name" :: source.1⟩ = disk.read source.2 := by
  obtain ⟨named, all⟩ := gathered.collected item listed verified
  obtain ⟨proper, role, inside⟩ := all source member
  -- The path of the file in the bundle is safe, so none of its components leads upwards.
  have plain : ∀ part ∈ "external" :: environment.text item "name" :: source.1, part ≠ ".." := by
    have safe := gathered.wellFormed.safe _ inside
    unfold safeMember at safe
    simp only [Bool.and_eq_true, List.all_eq_true] at safe
    rw [parts_bundlePath (isComponent_of_externalName named) proper] at safe
    intro part given
    rintro rfl
    exact absurd (safe.2 _ given) (by decide)
  refine ⟨mounted.resolve _ _ plain, ?_⟩
  have found : valueAt (externalMembers (archiveOf environment .null contents))
      ("external" :: environment.text item "name" :: source.1) = disk.read source.2 :=
    (lookup_externalMembers gathered read listed verified member).1
  rw [extracted, mounted.read _ _ plain, ← found]
  exact (externalMembers_lookup gathered read _).symm

theorem mem_acceptanceFiles {verifier : Bool}
    (inPlace : InPlace environment disk now verifier qualification item policy signed)
    {check : Json} (checked : check ∈ signed.checks) (attached : attachment ∈ attachments check) :
    (if (parse (environment.text attachment "path")).absolute then []
        else (parse (environment.text attachment "path")).parts,
      attachmentPath disk (inPlacePaths environment item).report
        (environment.text attachment "path")) ∈ acceptanceFiles environment disk item := by
  have report : documentAt environment disk (environment.text item "path") = signed.report :=
    documentAt_eq inPlace.passes.reportRead inPlace.passes.reportLoaded
  have checks : listed (signed.report.member "checks") = signed.checks := by
    rw [checkReport_checks inPlace.passes.reported]
    rfl
  unfold acceptanceFiles
  refine List.mem_append_right _ (List.mem_map.mpr ⟨attachment, ?_, rfl⟩)
  rw [report, checks]
  exact List.mem_flatMap.mpr ⟨check, checked, by rw [listed_evidence attached]; exact attached⟩

variable (mounted : Mounted verifying)
  (gathered : Gathered environment disk arguments qualification content entries items files)
  (read : readFiles disk files = .ok contents) (listed : item ∈ items)
include mounted gathered read listed

theorem attachment_extracted (verified : Json.truthy (item.member "verified") = true)
    {verifier : Bool}
    (inPlace : InPlace environment disk now verifier qualification item policy signed)
    {check : Json} (checked : check ∈ signed.checks) (attached : attachment ∈ attachments check) :
    (extracted environment disk (verifiedOf items) verifying).read
        (attachmentPath (extracted environment disk (verifiedOf items) verifying)
          (bundledPaths verifying.directory (environment.text item "name")).report
          (environment.text attachment "path")) =
      disk.read (attachmentPath disk (inPlacePaths environment item).report
        (environment.text attachment "path")) := by
  have member := mem_acceptanceFiles inPlace checked attached
  -- An attachment that was collected has a relative path.
  have relative : (parse (environment.text attachment "path")).absolute = false := by
    obtain ⟨proper, -⟩ := (gathered.collected item listed verified).2 _ member
    by_contra rooted
    rw [Bool.not_eq_false] at rooted
    rw [rooted] at proper
    exact proper.1 rfl
  rw [relative, if_neg (by simp)] at member
  obtain ⟨resolved, found⟩ := read_extracted mounted gathered read listed verified member
  have report : (["report.json"], disk.resolve (parse (environment.text item "path"))) ∈
      acceptanceFiles environment disk item := by
    simp [acceptanceFiles]
  obtain ⟨reportResolved, -⟩ := read_extracted mounted gathered read listed verified report
  have place : attachmentPath (extracted environment disk (verifiedOf items) verifying)
      (bundledPaths verifying.directory (environment.text item "name")).report
      (environment.text attachment "path") =
        ⟨verifying.directory.absolute, verifying.directory.parts ++ "external" ::
          environment.text item "name" :: (parse (environment.text attachment "path")).parts⟩ := by
    unfold attachmentPath bundledPaths
    simp only
    rw [reportResolved, PosixPath.join, relative, if_neg (by simp)]
    simp only [parent]
    rw [← resolved]
    congr 2
    simp [List.dropLast_append_of_ne_nil]
  rw [place, found]

/-- One acceptance of a created bundle passes when its key is found from its policy there. -/
theorem checkExternal_iff (verified : Json.truthy (item.member "verified") = true)
    (inPlace : InPlace environment disk now verifying.verifier qualification item policy signed)
    (git : ((qualification.member "git").getD (.obj [])).isObject = true)
    (after : now ≤ verifying.now)
    (valid : checkWindow environment signed.approver signed.approvedAt verifying.now = .ok ())
    (collisionFree : ∀ key, environment.sha256 key = environment.sha256 signed.key →
      key = signed.key) {tree : Tree Content}
    (same : valueAt tree = acceptanceContent environment disk (verifiedOf items)) :
    checkExternal environment verifying tree qualification item = .ok () ↔
      ((qualification.member "artifactManifest").getD (.obj [])).isObject = true ∧
        KeyBeside environment disk (verifiedOf items) verifying item signed := by
  have named := shown_eq_text (gathered.collected item listed verified).1
  have held : ∀ source ∈ acceptanceFiles environment disk item,
      (extracted environment disk (verifiedOf items) verifying).read
        ((extracted environment disk (verifiedOf items) verifying).resolve
          ⟨verifying.directory.absolute, verifying.directory.parts ++
            "external" :: environment.text item "name" :: source.1⟩) = disk.read source.2 := by
    intro source member
    obtain ⟨resolved, found⟩ := read_extracted mounted gathered read listed verified member
    rw [resolved, found]
  let copies := bundledPaths verifying.directory (environment.text item "name")
  let host := extracted environment disk (verifiedOf items) verifying
  have reportRead : host.read (host.resolve copies.report) = some signed.reportContent :=
    (held (["report.json"], disk.resolve (inPlacePaths environment item).report)
      (by simp [acceptanceFiles, inPlacePaths])).trans inPlace.passes.reportRead
  have signatureRead : host.read (host.resolve copies.signature) = some signed.signatureContent :=
    (held (["report.sig.json"], disk.resolve (inPlacePaths environment item).signature)
      (by simp [acceptanceFiles, inPlacePaths])).trans inPlace.passes.signatureRead
  have policyRead : host.read (host.resolve copies.policy) = some signed.policyContent :=
    (held (["trust-policy.json"], disk.resolve (inPlacePaths environment item).policy)
      (by simp [acceptanceFiles, inPlacePaths])).trans inPlace.passes.policyRead
  have copied := inPlace.passes.copied_iff reportRead signatureRead policyRead
    (fun check checked attachment attached =>
      attachment_extracted mounted gathered read listed verified inPlace checked attached)
    after valid collisionFree
  have expected : candidate environment qualification item = ⟨environment.text item "name",
      environment.shown qualification "version",
      ((qualification.member "git").getD (.obj [])).member "commit",
      ((qualification.member "artifactManifest").getD (.obj [])).member "sha256"⟩ := by
    rw [candidate, named]
  unfold checkExternal
  rw [same, named, bind_eq_ok]
  simp only [bind_eq_ok, get_eq_ok, pure_eq_ok]
  constructor
  · rintro ⟨found, recorded, _, ⟨-, rfl⟩, _, ⟨object, rfl⟩, evidence, passed, -⟩
    obtain rfl := Except.ok.inj (inPlace.recorded.symm.trans recorded)
    rw [← expected] at passed
    exact ⟨object, copied.mp ⟨evidence, passed⟩⟩
  · rintro ⟨object, beside⟩
    obtain ⟨evidence, passed⟩ := copied.mpr beside
    rw [expected] at passed
    exact ⟨policy, inPlace.recorded, _, ⟨git, rfl⟩, _, ⟨object, rfl⟩, evidence, passed, trivial⟩

omit mounted gathered read listed

/-- Every verified acceptance verifies where its files lie, and its approver's window lasts. -/
structure Accepted (environment : Environment Content) (disk : Disk Content) (now : Int)
    (qualification : Json) (verifying : VerifyArguments Content) (item : Json)
    (policy : String × String) (signed : Signed Content) : Prop where
  inPlace : InPlace environment disk now verifying.verifier qualification item policy signed
  valid : checkWindow environment signed.approver signed.approvedAt verifying.now = .ok ()
  collisionFree : ∀ key, environment.sha256 key = environment.sha256 signed.key →
    key = signed.key

/-- The bundled acceptances can be verified from the bundle. -/
structure ExternalsFound (environment : Environment Content) (disk : Disk Content) (now : Int)
    (qualification : Json) (items : List Json) (verifying : VerifyArguments Content) : Prop where
  manifest : ((qualification.member "artifactManifest").getD (.obj [])).isObject = true
  apart : PlacesApart environment disk items
  keys : ∀ item ∈ items, ∀ policy signed,
    Accepted environment disk now qualification verifying item policy signed →
      KeyBeside environment disk items verifying item signed

/-- The acceptances of a created bundle pass exactly when they can be verified from it. -/
theorem checkExternals_iff (mounted : Mounted verifying)
    (gathered : Gathered environment disk arguments qualification content entries items files)
    (read : readFiles disk files = .ok contents)
    (git : ((qualification.member "git").getD (.obj [])).isObject = true)
    (after : now ≤ verifying.now) (accepted : ∀ item ∈ verifiedOf items, ∃ policy signed,
      Accepted environment disk now qualification verifying item policy signed) :
    checkExternals environment verifying (archiveOf environment manifest contents)
        qualification = .ok () ↔
      (verifiedOf items ≠ [] →
        ExternalsFound environment disk now qualification (verifiedOf items) verifying) := by
  have listed : verifiedItems qualification = .ok (verifiedOf items) := by
    have objects : items.forM (fun item => do let _ ← item.get "verified") =
        (.ok () : Except String Unit) := by
      rw [forM_eq_ok]
      intro item member
      exact bind_eq_ok.mpr ⟨_, get_eq_ok.mpr ⟨gathered.objects item member, rfl⟩, rfl⟩
    unfold verifiedItems
    rw [gathered.iterated]
    exact andThen_eq_ok.mpr ⟨objects, rfl⟩
  unfold checkExternals
  rw [listed]
  change (if (verifiedOf items).isEmpty = true then pure () else _) = _ ↔ _
  by_cases empty : verifiedOf items = []
  · rw [if_pos (by simp [empty])]
    simp [empty, pure, Except.pure]
  rw [if_neg (by simpa using empty)]
  simp only [ne_eq, empty, not_false_iff, true_imp_iff]
  -- Each acceptance, in the tree that the archive is extracted to.
  have each : ∀ item ∈ verifiedOf items, ∀ policy signed,
      Accepted environment disk now qualification verifying item policy signed →
        (checkExternal environment verifying
            (externalMembers (archiveOf environment manifest contents)) qualification item =
              .ok () ↔
          ((qualification.member "artifactManifest").getD (.obj [])).isObject = true ∧
            KeyBeside environment disk (verifiedOf items) verifying item signed) := by
    intro item member policy signed held
    obtain ⟨inside, verified⟩ := List.mem_filter.mp member
    exact checkExternal_iff mounted gathered read inside verified held.inPlace git after
      held.valid held.collisionFree (funext (externalMembers_lookup gathered read))
  rw [bind_eq_ok]
  constructor
  · rintro ⟨tree, written, passed⟩
    obtain ⟨apart, rfl⟩ := (extract_created gathered read).mp written
    rw [forM_eq_ok] at passed
    obtain ⟨first, member⟩ := List.exists_mem_of_ne_nil _ empty
    obtain ⟨policy, signed, held⟩ := accepted first member
    refine ⟨((each first member policy signed held).mp (passed first member)).1, apart, ?_⟩
    intro item inside policy signed held
    exact ((each item inside policy signed held).mp (passed item inside)).2
  · intro found
    refine ⟨_, (extract_created gathered read).mpr ⟨found.apart, rfl⟩, forM_eq_ok.mpr ?_⟩
    intro item inside
    obtain ⟨policy, signed, held⟩ := accepted item inside
    exact (each item inside policy signed held).mpr
      ⟨found.manifest, found.keys item inside policy signed held⟩

end Acceptance

section RoundTrip

variable {sealing : Sealing Content} {arguments : CreateArguments Content}
  {verifying : VerifyArguments Content} {qualification : Json} {content : Content}

def acceptances (qualification : Json) : List Json :=
  verifiedOf (listed (qualification.member "externalAcceptance"))

/-- The key that verifies belongs to the key that signs. -/
structure Matching (environment : Environment Content) (sealing : Sealing Content)
    (arguments : CreateArguments Content) (verifying : VerifyArguments Content) : Prop where
  trusted : environment.sha256 verifying.publicKey = verifying.expectedPublicKeySha256.toLower
  keyId : verifying.expectedKeyId = arguments.keyId
  pair : ∀ secret archive, arguments.privateKey = some secret →
    environment.signatureValid archive
      (envelope environment sealing arguments.keyId secret archive) verifying.publicKey
      arguments.keyId bundleProduct = true

/-- What is stored in an archive and written as JSON is read back. -/
structure Stores (environment : Environment Content) (sealing : Sealing Content)
    (arguments : CreateArguments Content) (qualification : Json) : Prop where
  archive : ∀ entries, (keys entries).Nodup → sealing.unpack (sealing.pack entries) = some entries
  manifest : ∀ contents manifest,
    bundleManifest environment arguments qualification contents = .ok manifest →
      environment.loads (environment.dumps manifest) = .ok manifest

theorem create_eq_ok {bundle : Bundle Content} (lawful : Disk.Lawful disk)
    (created : create environment sealing disk arguments = .ok bundle) :
    ∃ qualification content entries items files contents manifest secret,
      Gathered environment disk arguments qualification content entries items files ∧
        readFiles disk files = .ok contents ∧
        bundleManifest environment arguments qualification contents = .ok manifest ∧
        arguments.privateKey = some secret ∧
        bundle.archive = sealing.pack (archiveOf environment manifest contents) ∧
        bundle.signature = envelope environment sealing arguments.keyId secret bundle.archive := by
  unfold create at created
  obtain ⟨-, begun⟩ := andThen_eq_ok.mp created
  obtain ⟨⟨qualification, files⟩, collected, begun⟩ := bind_eq_ok.mp begun
  obtain ⟨contents, read, begun⟩ := bind_eq_ok.mp begun
  obtain ⟨manifest, made, begun⟩ := bind_eq_ok.mp begun
  obtain ⟨signature, signed, same⟩ := bind_eq_ok.mp begun
  obtain rfl := pure_eq_ok.mp same
  obtain ⟨content, entries, items, gathered⟩ := collectFiles_spec lawful collected
  -- A signature is only there with a private key.
  unfold signFile at signed
  obtain ⟨-, keyed⟩ := andThen_eq_ok.mp signed
  cases key : arguments.privateKey with
  | none => simp [key] at keyed
  | some secret =>
    simp only [key, pure_eq_ok] at keyed
    exact ⟨qualification, content, entries, items, files, contents, manifest, secret, gathered,
      read, made, rfl, rfl, keyed.symm⟩

theorem git_of_bundleManifest {contents : List (String × BundleFile × Content)} {manifest : Json}
    (made : bundleManifest environment arguments qualification contents = .ok manifest) :
    ((qualification.member "git").getD (.obj [])).isObject = true := by
  unfold bundleManifest at made
  obtain ⟨commit, found, -⟩ := bind_eq_ok.mp made
  exact (get_eq_ok.mp found).1

/-- A bundle that was created from a passing qualification, and is given with the matching key. -/
structure Prepared (environment : Environment Content) (sealing : Sealing Content)
    (disk : Disk Content) (arguments : CreateArguments Content)
    (verifying : VerifyArguments Content) (qualification : Json) (content : Content)
    (now : Int) : Prop where
  lawful : Disk.Lawful disk
  mounted : Mounted verifying
  read : disk.read (disk.resolve arguments.qualification) = some content
  loaded : environment.loads content = .ok qualification
  stores : Stores environment sealing arguments qualification
  pair : Matching environment sealing arguments verifying
  accepted : ∀ item ∈ acceptances qualification, ∃ policy signed,
    Accepted environment disk now qualification verifying item policy signed
  after : now ≤ verifying.now
  created : create environment sealing disk arguments = .ok verifying.bundle

/--
A bundle that was created verifies exactly when three things fit.

The verdict of the qualification is not a denial, the release manifest records the artifacts that
are included, and the verified acceptances can be laid out in one directory from which the path of
each approver's key still leads to the key.
-/
theorem created_bundle_verifies_iff {now : Int}
    (prepared : Prepared environment sealing disk arguments verifying qualification content now) :
    verify environment sealing verifying = .ok () ↔
      Json.isText (qualification.member "verdict") "DENIED" = false ∧
        (arguments.includeArtifacts = true →
          ArtifactsRecorded environment disk qualification) ∧
        (acceptances qualification ≠ [] → ExternalsFound environment disk now qualification
          (acceptances qualification) verifying) := by
  obtain ⟨lawful, mounted, read, loaded, stores, pair, accepted, after, created⟩ := prepared
  obtain ⟨document, collected, entries, items, files, contents, manifest, secret, gathered,
    stored, made, key, archive, signature⟩ := create_eq_ok lawful created
  -- The qualification that was collected is the one on the disk.
  obtain rfl := Option.some.inj (gathered.read.symm.trans read)
  obtain rfl := Except.ok.inj (gathered.loaded.symm.trans loaded)
  have same : acceptances document = verifiedOf items := by
    rw [acceptances, listed_eq gathered.iterated]
  rw [same] at accepted ⊢
  -- The stages that always pass: the signature, the archive and its manifest.
  have trusted : (environment.sha256 verifying.publicKey ==
      verifying.expectedPublicKeySha256.toLower) = true := beq_iff_eq.mpr pair.trusted
  have valid : environment.signatureValid verifying.bundle.archive verifying.bundle.signature
      verifying.publicKey verifying.expectedKeyId bundleProduct = true := by
    rw [signature, pair.keyId]
    exact pair.pair secret _ key
  have unpacked : sealing.unpack verifying.bundle.archive =
      some (archiveOf environment manifest contents) := by
    rw [archive]
    exact stores.archive _ (nodup_archiveOf gathered stored)
  have checked := checkManifest_created gathered stored made (stores.manifest contents _ made)
  have member : readMember (archiveOf environment manifest contents)
      "metadata/release-qualification.json" = .ok collected := by
    have found : (archiveOf environment manifest contents).lookup
        "metadata/release-qualification.json" = some collected :=
      (lookup_archiveOf gathered stored gathered.bundled).trans gathered.read
    unfold readMember
    rw [found]
  have passed : document.get "passed" = .ok (document.member "passed") :=
    get_eq_ok.mpr ⟨gathered.object, rfl⟩
  obtain ⟨-, -, includes, -⟩ := bundleManifest_members made
  have truth : Json.truthy (some (.bool arguments.includeArtifacts)) =
      arguments.includeArtifacts := rfl
  have passing : ∀ message, require true message = .ok () := fun _ => rfl
  -- What is left to be decided is the verdict, the artifacts and the acceptances.
  have externals : checkExternals environment verifying
      (archiveOf environment manifest contents) document = .ok () ↔
        (verifiedOf items ≠ [] →
          ExternalsFound environment disk now document (verifiedOf items) verifying) :=
    checkExternals_iff mounted gathered stored (git_of_bundleManifest made) after accepted
  unfold verify
  rw [trusted, valid, unpacked]
  simp only [passing, Bind.bind, Except.bind, checked, member, gathered.loaded, passed, includes,
    gathered.passed, truth, Bool.true_and]
  change (require _ _ >>= fun _ => _) = _ ↔ _
  rw [andThen_eq_ok, require_eq_ok, Bool.not_eq_true']
  refine and_congr Iff.rfl ?_
  cases asked : arguments.includeArtifacts with
  | false => simpa using externals
  | true =>
    rw [if_pos rfl]
    change (checkArtifacts _ _ >>= fun _ => _) = _ ↔ _
    rw [andThen_eq_ok, checkArtifacts_iff gathered stored asked, externals]
    simp

end RoundTrip

/-- The files of a small host: plain ones, documents and archives. -/
inductive Paper
  | text (value : String)
  | document (value : Json)
  | archive (entries : List (String × Paper))

/-- A digest that tells the files of the host apart. -/
def Paper.digest : Paper → String
  | .text value => "text-" ++ value
  | .document value => "json-" ++ (value.members?.getD []).length.repr
  | .archive _ => "zip"

/-- A signature that only the key itself can have made. -/
def paperSignature (key signed : Paper) : String :=
  key.digest ++ " signs " ++ signed.digest

def paperEnvironment : Environment Paper where
  loads
    | .document value => .ok value
    | _ => .error "Expecting value"
  dumps := .document
  canonical := .document
  repr := fun _ => "None"
  sha256 := Paper.digest
  size
    | .text value => value.length
    | _ => 0
  fromIsoFormat := fun text =>
    if text = "2026-01-01T00:00:00+00:00" then some (some 1767225600000000) else none
  signatureValid := fun signed signature key keyId product =>
    match signature with
    | .document envelope => Json.isText (envelope.member "keyId") keyId &&
        Json.isText (envelope.member "product") product &&
        Json.isText (envelope.member "manifestSha256") signed.digest &&
        Json.isText (envelope.member "signature") (paperSignature key signed)
    | _ => false

def paperSealing : Sealing Paper where
  pack := .archive
  unpack
    | .archive entries => some entries
    | _ => none
  sign := paperSignature

/-- Paths of a host without links whose working directory is `/work`. -/
def plainResolve (path : PosixPath) : PosixPath :=
  ⟨true, (if path.absolute then [] else ["work"]) ++ path.parts⟩

def siteChecks : List String :=
  ["routing-dns", "tls-path", "firewall-proxy", "reconnect", "time-synchronization"]

def siteCheck (id : String) : Json :=
  .obj [("id", .str id), ("status", .str "PASSED"), ("evidence", .arr [.obj
    [("path", .str (id ++ ".log")), ("size", .num 2), ("sha256", .str "text-ok")]])]

def siteReport : Json :=
  .obj [("schemaVersion", .num 1), ("operation", .str "external-acceptance"),
    ("passed", .bool true), ("verdict", .str "APPROVED"),
    ("acceptanceType", .str "site-network"),
    ("candidate", .obj [("version", .str "1.4.0"), ("gitCommit", .str "c0ffee"),
      ("artifactManifestSha256", .str "json-1")]),
    ("approval", .obj [("approverId", .str "qa"), ("record", .str "protocol 7")]),
    ("approvedAt", .str "2026-01-01T00:00:00+00:00"),
    ("checks", .arr (siteChecks.map siteCheck)),
    ("contentSha256", .str "json-9")]

def siteSignature : Json :=
  .obj [("schemaVersion", .num 1), ("product", .str product), ("algorithm", .str "Ed25519"),
    ("keyId", .str "qa-1"), ("manifestSha256", .str "json-10"),
    ("signature", .str "text-qa signs json-10")]

/-- The approver's key: beside the policy, or in a directory of its own. -/
def siteKey (nested : Bool) : List String :=
  if nested then ["keys", "qa.pem"] else ["qa.pem"]

def siteApprover (nested : Bool) : Json :=
  .obj [("approverId", .str "qa"), ("keyId", .str "qa-1"), ("algorithm", .str "Ed25519"),
    ("acceptanceTypes", .arr [.str "site-network"]),
    ("publicKeyPath", .str ("/".intercalate (siteKey nested))),
    ("publicKeySha256", .str "text-qa")]

def sitePolicy (nested : Bool) : Json :=
  .obj [("schemaVersion", .num 1), ("product", .str product), ("policyId", .str "site"),
    ("revokedKeys", .arr []), ("allowedApprovers", .arr [siteApprover nested])]

def siteItem : Json :=
  .obj [("name", .str "site-network"), ("verified", .bool true),
    ("path", .str "site/report.json"), ("signaturePath", .str "site/report.sig.json"),
    ("trustPolicyPath", .str "site/policy.json"),
    ("verification", .obj [("policyId", .str "site"), ("policySha256", .str "json-5")])]

def siteQualification : Json :=
  .obj [("operation", .str "release-qualification"), ("passed", .bool true),
    ("verdict", .str "LOCAL_VALIDATION_PASSED"), ("version", .str "1.4.0"),
    ("git", .obj [("commit", .str "c0ffee")]), ("tests", .obj [("path", .str "ctest.log")]),
    ("artifactManifest", .obj [("path", .str "sums.json"), ("artifactRoot", .str "dist"),
      ("sha256", .str "json-1")]),
    ("externalAcceptance", .arr [siteItem])]

def siteSums : Json :=
  .obj [("files", .arr [.obj [("path", .str "runtime.bin"), ("size", .num 4),
    ("sha256", .str "text-code")]])]

def siteFiles (nested : Bool) : List (List String × Paper) :=
  [(["work", "qualification.json"], .document siteQualification),
    (["work", "ctest.log"], .text "passed"), (["work", "sums.json"], .document siteSums),
    (["work", "dist", "runtime.bin"], .text "code"),
    (["work", "site", "report.json"], .document siteReport),
    (["work", "site", "report.sig.json"], .document siteSignature),
    (["work", "site", "policy.json"], .document (sitePolicy nested)),
    (["work", "site"] ++ siteKey nested, .text "qa")] ++
  siteChecks.map fun id => (["work", "site", id ++ ".log"], .text "ok")

def siteDisk (nested : Bool) : Disk Paper where
  resolve := plainResolve
  read := fun path => valueAt (siteFiles nested) path.parts

def siteArguments : CreateArguments Paper where
  qualification := PosixPath.parse "qualification.json"
  includeArtifacts := true
  outputsExist := false
  keyId := "release-1"
  privateKey := some (.text "release")
  createdAt := "2026-01-02T00:00:00+00:00"

/-- The bundle that is created on the host. -/
def siteBundle (nested : Bool) : Bundle Paper :=
  match create paperEnvironment paperSealing (siteDisk nested) siteArguments with
  | .ok bundle => bundle
  | .error _ => ⟨.text "", .text ""⟩

def siteVerifying (nested : Bool) : VerifyArguments Paper where
  bundle := siteBundle nested
  publicKey := .text "release"
  expectedKeyId := "release-1"
  expectedPublicKeySha256 := "text-release"
  verifier := true
  now := 1767312000000000
  directory := ⟨true, ["tmp"]⟩
  mount := fun files => ⟨plainResolve, fun path =>
    match path.parts with
    | "tmp" :: parts => files parts
    | _ => none⟩

theorem siteDisk_lawful (nested : Bool) : Disk.Lawful (siteDisk nested) where
  resolved := by
    intro path
    simp [siteDisk, plainResolve]
  named := by
    intro path present
    -- What can be read is one of the files, and each of them has a name.
    have listed : (plainResolve path).parts ∈ keys (siteFiles nested) := by
      by_contra absent
      have missing : (siteDisk nested).read (plainResolve path) = none :=
        valueAt_eq_none_iff.mpr absent
      rw [show (siteDisk nested).resolve path = plainResolve path from rfl, missing] at present
      cases present
    have names : ∀ nested, ∀ parts ∈ keys (siteFiles nested),
        IsComponent (parts.getLast?.getD "") := by
      decide +kernel
    exact names nested _ listed

theorem siteVerifying_mounted (nested : Bool) : Mounted (siteVerifying nested) where
  resolve := fun _ _ _ => rfl
  read := fun _ _ _ => rfl

theorem siteBundle_created (nested : Bool) :
    create paperEnvironment paperSealing (siteDisk nested) siteArguments =
      .ok (siteVerifying nested).bundle := by
  have made : ∀ nested,
      (create paperEnvironment paperSealing (siteDisk nested) siteArguments).isOk = true := by
    decide +kernel
  unfold siteVerifying siteBundle
  cases result : create paperEnvironment paperSealing (siteDisk nested) siteArguments with
  | ok bundle => rfl
  | error message =>
    have done := made nested
    simp [result, Except.isOk, Except.toBool] at done

def siteSigned (nested : Bool) : Signed Paper where
  reportContent := .document siteReport
  signatureContent := .document siteSignature
  policyContent := .document (sitePolicy nested)
  report := siteReport
  signature := siteSignature
  policy := sitePolicy nested
  checks := siteChecks.map siteCheck
  approvedAt := 1767225600000000
  keyId := "qa-1"
  approver := siteApprover nested
  key := .text "qa"

/-- The acceptance verifies where its files lie, wherever the key is. -/
theorem siteSigned_inPlace (nested : Bool) :
    InPlace paperEnvironment (siteDisk nested) 1767312000000000 true siteQualification siteItem
      ("site", "json-5") (siteSigned nested) where
  recorded := rfl
  passes := by
    cases nested <;> exact {
      reportRead := rfl
      signatureRead := rfl
      policyRead := rfl
      reportLoaded := rfl
      signatureLoaded := rfl
      policyLoaded := rfl
      reported := rfl
      attached := by
        unfold siteSigned siteChecks
        simp only [List.map_cons, List.map_nil, List.forall_mem_cons]
        exact ⟨rfl, rfl, rfl, rfl, rfl, by simp⟩
      pinned := by decide +kernel
      identified := rfl
      approved := rfl
      enveloped := rfl
      unrevoked := rfl
      selected := rfl
      keyRead := rfl
      keyPinned := rfl
      valid := rfl
      checker := rfl
      signed := rfl }

/-- No other file has the digest of a plain one. -/
theorem Paper.eq_text_of_digest {paper : Paper} {value : String}
    (same : paper.digest = (Paper.text value).digest) : paper = .text value := by
  have letters := congrArg String.toList same
  cases paper with
  | text other =>
    simp only [Paper.digest, String.toList_append] at letters
    rw [String.toList_inj.mp (List.append_cancel_left letters)]
  | document document => simp [Paper.digest] at letters
  | archive entries => simp [Paper.digest] at letters

theorem site_prepared (nested : Bool) :
    Prepared paperEnvironment paperSealing (siteDisk nested) siteArguments (siteVerifying nested)
      siteQualification (.document siteQualification) 1767312000000000 where
  lawful := siteDisk_lawful nested
  mounted := siteVerifying_mounted nested
  read := by cases nested <;> rfl
  loaded := rfl
  stores := ⟨fun _ _ => rfl, fun _ _ _ => rfl⟩
  pair := by
    have trusted : Paper.digest (.text "release") = "text-release".toLower := by decide +kernel
    refine ⟨trusted, rfl, ?_⟩
    intro secret archive given
    cases given
    simp [paperEnvironment, envelope, paperSealing, Json.isText, Json.str?, Json.member,
      List.lookup_cons, siteArguments, siteVerifying]
  accepted := by
    intro item listed
    have only : acceptances siteQualification = [siteItem] := rfl
    rw [only, List.mem_singleton] at listed
    subst listed
    exact ⟨_, _, siteSigned_inPlace nested, (siteSigned_inPlace nested).passes.valid,
      fun key same => Paper.eq_text_of_digest same⟩
  after := le_refl _
  created := siteBundle_created nested

/-- With the key beside the policy the bundle of the host verifies. -/
theorem site_bundle_verifies :
    Prepared paperEnvironment paperSealing (siteDisk false) siteArguments (siteVerifying false)
        siteQualification (.document siteQualification) 1767312000000000 ∧
      verify paperEnvironment paperSealing (siteVerifying false) = .ok () := by
  refine ⟨site_prepared false,
    (created_bundle_verifies_iff (site_prepared false)).mpr ⟨rfl, fun _ => ?_, fun _ => ?_⟩⟩
  · -- The one artifact is recorded with its size and digest.
    refine ⟨_, rfl, ?_⟩
    intro manifest found entries listed entry member content stored
    cases found
    cases listed
    rw [List.mem_singleton] at member
    subst member
    cases stored
    exact ⟨rfl, rfl⟩
  · have only : acceptances siteQualification = [siteItem] := rfl
    have apart : PlacesApart paperEnvironment (siteDisk false) [siteItem] := by
      unfold PlacesApart Apart
      decide +kernel
    refine ⟨rfl, apart, ?_⟩
    intro item listed policy signed accepted
    rw [only, List.mem_singleton] at listed
    subst listed
    -- The approver and the key are those that the policy of the host names.
    obtain rfl : policy = ("site", "json-5") :=
      Except.ok.inj (accepted.inPlace.recorded.symm.trans (siteSigned_inPlace false).recorded)
    obtain ⟨approver, key⟩ :=
      accepted.inPlace.passes.unique (siteSigned_inPlace false).passes
    unfold KeyBeside
    rw [approver, key]
    rfl

/-- With the key in a directory of its own the bundle of the host is created and rejected. -/
theorem nested_key_bundle_rejected :
    ¬ ∀ (environment : Environment Paper) (sealing : Sealing Paper) (disk : Disk Paper)
      (arguments : CreateArguments Paper) (verifying : VerifyArguments Paper)
      (qualification : Json) (content : Paper) (now : Int),
        Prepared environment sealing disk arguments verifying qualification content now →
          verify environment sealing verifying = .ok () := by
  intro claimed
  have rejected :
      (verify paperEnvironment paperSealing (siteVerifying true)).isOk = false := by
    decide +kernel
  rw [claimed _ _ _ _ _ _ _ _ (site_prepared true)] at rejected
  cases rejected

end PocoDDS.Tools.EvidenceBundle
