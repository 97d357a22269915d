import PocoDDS.Tools.ReleaseManifest
import PocoDDS.Tools.UpgradeUndo

/-! What a verified package leaves at the target: its files, and a version marker among them. -/

namespace PocoDDS.Tools

open AssocList CrashLogic JsonModel OutcomeLogic PosixPaths ProcessLogic Process ReleaseManifest

/-- The entries of a manifest. -/
def manifestFiles (document : Json) : List Json :=
  ((document.member "files").bind Json.items?).getD []

/-- A file of the package, as an entry lists it. -/
def packageFile (package : Tree) (entry : Json) : Option PackageFile :=
  match package.entry (pathParts entry), Json.int? (entry.member "size"),
      Json.str? (entry.member "sha256") with
  | some (.file content), some size, some sha256 =>
    some ⟨pathParts entry, size.toNat, sha256, content⟩
  | _, _, _ => none

/-- The files that are staged for a manifest. -/
def packageFiles (document : Json) (package : Tree) : List PackageFile :=
  (manifestFiles document).filterMap (packageFile package)

/-- The version marker of a release. -/
def markerPath : List String :=
  ["pdr-release.json"]

/-- A tree holds what its manifest lists, as it is listed there, and of the files that belong to a
release nothing but that and a version marker. -/
structure InstalledAsVerified (sha256 : List UInt8 → String) (files : List Json) (target : Tree) :
    Prop where
  listed : ∀ entry ∈ files, ∃ content, target.entry (pathParts entry) = some (.file content) ∧
    describes sha256 entry content = true
  nothingElse : ∀ record ∈ target.inventory sha256,
    record.path ∈ files.map pathParts ∨ record.path = markerPath

section Trees

variable {tree : Tree} {path other : List String} {found : TreeEntry} {content : List UInt8}
variable {pair : List String × TreeEntry} {files : List PackageFile}

theorem Tree.released_withFile (released : pair ∈ (tree.withFile path content).released) :
    pair ∈ tree.released ∨ pair.1 = path := by
  obtain ⟨listed, belongs⟩ := List.mem_filter.mp released
  rcases List.mem_append.mp listed with old | new
  · exact .inl (List.mem_filter.mpr ⟨(List.mem_filter.mp old).1, belongs⟩)
  · rw [List.mem_singleton.mp new]
    exact .inr rfl

theorem Tree.entry_withPackaged_self {file : PackageFile} :
    (tree.withPackaged file).entry file.path = some (.file file.content) :=
  Tree.entry_withFile_self

theorem Tree.entry_withPackaged {file : PackageFile} (differs : path ≠ file.path)
    (present : tree.entry path = some found) :
    (tree.withPackaged file).entry path = some found := by
  rw [withPackaged, Tree.entry_withFile differs]
  -- The directories above the file are made one after another.
  generalize properPrefixes file.path = directories
  induction directories generalizing tree with
  | nil => exact present
  | cons directory rest ih => exact ih (Tree.entry_withDirectory present)

theorem Tree.released_withPackaged {file : PackageFile}
    (released : pair ∈ (tree.withPackaged file).released) :
    pair ∈ tree.released ∨ pair.1 = file.path := by
  rcases Tree.released_withFile released with before | same
  · refine .inl ?_
    clear released
    generalize properPrefixes file.path = directories at before
    induction directories generalizing tree with
    | nil => exact before
    | cons directory rest ih =>
      rw [← Tree.released_withDirectory]
      exact ih before
  · exact .inr same

theorem Tree.entry_packaged_other (apart : path ∉ files.map (·.path))
    (present : tree.entry path = some found) :
    (files.foldl Tree.withPackaged tree).entry path = some found := by
  induction files generalizing tree with
  | nil => exact present
  | cons first rest ih =>
    rw [List.map_cons, List.mem_cons, not_or] at apart
    exact ih apart.2 (Tree.entry_withPackaged apart.1 present)

theorem Tree.entry_packaged (distinct : (files.map (·.path)).Nodup) {file : PackageFile}
    (listed : file ∈ files) :
    (files.foldl Tree.withPackaged tree).entry file.path = some (.file file.content) := by
  induction files generalizing tree with
  | nil => cases listed
  | cons first rest ih =>
    rw [List.map_cons, List.nodup_cons] at distinct
    rcases List.mem_cons.mp listed with rfl | later
    · rw [List.foldl_cons]
      exact Tree.entry_packaged_other distinct.1 Tree.entry_withPackaged_self
    · exact ih distinct.2 later

theorem Tree.released_packaged (released : pair ∈ (files.foldl Tree.withPackaged tree).released) :
    pair ∈ tree.released ∨ pair.1 ∈ files.map (·.path) := by
  induction files generalizing tree with
  | nil => exact .inl released
  | cons first rest ih =>
    rw [List.map_cons, List.mem_cons]
    rcases ih released with before | later
    · exact (Tree.released_withPackaged before).imp_right .inl
    · exact .inr (.inr later)

theorem Tree.mem_inventory {sha256 : List UInt8 → String} {record : FileRecord}
    (listed : record ∈ tree.inventory sha256) :
    ∃ content, (record.path, .file content) ∈ tree.released := by
  unfold inventory at listed
  rw [(List.perm_insertionSort _ _).mem_iff] at listed
  obtain ⟨⟨path, kind⟩, released, recorded⟩ := List.mem_filterMap.mp listed
  cases kind with
  | file content =>
    cases recorded
    exact ⟨content, released⟩
  | directory => cases recorded

end Trees

section Shipped

variable {arguments : UpgradeArguments} {path : List String}

theorem shippedRelease_marker :
    (shippedRelease arguments).entry markerPath = some (.file arguments.marker) :=
  Tree.entry_withFile_self

theorem shippedRelease_file (distinct : (arguments.files.map (·.path)).Nodup)
    {file : PackageFile} (listed : file ∈ arguments.files) (differs : file.path ≠ markerPath) :
    (shippedRelease arguments).entry file.path = some (.file file.content) := by
  have before : (shippedRelease arguments).entry file.path =
      (arguments.files.foldl Tree.withPackaged ⟨[]⟩).entry file.path := Tree.entry_withFile differs
  exact before.trans (Tree.entry_packaged distinct listed)

theorem shippedRelease_released {pair : List String × TreeEntry}
    (released : pair ∈ (shippedRelease arguments).released) :
    pair.1 ∈ arguments.files.map (·.path) ∨ pair.1 = markerPath := by
  rcases Tree.released_withFile released with before | same
  · rcases Tree.released_packaged before with none | listed
    · cases none
    · exact .inl listed
  · exact .inr same

end Shipped

section Runs

variable {host : ReleaseHost} {arguments : UpgradeArguments} {disk : ReleaseDisk}
  {locals : UpgradeLocals} {shipped now : Tree}
variable {place : Place} {state : ReleaseDisk × UpgradeLocals} {source : Place}
  {transaction : UpgradeTransaction}

/-- A tree has all that is shipped, and no other file that belongs to a release. -/
structure Installs (shipped now : Tree) : Prop where
  released : now.released = shipped.released
  kept : ∀ path found, shipped.entry path = some found → now.entry path = some found

theorem Installs.refl (shipped : Tree) : Installs shipped shipped :=
  ⟨rfl, fun _ _ present => present⟩

theorem Installs.append {more : List (List String × TreeEntry)} (installs : Installs shipped now)
    (unreleased : ∀ entry ∈ more, isReleased entry = false) :
    Installs shipped ⟨now.entries ++ more⟩ where
  released := (Tree.released_append unreleased).trans installs.released
  kept path found present := Tree.entry_append (installs.kept path found present) more

/-- What is shipped is at a place, possibly with more beside it. -/
def Holding (shipped : Tree) (place : Place) (state : ReleaseDisk × UpgradeLocals) : Prop :=
  ∃ now, state.1.tree place = some now ∧ Installs shipped now

theorem Holding.same {after : ReleaseDisk × UpgradeLocals} (holding : Holding shipped place state)
    (same : after.1.tree place = state.1.tree place) :
    Holding shipped place after := by
  obtain ⟨now, here, installs⟩ := holding
  exact ⟨now, same.trans here, installs⟩

theorem holding_aside {action : Action ReleaseDisk}
    (aside : ∀ disk after, action.effect disk = .ok after → after.tree place = disk.tree place) :
    (durable action : UpgradeProcess Unit).Keeps (Holding shipped place) :=
  Keeps.durable fun _ _ holding done => holding.same (aside _ _ done)

theorem holding_audit (event : UpgradeEvent) :
    (durable (auditUpgrade event) : UpgradeProcess Unit).Keeps (Holding shipped place) := by
  refine holding_aside fun disk after done => ?_
  cases done
  rfl

theorem holding_writeTransaction (transaction : UpgradeTransaction) (noted : UpgradeState) :
    (writeTransaction transaction noted).Keeps (Holding shipped place) := by
  refine (Keeps.set fun state holding => holding).andThen fun _ => holding_aside ?_
  intro disk after done
  cases done
  rfl

theorem holding_rename {destination : Place} (apart : place ≠ source)
    (apart' : place ≠ destination) :
    (durable (rename source destination) : UpgradeProcess Unit).Keeps (Holding shipped place) := by
  refine holding_aside fun disk after moved => ?_
  simp only [rename, Action.atomic] at moved
  split at moved
  · cases moved
  · cases moved
    simp [apart, apart']
  · split at moved
    · cases moved
      simp [apart, apart']
    · cases moved

/-- A mutable directory that is moved to a release is put beside what is shipped. -/
theorem holding_moveMutable {destination : Place} {path : List String}
    (outermost : isOutermost path = true) :
    (moveMutable source destination path).Keeps (Holding shipped destination) := by
  have made : (durable (makeRoot destination true) : UpgradeProcess Unit).Keeps
      (Holding shipped destination) := by
    refine Keeps.durable fun state after holding made => ?_
    obtain ⟨now, here, installs⟩ := holding
    simp only [makeRoot, Action.atomic, here] at made
    cases made
    exact ⟨now, here, installs⟩
  have directory : ∀ above, (durable (makeInside destination above) : UpgradeProcess Unit).Keeps
      (Holding shipped destination) := by
    refine fun above => Keeps.durable fun state after holding made => ?_
    obtain ⟨now, here, installs⟩ := holding
    simp only [makeInside, Action.atomic, here] at made
    split at made
    · cases made
    · cases made
      exact ⟨now, here, installs⟩
    · cases made
      have more : Installs shipped ⟨now.entries ++ [(above, .directory)]⟩ := by
        refine installs.append fun entry member => ?_
        rw [List.mem_singleton.mp member]
        rfl
      exact ⟨_, by simp, more⟩
  refine made.andThen fun _ => (Keeps.forEach directory).andThen fun _ => ?_
  refine Keeps.durable fun state after holding moved => ?_
  obtain ⟨now, here, installs⟩ := holding
  simp only [moveDirectory, Action.atomic, here] at moved
  split at moved
  · next origin there _ same =>
    cases same
    split at moved
    · cases moved
    · split at moved
      · cases moved
      · cases moved
        -- Nothing in a mutable directory belongs to a release.
        have more : Installs shipped ⟨now.entries ++ origin.below path⟩ := by
          refine installs.append fun entry member => ?_
          have sub : path <+: entry.1 := by simpa using (List.mem_filter.mp member).2
          exact not_isReleased ((isMutable_of_outermost outermost).of_above sub)
        exact ⟨_, by simp, more⟩
  · cases moved

theorem holding_transfer {destination : Place} :
    (transferMutable host source destination).Keeps (Holding shipped destination) := by
  refine (Keeps.get _).andThen fun tree => ?_
  cases tree with
  | none => trivial
  | some tree =>
    refine (Keeps.forEach fun path => (Keeps.get _).andThen fun _ => Keeps.reject _ _).andThen
      fun _ => Keeps.forEach_mem fun path chosen => ?_
    exact holding_moveMutable (Tree.mem_candidates.mp chosen).2.2

/-- Moving the old release away keeps what is shipped. -/
theorem holding_displaceTarget (apart : transaction.staging ≠ .target)
    (apart' : transaction.backup ≠ transaction.staging) :
    (displaceTarget host transaction).Keeps (Holding shipped transaction.staging) := by
  refine (Keeps.get _).andThen fun installed =>
    (Keeps.whenever _ (holding_rename apart apart'.symm)).andThen fun _ =>
      (holding_writeTransaction _ _).andThen fun _ => (Keeps.get _).andThen fun backedUp => ?_
  refine Keeps.whenever _ (Keeps.andThen ?_ fun _ => holding_transfer.andThen fun _ =>
    holding_writeTransaction _ _)
  exact (Keeps.get _).andThen fun _ => Keeps.reject _ _

theorem activateRelease_holding (holding : Holding shipped transaction.staging state) :
    (activateRelease transaction).gives (fun _ after => Holding shipped .target after) state := by
  obtain ⟨now, here, installs⟩ := holding
  unfold activateRelease
  refine gives_andThen
    (show Process.gives _ (fun _ after => Holding shipped .target after) state from ?_) ?_
  · refine gives_catching (rename_gives here ⟨now, by simp, installs⟩) fun message after => ?_
    -- The handler raises in any case.
    exact gives_last fun _ _ => gives_last fun _ _ => gives_raise
  · intro _ after holding
    have rest : (do
        let backedUp ← get fun state => state.1.exists' transaction.backup
        durable (auditUpgrade (.activated transaction.upgradeId backedUp))
        writeTransaction transaction .activated : UpgradeProcess Unit).Keeps
          (Holding shipped .target) :=
      (Keeps.get _).andThen fun _ => (holding_audit _).andThen fun _ => holding_writeTransaction _ _
    exact rest.gives holding

theorem applyUpgrade_installs : (applyUpgrade host arguments).gives (fun code after =>
      code = 0 → Holding (shippedRelease arguments) .target after) (disk, locals) := by
  refine gives_catching ?_ fun message after =>
    gives_mono (fun code _ failed zero => by omega) applyFailed_gives
  unfold applyBody
  refine gives_andThen prepareUpgrade_gives ?_
  rintro _ prepared ⟨⟨fromVersion, toVersion, rfl⟩, -, -⟩
  refine gives_andThen (stageFiles_gives fun _ => rfl) ?_
  rintro _ staged ⟨staging, -⟩
  have holding : Holding (shippedRelease arguments) (.staging arguments.upgradeId) staged :=
    ⟨_, staging, .refl _⟩
  refine gives_andThen ((holding_writeTransaction _ _).gives holding) fun _ noted holding => ?_
  refine gives_andThen ((holding_audit _).gives holding) fun _ recorded holding => ?_
  refine gives_andThen ((holding_displaceTarget (by simp [newUpgrade])
    (by simp [newUpgrade])).gives holding) fun _ displaced holding => ?_
  refine gives_andThen (activateRelease_holding holding) fun _ activated holding => ?_
  split
  · exact gives_mono (fun code _ rejected zero => by omega) rejectRelease_gives
  · refine gives_mono ?_ acceptRelease_gives
    rintro code after ⟨pruned, -⟩ -
    exact holding.same pruned.target

end Runs

section Results

variable {host : ReleaseHost} {arguments : UpgradeArguments} {package : Tree} {document : Json}
  {sha256 : List UInt8 → String}

theorem not_sound_str {text : String} : ¬Sound sha256 package (.str text) := fun sound => by
  cases sound.isText

/-- A manifest that has been accepted is one of the kind that both verifiers read. -/
theorem isManifest_of_validated
    (validated : validateManifest sha256 document package = .ok document) :
    IsManifest document (manifestFiles document) := by
  unfold validateManifest at validated
  obtain ⟨product, got, validated⟩ := bind_eq_ok.mp validated
  obtain ⟨head, validated⟩ := andThen_eq_ok.mp validated
  obtain ⟨filled, validated⟩ := andThen_eq_ok.mp validated
  obtain ⟨entries, iterated, validated⟩ := bind_eq_ok.mp validated
  obtain ⟨expected, scanned, -⟩ := bind_eq_ok.mp validated
  obtain ⟨sound, -⟩ := validateEntries_eq_ok.mp scanned
  rw [require_eq_ok] at head filled
  rw [Bool.and_eq_true, ← (EvidenceBundle.get_eq_ok.mp got).2] at head
  cases files : document.member "files" with
  | none =>
    rw [files] at filled
    cases filled
  | some value =>
    rw [files] at filled iterated
    cases value with
    | arr items =>
      have same : manifestFiles document = items := by simp [manifestFiles, files, Json.items?]
      refine ⟨head.1, head.2, by rw [same]; exact files, ?_⟩
      rw [same]
      simpa [Json.truthy] using filled
    | str text =>
      -- A text that is not empty has a first character, and that is no entry.
      cases iterated
      cases characters : text.toList with
      | nil => simp [Json.truthy, String.toList_eq_nil_iff.mp characters] at filled
      | cons first rest =>
        exact absurd (sound _ (List.mem_map.mpr ⟨first, by simp [characters], rfl⟩)) not_sound_str
    | obj members =>
      cases iterated
      cases members with
      | nil => cases filled
      | cons first rest => exact absurd (sound _ List.mem_cons_self) not_sound_str
    | null | bool | num | real => cases iterated

theorem packageFile_of_sound {entry : Json} (sound : Sound sha256 package entry) :
    ∃ content, describes sha256 entry content = true ∧ packageFile package entry =
      some ⟨pathParts entry, content.length, sha256 content, content⟩ := by
  obtain ⟨content, there, described⟩ := sound.present
  refine ⟨content, described, ?_⟩
  simp only [describes, Bool.and_eq_true, beq_iff_eq] at described
  rw [packageFile, there, described.1, described.2]
  simp

theorem packageFiles_paths {files : List Json}
    (sound : ∀ entry ∈ files, Sound sha256 package entry) :
    (files.filterMap (packageFile package)).map (·.path) = files.map pathParts := by
  induction files with
  | nil => rfl
  | cons entry rest ih =>
    obtain ⟨head, tail⟩ := List.forall_mem_cons.mp sound
    obtain ⟨content, -, staged⟩ := packageFile_of_sound head
    rw [List.filterMap_cons_some staged, List.map_cons, List.map_cons, ih tail]

/-- After an upgrade that returns 0, the target holds what has been verified exactly when the
manifest lists no version marker, or lists it as it is written. -/
theorem applyUpgrade_installs_iff (host : ReleaseHost) (arguments : UpgradeArguments)
    (document : Json) (package : Package) (disk : ReleaseDisk)
    (validated : validateManifest host.sha256 document package.tree = .ok document)
    (staged : arguments.files = packageFiles document package.tree)
    (applied : ((applyUpgrade host arguments).start (disk, {}) []).1 = .ok 0) :
    (∃ target, ((applyUpgrade host arguments).start (disk, {}) []).2.state.1.tree .target =
        some target ∧ InstalledAsVerified host.sha256 (manifestFiles document) target) ↔
      ∀ entry ∈ manifestFiles document, pathParts entry = markerPath →
        describes host.sha256 entry arguments.marker = true := by
  obtain ⟨now, target, installs⟩ := start_gives applyUpgrade_installs applied rfl
  have manifest := isManifest_of_validated validated
  obtain ⟨sound, once, -⟩ := (validateManifest_iff manifest).mp validated
  have paths : arguments.files.map (·.path) = (manifestFiles document).map pathParts := by
    rw [staged]
    exact packageFiles_paths sound
  have distinct : (arguments.files.map (·.path)).Nodup := by
    rw [paths]
    refine List.Nodup.of_map asPosix ?_
    rw [List.map_map]
    exact once
  have marker := installs.kept _ _ shippedRelease_marker
  constructor
  · rintro ⟨other, same, verified⟩ entry listed named
    cases target.symm.trans same
    obtain ⟨content, there, described⟩ := verified.listed entry listed
    -- At the path of the marker there is the marker, whatever has been copied there.
    rw [named, marker] at there
    cases there
    exact described
  · intro marked
    refine ⟨now, target, ⟨fun entry listed => ?_, fun record recorded => ?_⟩⟩
    · by_cases named : pathParts entry = markerPath
      · exact ⟨arguments.marker, named ▸ marker, marked entry listed named⟩
      · obtain ⟨content, described, file⟩ := packageFile_of_sound (sound entry listed)
        have copied : ⟨pathParts entry, content.length, host.sha256 content, content⟩ ∈
            arguments.files := by
          rw [staged]
          exact List.mem_filterMap.mpr ⟨entry, listed, file⟩
        exact ⟨content, installs.kept _ _ (shippedRelease_file distinct copied named), described⟩
    · obtain ⟨content, released⟩ := Tree.mem_inventory recorded
      rw [installs.released] at released
      rw [← paths]
      exact shippedRelease_released released

/-- An upgrade to a package whose manifest lists the given files. -/
def manifestUpgrade (document : Json) (package : Package) : UpgradeArguments :=
  { sampleUpgrade with healthy := true, files := packageFiles document package.tree }

/-- A package that has been made from an installed release, with its marker. -/
def markedPackage : Package where
  tree := ⟨[(["pdr-release.json"], .file [49, 50])]⟩
  formed := ⟨by decide, by decide⟩
  named := by decide

theorem sample_installed_as_verified :
    ∃ target, ((applyUpgrade sampleHost (manifestUpgrade (sampleManifest ["app"])
        samplePackage)).start (sampleDisk, {}) []).2.state.1.tree .target = some target ∧
      InstalledAsVerified sampleHost.sha256 (manifestFiles (sampleManifest ["app"])) target := by
  refine (applyUpgrade_installs_iff sampleHost (manifestUpgrade (sampleManifest ["app"])
    samplePackage) (sampleManifest ["app"]) samplePackage sampleDisk rfl rfl
    (by decide +kernel)).mpr ?_
  intro entry listed named
  cases List.mem_singleton.mp listed
  exact absurd named (by decide)

/-- A marker that the package ships is overwritten after it has been checked. -/
theorem shipped_marker_overwritten :
    ¬∀ (host : ReleaseHost) (arguments : UpgradeArguments) (document : Json) (package : Package)
      (disk : ReleaseDisk),
      validateManifest host.sha256 document package.tree = .ok document →
      arguments.files = packageFiles document package.tree →
      ((applyUpgrade host arguments).start (disk, {}) []).1 = .ok 0 →
      ∃ target, ((applyUpgrade host arguments).start (disk, {}) []).2.state.1.tree .target =
        some target ∧ InstalledAsVerified host.sha256 (manifestFiles document) target := by
  intro always
  obtain ⟨target, here, verified⟩ := always sampleHost
    (manifestUpgrade (sampleManifest ["pdr-release.json"]) markedPackage)
    (sampleManifest ["pdr-release.json"]) markedPackage sampleDisk rfl rfl (by decide +kernel)
  obtain ⟨content, there, described⟩ := verified.listed _ (List.mem_singleton_self _)
  have marker : (((applyUpgrade sampleHost (manifestUpgrade (sampleManifest ["pdr-release.json"])
      markedPackage)).start (sampleDisk, {}) []).2.state.1.tree .target).bind
        (·.entry markerPath) = some (.file [50]) := by decide +kernel
  rw [here] at marker
  have same := there.symm.trans marker
  cases same
  cases described

end Results

end PocoDDS.Tools
