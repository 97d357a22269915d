import PocoDDS.Tools.PluginRollbackFailure

/-! Histories of successful plugin transactions: which replacement a rollback undoes. -/

namespace PocoDDS.Tools

open AssocList CrashLogic ProcessLogic Process

/-- What the readers rely on: an archive says the same under every name that it can be read under,
what a plugin archive has to say is a matter of its symbolic name, and digests are written in lower
case. -/
structure PluginChecks.ReadsContent (checks : PluginChecks) : Prop where
  renamed : ∀ name other content requirePlugin info,
    checks.readBundle name content requirePlugin = .ok info → isArtifact other = true →
    checks.readBundle other content requirePlugin = .ok info
  relaxed : ∀ name content info, checks.readBundle name content true = .ok info →
    checks.readBundle name content false = .ok info
  plugin : ∀ name content info other content' info',
    checks.readBundle name content false = .ok info →
    checks.readBundle other content' true = .ok info' → info.symbolicName = info'.symbolicName →
    checks.readBundle name content true = .ok info
  digests : ∀ content, (checks.sha256 content).toLower = checks.sha256 content

/-- An installed file of a plugin. -/
structure InstalledFile (checks : PluginChecks) (plugin : String) (store : PluginStore)
    (name : String) (file : PluginFile) : Prop where
  artifact : isArtifact name = true
  listed : store.bundles.lookup name = some file
  ours : IsBundleOf checks plugin name file false

/-- A file in the backup directory of a plugin. -/
structure SavedFile (plugin : String) (store : PluginStore) (place : BackupPlace)
    (file : PluginFile) : Prop where
  folder : place.folder = plugin
  artifact : isArtifact place.name = true
  listed : store.backups.lookup place = some file

/-- No two files of a plugin were copied at the same time, and none was copied after the clock. -/
structure Timed (checks : PluginChecks) (plugin : String) (clock : Int) (store : PluginStore) :
    Prop where
  formed : store.WellFormed
  distinct : (keys store.backups).Nodup
  installed : ∀ name file, InstalledFile checks plugin store name file →
    file.modified ≤ clock ∧ ∀ place saved, SavedFile plugin store place saved →
      saved.modified ≠ file.modified
  saved : ∀ place file, SavedFile plugin store place file →
    file.modified ≤ clock ∧ IsBundleOf checks plugin place.name file false
  apart : ∀ place other file file', SavedFile plugin store place file →
    SavedFile plugin store other file' → file.modified = file'.modified → place = other

/-- Histories of successful transactions of one plugin. The clock moves on with every copy. -/
inductive PluginHistory (checks : PluginChecks) (plugin : String) (first : PluginStore)
    (since : Int) : Int → PluginStore → Prop
  | begin : PluginHistory checks plugin first since since first
  | install {clock : Int} {before : PluginStore}
      (history : PluginHistory checks plugin first since clock before)
      (arguments : PluginArguments)
      (ours : ∀ evidence, preflight checks arguments before.bundles = .ok evidence →
        evidence.artifact.symbolicName = plugin)
      (later : clock < arguments.copiedAt)
      (named : isArtifact arguments.transactionId = false)
      (new : ∀ folder, (folder, arguments.transactionId) ∉ before.roots)
      (succeeded : ((installPlugin checks arguments).start (before, {}) []).1 = .ok 0) :
      PluginHistory checks plugin first since arguments.copiedAt
        ((installPlugin checks arguments).start (before, {}) []).2.state.1
  | rollback {clock : Int} {before : PluginStore}
      (history : PluginHistory checks plugin first since clock before)
      (arguments : PluginRollbackArguments) (ours : arguments.symbolicName = plugin)
      (named : isArtifact arguments.transactionId = false)
      (new : ∀ folder, (folder, arguments.transactionId) ∉ before.roots)
      (succeeded : ((rollbackPlugin checks arguments).start (before, {}) []).1 = .ok 0) :
      PluginHistory checks plugin first since clock
        ((rollbackPlugin checks arguments).start (before, {}) []).2.state.1

/-- A rollback that succeeds, and leaves the one copy installed and the other one as a backup. -/
structure UndoesReplacement (checks : PluginChecks) (plugin oldDigest newDigest : String)
    (outcome : Except String Nat) (after : PluginStore) : Prop where
  returned : outcome = .ok 0
  installed : ∃ name file, InstalledFile checks plugin after name file ∧
    checks.sha256 file.content = oldDigest ∧
    ∀ other found, InstalledFile checks plugin after other found → other = name
  saved : ∃ place file, SavedFile plugin after place file ∧
    checks.sha256 file.content = newDigest

/-- Of the installed file and the backups of a plugin, the one that was copied last has a digest. -/
def NewestHasDigest (checks : PluginChecks) (plugin digest : String) (store : PluginStore) : Prop :=
  let Candidate (file : PluginFile) :=
    (∃ name, InstalledFile checks plugin store name file) ∨
      ∃ place, SavedFile plugin store place file
  ∃ file, Candidate file ∧ (∀ other, Candidate other → other.modified ≤ file.modified) ∧
    checks.sha256 file.content = digest

section Reading

variable {checks : PluginChecks}
variable {files : List (String × PluginFile)}

/-- What the archive says, apart from the name and the digest of its file. -/
theorem inspectBundle_eq_ok {name : String} {content : List UInt8} {requirePlugin : Bool}
    {info : BundleInfo} : inspectBundle checks name content requirePlugin = .ok info ↔
      ∃ read, checks.readBundle name content requirePlugin = .ok read ∧
        info = { read with fileName := name, sha256 := checks.sha256 content } := by
  unfold inspectBundle
  cases checks.readBundle name content requirePlugin with
  | error message => simp [Except.map]
  | ok read =>
    simp only [Except.map, Except.ok.injEq, exists_eq_left']
    exact eq_comm

theorem IsBundleOf.renamed (reads : checks.ReadsContent) {plugin name other : String}
    {file : PluginFile} {requirePlugin : Bool}
    (ours : IsBundleOf checks plugin name file requirePlugin) (artifact : isArtifact other = true) :
    IsBundleOf checks plugin other file false := by
  obtain ⟨info, opened, same⟩ := ours
  obtain ⟨read, raw, shape⟩ := inspectBundle_eq_ok.mp opened
  have raw := reads.renamed _ other _ _ _ raw artifact
  have relaxed : checks.readBundle other file.content false = .ok read := by
    cases requirePlugin with
    | false => exact raw
    | true => exact reads.relaxed _ _ _ raw
  refine ⟨_, inspectBundle_eq_ok.mpr ⟨read, relaxed, rfl⟩, ?_⟩
  rw [← same, shape]

/-- A bundle directory that can be inventoried. -/
structure Inventoried (checks : PluginChecks) (bundles : List (String × PluginFile)) : Prop where
  readable : ∀ name file, isArtifact name = true → bundles.lookup name = some file →
    ∃ info, inspectBundle checks name file.content false = .ok info
  unique : ∀ name other file file' info info', isArtifact name = true → isArtifact other = true →
    bundles.lookup name = some file → bundles.lookup other = some file' →
    inspectBundle checks name file.content false = .ok info →
    inspectBundle checks other file'.content false = .ok info' →
    info.symbolicName = info'.symbolicName → name = other

/-- An inventory reads every file, and lists what it has read under distinct names. -/
theorem inventoryFrom_eq_ok {result all : List (String × BundleInfo)}
    (distinct : (keys result).Nodup) :
    inventoryFrom checks files result = .ok all ↔
      ∃ infos : List BundleInfo, List.Forall₂ (fun file info =>
          inspectBundle checks file.1 file.2.content false = .ok info) files infos ∧
        all = result ++ infos.map (fun info => (info.symbolicName, info)) ∧ (keys all).Nodup := by
  induction files generalizing result with
  | nil =>
    constructor
    · rintro ⟨rfl⟩
      exact ⟨[], .nil, by simp, distinct⟩
    · rintro ⟨infos, read, rfl, -⟩
      cases read
      simp [inventoryFrom]
  | cons file rest ih =>
    obtain ⟨name, file⟩ := file
    rw [inventoryFrom]
    cases opened : inspectBundle checks name file.content false with
    | error message =>
      constructor
      · intro failed
        cases failed
      · rintro ⟨infos, read, -⟩
        cases read with
        | cons first _ => rw [opened] at first; cases first
    | ok info =>
      dsimp only
      have more : ∀ tail : List BundleInfo, result ++ (info :: tail).map
          (fun info => (info.symbolicName, info)) =
          result ++ [(info.symbolicName, info)] ++
            tail.map (fun info => (info.symbolicName, info)) := by
        intro tail
        simp
      by_cases known : (result.lookup info.symbolicName).isSome = true
      · rw [if_pos known]
        constructor
        · intro failed
          cases failed
        · -- A name that is listed already would be listed twice.
          rintro ⟨infos, read, rfl, listed⟩
          cases read with
          | cons first tail =>
            rw [opened, Except.ok.injEq] at first
            subst first
            rw [more, keys, List.map_append, List.map_append, List.append_assoc] at listed
            have apart := (List.nodup_append.mp listed).2.2
            exact absurd rfl (apart _ (lookup_isSome_iff.mp known) info.symbolicName (by simp))
      · rw [if_neg known]
        have absent : info.symbolicName ∉ keys result := fun member =>
          known (lookup_isSome_iff.mpr member)
        have grown : (keys (result ++ [(info.symbolicName, info)])).Nodup := by
          rw [keys, List.map_append]
          exact distinct.append (by simp) (List.disjoint_singleton.mpr absent)
        rw [ih grown]
        constructor
        · rintro ⟨infos, read, same, listed⟩
          exact ⟨info :: infos, .cons opened read, by rw [same, more], listed⟩
        · rintro ⟨infos, read, same, listed⟩
          cases read with
          | cons first tail =>
            rw [opened, Except.ok.injEq] at first
            subst first
            exact ⟨_, tail, by rw [same, more], listed⟩

/-- The symbolic name of a file, if it can be read. -/
def symbolicNameOf (checks : PluginChecks) (file : String × PluginFile) : Option String :=
  (inspectBundle checks file.1 file.2.content false).toOption.map (·.symbolicName)

theorem map_symbolicNameOf {infos : List BundleInfo} (read : List.Forall₂ (fun file info =>
      inspectBundle checks file.1 file.2.content false = .ok info) files infos) :
    files.map (symbolicNameOf checks) = infos.map (fun info => some info.symbolicName) ∧
      ∀ file ∈ files, ∃ info ∈ infos,
        inspectBundle checks file.1 file.2.content false = .ok info := by
  induction read with
  | nil => exact ⟨rfl, by simp⟩
  | cons first tail ih =>
    refine ⟨?_, ?_⟩
    · rw [List.map_cons, List.map_cons, ih.1, symbolicNameOf, first]
      rfl
    · intro file member
      rcases List.mem_cons.mp member with same | inside
      · rw [same]
        exact ⟨_, List.mem_cons_self, first⟩
      · obtain ⟨info, listed, opened⟩ := ih.2 file inside
        exact ⟨info, List.mem_cons_of_mem _ listed, opened⟩

/-- The files that an inventory reads. -/
def artifacts (bundles : List (String × PluginFile)) : List (String × PluginFile) :=
  (bundles.filter fun bundle => ".bndl".toList.isSuffixOf bundle.1.toList).insertionSort
    fun first second => first.1 ≤ second.1

variable {bundles : List (String × PluginFile)} (distinct : (keys bundles).Nodup)
include distinct

theorem mem_artifacts {file : String × PluginFile} : file ∈ artifacts bundles ↔
      isArtifact file.1 = true ∧ bundles.lookup file.1 = some file.2 := by
  rw [artifacts, (List.perm_insertionSort _ _).mem_iff, List.mem_filter, lookup_eq_some_iff distinct]
  exact and_comm

theorem nodup_artifacts : (artifacts bundles).Nodup := by
  rw [artifacts, (List.perm_insertionSort _ _).nodup_iff]
  exact (List.Nodup.of_map _ distinct).filter _

theorem inventory_found {all : List (String × BundleInfo)}
    (read : inventory checks bundles = .ok all) :
    Inventoried checks bundles ∧ (keys all).Nodup ∧
      (∀ entry ∈ all, entry.1 = entry.2.symbolicName) ∧
      ∀ name file info, isArtifact name = true → bundles.lookup name = some file →
        inspectBundle checks name file.content false = .ok info →
        (info.symbolicName, info) ∈ all := by
  obtain ⟨infos, opened, same, listed⟩ := (inventoryFrom_eq_ok (by simp [keys])).mp read
  rw [List.nil_append] at same
  obtain ⟨names, found⟩ := map_symbolicNameOf opened
  have symbolic : ((artifacts bundles).map (symbolicNameOf checks)).Nodup := by
    rw [artifacts, names]
    rw [same, keys, List.map_map] at listed
    have some' := listed.map (Option.some_injective String)
    rwa [List.map_map] at some'
  have injective := (List.nodup_map_iff_inj_on (nodup_artifacts distinct)).mp symbolic
  refine ⟨⟨?_, ?_⟩, listed, ?_, ?_⟩
  · intro name file artifact there
    obtain ⟨info, -, ok⟩ := found (name, file) ((mem_artifacts distinct).mpr ⟨artifact, there⟩)
    exact ⟨info, ok⟩
  · intro name other file file' info info' artifact artifact' there there' ok ok' names
    have one := (mem_artifacts distinct).mpr (show isArtifact (name, file).1 = true ∧ _ from
      ⟨artifact, there⟩)
    have two := (mem_artifacts distinct).mpr (show isArtifact (other, file').1 = true ∧ _ from
      ⟨artifact', there'⟩)
    have equal := injective _ one _ two (by simp [symbolicNameOf, ok, ok', Except.toOption, names])
    exact congrArg Prod.fst equal
  · intro entry member
    rw [same] at member
    obtain ⟨info, -, rfl⟩ := List.mem_map.mp member
    rfl
  · intro name file info artifact there ok
    obtain ⟨other, inside, ok'⟩ :=
      found (name, file) ((mem_artifacts distinct).mpr ⟨artifact, there⟩)
    rw [ok, Except.ok.injEq] at ok'
    rw [same, ok']
    exact List.mem_map.mpr ⟨other, inside, rfl⟩

omit distinct

/-- A directory whose artifacts can be read, and have distinct symbolic names, is inventoried. -/
theorem Inventoried.inventory {bundles : List (String × PluginFile)}
    (inventoried : Inventoried checks bundles) (distinct : (keys bundles).Nodup) :
    ∃ all, inventory checks bundles = .ok all := by
  have read : ∃ infos, List.Forall₂ (fun file info =>
      inspectBundle checks file.1 file.2.content false = .ok info) (artifacts bundles) infos := by
    have readable : ∀ file ∈ artifacts bundles, ∃ info,
        inspectBundle checks file.1 file.2.content false = .ok info := by
      intro file member
      obtain ⟨artifact, there⟩ := (mem_artifacts distinct).mp member
      exact inventoried.readable _ _ artifact there
    revert readable
    induction artifacts bundles with
    | nil => exact fun _ => ⟨[], .nil⟩
    | cons file rest ih =>
      intro readable
      obtain ⟨info, opened⟩ := readable file List.mem_cons_self
      obtain ⟨infos, tail⟩ := ih fun other member => readable other (List.mem_cons_of_mem _ member)
      exact ⟨info :: infos, .cons opened tail⟩
  obtain ⟨infos, opened⟩ := read
  obtain ⟨names, found⟩ := map_symbolicNameOf opened
  have symbolic : ((artifacts bundles).map (symbolicNameOf checks)).Nodup := by
    rw [List.nodup_map_iff_inj_on (nodup_artifacts distinct)]
    intro file member other member' same
    obtain ⟨artifact, there⟩ := (mem_artifacts distinct).mp member
    obtain ⟨artifact', there'⟩ := (mem_artifacts distinct).mp member'
    obtain ⟨info, -, ok⟩ := found file member
    obtain ⟨info', -, ok'⟩ := found other member'
    have equal : info.symbolicName = info'.symbolicName := by
      simpa [symbolicNameOf, ok, ok', Except.toOption] using same
    have name := inventoried.unique _ _ _ _ _ _ artifact artifact' there there' ok ok' equal
    refine Prod.ext name ?_
    rw [name, there'] at there
    exact (Option.some.inj there).symm
  refine ⟨infos.map fun info => (info.symbolicName, info),
    (inventoryFrom_eq_ok (by simp [keys])).mpr ⟨infos, opened, rfl, ?_⟩⟩
  rw [names] at symbolic
  rw [keys, List.map_map]
  have plain : (infos.map fun info => some info.symbolicName) =
      (infos.map (Prod.fst ∘ fun info => (info.symbolicName, info))).map some := by
    rw [List.map_map]
    rfl
  rw [plain] at symbolic
  exact List.Nodup.of_map _ symbolic

end Reading

section Effects

variable {checks : PluginChecks} {plugin : String} {before after : PluginStore}
variable {arguments : PluginArguments} {evidence : PluginPreflight} {place : BackupPlace}

theorem Inventoried.single (inventoried : Inventoried checks before.bundles) {name other : String}
    {file file' : PluginFile} (one : InstalledFile checks plugin before name file)
    (two : InstalledFile checks plugin before other file') : name = other := by
  obtain ⟨info, opened, same⟩ := one.ours
  obtain ⟨info', opened', same'⟩ := two.ours
  exact inventoried.unique _ _ _ _ _ _ one.artifact two.artifact one.listed two.listed opened opened'
    (same.trans same'.symm)

theorem preflight_installed (distinct : (keys before.bundles).Nodup)
    (passed : preflight checks arguments before.bundles = .ok evidence) :
    Inventoried checks before.bundles ∧
      (∀ name file, InstalledFile checks evidence.artifact.symbolicName before name file →
        ∃ current, evidence.current = some current ∧ current.fileName = name) ∧
      ∀ current, evidence.current = some current → ∃ file,
        InstalledFile checks evidence.artifact.symbolicName before current.fileName file ∧
        inspectBundle checks current.fileName file.content false = .ok current := by
  obtain ⟨-, all, read, same⟩ := preflight_read passed
  obtain ⟨inventoried, listed, symbolic, found⟩ := inventory_found distinct read
  refine ⟨inventoried, ?_, ?_⟩
  · intro name file installed
    obtain ⟨info, opened, ours⟩ := installed.ours
    have member := found name file info installed.artifact installed.listed opened
    rw [ours, ← lookup_eq_some_iff listed, same] at member
    exact ⟨info, member, (inspectBundle_ok opened).1⟩
  · intro current known
    rw [known, lookup_eq_some_iff listed] at same
    obtain ⟨file, there, opened⟩ := inventory_read read _ same
    refine ⟨file, ⟨inventory_artifact read _ same, (lookup_eq_some_iff distinct).mpr there,
      ⟨current, opened, (symbolic _ same).symm⟩⟩, opened⟩

theorem Inventoried.replaced (inventoried : Inventoried checks before.bundles) {target : String}
    {file : PluginFile} (new : InstalledFile checks plugin after target file)
    (old : ∀ name found, isArtifact name = true → name ≠ target →
      after.bundles.lookup name = some found →
      before.bundles.lookup name = some found ∧ ¬InstalledFile checks plugin before name found) :
    Inventoried checks after.bundles := by
  refine ⟨?_, ?_⟩
  · intro name found artifact there
    by_cases same : name = target
    · subst same
      rw [new.listed, Option.some.injEq] at there
      subst there
      obtain ⟨info, ok, -⟩ := new.ours
      exact ⟨info, ok⟩
    · exact inventoried.readable name found artifact (old name found artifact same there).1
  · intro name other file file' info info' artifact artifact' there there' ok ok' equal
    obtain ⟨newInfo, newOk, newName⟩ := new.ours
    -- Two files that are not the new one were there before; one that is was not the plugin's.
    by_cases one : name = target <;> by_cases two : other = target
    · exact one.trans two.symm
    · obtain ⟨was, gone⟩ := old other file' artifact' two there'
      subst one
      rw [new.listed, Option.some.injEq] at there
      subst there
      rw [newOk, Except.ok.injEq] at ok
      subst ok
      exact absurd ⟨artifact', was, info', ok', equal.symm.trans newName⟩ gone
    · obtain ⟨was, gone⟩ := old name file artifact one there
      subst two
      rw [new.listed, Option.some.injEq] at there'
      subst there'
      rw [newOk, Except.ok.injEq] at ok'
      subst ok'
      exact absurd ⟨artifact, was, info, ok, equal.trans newName⟩ gone
    · exact inventoried.unique _ _ _ _ _ _ artifact artifact' (old _ _ artifact one there).1
        (old _ _ artifact' two there').1 ok ok' equal

theorem DoneInstall.others (distinct : (keys before.bundles).Nodup)
    (passed : preflight checks arguments before.bundles = .ok evidence)
    (done : DoneInstall arguments before evidence after) {name : String} {file : PluginFile}
    (artifact : isArtifact name = true) (differs : name ≠ evidence.artifact.canonicalFileName)
    (there : after.bundles.lookup name = some file) :
    before.bundles.lookup name = some file ∧
      ¬InstalledFile checks evidence.artifact.symbolicName before name file := by
  obtain ⟨-, known, -⟩ := preflight_installed distinct passed
  rw [done.bundles name artifact, if_neg differs] at there
  split at there
  · cases there
  · next kept =>
    refine ⟨there, fun installed => kept ?_⟩
    obtain ⟨current, found, same⟩ := known name file installed
    rw [found, Option.any_some, same]
    simp

theorem DoneInstall.installed (names : checks.WellNamed) (reads : checks.ReadsContent)
    (distinct : (keys before.bundles).Nodup)
    (passed : preflight checks arguments before.bundles = .ok evidence)
    (done : DoneInstall arguments before evidence after) :
    Inventoried checks after.bundles ∧
      InstalledFile checks evidence.artifact.symbolicName after evidence.artifact.canonicalFileName
        ⟨arguments.artifact, arguments.copiedAt⟩ := by
  obtain ⟨inventoried, -, -⟩ := preflight_installed distinct passed
  have opened := (preflight_read passed).1
  have canonical := (inspectBundle_names names opened).1
  have new : InstalledFile checks evidence.artifact.symbolicName after
      evidence.artifact.canonicalFileName ⟨arguments.artifact, arguments.copiedAt⟩ := by
    refine ⟨canonical, by rw [done.bundles _ canonical, if_pos rfl], ?_⟩
    have ours : IsBundleOf checks evidence.artifact.symbolicName arguments.artifactName
        ⟨arguments.artifact, arguments.copiedAt⟩ true := ⟨_, opened, rfl⟩
    exact ours.renamed reads canonical
  exact ⟨inventoried.replaced new fun _ _ artifact differs there =>
    done.others distinct passed artifact differs there, new⟩

theorem install_succeeded (names : checks.WellNamed) (formed : before.WellFormed)
    (named : isArtifact arguments.transactionId = false)
    (new : ∀ folder, (folder, arguments.transactionId) ∉ before.roots)
    (succeeded : ((installPlugin checks arguments).start (before, {}) []).1 = .ok 0) :
    ∃ evidence, Admissible checks arguments before evidence ∧ DoneInstall arguments before evidence
        ((installPlugin checks arguments).start (before, {}) []).2.state.1 := by
  have past : Past none ((installBody checks arguments).acts (before, {})) :=
    fun step here => by cases here
  have result := installPlugin_result names ⟨formed, named, new⟩ past ⟨"", 0⟩
  rw [faultAt] at result
  generalize ((installPlugin checks arguments).start (before, {}) []).1 = outcome,
    ((installPlugin checks arguments).start (before, {}) []).2.state.1 = after at *
  cases result with
  | refused early result => cases succeeded
  | failed due' => cases due'
  | done calm admissible result => exact ⟨_, admissible, result⟩

/-- A rollback that ends has been declined, or has chosen the newest backup. -/
theorem rollbackPlugin_calm (checks : PluginChecks) {arguments : PluginRollbackArguments} (formed : before.WellFormed)
    (named : isArtifact arguments.transactionId = false)
    (new : ∀ folder, (folder, arguments.transactionId) ∉ before.roots) :
    ((rollbackPlugin checks arguments).start (before, {}) []).1 = .ok 1 ∧
        (arguments.confirmRuntimeStopped = false ∨
          pluginBackups arguments.symbolicName before = []) ∨
      ∃ place rest, pluginBackups arguments.symbolicName before = place :: rest ∧
        RollbackResult checks arguments before place none
          ((rollbackPlugin checks arguments).start (before, {}) []).1
          ((rollbackPlugin checks arguments).start (before, {}) []).2.state.1 := by
  by_cases confirmed : arguments.confirmRuntimeStopped = true
  · cases chosen : pluginBackups arguments.symbolicName before with
    | nil =>
      have calm : (rollbackPlugin checks arguments).struck none
          (fun outcome _ _ => outcome = .ok 1) 0 (before, {}) := by
        unfold rollbackPlugin
        split
        · rfl
        · rw [struck_get_andThen]
          simp only [chosen]
          rfl
      obtain ⟨-, returned⟩ := start_of_struck ⟨"", 0⟩ calm
      exact .inl ⟨returned, .inr rfl⟩
    | cons place rest =>
      have past : Past none ((rollbackPluginBody checks arguments place).acts (before, {})) :=
        fun step here => by cases here
      obtain ⟨-, result⟩ := start_of_struck ⟨"", 0⟩
        (rollbackPlugin_struck checks ⟨formed, named, new⟩ confirmed chosen past)
      exact .inr ⟨place, rest, rfl, result⟩
  · have calm : (rollbackPlugin checks arguments).struck none
        (fun outcome _ _ => outcome = .ok 1) 0 (before, {}) := by
      unfold rollbackPlugin
      rw [if_pos (by simpa using confirmed)]
      rfl
    obtain ⟨-, returned⟩ := start_of_struck ⟨"", 0⟩ calm
    exact .inl ⟨returned, .inl (by simpa using confirmed)⟩

theorem rollback_succeeded {arguments : PluginRollbackArguments} (formed : before.WellFormed)
    (named : isArtifact arguments.transactionId = false)
    (new : ∀ folder, (folder, arguments.transactionId) ∉ before.roots)
    (succeeded : ((rollbackPlugin checks arguments).start (before, {}) []).1 = .ok 0) :
    ∃ place rest backupInfo current, pluginBackups arguments.symbolicName before = place :: rest ∧
      RollbackAdmissible checks arguments before place backupInfo current ∧
      ∃ copies : PluginCopies checks arguments.symbolicName before,
        copies.name = current.fileName ∧ copies.place = place ∧
        DoneRollback arguments copies backupInfo.canonicalFileName
          ((rollbackPlugin checks arguments).start (before, {}) []).2.state.1 := by
  rcases rollbackPlugin_calm checks formed named new with
    ⟨returned, -⟩ | ⟨place, rest, chosen, result⟩
  · rw [succeeded] at returned
    cases returned
  · generalize ((rollbackPlugin checks arguments).start (before, {}) []).1 = outcome,
      ((rollbackPlugin checks arguments).start (before, {}) []).2.state.1 = after at *
    cases result with
    | refused => cases succeeded
    | failed due' => cases due'
    | done calm admissible copies named placed result =>
      exact ⟨place, rest, _, _, chosen, admissible, copies, named, placed, result⟩

def newestFirst (plugin : String) (store : PluginStore) : List (BackupPlace × PluginFile) :=
  (store.backups.filter fun backup =>
    backup.1.folder = plugin && ".bndl".toList.isSuffixOf backup.1.name.toList).insertionSort
      fun first second => first.2.modified ≥ second.2.modified

theorem pluginBackups_eq : pluginBackups plugin before = (newestFirst plugin before).map Prod.fst :=
  rfl

theorem mem_newestFirst (distinct : (keys before.backups).Nodup) {file : PluginFile} :
    (place, file) ∈ newestFirst plugin before ↔ SavedFile plugin before place file := by
  rw [newestFirst, (List.perm_insertionSort _ _).mem_iff, List.mem_filter,
    ← lookup_eq_some_iff distinct, Bool.and_eq_true, decide_eq_true_eq]
  constructor
  · exact fun ⟨listed, folder, artifact⟩ => ⟨folder, artifact, listed⟩
  · exact fun saved => ⟨saved.listed, saved.folder, saved.artifact⟩

theorem sorted_newestFirst : (newestFirst plugin before).Pairwise
    fun first second => second.2.modified ≤ first.2.modified := by
  have total : Std.Total fun first second : BackupPlace × PluginFile =>
      first.2.modified ≥ second.2.modified := ⟨fun first second => le_total _ _⟩
  have transitive : IsTrans (BackupPlace × PluginFile) fun first second =>
      first.2.modified ≥ second.2.modified := ⟨fun _ _ _ one two => ge_trans one two⟩
  exact List.pairwise_insertionSort _ _

/-- The backup that a rollback chooses is one that was copied last. -/
theorem pluginBackups_newest (distinct : (keys before.backups).Nodup) {rest : List BackupPlace}
    (chosen : pluginBackups plugin before = place :: rest) :
    ∃ file, SavedFile plugin before place file ∧
      ∀ other file', SavedFile plugin before other file' → file'.modified ≤ file.modified := by
  rw [pluginBackups_eq] at chosen
  obtain ⟨⟨place', file⟩, tail, shape, rfl, -⟩ := List.map_eq_cons_iff.mp chosen
  have sorted : (newestFirst plugin before).Pairwise
    fun first second => second.2.modified ≤ first.2.modified := sorted_newestFirst
  rw [shape] at sorted
  refine ⟨file, (mem_newestFirst distinct).mp (by rw [shape]; exact List.mem_cons_self), ?_⟩
  intro other file' saved
  have member := (mem_newestFirst distinct).mpr saved
  rw [shape] at member
  rcases List.mem_cons.mp member with same | inside
  · rw [Prod.mk.injEq] at same
    rw [same.2]
  · exact List.rel_of_pairwise_cons sorted inside

theorem pluginBackups_ne_nil (distinct : (keys before.backups).Nodup) {file : PluginFile}
    (saved : SavedFile plugin before place file) :
    pluginBackups plugin before ≠ [] := by
  intro none
  have member := (mem_newestFirst distinct).mpr saved
  rw [pluginBackups_eq, List.map_eq_nil_iff] at none
  rw [none] at member
  cases member

end Effects

section Invariant

variable {checks : PluginChecks} {plugin : String} {clock : Int} {before after : PluginStore}
variable {place : BackupPlace} {arguments : PluginRollbackArguments}

/-- The backups after an installation: those of before, and the file that was replaced. -/
theorem DoneInstall.saved {arguments : PluginArguments} {evidence : PluginPreflight}
    (ours : evidence.artifact.symbolicName = plugin)
    (done : DoneInstall arguments before evidence after) (distinct : (keys before.bundles).Nodup)
    (passed : preflight checks arguments before.bundles = .ok evidence)
    (new : ∀ folder, (folder, arguments.transactionId) ∉ before.roots) (formed : before.WellFormed)
    {file : PluginFile} :
    SavedFile plugin after place file ↔
      SavedFile plugin before place file ∨ ∃ current, evidence.current = some current ∧
        place = backupPlace arguments evidence current ∧
        InstalledFile checks plugin before current.fileName file := by
  obtain ⟨-, -, current'⟩ := preflight_installed distinct passed
  rw [ours] at current'
  cases known : evidence.current with
  | none =>
    have backups := done.backups
    rw [known] at backups
    have same : after.backups = before.backups := backups
    constructor
    · exact fun saved => .inl ⟨saved.folder, saved.artifact, by rw [← same]; exact saved.listed⟩
    · rintro (saved | ⟨current, found, -⟩)
      · exact ⟨saved.folder, saved.artifact, by rw [same]; exact saved.listed⟩
      · cases found
  | some current =>
    have backups := done.backups
    rw [known] at backups
    obtain ⟨old, there, same⟩ := backups
    obtain ⟨file', installed, -⟩ := current' current known
    have equal : file' = old := by
      have listed := installed.listed
      rw [there] at listed
      exact (Option.some.inj listed).symm
    subst equal
    have apart : ∀ {place file}, SavedFile plugin before place file →
        place ≠ backupPlace arguments evidence current := by
      rintro place file saved rfl
      exact new _ (formed.housed _ (lookup_isSome_iff.mp (by rw [saved.listed]; rfl)))
    constructor
    · intro saved
      have listed := saved.listed
      rw [same, lookup_assign] at listed
      split at listed
      · next here =>
        rw [Option.some.injEq] at listed
        exact .inr ⟨current, rfl, here, by rw [← listed]; exact installed⟩
      · exact .inl ⟨saved.folder, saved.artifact, listed⟩
    · rintro (saved | ⟨current', found, rfl, other⟩)
      · refine ⟨saved.folder, saved.artifact, ?_⟩
        rw [same, lookup_assign_ne (apart saved)]
        exact saved.listed
      · rw [Option.some.injEq] at found
        subst found
        refine ⟨ours, other.artifact, ?_⟩
        rw [same, lookup_assign_self, ← there, other.listed]

/-- An installation keeps the files of its plugin apart: its own copy is the latest. -/
theorem Timed.install (names : checks.WellNamed) (reads : checks.ReadsContent)
    (timed : Timed checks plugin clock before) {arguments : PluginArguments}
    {evidence : PluginPreflight} (ours : evidence.artifact.symbolicName = plugin)
    (later : clock < arguments.copiedAt)
    (new : ∀ folder, (folder, arguments.transactionId) ∉ before.roots)
    (passed : preflight checks arguments before.bundles = .ok evidence)
    (done : DoneInstall arguments before evidence after) :
    Timed checks plugin arguments.copiedAt after := by
  obtain ⟨inventoried, own⟩ := done.installed names reads timed.formed.bundles passed
  rw [ours] at own
  have saved := fun {place : BackupPlace} {file : PluginFile} =>
    (done.saved ours timed.formed.bundles passed new timed.formed :
      SavedFile plugin after place file ↔ _)
  -- Whatever is in the backup directory was copied before the clock.
  have older : ∀ place file, SavedFile plugin after place file → file.modified ≤ clock := by
    intro place file there
    rcases saved.mp there with old | ⟨current, known, rfl, installed⟩
    · exact (timed.saved _ _ old).1
    · exact (timed.installed _ _ installed).1
  refine ⟨done.formed, ?_, ?_, ?_, ?_⟩
  · have backups := done.backups
    revert backups
    cases evidence.current with
    | none =>
      intro same
      have same : after.backups = before.backups := same
      rw [same]
      exact timed.distinct
    | some current =>
      rintro ⟨file, -, same⟩
      rw [same]
      exact nodup_keys_assign timed.distinct _ _
  · intro name file installed
    have name' := inventoried.single installed own
    subst name'
    have same := installed.listed
    rw [own.listed, Option.some.injEq] at same
    subst same
    refine ⟨le_refl _, fun place file there => ?_⟩
    have bound := older place file there
    dsimp only
    omega
  · intro place file there
    refine ⟨(older place file there).trans later.le, ?_⟩
    rcases saved.mp there with old | ⟨current, known, rfl, installed⟩
    · exact (timed.saved _ _ old).2
    · exact installed.ours
  · intro place other file file' there there' same
    rcases saved.mp there with old | ⟨current, known, rfl, installed⟩ <;>
      rcases saved.mp there' with old' | ⟨current', known', rfl, installed'⟩
    · exact timed.apart _ _ _ _ old old' same
    · exact absurd same ((timed.installed _ _ installed').2 _ _ old)
    · exact absurd same.symm ((timed.installed _ _ installed).2 _ _ old')
    · rw [known, Option.some.injEq] at known'
      rw [known']

theorem RollbackAdmissible.installed {backupInfo current : BundleInfo} (formed : before.WellFormed)
    (admissible : RollbackAdmissible checks arguments before place backupInfo current)
    (copies : PluginCopies checks arguments.symbolicName before)
    (named : copies.name = current.fileName) :
    Inventoried checks before.bundles ∧
      InstalledFile checks arguments.symbolicName before copies.name copies.current ∧
      checks.sha256 copies.current.content = current.sha256 := by
  obtain ⟨all, name, read, only⟩ := admissible.approved.installed
  have member : (name, current) ∈ all.filter (·.2.symbolicName = arguments.symbolicName) := by
    simp [only]
  have listed := (List.mem_filter.mp member).1
  obtain ⟨file, there, opened⟩ := inventory_read read _ listed
  have same : file = copies.current := by
    have found := (lookup_eq_some_iff formed.bundles).mpr there
    dsimp only at found
    rw [← named, copies.installed] at found
    exact (Option.some.inj found).symm
  refine ⟨(inventory_found formed.bundles read).1, ⟨?_, copies.installed, copies.ours⟩, ?_⟩
  · rw [named]
    exact inventory_artifact read _ listed
  · rw [← same]
    exact (inspectBundle_ok opened).2.symm

variable {copies : PluginCopies checks arguments.symbolicName before} {target : String}
  (done : DoneRollback arguments copies target after)
include done

theorem DoneRollback.saved (new : ∀ folder, (folder, arguments.transactionId) ∉ before.roots)
    (formed : before.WellFormed) (artifact : isArtifact copies.name = true) {file : PluginFile} :
    SavedFile arguments.symbolicName after place file ↔
      (SavedFile arguments.symbolicName before place file ∧ place ≠ copies.place) ∨
        (place = asidePlace arguments copies.name ∧ file = copies.current) := by
  have vacant : before.backups.lookup (asidePlace arguments copies.name) = none := by
    rw [lookup_eq_none_iff]
    exact fun member => new _ (formed.housed _ member)
  have apart : asidePlace arguments copies.name ≠ copies.place := by
    intro same
    rw [same, copies.approved] at vacant
    cases vacant
  constructor
  · intro saved
    have listed := saved.listed
    rw [done.backups place] at listed
    split at listed
    · cases listed
    next differs =>
    split at listed
    · next here =>
      rw [Option.some.injEq] at listed
      exact .inr ⟨here, listed.symm⟩
    · exact .inl ⟨⟨saved.folder, saved.artifact, listed⟩, differs⟩
  · rintro (⟨saved, differs⟩ | ⟨rfl, rfl⟩)
    · refine ⟨saved.folder, saved.artifact, ?_⟩
      rw [done.backups place, if_neg differs, if_neg]
      · exact saved.listed
      · rintro rfl
        have listed := saved.listed
        rw [vacant] at listed
        cases listed
    · refine ⟨rfl, artifact, ?_⟩
      rw [done.backups, if_neg apart, if_pos rfl]

theorem DoneRollback.single (inventoried : Inventoried checks before.bundles)
    (installed : InstalledFile checks arguments.symbolicName before copies.name copies.current)
    {name : String} {file : PluginFile}
    (there : InstalledFile checks arguments.symbolicName after name file) :
    name = target ∧ file = copies.saved := by
  have listed := there.listed
  rw [done.bundles name] at listed
  split at listed
  · next same => exact ⟨same, (Option.some.inj listed).symm⟩
  split at listed
  · cases listed
  next differs =>
  exact absurd (inventoried.single ⟨there.artifact, listed, there.ours⟩ installed) differs

omit done

theorem Timed.rollback (timed : Timed checks arguments.symbolicName clock before)
    {backupInfo current : BundleInfo}
    (new : ∀ folder, (folder, arguments.transactionId) ∉ before.roots)
    (admissible : RollbackAdmissible checks arguments before place backupInfo current)
    (copies : PluginCopies checks arguments.symbolicName before)
    (named : copies.name = current.fileName)
    (chosen : SavedFile arguments.symbolicName before copies.place copies.saved)
    (done : DoneRollback arguments copies backupInfo.canonicalFileName after) :
    Timed checks arguments.symbolicName clock after := by
  obtain ⟨inventoried, installed, -⟩ := admissible.installed timed.formed copies named
  have saved := fun {place : BackupPlace} {file : PluginFile} =>
    (done.saved new timed.formed installed.artifact :
      SavedFile arguments.symbolicName after place file ↔ _)
  refine ⟨done.formed, done.distinct timed.distinct, ?_, ?_, ?_⟩
  · intro name file there
    obtain ⟨-, rfl⟩ := done.single inventoried installed there
    refine ⟨(timed.saved _ _ chosen).1, fun other file' there' => ?_⟩
    rcases saved.mp there' with ⟨old, differs⟩ | ⟨rfl, rfl⟩
    · exact fun same => differs (timed.apart _ _ _ _ old chosen same)
    · exact fun same => (timed.installed _ _ installed).2 _ _ chosen same.symm
  · intro other file there
    rcases saved.mp there with ⟨old, -⟩ | ⟨rfl, rfl⟩
    · exact timed.saved _ _ old
    · exact ⟨(timed.installed _ _ installed).1, installed.ours⟩
  · intro other other' file file' there there' same
    rcases saved.mp there with ⟨old, -⟩ | ⟨rfl, rfl⟩ <;>
      rcases saved.mp there' with ⟨old', -⟩ | ⟨rfl, rfl⟩
    · exact timed.apart _ _ _ _ old old' same
    · exact absurd same ((timed.installed _ _ installed).2 _ _ old)
    · exact absurd same.symm ((timed.installed _ _ installed).2 _ _ old')
    · rfl

theorem chosen_saved (distinct : (keys before.backups).Nodup) {rest : List BackupPlace}
    (chosen : pluginBackups arguments.symbolicName before = place :: rest)
    (copies : PluginCopies checks arguments.symbolicName before) (placed : copies.place = place) :
    SavedFile arguments.symbolicName before copies.place copies.saved ∧
      ∀ other file, SavedFile arguments.symbolicName before other file →
        file.modified ≤ copies.saved.modified := by
  obtain ⟨file, saved, newest⟩ := pluginBackups_newest distinct chosen
  have same : file = copies.saved := by
    have listed := saved.listed
    rw [← placed, copies.approved] at listed
    exact (Option.some.inj listed).symm
  rw [placed, ← same]
  exact ⟨saved, newest⟩

theorem PluginHistory.timed (names : checks.WellNamed) (reads : checks.ReadsContent)
    {first : PluginStore} {since : Int} (started : Timed checks plugin since first)
    (history : PluginHistory checks plugin first since clock before) :
    Timed checks plugin clock before := by
  induction history with
  | begin => exact started
  | install history arguments ours later named new succeeded ih =>
    obtain ⟨evidence, admissible, done⟩ := install_succeeded names ih.formed named new succeeded
    exact ih.install names reads (ours evidence admissible.passed) later new admissible.passed done
  | rollback history arguments ours named new succeeded ih =>
    subst ours
    obtain ⟨place, rest, backupInfo, current, chosen, admissible, copies, named', placed, done⟩ :=
      rollback_succeeded ih.formed named new succeeded
    exact ih.rollback new admissible copies named'
      (chosen_saved ih.distinct chosen copies placed).1 done

end Invariant

section Results

variable {checks : PluginChecks} {plugin : String} {clock : Int} {before after : PluginStore}
variable {evidence : PluginPreflight} {arguments : PluginArguments}

theorem IsBundleOf.asPlugin (reads : checks.ReadsContent) {name other : String} {file : PluginFile}
    {content : List UInt8} {info : BundleInfo} (ours : IsBundleOf checks plugin name file false)
    (opened : inspectBundle checks other content true = .ok info)
    (same : info.symbolicName = plugin) : IsBundleOf checks plugin name file true := by
  obtain ⟨info', opened', same'⟩ := ours
  obtain ⟨read, raw, shape⟩ := inspectBundle_eq_ok.mp opened
  obtain ⟨read', raw', shape'⟩ := inspectBundle_eq_ok.mp opened'
  have equal : read'.symbolicName = read.symbolicName := by
    rw [shape] at same
    rw [shape'] at same'
    exact same'.trans same.symm
  exact ⟨info', inspectBundle_eq_ok.mpr ⟨read', reads.plugin _ _ _ _ _ _ raw' raw equal, shape'⟩,
    same'⟩

theorem Approved.digests (reads : checks.ReadsContent) {arguments : PluginRollbackArguments}
    {place : BackupPlace} {backupInfo current : BundleInfo}
    (approved : Approved checks arguments before place backupInfo current)
    (copies : PluginCopies checks arguments.symbolicName before) (placed : copies.place = place)
    {content : List UInt8} (expected : arguments.expectedBackupSha256 = checks.sha256 content) :
    checks.sha256 copies.saved.content = checks.sha256 content := by
  obtain ⟨saved, found, opened⟩ := approved.saved
  rw [← placed, copies.approved, Option.some.injEq] at found
  rw [found, ← (inspectBundle_ok opened).2, approved.savedDigest, expected, reads.digests]

theorem admissible_after_install (reads : checks.ReadsContent) {install : PluginArguments}
    {rollback : PluginRollbackArguments} {place : BackupPlace} {file : PluginFile}
    (passed : preflight checks install before.bundles = .ok evidence)
    (ours : rollback.symbolicName = evidence.artifact.symbolicName)
    (inventoried : Inventoried checks after.bundles)
    (own : InstalledFile checks evidence.artifact.symbolicName after
      evidence.artifact.canonicalFileName ⟨install.artifact, install.copiedAt⟩)
    (done : DoneInstall install before evidence after)
    (saved : SavedFile evidence.artifact.symbolicName after place file)
    (readable : IsBundleOf checks evidence.artifact.symbolicName place.name file false)
    (currentDigest : rollback.expectedCurrentSha256 = evidence.artifact.sha256)
    (backupDigest : checks.sha256 file.content = rollback.expectedBackupSha256) :
    ∃ backupInfo current, RollbackAdmissible checks rollback after place backupInfo current := by
  have opened := (preflight_read passed).1
  obtain ⟨backupInfo, opened', same⟩ := IsBundleOf.asPlugin reads readable opened rfl
  obtain ⟨info, read, named⟩ := own.ours
  obtain ⟨all, listed⟩ := inventoried.inventory done.formed.bundles
  obtain ⟨-, distinct, symbolic, found⟩ := inventory_found done.formed.bundles listed
  have member := found _ _ info own.artifact own.listed read
  rw [named] at member
  -- The inventory lists the plugin under its own symbolic name only.
  have only : all.filter (·.2.symbolicName = rollback.symbolicName) =
      [(evidence.artifact.symbolicName, info)] := by
    rw [← filter_key distinct member, ours]
    refine List.filter_congr fun entry inside => ?_
    rw [symbolic entry inside]
  refine ⟨backupInfo, info, done.journal, done.lock, ⟨file, saved.listed, opened'⟩,
    same.trans ours.symm, ?_, ⟨all, _, listed, only⟩, ?_⟩
  · rw [(inspectBundle_ok opened').2, ← backupDigest, reads.digests]
  · rw [currentDigest, (inspectBundle_ok opened).2, reads.digests, (inspectBundle_ok read).2]

/-- The files that a rollback may choose from right behind an installation are those of before. -/
theorem DoneInstall.candidate_iff (done : DoneInstall arguments before evidence after)
    (distinct : (keys before.bundles).Nodup)
    (passed : preflight checks arguments before.bundles = .ok evidence)
    (new : ∀ folder, (folder, arguments.transactionId) ∉ before.roots) (formed : before.WellFormed)
    {file : PluginFile} :
    (∃ place, SavedFile evidence.artifact.symbolicName after place file) ↔
      (∃ name, InstalledFile checks evidence.artifact.symbolicName before name file) ∨
        ∃ place, SavedFile evidence.artifact.symbolicName before place file := by
  obtain ⟨-, known, -⟩ := preflight_installed distinct passed
  constructor
  · rintro ⟨place, there⟩
    rcases (done.saved rfl distinct passed new formed).mp there with old | ⟨current, -, -, installed⟩
    · exact .inr ⟨place, old⟩
    · exact .inl ⟨_, installed⟩
  · rintro (⟨name, installed⟩ | ⟨place, old⟩)
    · obtain ⟨current, found, same⟩ := known name file installed
      subst same
      exact ⟨_, (done.saved rfl distinct passed new formed).mpr
        (.inr ⟨current, found, rfl, installed⟩)⟩
    · exact ⟨place, (done.saved rfl distinct passed new formed).mpr (.inl old)⟩

/-- Three versions of one plugin, told apart by their content. -/
def versionChecks : PluginChecks where
  readBundle _ content _ := .ok { samplePlugin with
    canonicalFileName :=
      if content = [1] then "sample_1.bndl" else if content = [2] then "sample_2.bndl"
      else "sample_3.bndl" }
  sha256 content := if content = [1] then "d1" else if content = [2] then "d2" else "d3"
  loadRuntimeContract := .ok ⟨"1.0.0", "1", "1", "abi"⟩
  verifyPluginProvenance _ := .ok ()
  versionMatches _ _ := .ok true

theorem versionChecks_wellNamed : versionChecks.WellNamed := by
  constructor
  · rintro name content requirePlugin info ⟨rfl⟩
    dsimp only
    repeat' split
    all_goals decide
  · rintro name content info ⟨rfl⟩
    exact (by decide : "pdr.plugin.".toList.isPrefixOf samplePlugin.symbolicName.toList = true)

theorem versionChecks_readsContent : versionChecks.ReadsContent := by
  refine ⟨fun _ _ _ _ _ read _ => read, fun _ _ _ read => read, fun _ _ _ _ _ _ read _ _ => read, ?_⟩
  intro content
  dsimp only [versionChecks]
  repeat' split
  all_goals decide +kernel

def installVersion (version : UInt8) (transactionId : String) (copiedAt : Int) : PluginArguments where
  artifactName := "sample.bndl"
  artifact := [version]
  expectedSha256 := none
  confirmRuntimeStopped := true
  report := false
  transactionId := transactionId
  copiedAt := copiedAt

def rollbackVersion (current backup transactionId : String) : PluginRollbackArguments where
  symbolicName := "pdr.plugin.sample"
  expectedCurrentSha256 := current
  expectedBackupSha256 := backup
  confirmRuntimeStopped := true
  report := false
  transactionId := transactionId

/-- An empty directory has no files to tell apart. -/
theorem Timed.empty : Timed versionChecks "pdr.plugin.sample" 0 {} := by
  refine ⟨⟨by decide, by decide⟩, by decide, ?_, ?_, ?_⟩
  · intro name file installed
    cases installed.listed
  · intro place file saved
    cases saved.listed
  · intro place other file file' saved
    cases saved.listed

theorem versions_ours {bundles : List (String × PluginFile)}
    (passed : preflight versionChecks arguments bundles = .ok evidence) :
    evidence.artifact.symbolicName = "pdr.plugin.sample" := by
  obtain ⟨read, raw, shape⟩ := inspectBundle_eq_ok.mp (preflight_read passed).1
  cases raw
  rw [shape]
  rfl

/-- What an inspection finds of one of the versions. -/
def versionInfo (fileName canonicalFileName sha256 : String) : BundleInfo :=
  { samplePlugin with fileName, canonicalFileName, sha256 }

/-- The directory after version 1 was installed, after version 2 was, and after a rollback. -/
def versionOne : PluginStore :=
  ((installPlugin versionChecks (installVersion 1 "t1" 1)).start ({}, {}) []).2.state.1

def versionTwo : PluginStore :=
  ((installPlugin versionChecks (installVersion 2 "t2" 2)).start (versionOne, {}) []).2.state.1

def versionOneAgain : PluginStore :=
  ((rollbackPlugin versionChecks (rollbackVersion "d2" "d1" "t3")).start
    (versionTwo, {}) []).2.state.1

theorem versionOne_history : PluginHistory versionChecks "pdr.plugin.sample" {} 0 1 versionOne :=
  .install .begin (installVersion 1 "t1" 1) (fun _ => versions_ours) (by decide) (by decide)
    (by simp) (by decide +kernel)

theorem versionOneAgain_history :
    PluginHistory versionChecks "pdr.plugin.sample" {} 0 2 versionOneAgain := by
  have unused : versionOne.roots = [] := by decide +kernel
  have used : versionTwo.roots = [("pdr.plugin.sample", "t2")] := by decide +kernel
  have two : PluginHistory versionChecks "pdr.plugin.sample" {} 0 2 versionTwo :=
    .install versionOne_history (installVersion 2 "t2" 2) (fun _ => versions_ours) (by decide)
      (by decide) (by simp [unused]) (by decide +kernel)
  exact .rollback two (rollbackVersion "d2" "d1" "t3") rfl (by decide)
    (by simp [used, rollbackVersion]) (by decide +kernel)

end Results

end PocoDDS.Tools
