import PocoDDS.Tools.BundleInspection
import PocoDDS.Tools.PluginHistory

/-! Where the plugin manager puts the files of a plugin. -/

namespace PocoDDS.Tools

open AssocList EvidenceBundle ExternalAcceptance OutcomeLogic PosixPaths CrashLogic ProcessLogic
  Process

/-- A path of a transaction, given the bundle directory and the backup directory. -/
def PluginPath.locate (bundles backups : PosixPath) : PluginPath → PosixPath
  | .bundle name => bundles.join (PosixPath.parse name)
  | .backup place => ((backups.join (PosixPath.parse place.folder)).join
      (PosixPath.parse place.transactionId)).join (PosixPath.parse place.name)
  | .outside path => PosixPath.parse path

/-- Where a rollback puts the backup that it has chosen. -/
def restoredPath (backupInfo : BundleInfo) : PluginPath :=
  .bundle backupInfo.canonicalFileName

/-- A file of the bundle directory itself that matches `*.bndl`. -/
def IsBundleFile (bundles path : PosixPath) : Prop :=
  ∃ name, path = ⟨bundles.absolute, bundles.parts ++ [name]⟩ ∧ isArtifact name = true

/-- The next inventory succeeds, and lists a plugin by one file, with a given name and digest. -/
def ListedOnce (checks : PluginChecks) (plugin fileName digest : String) (store : PluginStore) :
    Prop :=
  ∃ all info, inventory checks store.bundles = .ok all ∧
    all.filter (·.1 = plugin) = [(plugin, info)] ∧ info.symbolicName = plugin ∧
    info.fileName = fileName ∧ info.sha256 = digest

section Names

variable {zip : ZipReader} {checks : PluginChecks} {fileName : String} {content : List UInt8}
  {requirePlugin : Bool} {info : BundleInfo}
variable {manifest : List (String × String)}

/-- A bundle directory whose archives are read by the library. -/
def ReadsArchives (checks : PluginChecks) (zip : ZipReader) : Prop :=
  checks.readBundle = readBundle zip checks.sha256

/-- What an inspection that succeeds has found. -/
theorem inspectBundle_archive (reads : ReadsArchives checks zip) :
    inspectBundle checks fileName content requirePlugin = .ok info ↔
      (pathSuffix fileName).map Char.toLower = ".bndl".toList ∧
        ∃ manifest, Acceptable zip content requirePlugin manifest ∧
          info = bundleInfo fileName (checks.sha256 content) manifest := by
  rw [inspectBundle_eq_ok, reads]
  simp only [readBundle_eq_ok]
  constructor
  · rintro ⟨_, ⟨suffix, manifest, acceptable, rfl⟩, rfl⟩
    exact ⟨suffix, manifest, acceptable, rfl⟩
  · rintro ⟨suffix, manifest, acceptable, rfl⟩
    exact ⟨_, ⟨suffix, manifest, acceptable, rfl⟩, rfl⟩

theorem wellNamed_of_archives (reads : ReadsArchives checks zip) : checks.WellNamed where
  canonical name content requirePlugin info opened := by
    rw [reads, readBundle_eq_ok] at opened
    obtain ⟨-, manifest, -, rfl⟩ := opened
    exact suffix_canonical
  plugin name content info opened := by
    rw [reads, readBundle_eq_ok] at opened
    obtain ⟨-, manifest, acceptable, rfl⟩ := opened
    have named := acceptable.plugin rfl
    unfold isPluginName at named
    split at named
    · next rest lead =>
      obtain ⟨front, shape, same⟩ := List.dropPrefix?_eq_some_iff.mp lead
      rw [beq_iff_eq] at same
      subst same
      rw [List.isPrefixOf_iff_prefix]
      exact ⟨rest, shape.symm⟩
    · cases named

theorem symbolic_characters {name : String} (symbolic : isSymbolicName name = true) :
    name.toList ≠ [] ∧ '/' ∉ name.toList := by
  unfold isSymbolicName matchesName at symbolic
  split at symbolic
  · cases symbolic
  · next first rest shape =>
    rw [Bool.and_eq_true, List.all_eq_true] at symbolic
    rw [shape]
    refine ⟨List.cons_ne_nil _ _, fun slash => ?_⟩
    rcases List.mem_cons.mp slash with same | later
    · have allowed := symbolic.1
      rw [← same] at allowed
      exact absurd allowed (by decide)
    · exact absurd (symbolic.2 _ later) (by decide)

/-- The suffix of a file name that ends in it. -/
theorem pathSuffix_bndl {front : String} (filled : front.toList ≠ []) :
    pathSuffix (front ++ ".bndl") = ".bndl".toList := by
  have shape : (front ++ ".bndl").toList = (front.toList ++ ['.']) ++ "bndl".toList := by
    rw [String.toList_append, List.append_assoc]
    rfl
  have tail : ((front.toList ++ ['.']) ++ "bndl".toList).rtakeWhile (· ≠ '.') = "bndl".toList := by
    rw [List.rtakeWhile, List.reverse_append, List.takeWhile_append_of_pos (by simp)]
    simp
  have head : ((front.toList ++ ['.']) ++ "bndl".toList).rdropWhile (· ≠ '.') =
      front.toList ++ ['.'] := by
    rw [List.rdropWhile, List.reverse_append, List.dropWhile_append_of_pos (by simp)]
    simp
  unfold pathSuffix
  rw [shape, tail, head, List.dropLast_concat, if_pos ⟨filled, by decide⟩]
  rfl

theorem canonical_toList {manifest : List (String × String)} {digest : String} :
    (bundleInfo fileName digest manifest).canonicalFileName.toList =
      (header manifest "Bundle-SymbolicName").toList ++ '_' ::
        (header manifest "Bundle-Version").toList ++ ".bndl".toList := by
  simp [bundleInfo]

theorem locate_canonical {digest : String} (bundles backups : PosixPath)
    (filled : (header manifest "Bundle-SymbolicName").toList ≠ [])
    (clean : '/' ∉ (header manifest "Bundle-SymbolicName").toList) :
    (PluginPath.bundle (bundleInfo fileName digest manifest).canonicalFileName).locate bundles
        backups = ⟨bundles.absolute, bundles.parts ++
      components (bundleInfo fileName digest manifest).canonicalFileName.toList⟩ := by
  have relative : (PosixPath.parse (bundleInfo fileName digest
      manifest).canonicalFileName).absolute = false := by
    obtain ⟨first, rest, begins⟩ := List.exists_cons_of_ne_nil filled
    rw [PosixPath.parse, canonical_toList]
    rw [begins] at clean ⊢
    simp only [List.cons_append, List.head?_cons, beq_eq_false_iff_ne, ne_eq, Option.some.injEq]
    exact fun same => clean (same ▸ List.mem_cons_self)
  rw [PluginPath.locate, PosixPath.join, relative]
  rfl

theorem canonical_divided {manifest : List (String × String)} {digest : String}
    (slash : '/' ∈ (header manifest "Bundle-Version").toList) :
    1 < (components (bundleInfo fileName digest manifest).canonicalFileName.toList).length := by
  obtain ⟨before, behind, cut⟩ := List.append_of_mem slash
  have split : (bundleInfo fileName digest manifest).canonicalFileName.toList =
      ((header manifest "Bundle-SymbolicName").toList ++ '_' :: before) ++ '/' ::
        (behind ++ ".bndl".toList) := by
    rw [canonical_toList, cut]
    simp
  have first : components ((header manifest "Bundle-SymbolicName").toList ++ '_' :: before) ≠ [] :=
    components_ne_nil (show '_' ∈ _ by simp) (by decide) (by decide)
  have second : components (behind ++ ".bndl".toList) ≠ [] :=
    components_ne_nil (show 'b' ∈ _ by simp) (by decide) (by decide)
  have one := List.length_pos_iff.mpr first
  have two := List.length_pos_iff.mpr second
  rw [split, components_append, List.length_append]
  omega

theorem canonical_component {digest : String}
    (clean : '/' ∉ (header manifest "Bundle-SymbolicName").toList)
    (plain : '/' ∉ (header manifest "Bundle-Version").toList) :
    IsComponent (bundleInfo fileName digest manifest).canonicalFileName := by
  have shape := @canonical_toList fileName manifest digest
  -- The name is longer than the two components that stand for no name.
  refine ⟨fun empty => ?_, fun dot => ?_, fun slash => ?_⟩
  · rw [empty] at shape
    have lengths := congrArg List.length shape
    simp at lengths
  · rw [dot] at shape
    have lengths := congrArg List.length shape
    simp at lengths
    omega
  · rw [shape] at slash
    simp [clean, plain] at slash

theorem located_iff (reads : ReadsArchives checks zip) (bundles backups : PosixPath)
    (accepted : inspectBundle checks fileName content requirePlugin = .ok info) :
    IsBundleFile bundles ((PluginPath.bundle info.canonicalFileName).locate bundles backups) ↔
      '/' ∉ info.version.toList := by
  obtain ⟨-, manifest, acceptable, rfl⟩ := (inspectBundle_archive reads).mp accepted
  obtain ⟨filled, clean⟩ := symbolic_characters acceptable.symbolic
  rw [locate_canonical bundles backups filled clean]
  constructor
  · rintro ⟨name, same, -⟩ slash
    have lengths := congrArg (fun path => path.parts.length) same
    simp only [List.length_append, List.length_singleton] at lengths
    have divided := @canonical_divided fileName manifest (checks.sha256 content) slash
    omega
  · intro plain
    exact ⟨_, by rw [components_component (canonical_component clean plain)],
      (inspectBundle_names (wellNamed_of_archives reads) accepted).1⟩

theorem inspectBundle_published (reads : ReadsArchives checks zip)
    (accepted : inspectBundle checks fileName content requirePlugin = .ok info) :
    inspectBundle checks info.canonicalFileName content false =
      .ok { info with fileName := info.canonicalFileName } := by
  obtain ⟨-, manifest, acceptable, rfl⟩ := (inspectBundle_archive reads).mp accepted
  have suffix : pathSuffix (bundleInfo fileName (checks.sha256 content) manifest).canonicalFileName =
      ".bndl".toList := pathSuffix_bndl (by simp)
  refine (inspectBundle_archive reads).mpr ⟨by rw [suffix]; decide, manifest, ?_, rfl⟩
  exact { acceptable with plugin := nofun }

end Names

section Runs

variable {zip : ZipReader} {checks : PluginChecks} {plugin : String} {before after : PluginStore}
  {content : List UInt8} {info : BundleInfo}
variable {arguments : PluginRollbackArguments}

theorem InstalledFile.listedOnce {target : String} {file : PluginFile}
    (formed : after.WellFormed) (inventoried : Inventoried checks after.bundles)
    (new : InstalledFile checks plugin after target file)
    (opened : inspectBundle checks target file.content false = .ok info) :
    ListedOnce checks plugin target (checks.sha256 file.content) after := by
  obtain ⟨all, read⟩ := inventoried.inventory formed.bundles
  obtain ⟨-, distinct, -, found⟩ := inventory_found formed.bundles read
  obtain ⟨info', opened', ours⟩ := new.ours
  rw [opened, Except.ok.injEq] at opened'
  subst opened'
  have member := found _ _ info new.artifact new.listed opened
  rw [ours] at member
  exact ⟨all, info, read, filter_key distinct member, ours, (inspectBundle_ok opened).1,
    (inspectBundle_ok opened).2⟩

theorem install_listedOnce (reads : ReadsArchives checks zip) {arguments : PluginArguments}
    (fresh : FreshTransaction arguments.transactionId before)
    (accepted : inspectBundle checks arguments.artifactName arguments.artifact true = .ok info)
    (succeeded : ((installPlugin checks arguments).start (before, {}) []).1 = .ok 0) :
    ListedOnce checks info.symbolicName info.canonicalFileName info.sha256
      ((installPlugin checks arguments).start (before, {}) []).2.state.1 := by
  have names := wellNamed_of_archives reads
  obtain ⟨evidence, admissible, done⟩ :=
    install_succeeded names fresh.formed fresh.named fresh.roots succeeded
  generalize ((installPlugin checks arguments).start (before, {}) []).2.state.1 = after at done ⊢
  have passed := admissible.passed
  obtain ⟨opened, -⟩ := preflight_read passed
  rw [accepted, Except.ok.injEq] at opened
  subst opened
  have published := inspectBundle_published reads accepted
  have canonical := (inspectBundle_names names accepted).1
  have new : InstalledFile checks evidence.artifact.symbolicName after
      evidence.artifact.canonicalFileName ⟨arguments.artifact, arguments.copiedAt⟩ :=
    ⟨canonical, by rw [done.bundles _ canonical, if_pos rfl], _, published, rfl⟩
  obtain ⟨inventoried, -, -⟩ := preflight_installed fresh.formed.bundles passed
  have inventoried' := inventoried.replaced new fun _ _ artifact differs there =>
    done.others fresh.formed.bundles passed artifact differs there
  have listed := new.listedOnce done.formed inventoried' published
  rwa [(inspectBundle_ok accepted).2]

/-- What a successful rollback leaves beside the restored file was there, and none of the plugin's. -/
theorem DoneRollback.others {target : String}
    {copies : PluginCopies checks arguments.symbolicName before}
    (done : DoneRollback arguments copies target after)
    (inventoried : Inventoried checks before.bundles)
    (installed : InstalledFile checks arguments.symbolicName before copies.name copies.current)
    {name : String} {file : PluginFile} (differs : name ≠ target)
    (there : after.bundles.lookup name = some file) :
    before.bundles.lookup name = some file ∧
      ¬InstalledFile checks arguments.symbolicName before name file := by
  rw [done.bundles name, if_neg differs] at there
  split at there
  · cases there
  · next kept => exact ⟨there, fun other => kept (inventoried.single other installed)⟩

theorem rollback_listedOnce (reads : ReadsArchives checks zip)
    (fresh : FreshTransaction arguments.transactionId before) {place : BackupPlace}
    {rest : List BackupPlace} {file : PluginFile}
    (chosen : pluginBackups arguments.symbolicName before = place :: rest)
    (saved : before.backups.lookup place = some file)
    (accepted : inspectBundle checks place.name file.content true = .ok info)
    (succeeded : ((rollbackPlugin checks arguments).start (before, {}) []).1 = .ok 0) :
    ListedOnce checks info.symbolicName info.canonicalFileName info.sha256
      ((rollbackPlugin checks arguments).start (before, {}) []).2.state.1 := by
  obtain ⟨place', rest', backupInfo, current, chosen', admissible, copies, named, placed, done⟩ :=
    rollback_succeeded fresh.formed fresh.named fresh.roots succeeded
  generalize ((rollbackPlugin checks arguments).start (before, {}) []).2.state.1 = after at done ⊢
  rw [chosen, List.cons.injEq] at chosen'
  obtain ⟨rfl, -⟩ := chosen'
  -- The backup that has been approved is the archive at its place.
  obtain ⟨file', saved', opened⟩ := admissible.approved.saved
  rw [saved, Option.some.injEq] at saved'
  subst saved'
  rw [accepted, Except.ok.injEq] at opened
  subst opened
  have copied := copies.approved
  rw [placed, saved, Option.some.injEq] at copied
  have published := inspectBundle_published reads accepted
  have canonical := (inspectBundle_names (wellNamed_of_archives reads) accepted).1
  have ours := admissible.approved.savedName
  have new : InstalledFile checks arguments.symbolicName after info.canonicalFileName file :=
    ⟨canonical, by rw [done.bundles, if_pos rfl, copied], _, published, ours⟩
  obtain ⟨inventoried, installed, -⟩ := admissible.installed fresh.formed copies named
  have inventoried' := inventoried.replaced new fun _ _ _ differs there =>
    done.others inventoried installed differs there
  have listed := new.listedOnce done.formed inventoried' published
  rwa [(inspectBundle_ok accepted).2, ours]

end Runs

/-- The file of an accepted plugin is published to the bundle directory itself, and restored there,
under a name that the inventory looks for, exactly when the version has no slash; then the inventory
after an installation or a rollback lists the plugin by this one file. -/
theorem plugin_files_inside_iff (zip : ZipReader) (checks : PluginChecks)
    (reads : ReadsArchives checks zip) (bundles backups : PosixPath) (fileName : String)
    (content : List UInt8) (info : BundleInfo)
    (accepted : inspectBundle checks fileName content true = .ok info) :
    (IsBundleFile bundles ((publishedPath info).locate bundles backups) ∧
        IsBundleFile bundles ((restoredPath info).locate bundles backups) ↔
      '/' ∉ info.version.toList) ∧
    ('/' ∉ info.version.toList →
      (∀ (arguments : PluginArguments) (before : PluginStore),
        FreshTransaction arguments.transactionId before →
        arguments.artifactName = fileName → arguments.artifact = content →
        ((installPlugin checks arguments).start (before, {}) []).1 = .ok 0 →
        ListedOnce checks info.symbolicName info.canonicalFileName info.sha256
          ((installPlugin checks arguments).start (before, {}) []).2.state.1) ∧
      ∀ (arguments : PluginRollbackArguments) (before : PluginStore) (place : BackupPlace)
        (rest : List BackupPlace) (file : PluginFile),
        FreshTransaction arguments.transactionId before →
        pluginBackups arguments.symbolicName before = place :: rest →
        before.backups.lookup place = some file →
        place.name = fileName → file.content = content →
        ((rollbackPlugin checks arguments).start (before, {}) []).1 = .ok 0 →
        ListedOnce checks info.symbolicName info.canonicalFileName info.sha256
          ((rollbackPlugin checks arguments).start (before, {}) []).2.state.1) := by
  have located := located_iff reads bundles backups accepted
  refine ⟨⟨fun both => located.mp both.1, fun plain => ⟨located.mpr plain, located.mpr plain⟩⟩, ?_⟩
  intro _
  constructor
  · rintro arguments before fresh rfl rfl succeeded
    exact install_listedOnce reads fresh accepted succeeded
  · rintro arguments before place rest file fresh chosen saved rfl rfl succeeded
    exact rollback_listedOnce reads fresh chosen saved accepted succeeded

/-- Archives whose content is the version that their manifest gives. -/
def sampleZip : ZipReader where
  infolist _ := .ok [⟨"META-INF/manifest.mf", 0, 64⟩]
  readText content _ := .ok ("Bundle-SymbolicName: pdr.plugin.sample\nBundle-Version: " ++
    String.ofList (content.map fun byte => Char.ofNat byte.toNat))

def sampleArchiveChecks : PluginChecks where
  readBundle := readBundle sampleZip fun _ => "digest"
  sha256 _ := "digest"
  loadRuntimeContract := .ok ⟨"1.0.0", "1", "1", "abi"⟩
  verifyPluginProvenance _ := .ok ()
  versionMatches _ _ := .ok true

/-- The manifest of a plugin of a given version. -/
def sampleHeaders (version : String) : List (String × String) :=
  [("Bundle-SymbolicName", "pdr.plugin.sample"), ("Bundle-Version", version)]

/-- Version `1.0`, and version `1.0-a/b`. -/
def plainVersion : List UInt8 := [49, 46, 48]

def slashedVersion : List UInt8 := plainVersion ++ [45, 97, 47, 98]

def sampleBundles : PosixPath := ⟨true, ["opt", "bundles"]⟩

def sampleBackups : PosixPath := ⟨true, ["opt", "plugin-backups"]⟩

theorem plainVersion_accepted : inspectBundle sampleArchiveChecks "a.bndl" plainVersion true =
    .ok (bundleInfo "a.bndl" "digest" (sampleHeaders "1.0")) := by
  rfl

theorem slashedVersion_accepted : inspectBundle sampleArchiveChecks "a.bndl" slashedVersion true =
    .ok (bundleInfo "a.bndl" "digest" (sampleHeaders "1.0-a/b")) := by
  rfl

theorem plain_version_inside :
    IsBundleFile sampleBundles ((publishedPath (bundleInfo "a.bndl" "digest"
        (sampleHeaders "1.0"))).locate sampleBundles sampleBackups) ∧
      IsBundleFile sampleBundles ((restoredPath (bundleInfo "a.bndl" "digest"
        (sampleHeaders "1.0"))).locate sampleBundles sampleBackups) :=
  (plugin_files_inside_iff sampleZip sampleArchiveChecks rfl sampleBundles sampleBackups "a.bndl"
    plainVersion _ plainVersion_accepted).1.mpr (by decide)

/-- The suffix of a version may lead out of the bundle directory. -/
theorem slashed_version_outside :
    ¬∀ (zip : ZipReader) (checks : PluginChecks), ReadsArchives checks zip →
      ∀ (bundles backups : PosixPath) (fileName : String) (content : List UInt8)
        (info : BundleInfo), inspectBundle checks fileName content true = .ok info →
        IsBundleFile bundles ((publishedPath info).locate bundles backups) := by
  intro always
  have reads : ReadsArchives sampleArchiveChecks sampleZip := rfl
  have inside := always sampleZip sampleArchiveChecks reads sampleBundles sampleBackups "a.bndl"
    slashedVersion _ slashedVersion_accepted
  exact (located_iff reads sampleBundles sampleBackups slashedVersion_accepted).mp inside
    (by decide)

end PocoDDS.Tools
