import PocoDDS.Tools.IsolatedScaffold

/-! What a scaffolding that returns has put into the bundle directory of an isolated plugin. -/

namespace PocoDDS.Tools

open AssocList CrashLogic JsonModel OutcomeLogic PosixPaths ProcessLogic Process

/-- A file of the bundle directory that an inspection reports under a symbolic name. -/
def FoundUnder (host : ScaffoldHost) (plan : ScaffoldPlan) (disk : ScaffoldDisk)
    (symbolic name : String) (info : BundleInfo) : Prop :=
  ∃ content, disk.processes.fileAt (plan.bundles ++ [name]) = some content ∧
    readBundle host.zip host.sha256 name content false = .ok info ∧ info.symbolicName = symbolic

/-- One file for the plugin, with the approved digest, and one for each dependency. -/
structure ScaffoldedFaithfully (host : ScaffoldHost) (plan : ScaffoldPlan) (disk : ScaffoldDisk) :
    Prop where
  plugin : ∃! name, ∃ info, FoundUnder host plan disk plan.pluginId name info
  approved : ∀ name info, FoundUnder host plan disk plan.pluginId name info →
    info.sha256 = plan.artifactSha256
  dependencies : ∀ symbolic ∈ keys plan.dependencies,
    ∃! name, ∃ info, FoundUnder host plan disk symbolic name info

/-- The name of a path in the bundle directory. -/
def ScaffoldPlan.bundleName (plan : ScaffoldPlan) (path : PosixPath) : Option String :=
  match path.relativeTo plan.processesRoot with
  | some parts => parts.getLast?.filter fun name => parts = plan.bundles ++ [name]
  | none => none

/-- The name of the second report, if it is written to the bundle directory. -/
def reportName (host : ScaffoldHost) (arguments : ScaffoldArguments) (plan : ScaffoldPlan) :
    Option String :=
  arguments.report.bind fun path => plan.bundleName (host.resolve path)

/-- What is written to the bundle directory after the artifact, by file names: the dependencies, and
a report that goes there. -/
def writtenLater (host : ScaffoldHost) (arguments : ScaffoldArguments) (plan : ScaffoldPlan) :
    List (String × Option BundleSource) :=
  plan.dependencies.map (fun entry => (entry.2.fileName, some entry.2)) ++
    ((reportName host arguments plan).map (·, none)).toList

def Lasts (host : ScaffoldHost) (arguments : ScaffoldArguments) (plan : ScaffoldPlan)
    (source : BundleSource) : Prop :=
  lastValue (writtenLater host arguments plan) source.fileName = some (some source)

/-- No copy that is needed is overwritten, and none is kept beside the one that counts. -/
structure CopiesApart (host : ScaffoldHost) (arguments : ScaffoldArguments) (plan : ScaffoldPlan) :
    Prop where
  others : ∀ symbolic source, plan.dependencies.lookup symbolic = some source →
    symbolic ≠ plan.pluginId → Lasts host arguments plan source
  overwritten : plan.artifact.fileName ∈ keys (writtenLater host arguments plan) →
    ∃ source, plan.dependencies.lookup plan.pluginId = some source ∧
      Lasts host arguments plan source ∧ source.info.sha256 = plan.artifactSha256
  kept : plan.artifact.fileName ∉ keys (writtenLater host arguments plan) →
    ∀ source, plan.dependencies.lookup plan.pluginId = some source →
      ¬Lasts host arguments plan source

/-- A report in JSON is no archive. -/
structure ScaffoldHost.Documented (host : ScaffoldHost) : Prop where
  noArchive : ∀ report, ∃ message, host.zip.infolist (host.dumps report) = .error message

section Copies

variable {host : ScaffoldHost} {arguments : ScaffoldArguments} {plan : ScaffoldPlan}
  {report : ScaffoldReport} {state : ScaffoldState} {path : List String} {content : List UInt8}
  {copies : List (String × Option BundleSource)}

/-- The content of what is written to the bundle directory. -/
def writtenContent (host : ScaffoldHost) (report : ScaffoldReport) :
    Option BundleSource → List UInt8
  | some source => source.content
  | none => host.dumps report

def Shows (host : ScaffoldHost) (plan : ScaffoldPlan) (report : ScaffoldReport)
    (copies : List (String × Option BundleSource)) (state : ScaffoldState) : Prop :=
  ∀ name, state.1.processes.fileAt (plan.bundles ++ [name]) =
    (lastValue copies name).map (writtenContent host report)

/-- As long as no report has been written there, it does not matter which one it will be. -/
theorem Shows.any (holds : Shows host plan report copies state)
    (copied : ∀ entry ∈ copies, ∃ source, entry.2 = some source) (other : ScaffoldReport) :
    Shows host plan other copies state := by
  -- Copies of bundles have their own content; only a report would differ.
  intro name
  rw [holds name]
  cases found : lastValue copies name with
  | none => rfl
  | some value =>
    obtain ⟨source, same⟩ := copied _ (mem_of_lastValue found)
    dsimp only at same
    rw [same]
    rfl

/-- A path that is not in the bundle directory itself. -/
def NotInBundles (plan : ScaffoldPlan) (path : List String) : Prop :=
  ∀ name, path ≠ plan.bundles ++ [name]

theorem notInBundles_child (name : String) : NotInBundles plan (plan.parts ++ [name]) := by
  intro other same
  have lengths := congrArg List.length same
  simp [ScaffoldPlan.bundles] at lengths

theorem Shows.makePath : (durable (makePath path) : Process ScaffoldState Unit).Steady
      (Shows host plan report copies) := by
  refine Steady.durable ?_ (fun state left holds part => by cases part)
  intro state after holds done name
  simp only [Tools.makePath, Action.atomic] at done
  split at done
  · cases done
  · cases done
    rw [← holds name]
    exact Tree.fileAt_withDirectory

theorem Shows.makeMissing : (makeMissing path).Steady (Shows host plan report copies) :=
  (Steady.get _).andThen fun _ => Steady.whenever _ Shows.makePath

/-- A file elsewhere leaves the bundle directory alone. -/
theorem Shows.withFile (holds : Shows host plan report copies state)
    (outside : NotInBundles plan path) : Shows host plan report copies
      ({ state.1 with processes := state.1.processes.withFile path content }, state.2) := by
  intro name
  rw [← holds name, Tree.fileAt_withFile, if_neg (fun same => outside name same.symm)]

theorem Shows.writePath (outside : NotInBundles plan path) :
    (durable (writePath path content) : Process ScaffoldState Unit).Steady
      (Shows host plan report copies) := by
  refine Steady.durable ?_ ?_
  · intro state after holds done
    simp only [Tools.writePath] at done
    split at done
    · cases done
    · cases done
      exact holds.withFile outside
  · intro state left holds part
    simp only [Tools.writePath] at part
    split at part
    · cases part
    · obtain ⟨size, -, rfl⟩ := List.mem_map.mp part
      exact holds.withFile outside

theorem Shows.written (holds : Shows host plan report copies state) (name : String)
    (value : Option BundleSource) : Shows host plan report (copies ++ [(name, value)])
      ({ state.1 with
          processes := (state.1.processes.withFile (plan.bundles ++ [name])
            (writtenContent host report value)) }, state.2) := by
  -- The new file hides an older one of its name, and no other.
  intro other
  rw [Tree.fileAt_withFile, lastValue_concat]
  by_cases same : other = name
  · rw [same, if_pos rfl, if_pos rfl]
    rfl
  · have apart : plan.bundles ++ [other] ≠ plan.bundles ++ [name] := by
      simpa using same
    rw [if_neg apart, if_neg same]
    exact holds other

theorem Shows.copied (holds : Shows host plan report copies state) (source : BundleSource) :
    (durable (Tools.writePath (plan.bundles ++ [source.fileName]) source.content)).gives
      (fun _ after => Shows host plan report (copies ++ [(source.fileName, some source)]) after)
      state := by
  refine gives_durable fun after done => ?_
  simp only [Tools.writePath] at done
  split at done
  · cases done
  · cases done
    exact holds.written source.fileName (some source)

theorem Shows.copiedAll {dependencies : List (String × BundleSource)}
    (holds : Shows host plan report copies state) :
    (forEach dependencies fun (_, source) =>
      durable (Tools.writePath (plan.bundles ++ [source.fileName]) source.content)).gives
      (fun _ after => Shows host plan report (copies ++
        dependencies.map fun entry => (entry.2.fileName, some entry.2)) after) state := by
  induction dependencies generalizing copies state with
  | nil => exact gives_ret (by simpa using holds)
  | cons entry rest ih =>
    rw [forEach]
    -- The induction keeps what has been copied before as the front of the list.
    refine gives_andThen (holds.copied entry.2) fun _ after copied => ?_
    refine gives_mono ?_ (ih copied)
    intro _ last shown
    rw [List.append_assoc] at shown
    exact shown

theorem Shows.createBundles (holds : Shows host plan report [] state) :
    (createBundles plan).gives (fun _ after => Shows host plan report
      ((plan.artifact.fileName, some plan.artifact) ::
        plan.dependencies.map fun entry => (entry.2.fileName, some entry.2)) after) state := by
  refine gives_andThen (Shows.makePath.gives holds) fun _ after holds => ?_
  refine gives_andThen (Shows.makePath.gives holds) fun _ after holds => ?_
  refine gives_andThen (Shows.makePath.gives holds) fun _ after holds => ?_
  exact gives_andThen (holds.copied plan.artifact) fun _ after holds => holds.copiedAll

theorem Shows.createConfigurations :
    (createConfigurations arguments plan).Steady (Shows host plan report copies) := by
  refine (Shows.writePath (notInBundles_child _)).andThen fun _ => ?_
  refine (Shows.writePath (notInBundles_child _)).andThen fun _ => Shows.makePath.andThen fun _ => ?_
  refine (Steady.ofExcept _).andThen fun _ => (Steady.ofExcept _).andThen fun _ => ?_
  exact Shows.writePath (notInBundles_child _)

theorem Shows.writeScaffoldReport {place : PosixPath} (holds : Shows host plan report copies state) :
    (writeScaffoldReport host plan place report).gives (fun _ after => Shows host plan report
      (copies ++ ((plan.bundleName place).map (·, none)).toList) after) state := by
  unfold Tools.writeScaffoldReport ScaffoldPlan.bundleName
  cases place.relativeTo plan.processesRoot with
  | none =>
    refine gives_durable fun after done => ?_
    cases done
    rw [Option.map_none, Option.toList_none, List.append_nil]
    exact holds
  | some parts =>
    have made : (forEach parts.dropLast.inits Tools.makeMissing).Steady
        (Shows host plan report copies) := Steady.forEach fun _ => Shows.makeMissing
    refine gives_andThen (made.gives holds) fun _ after holds => gives_durable fun last done => ?_
    simp only [replacePath, Action.atomic] at done
    split at done
    · cases done
    · cases done
      dsimp only
      cases found : parts.getLast?.filter fun name => parts = plan.bundles ++ [name] with
      | none =>
        have outside : NotInBundles plan parts := by
          intro name same
          rw [same] at found
          simp at found
        simpa using holds.withFile outside
      | some name =>
        obtain ⟨-, same⟩ := Option.filter_eq_some_iff.mp found
        rw [decide_eq_true_eq] at same
        rw [same]
        exact holds.written name none

theorem manifest_apart : plan.bundleName (plan.directory.child "scaffold-report.json") = none := by
  unfold ScaffoldPlan.bundleName ScaffoldPlan.directory PosixPath.child
  dsimp only
  rw [List.append_assoc, relativeTo_below]
  dsimp only
  rw [List.getLast?_concat, Option.filter_eq_none_iff]
  intro name same apart
  exact notInBundles_child _ _ (of_decide_eq_true apart)

theorem Shows.createReports (holds : ∀ report, Shows host plan report copies state) :
    (createReports host arguments plan).gives (fun _ after => ∃ report, Shows host plan report
      (copies ++ ((reportName host arguments plan).map (·, none)).toList) after) state := by
  refine gives_get_andThen (gives_ask (gives_ask ?_))
  refine gives_quiet (Steady.forEach fun _ => ask_steady _) fun _ => gives_get_andThen ?_
  generalize scaffoldReport host arguments plan state.1 = report
  refine gives_andThen (holds report).writeScaffoldReport fun _ after shown => ?_
  -- The first report is written beside the bundle directory.
  rw [manifest_apart, Option.map_none, Option.toList_none, List.append_nil] at shown
  unfold reportName
  cases arguments.report with
  | none =>
    refine gives_ret ⟨report, ?_⟩
    rw [Option.bind_none, Option.map_none, Option.toList_none, List.append_nil]
    exact shown
  | some path =>
    rw [Option.bind_some]
    refine gives_ask (gives_whenever (fun _ => ?_) fun same => ?_)
    · exact gives_mono (fun _ _ written => ⟨report, written⟩) shown.writeScaffoldReport
    · simp only [decide_eq_false_iff_not, ne_eq, Decidable.not_not] at same
      rw [same, manifest_apart, Option.map_none, Option.toList_none, List.append_nil]
      exact ⟨report, shown⟩

/-- What has been written to the bundle directory in the end. -/
theorem Shows.createInstance (checked : plan.Checked host arguments state.1) :
    (createInstance host arguments plan).gives (fun _ after => ∃ report, Shows host plan report
      ((plan.artifact.fileName, some plan.artifact) :: writtenLater host arguments plan) after)
      state := by
  have empty : Shows host plan (scaffoldReport host arguments plan state.1) [] state := by
    intro name
    cases found : state.1.processes.fileAt (plan.bundles ++ [name]) with
    | none => rfl
    | some content =>
      -- There is nothing below an instance that is not there.
      rw [Tree.fileAt_eq_some, Tree.entry] at found
      obtain ⟨pair, first, -⟩ := Option.map_eq_some_iff.mp found
      have here := List.find?_some first
      rw [decide_eq_true_eq] at here
      refine absurd ?_ (checked.free pair (List.mem_of_find?_eq_some first))
      rw [here, ScaffoldPlan.bundles, List.append_assoc]
      exact List.prefix_append _ _
  -- Directories are no files, so the bundle directory stays empty until the first copy.
  have made : (forEach plan.parts.inits Tools.makeMissing).Steady
      (Shows host plan (scaffoldReport host arguments plan state.1) []) :=
    Steady.forEach fun _ => Shows.makeMissing
  refine gives_andThen (made.gives empty) fun _ after holds => ?_
  refine gives_andThen holds.createBundles fun _ after holds => ?_
  refine gives_andThen (Shows.createConfigurations.gives holds) fun _ after holds => ?_
  -- So far there are only copies of bundles, whatever the report will be.
  have copied : ∀ entry ∈ (plan.artifact.fileName, some plan.artifact) ::
      plan.dependencies.map (fun entry => (entry.2.fileName, some entry.2)),
      ∃ source, entry.2 = some source := by
    intro entry listed
    rcases List.mem_cons.mp listed with rfl | later
    · exact ⟨_, rfl⟩
    · obtain ⟨dependency, -, rfl⟩ := List.mem_map.mp later
      exact ⟨_, rfl⟩
  have reported := @Shows.createReports host arguments plan after _ (holds.any copied)
  exact gives_andThen reported fun _ after shown => gives_set_andThen (gives_ret shown)

end Copies

section Faithful

variable {host : ScaffoldHost} {arguments : ScaffoldArguments} {plan : ScaffoldPlan}
  {report : ScaffoldReport} {disk before : ScaffoldDisk} {state : ScaffoldState}
  {source : BundleSource} {symbolic name : String} {info : BundleInfo}

theorem BundleSource.Inspected.any {requirePlugin : Bool}
    (inspected : source.Inspected host requirePlugin) :
    readBundle host.zip host.sha256 source.fileName source.content false = .ok source.info := by
  obtain ⟨suffix, manifest, acceptable, same⟩ := readBundle_eq_ok.mp inspected
  exact readBundle_eq_ok.mpr ⟨suffix, manifest, { acceptable with plugin := nofun }, same⟩

theorem BundleSource.Inspected.digest {requirePlugin : Bool}
    (inspected : source.Inspected host requirePlugin) :
    source.info.sha256 = host.sha256 source.content := by
  obtain ⟨-, manifest, -, same⟩ := readBundle_eq_ok.mp inspected
  rw [same]
  rfl

theorem ScaffoldHost.Documented.refused (documented : host.Documented) :
    readBundle host.zip host.sha256 name (host.dumps report) false ≠ .ok info := by
  intro opened
  obtain ⟨-, manifest, acceptable, -⟩ := readBundle_eq_ok.mp opened
  obtain ⟨message, failed⟩ := documented.noArchive report
  have read := acceptable.read
  unfold readManifest at read
  rw [andThen_eq_ok, failed] at read
  cases read.2

/-- What is written to the bundle directory, the artifact first. -/
def written (host : ScaffoldHost) (arguments : ScaffoldArguments) (plan : ScaffoldPlan) :
    List (String × Option BundleSource) :=
  (plan.artifact.fileName, some plan.artifact) :: writtenLater host arguments plan

theorem mem_writtenLater (checked : plan.Checked host arguments before)
    (listed : (name, some source) ∈ writtenLater host arguments plan) :
    name = source.fileName ∧ source.Inspected host false ∧
      plan.dependencies.lookup source.info.symbolicName = some source := by
  rcases List.mem_append.mp listed with copy | reported
  · obtain ⟨entry, member, same⟩ := List.mem_map.mp copy
    cases same
    obtain ⟨inspected, tagged⟩ := checked.dependencies entry member
    refine ⟨rfl, inspected, ?_⟩
    rw [lookup_eq_some_iff checked.distinct, tagged]
    exact member
  · rw [Option.mem_toList] at reported
    obtain ⟨other, -, same⟩ := Option.map_eq_some_iff.mp reported
    cases same

theorem mem_written (checked : plan.Checked host arguments before)
    (listed : (name, some source) ∈ written host arguments plan) :
    name = source.fileName ∧
      readBundle host.zip host.sha256 source.fileName source.content false = .ok source.info ∧
      (source = plan.artifact ∨
        plan.dependencies.lookup source.info.symbolicName = some source) := by
  rcases List.mem_cons.mp listed with first | later
  · cases first
    exact ⟨rfl, checked.artifact.any, .inl rfl⟩
  · obtain ⟨named, inspected, found⟩ := mem_writtenLater checked later
    exact ⟨named, inspected.any, .inr found⟩

theorem foundUnder_iff (documented : host.Documented) (checked : plan.Checked host arguments before)
    (shown : Shows host plan report (written host arguments plan) state) :
    FoundUnder host plan state.1 symbolic name info ↔
      ∃ source, lastValue (written host arguments plan) name = some (some source) ∧
        source.info = info ∧ info.symbolicName = symbolic := by
  unfold FoundUnder
  rw [shown name]
  constructor
  · rintro ⟨content, there, opened, tagged⟩
    obtain ⟨value, last, rfl⟩ := Option.map_eq_some_iff.mp there
    cases value with
    | none => exact absurd opened documented.refused
    | some source =>
      obtain ⟨named, inspected, -⟩ := mem_written checked (mem_of_lastValue last)
      have opened : readBundle host.zip host.sha256 name source.content false = .ok info := opened
      rw [named, inspected, Except.ok.injEq] at opened
      exact ⟨source, last, opened, tagged⟩
  · rintro ⟨source, last, rfl, tagged⟩
    obtain ⟨named, inspected, -⟩ := mem_written checked (mem_of_lastValue last)
    refine ⟨source.content, ?_, ?_, tagged⟩
    · rw [last]
      rfl
    · rw [named]
      exact inspected

theorem lastValue_written : lastValue (written host arguments plan) name =
    (lastValue (writtenLater host arguments plan) name).or
      (if name = plan.artifact.fileName then some (some plan.artifact) else none) :=
  lastValue_cons _ _ _ _

theorem lastValue_written_iff (checked : plan.Checked host arguments before) :
    lastValue (written host arguments plan) name = some (some source) ↔ (name = source.fileName ∧
        plan.dependencies.lookup source.info.symbolicName = some source ∧
        Lasts host arguments plan source) ∨
      (name = plan.artifact.fileName ∧
        plan.artifact.fileName ∉ keys (writtenLater host arguments plan) ∧
        source = plan.artifact) := by
  rw [lastValue_written]
  constructor
  · intro last
    cases later : lastValue (writtenLater host arguments plan) name with
    | some value =>
      rw [later, Option.some_or, Option.some.injEq] at last
      rw [last] at later
      obtain ⟨rfl, -, found⟩ := mem_writtenLater checked (mem_of_lastValue later)
      exact .inl ⟨rfl, found, later⟩
    | none =>
      rw [later, Option.none_or] at last
      split at last
      · next same =>
        rw [Option.some.injEq, Option.some.injEq] at last
        rw [same] at later
        exact .inr ⟨same, lastValue_eq_none_iff.mp later, last.symm⟩
      · cases last
  · rintro (⟨rfl, -, lasts⟩ | ⟨rfl, alone, rfl⟩)
    · rw [lasts, Option.some_or]
    · rw [lastValue_eq_none_iff.mpr alone, Option.none_or, if_pos rfl]

variable (documented : host.Documented) (checked : plan.Checked host arguments before)
  (shown : Shows host plan report (written host arguments plan) state)
include documented checked shown

theorem found_dependency (found : plan.dependencies.lookup symbolic = some source)
    (differs : symbolic ≠ plan.pluginId) :
    (∃ info, FoundUnder host plan state.1 symbolic name info) ↔
      name = source.fileName ∧ Lasts host arguments plan source := by
  simp only [foundUnder_iff documented checked shown, lastValue_written_iff checked]
  constructor
  · rintro ⟨info, other, ⟨named, listed, lasts⟩ | ⟨-, -, rfl⟩, rfl, rfl⟩
    · rw [found, Option.some.injEq] at listed
      rw [listed]
      exact ⟨named, lasts⟩
    · exact absurd rfl differs
  · rintro ⟨named, lasts⟩
    have tagged : source.info.symbolicName = symbolic :=
      (checked.dependencies _ ((lookup_eq_some_iff checked.distinct).mp found)).2
    refine ⟨source.info, source, .inl ⟨named, ?_, lasts⟩, rfl, tagged⟩
    rw [tagged]
    exact found

theorem found_plugin :
    FoundUnder host plan state.1 plan.pluginId name info ↔
      (∃ source, plan.dependencies.lookup plan.pluginId = some source ∧
        Lasts host arguments plan source ∧ name = source.fileName ∧ source.info = info) ∨
      (plan.artifact.fileName ∉ keys (writtenLater host arguments plan) ∧
        name = plan.artifact.fileName ∧ plan.artifact.info = info) := by
  simp only [foundUnder_iff documented checked shown, lastValue_written_iff checked]
  constructor
  · rintro ⟨source, ⟨named, listed, lasts⟩ | ⟨named, alone, rfl⟩, rfl, tagged⟩
    · rw [tagged] at listed
      exact .inl ⟨source, listed, lasts, named, rfl⟩
    · exact .inr ⟨alone, named, rfl⟩
  · rintro (⟨source, found, lasts, named, rfl⟩ | ⟨alone, named, rfl⟩)
    · have tagged : source.info.symbolicName = plan.pluginId :=
        (checked.dependencies _ ((lookup_eq_some_iff checked.distinct).mp found)).2
      refine ⟨source, .inl ⟨named, ?_, lasts⟩, rfl, tagged⟩
      rw [tagged]
      exact found
    · exact ⟨plan.artifact, .inr ⟨named, alone, rfl⟩, rfl, rfl⟩

omit documented checked shown

theorem fileName_mem_later (lasts : Lasts host arguments plan source) :
    source.fileName ∈ keys (writtenLater host arguments plan) :=
  List.mem_map.mpr ⟨_, mem_of_lastValue lasts, rfl⟩

variable (documented : host.Documented) (checked : plan.Checked host arguments before)
  (shown : Shows host plan report (written host arguments plan) state)
include documented checked shown

theorem plugin_once (apart : CopiesApart host arguments plan) :
    (∃! name, ∃ info, FoundUnder host plan state.1 plan.pluginId name info) ∧
      ∀ name info, FoundUnder host plan state.1 plan.pluginId name info →
        info.sha256 = plan.artifactSha256 := by
  simp only [found_plugin documented checked shown]
  by_cases later : plan.artifact.fileName ∈ keys (writtenLater host arguments plan)
  · -- The artifact has been overwritten, and the dependency of its name stands for it.
    obtain ⟨source, found, lasts, digest⟩ := apart.overwritten later
    constructor
    · refine ⟨source.fileName, ⟨_, .inl ⟨source, found, lasts, rfl, rfl⟩⟩, ?_⟩
      rintro other ⟨info, ⟨source', found', -, named, -⟩ | ⟨alone, -⟩⟩
      · rw [found, Option.some.injEq] at found'
        rw [named, found']
      · exact absurd later alone
    · rintro name info (⟨source', found', -, -, rfl⟩ | ⟨alone, -⟩)
      · rw [found, Option.some.injEq] at found'
        rw [← found']
        exact digest
      · exact absurd later alone
  · constructor
    · refine ⟨plan.artifact.fileName, ⟨_, .inr ⟨later, rfl, rfl⟩⟩, ?_⟩
      rintro other ⟨info, ⟨source, found, lasts, -⟩ | ⟨-, named, -⟩⟩
      · exact absurd lasts (apart.kept later source found)
      · exact named
    · rintro name info (⟨source, found, lasts, -⟩ | ⟨-, -, rfl⟩)
      · exact absurd lasts (apart.kept later source found)
      · rw [checked.artifact.digest, checked.digest]

/-- The bundles are complete and single exactly if the copies do not get in each other's way. -/
theorem scaffoldedFaithfully_iff :
    ScaffoldedFaithfully host plan state.1 ↔ CopiesApart host arguments plan := by
  constructor
  · rintro ⟨once, approved, dependencies⟩
    obtain ⟨name, ⟨info, here⟩, single⟩ := once
    have digest := approved name info here
    rw [found_plugin documented checked shown] at here
    refine ⟨fun symbolic source found differs => ?_, fun later => ?_, fun alone source found lasts => ?_⟩
    · have listed : symbolic ∈ keys plan.dependencies :=
        lookup_isSome_iff.mp (by rw [found]; rfl)
      obtain ⟨other, there, -⟩ := dependencies symbolic listed
      exact ((found_dependency documented checked shown found differs).mp there).2
    · rcases here with ⟨source, found, lasts, -, same⟩ | ⟨alone, -⟩
      · exact ⟨source, found, lasts, same ▸ digest⟩
      · exact absurd later alone
    · -- The artifact and the dependency would both be there.
      have first := single plan.artifact.fileName ⟨_, (found_plugin documented checked shown).mpr
        (.inr ⟨alone, rfl, rfl⟩)⟩
      have second := single source.fileName ⟨_, (found_plugin documented checked shown).mpr
        (.inl ⟨source, found, lasts, rfl, rfl⟩)⟩
      rw [first, ← second] at alone
      exact alone (fileName_mem_later lasts)
  · intro apart
    obtain ⟨plugin, approved⟩ := plugin_once documented checked shown apart
    refine ⟨plugin, approved, fun symbolic listed => ?_⟩
    by_cases same : symbolic = plan.pluginId
    · rw [same]
      exact plugin
    · obtain ⟨source, found⟩ := Option.isSome_iff_exists.mp (lookup_isSome_iff.mpr listed)
      refine ⟨source.fileName, ?_, fun other there => ?_⟩
      · exact (found_dependency documented checked shown found same).mpr
          ⟨rfl, apart.others symbolic source found same⟩
      · exact ((found_dependency documented checked shown found same).mp there).1

end Faithful

section Results

variable {host : ScaffoldHost} {arguments : ScaffoldArguments}

theorem scaffold_complete_iff (documented : host.Documented) (disk : ScaffoldDisk)
    (due : Option Nat) :
    (scaffoldIsolatedPlugin host arguments).struck due (fun outcome _ after =>
      ∀ value plan, outcome = .ok value →
        ((scaffoldChecks host arguments).start (disk, []) []).1 = .ok plan →
        (ScaffoldedFaithfully host plan after.1 ↔ CopiesApart host arguments plan)) 0
      (disk, []) := by
  unfold scaffoldIsolatedPlugin
  rw [struck_andThen]
  refine struck_mono ?_ (scaffoldChecks_struck host arguments disk due)
  rintro outcome taken after ⟨rfl, checks⟩
  cases outcome with
  | error message => exact fun _ _ same => by cases same
  | ok plan =>
    obtain ⟨checked, passed, -, -⟩ := checks
    have steady : (createInstance host arguments plan).Steady (HasDirectory []) :=
      (Steady.forEach fun _ => HasDirectory.makeMissing).andThen fun _ => HasDirectory.fillInstance
    have straight := steady.straight
    refine struck_mono ?_ (straight.struck_gives (Shows.createInstance checked))
    intro outcome last after shown value plan' returned passed'
    rw [passed, Except.ok.injEq] at passed'
    subst passed'
    obtain ⟨report, shows⟩ := shown value returned
    exact scaffoldedFaithfully_iff documented checked shows

/-- When the scaffolding returns 0, the bundles are complete and single exactly if the copies do not
get in each other's way. When it raises, by a check or by any file operation, the processes directory
is as before exactly if it has not begun to create the instance. -/
theorem scaffold_faithful_iff (documented : host.Documented) (before : ScaffoldDisk)
    (due : Option Nat) (fault : Fault) :
    let ended := (scaffoldIsolatedPlugin host arguments).start (before, []) (faultAt due fault)
    (∀ plan, ((scaffoldChecks host arguments).start (before, []) []).1 = .ok plan →
      ended.1 = .ok 0 →
      (ScaffoldedFaithfully host plan ended.2.state.1 ↔ CopiesApart host arguments plan)) ∧
    ∀ message, ended.1 = .error message →
      (ended.2.state.1.processes = before.processes ↔ EndsEarly host arguments before due) := by
  intro ended
  obtain ⟨-, complete⟩ := start_of_struck fault
    (@scaffold_complete_iff host arguments documented before due)
  obtain ⟨-, unchanged⟩ := start_of_struck fault (scaffold_unchanged_iff host arguments before due)
  exact ⟨fun plan passed returned => complete 0 plan returned passed, unchanged⟩

/-- An archive of one byte, which says whether it is the plugin or the core bundle. -/
def scaffoldZip : ZipReader where
  infolist
    | [] => .error "File is not a zip file"
    | _ => .ok [⟨"META-INF/manifest.mf", 0, 64⟩]
  readText content _ := .ok ("Bundle-SymbolicName: " ++
    (if content = [1] then "pdr.plugin.demo" else "osp.core") ++ "\nBundle-Version: 1.0")

def scaffoldHeaders (symbolic : String) : List (String × String) :=
  [("Bundle-SymbolicName", symbolic), ("Bundle-Version", "1.0")]

def demoSource : BundleSource :=
  ⟨⟨true, ["in", "demo.bndl"]⟩, [1], bundleInfo "demo.bndl" "digest"
    (scaffoldHeaders "pdr.plugin.demo")⟩

def coreSource (folder fileName : String) : BundleSource :=
  ⟨⟨true, [folder, fileName]⟩, [2], bundleInfo fileName "digest" (scaffoldHeaders "osp.core")⟩

def demoApproval : Json :=
  .obj [("operation", .str "plugin-preflight"), ("passed", .bool true),
    ("artifact", .obj [("sha256", .str "digest"), ("symbolicName", .str "pdr.plugin.demo")]),
    ("provenance", .obj [("verified", .bool true)])]

def scaffoldRoot : PosixPath := ⟨true, ["rt"]⟩

def scaffoldHost : ScaffoldHost where
  zip := scaffoldZip
  sha256 _ := "digest"
  loads _ := .ok demoApproval
  dumps _ := []
  resolve path := path
  isDirectory path := path = scaffoldRoot
  file path := [(demoSource.path, [1]), ((coreSource "in" "core.bndl").path, [2]),
    ((coreSource "other" "demo.bndl").path, [2]), (⟨true, ["approval"]⟩, [3]),
    (scaffoldRoot.child "launcher", [4]), (⟨true, ["launcher"]⟩, [4]),
    (scaffoldRoot.child "host", [5])].lookup path

def scaffoldSample (core : BundleSource) (launcher : PosixPath) : ScaffoldArguments where
  artifact := demoSource.path
  runtimeRoot := scaffoldRoot
  instanceName := "one"
  dependencyBundles := [core.path]
  approvalReport := ⟨true, ["approval"]⟩
  launcherPath := launcher
  hostPath := ⟨false, ["host"]⟩

/-- The plan that the checks pass. -/
def scaffoldPlan (core : BundleSource) (launcher : PosixPath) : ScaffoldPlan where
  artifact := demoSource
  artifactSha256 := "digest"
  publisherVerified := true
  diagnosticBypass := false
  runtimeRoot := scaffoldRoot
  processesRoot := scaffoldRoot.child "processes"
  parts := ["one"]
  launcher := launcher
  host := scaffoldRoot.child "host"
  dependencies := [("osp.core", core)]

def launcherInside : PosixPath := ⟨false, ["launcher"]⟩

theorem scaffoldHost_documented : scaffoldHost.Documented where
  noArchive _ := ⟨_, rfl⟩

/-- A runtime without processes. -/
def freshProcesses : ScaffoldDisk := ⟨⟨[]⟩, []⟩

def insideSample : ScaffoldArguments :=
  scaffoldSample (coreSource "in" "core.bndl") launcherInside

/-- A launcher that is not below the runtime root. -/
def outsideSample : ScaffoldArguments :=
  scaffoldSample (coreSource "in" "core.bndl") ⟨true, ["launcher"]⟩

/-- A dependency with the file name of the plugin. -/
def sharedNameSample : ScaffoldArguments :=
  scaffoldSample (coreSource "other" "demo.bndl") launcherInside

theorem demo_scaffolded :
    ScaffoldedFaithfully scaffoldHost
      (scaffoldPlan (coreSource "in" "core.bndl") (scaffoldRoot.child "launcher"))
      ((scaffoldIsolatedPlugin scaffoldHost insideSample).start (freshProcesses, [])
        []).2.state.1 ∧
    ((scaffoldIsolatedPlugin scaffoldHost outsideSample).start (freshProcesses, [])
        []).2.state.1.processes ≠ freshProcesses.processes := by
  constructor
  · refine ((scaffold_faithful_iff scaffoldHost_documented freshProcesses none ⟨"", 0⟩).1 _
      (by rfl) (by rfl)).mpr ⟨?_, ?_, ?_⟩
    · rintro symbolic source found -
      rw [scaffoldPlan, List.lookup_cons] at found
      split at found
      · rw [← Option.some.inj found]
        rfl
      · cases found
    · exact fun later => absurd later (by decide)
    · intro _ source found
      cases found
  · intro same
    have early := ((scaffold_faithful_iff scaffoldHost_documented freshProcesses none ⟨"", 0⟩).2 _
      (by rfl)).mp same
    rcases early with ⟨message, refused⟩ | ⟨step, here, -⟩ | ⟨path, content, first, there⟩
    · cases refused
    · cases here
    · cases there

/-- A dependency may overwrite the plugin, and a launcher outside of the runtime root is only
noticed when the instance is there. -/
theorem shared_name_loses_plugin :
    (¬∀ (host : ScaffoldHost) (arguments : ScaffoldArguments) (before : ScaffoldDisk)
      (plan : ScaffoldPlan), host.Documented →
      ((scaffoldChecks host arguments).start (before, []) []).1 = .ok plan →
      ((scaffoldIsolatedPlugin host arguments).start (before, []) []).1 = .ok 0 →
      ScaffoldedFaithfully host plan
        ((scaffoldIsolatedPlugin host arguments).start (before, []) []).2.state.1) ∧
    ¬∀ (host : ScaffoldHost) (arguments : ScaffoldArguments) (before : ScaffoldDisk)
      (message : String), host.Documented →
      ((scaffoldIsolatedPlugin host arguments).start (before, []) []).1 = .error message →
      ((scaffoldIsolatedPlugin host arguments).start (before, []) []).2.state.1.processes =
        before.processes := by
  constructor
  · intro always
    have passed : ((scaffoldChecks scaffoldHost sharedNameSample).start (freshProcesses, [])
        []).1 = .ok (scaffoldPlan (coreSource "other" "demo.bndl")
          (scaffoldRoot.child "launcher")) := by rfl
    have complete := always scaffoldHost sharedNameSample freshProcesses _ scaffoldHost_documented
      passed (by rfl)
    obtain ⟨-, iff⟩ := start_of_struck ⟨"", 0⟩ (@scaffold_complete_iff scaffoldHost
      sharedNameSample scaffoldHost_documented freshProcesses none)
    obtain ⟨source, found, -⟩ := ((iff 0 _ (by rfl) passed).mp complete).overwritten (by decide)
    cases found
  · intro always
    have same := always scaffoldHost outsideSample freshProcesses _ scaffoldHost_documented
      (by rfl)
    exact absurd (congrArg (fun tree => tree.entries.length) same) (by decide)

end Results

end PocoDDS.Tools
