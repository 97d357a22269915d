import PocoDDS.Tools.IsolatedPlugin

/-! What a failed scaffolding leaves of an isolated plugin. -/

namespace PocoDDS.Tools

open AssocList CrashLogic JsonModel OutcomeLogic PosixPaths ProcessLogic Process

/-- The instance directory, below the processes directory. -/
def instanceParts (host : ScaffoldHost) (arguments : ScaffoldArguments) : List String :=
  let processes := (host.resolve arguments.runtimeRoot).child "processes"
  ((host.resolve (processes.child arguments.instanceName)).relativeTo
    (host.resolve processes)).getD []

def firstMissing (disk : ScaffoldDisk) (paths : List (List String)) : Option (List String) :=
  paths.find? fun path => disk.processes.entry path ≠ some .directory

/-- A file stands where the first directory would be made. -/
def Obstructed (disk : ScaffoldDisk) (paths : List (List String)) : Prop :=
  ∃ path content, firstMissing disk paths = some path ∧
    disk.processes.entry path = some (.file content)

/-- The scaffolding ends before it has created anything: the checks refuse it, one of their file
operations or the first one after them is made to fail, or a file is in the way. -/
def EndsEarly (host : ScaffoldHost) (arguments : ScaffoldArguments) (disk : ScaffoldDisk)
    (due : Option Nat) : Prop :=
  (∃ message, ((scaffoldChecks host arguments).start (disk, []) []).1 = .error message) ∨
    (∃ step, due = some step ∧ step ≤ (scaffoldChecks host arguments).acts (disk, [])) ∨
    Obstructed disk (instanceParts host arguments).inits

section Steps

variable {state : ScaffoldState} {good : ScaffoldState → Prop} {path : List String}
  {content : List UInt8}
variable {β : Type} {post : β → ScaffoldState → Prop} {plan : ScaffoldPlan}
  {arguments : ScaffoldArguments}

theorem ask_steady {α : Type} (answer : α) : (ask answer).Steady good := by
  refine Steady.andThen (Steady.durable ?_ ?_) fun _ => trivial
  · intro state after holds done
    cases done
    exact holds
  · intro state left holds part
    cases part

/-- A process that only asks goes on from where it was. -/
theorem gives_quiet {α : Type} {first : Process ScaffoldState α}
    {next : α → Process ScaffoldState β} (quiet : first.Steady (· = state))
    (then' : ∀ value, (next value).gives post state) :
    (first >>= next).gives post state := by
  refine gives_andThen (quiet.gives rfl) fun value after same => ?_
  rw [same]
  exact then' value

theorem gives_ask {α : Type} {answer : α} {next : α → Process ScaffoldState β}
    (then' : (next answer).gives post state) :
    (ask answer >>= next).gives post state := by
  have answered : (ask answer).gives (fun value after => value = answer ∧ after = state) state := by
    have looked : (durable (.atomic fun disk => .ok disk) : Process ScaffoldState Unit).gives
        (fun _ after => after = state) state := by
      refine gives_durable fun after done => ?_
      cases done
      rfl
    refine gives_andThen looked ?_
    rintro value after rfl
    exact gives_ret ⟨rfl, rfl⟩
  refine gives_andThen answered ?_
  rintro value after ⟨rfl, rfl⟩
  exact then'

/-- What follows a check may rely on it. -/
theorem gives_unless {condition : Bool} {message : String} {next : Unit → Process ScaffoldState β}
    (then' : condition = false → (next ()).gives post state) :
    (reject condition message >>= next).gives post state := by
  have checked : (reject condition message : Process ScaffoldState Unit).gives
      (fun _ after => condition = false ∧ after = state) state :=
    gives_reject fun unmet => ⟨unmet, rfl⟩
  refine gives_andThen checked ?_
  rintro value after ⟨unmet, rfl⟩
  exact then' unmet

def HasDirectory (path : List String) (state : ScaffoldState) : Prop :=
  state.1.processes.entry path = some .directory

theorem HasDirectory.makePath {other : List String} :
    (durable (makePath other) : Process ScaffoldState Unit).Steady (HasDirectory path) := by
  refine Steady.durable ?_ (fun state left holds part => by cases part)
  intro state after holds done
  simp only [Tools.makePath, Action.atomic] at done
  split at done
  · cases done
  · cases done
    exact Tree.entry_withDirectory holds

theorem HasDirectory.withFile {other : List String} (holds : HasDirectory path state)
    (free : state.1.processes.entry other ≠ some .directory) :
    (state.1.processes.withFile other content).entry path = some .directory := by
  have differs : path ≠ other := fun same => free (same ▸ holds)
  rw [Tree.entry_withFile differs]
  exact holds

theorem HasDirectory.writePath {other : List String} :
    (durable (writePath other content) : Process ScaffoldState Unit).Steady
      (HasDirectory path) := by
  refine Steady.durable ?_ ?_
  · intro state after holds done
    simp only [Tools.writePath] at done
    split at done
    · cases done
    · next free =>
      cases done
      exact holds.withFile free
  · intro state left holds part
    simp only [Tools.writePath] at part
    split at part
    · cases part
    · next free =>
      obtain ⟨size, -, rfl⟩ := List.mem_map.mp part
      exact holds.withFile free

theorem HasDirectory.replacePath {other : List String} :
    (durable (replacePath other content) : Process ScaffoldState Unit).Steady
      (HasDirectory path) := by
  refine Steady.durable ?_ (fun state left holds part => by cases part)
  intro state after holds done
  simp only [Tools.replacePath, Action.atomic] at done
  split at done
  · cases done
  · next free =>
    cases done
    exact holds.withFile free

theorem HasDirectory.makeMissing {other : List String} :
    (makeMissing other).Steady (HasDirectory path) :=
  (Steady.get _).andThen fun _ => Steady.whenever _ HasDirectory.makePath

theorem HasDirectory.writeScaffoldReport {host : ScaffoldHost} {place : PosixPath}
    {report : ScaffoldReport} :
    (writeScaffoldReport host plan place report).Steady (HasDirectory path) := by
  unfold Tools.writeScaffoldReport
  split
  · exact (Steady.forEach fun _ => HasDirectory.makeMissing).andThen fun _ =>
      HasDirectory.replacePath
  · refine Steady.durable ?_ (fun state left holds part => by cases part)
    intro state after holds done
    cases done
    exact holds

theorem HasDirectory.createBundles : (createBundles plan).Steady (HasDirectory path) := by
  -- Three directories, then the copies.
  refine HasDirectory.makePath.andThen fun _ => HasDirectory.makePath.andThen fun _ => ?_
  refine HasDirectory.makePath.andThen fun _ => HasDirectory.writePath.andThen fun _ => ?_
  exact Steady.forEach fun _ => HasDirectory.writePath

theorem HasDirectory.createConfigurations :
    (createConfigurations arguments plan).Steady (HasDirectory path) := by
  -- Two configurations, a directory, two paths relative to the root, and the third one.
  refine HasDirectory.writePath.andThen fun _ => HasDirectory.writePath.andThen fun _ => ?_
  refine HasDirectory.makePath.andThen fun _ => (Steady.ofExcept _).andThen fun _ => ?_
  exact (Steady.ofExcept _).andThen fun _ => HasDirectory.writePath

theorem HasDirectory.createReports {host : ScaffoldHost} {arguments : ScaffoldArguments}
    {plan : ScaffoldPlan} : (createReports host arguments plan).Steady (HasDirectory path) := by
  refine (Steady.get _).andThen fun _ => (ask_steady _).andThen fun _ => ?_
  refine (ask_steady _).andThen fun _ => (Steady.forEach fun _ => ask_steady _).andThen fun _ => ?_
  refine (Steady.get _).andThen fun report => HasDirectory.writeScaffoldReport.andThen fun _ => ?_
  cases arguments.report with
  | none => trivial
  | some place =>
    exact (ask_steady _).andThen fun _ => Steady.whenever _ HasDirectory.writeScaffoldReport

theorem HasDirectory.fillInstance {host : ScaffoldHost} :
    (fillInstance host arguments plan).Steady (HasDirectory path) := by
  refine HasDirectory.createBundles.andThen fun _ => ?_
  refine HasDirectory.createConfigurations.andThen fun _ => ?_
  refine HasDirectory.createReports.andThen fun _ => ?_
  exact (Steady.set fun _ holds => holds).andThen fun _ => trivial

end Steps

section Checked

variable {host : ScaffoldHost} {arguments : ScaffoldArguments} {state : ScaffoldState}
  {good : ScaffoldState → Prop}

def BundleSource.Inspected (host : ScaffoldHost) (source : BundleSource) (requirePlugin : Bool) :
    Prop :=
  readBundle host.zip host.sha256 source.fileName source.content requirePlugin = .ok source.info

/-- What the checks have found out when they let a plan pass. -/
structure ScaffoldPlan.Checked (host : ScaffoldHost) (arguments : ScaffoldArguments)
    (disk : ScaffoldDisk) (plan : ScaffoldPlan) : Prop where
  artifact : plan.artifact.Inspected host true
  digest : plan.artifactSha256 = host.sha256 plan.artifact.content
  dependencies : ∀ entry ∈ plan.dependencies,
    entry.2.Inspected host false ∧ entry.2.info.symbolicName = entry.1
  distinct : (keys plan.dependencies).Nodup
  parts : plan.parts = instanceParts host arguments
  free : ∀ entry ∈ disk.processes.entries, ¬plan.parts <+: entry.1

theorem inspectSource_steady {path : PosixPath} {requirePlugin : Bool} :
    (inspectSource host path requirePlugin).Steady good := by
  refine (ask_steady _).andThen fun content => ?_
  cases content with
  | none => trivial
  | some content => exact (Steady.ofExcept _).andThen fun _ => trivial

theorem inspectDependencies_steady {paths : List PosixPath} {found : List (String × BundleSource)} :
    (inspectDependencies host paths found).Steady good := by
  induction paths generalizing found with
  | nil => trivial
  | cons path rest ih =>
    refine (ask_steady _).andThen fun _ => inspectSource_steady.andThen fun source => ?_
    exact ih

theorem checkLimits_steady : (checkLimits arguments).Steady good := by
  refine (Steady.forEach fun _ => Steady.reject _ _).andThen fun _ => ?_
  exact (Steady.reject _ _).andThen fun _ => Steady.reject _ _

theorem requireFile_steady {path : PosixPath} {label : String} :
    (requireFile host path label).Steady good :=
  (ask_steady _).andThen fun _ => Steady.reject _ _

theorem scaffoldChecks_steady : (scaffoldChecks host arguments).Steady good := by
  -- The order is that of the checks: paths, limits, artifact, approval, place, tools, dependencies.
  refine (ask_steady _).andThen fun _ => (ask_steady _).andThen fun _ => ?_
  refine (ask_steady _).andThen fun _ => (Steady.reject _ _).andThen fun _ => ?_
  refine (Steady.reject _ _).andThen fun _ => checkLimits_steady.andThen fun _ => ?_
  refine inspectSource_steady.andThen fun _ => (ask_steady _).andThen fun _ => ?_
  refine (ask_steady _).andThen fun _ => (Steady.ofExcept _).andThen fun _ => ?_
  refine (Steady.ofExcept _).andThen fun _ => (ask_steady _).andThen fun _ => ?_
  refine (Steady.ofExcept _).andThen fun _ => (Steady.ofExcept _).andThen fun _ => ?_
  refine (ask_steady _).andThen fun _ => (ask_steady _).andThen fun _ => ?_
  refine (Steady.reject _ _).andThen fun _ => (Steady.get _).andThen fun _ => ?_
  refine (ask_steady _).andThen fun _ => (Steady.reject _ _).andThen fun _ => ?_
  refine (ask_steady _).andThen fun _ => (ask_steady _).andThen fun _ => ?_
  refine requireFile_steady.andThen fun _ => requireFile_steady.andThen fun _ => ?_
  exact inspectDependencies_steady.andThen fun _ => (Steady.reject _ _).andThen fun _ => trivial

theorem inspectSource_gives {path : PosixPath} {requirePlugin : Bool} :
    (inspectSource host path requirePlugin).gives (fun source after =>
      source.Inspected host requirePlugin ∧ after = state) state := by
  refine gives_quiet (ask_steady _) fun content => ?_
  cases content with
  | none => exact gives_raise
  | some content =>
    have opened : (ofExcept (readBundle host.zip host.sha256 path.name content requirePlugin) :
        Process ScaffoldState BundleInfo).gives (fun info after =>
          readBundle host.zip host.sha256 path.name content requirePlugin = .ok info ∧
            after = state) state := gives_ofExcept fun info opened => ⟨opened, rfl⟩
    exact gives_andThen opened fun info after found => gives_ret found

theorem inspectDependencies_gives {paths : List PosixPath} {found : List (String × BundleSource)}
    (sound : ∀ entry ∈ found, entry.2.Inspected host false ∧ entry.2.info.symbolicName = entry.1)
    (distinct : (keys found).Nodup) :
    (inspectDependencies host paths found).gives (fun dependencies after =>
      ((∀ entry ∈ dependencies,
          entry.2.Inspected host false ∧ entry.2.info.symbolicName = entry.1) ∧
        (keys dependencies).Nodup) ∧ after = state) state := by
  induction paths generalizing found with
  | nil => exact gives_ret ⟨⟨sound, distinct⟩, rfl⟩
  | cons path rest ih =>
    refine gives_quiet (ask_steady _) fun path => ?_
    refine gives_andThen inspectSource_gives ?_
    rintro source after ⟨inspected, rfl⟩
    refine ih ?_ (nodup_keys_upsert distinct _ _ _)
    intro entry member
    -- The entry is an earlier one, or that of the bundle which has just been inspected.
    rcases mem_upsert member with old | rfl | ⟨value, -, rfl⟩
    · exact sound entry old
    · exact ⟨inspected, rfl⟩
    · exact ⟨inspected, rfl⟩

theorem scaffoldChecks_gives :
    (scaffoldChecks host arguments).gives (fun plan _ => plan.Checked host arguments state.1)
      state := by
  unfold scaffoldChecks
  refine gives_ask (gives_ask (gives_ask ?_))
  refine gives_quiet (Steady.reject _ _) fun _ => gives_quiet (Steady.reject _ _) fun _ => ?_
  refine gives_quiet checkLimits_steady fun _ => gives_andThen inspectSource_gives ?_
  rintro artifact after ⟨inspected, rfl⟩
  refine gives_ask (gives_ask (gives_quiet (Steady.ofExcept _) fun document => ?_))
  refine gives_quiet (Steady.ofExcept _) fun approval => gives_ask ?_
  refine gives_quiet (Steady.ofExcept _) fun _ => gives_quiet (Steady.ofExcept _) fun provenance => ?_
  refine gives_ask (gives_ask (gives_quiet (Steady.reject _ _) fun _ => ?_))
  refine gives_get_andThen (gives_ask (gives_unless fun free => gives_ask (gives_ask ?_)))
  refine gives_quiet requireFile_steady fun _ => gives_quiet requireFile_steady fun _ => ?_
  refine gives_andThen (inspectDependencies_gives (by simp) (by simp [keys])) ?_
  rintro dependencies after' ⟨⟨sound, distinct⟩, rfl⟩
  refine gives_unless fun _ => gives_ret ?_
  refine ⟨inspected, rfl, sound, distinct, rfl, fun entry listed below => ?_⟩
  -- An entry at the instance or below it would have been found.
  rw [List.any_eq_false] at free
  exact free entry listed (List.isPrefixOf_iff_prefix.mpr below)

end Checked

section Failures

variable {host : ScaffoldHost} {arguments : ScaffoldArguments} {plan : ScaffoldPlan}
  {state : ScaffoldState} {due : Option Nat} {count : Nat}
variable {outcome : Except String Nat}

/-- What the creation comes to: it stops at its first step without a trace, or a directory stays
that was not there before. -/
def Begun (due : Option Nat) (count : Nat) (paths : List (List String)) (before : ScaffoldState)
    (outcome : Except String Nat) (after : ScaffoldState) : Prop :=
  (after = before ∧ (∃ message, outcome = .error message) ∧
    (due = some count ∨ Obstructed before.1 paths)) ∨
  ((∃ path, before.1.processes.entry path = none ∧ HasDirectory path after) ∧
    due ≠ some count ∧ ¬Obstructed before.1 paths)

theorem makePath_missing {path : List String} (absent : state.1.processes.entry path = none) :
    (makePath path).effect state.1 =
      .ok { state.1 with processes := state.1.processes.withDirectory path } := by
  simp [makePath, Action.atomic, absent]

theorem makePath_file {path : List String} {content : List UInt8}
    (there : state.1.processes.entry path = some (.file content)) :
    (makePath path).effect state.1 = .error "File exists" := by
  simp [makePath, Action.atomic, there]

theorem Begun.passed {path : List String} {paths : List (List String)} {after : ScaffoldState}
    (present : state.1.processes.entry path = some .directory)
    (begun : Begun due count paths state outcome after) :
    Begun due count (path :: paths) state outcome after := by
  have obstructed : Obstructed state.1 (path :: paths) ↔ Obstructed state.1 paths := by
    unfold Obstructed firstMissing
    rw [List.find?_cons]
    simp [present]
  unfold Begun at begun ⊢
  rwa [obstructed]

theorem firstMissing_head {path : List String} {paths : List (List String)}
    (missing : state.1.processes.entry path ≠ some .directory) :
    firstMissing state.1 (path :: paths) = some path := by
  unfold firstMissing
  rw [List.find?_cons]
  simp [missing]

theorem Begun.made {path : List String} {paths : List (List String)} {after : ScaffoldState}
    (absent : state.1.processes.entry path = none) (spared : due ≠ some count)
    (holds : HasDirectory path after) :
    Begun due count (path :: paths) state outcome after := by
  refine .inr ⟨⟨path, absent, holds⟩, spared, ?_⟩
  rintro ⟨first, content, same, there⟩
  rw [firstMissing_head (by simp [absent]), Option.some.injEq] at same
  rw [← same, absent] at there
  cases there

/-- The directories that are there are passed over, up to the first one that is not. -/
theorem makeMissing_begun {paths : List (List String)} {next : Unit → Process ScaffoldState Nat}
    (steady : ∀ value path, (next value).Steady (HasDirectory path))
    (missing : firstMissing state.1 paths ≠ none) (ahead : Ahead due count) :
    (forEach paths makeMissing >>= next).struck due
      (fun outcome _ after => Begun due count paths state outcome after) count state := by
  rw [struck_andThen]
  induction paths with
  | nil => exact absurd rfl missing
  | cons path rest ih =>
    rw [forEach, struck_andThen, makeMissing, struck_get_andThen, struck_whenever]
    by_cases present : state.1.processes.entry path = some .directory
    · rw [if_neg (by simpa using present)]
      have others : firstMissing state.1 rest ≠ none := by
        unfold firstMissing at missing ⊢
        rw [List.find?_cons] at missing
        simpa [present] using missing
      refine struck_mono ?_ (ih others)
      intro outcome taken after reached
      cases outcome with
      | ok value => exact struck_mono (fun _ _ _ begun => begun.passed present) reached
      | error message => exact Begun.passed present reached
    · rw [if_pos (by simpa using present)]
      refine struck_durable ahead (fun here message left from' => ?_) fun later => ?_
      · -- A step that fails leaves everything as it was.
        have unchanged : left = state.1 := by simpa [makePath, Action.atomic] using from'
        rw [unchanged]
        exact .inl ⟨rfl, ⟨message, rfl⟩, .inl here⟩
      · have spared : due ≠ some count := by
          intro here
          have bound := later count here
          omega
        cases found : state.1.processes.entry path with
        | none =>
          rw [makePath_missing found]
          -- From here on the new directory stays.
          have made : HasDirectory path ({ state.1 with
              processes := state.1.processes.withDirectory path }, state.2) :=
            Tree.entry_withDirectory_self found
          have following : (forEach rest makeMissing).Steady (HasDirectory path) :=
            Steady.forEach fun _ => HasDirectory.makeMissing
          refine struck_mono ?_ (following.struck made)
          intro outcome taken after holds
          cases outcome with
          | ok value =>
            exact struck_mono (fun _ _ _ holds => Begun.made found spared holds)
              ((steady value path).struck holds)
          | error message => exact Begun.made found spared holds
        | some kind =>
          cases kind with
          | directory => exact absurd found present
          | file content =>
            -- A file stands where the directory should be.
            rw [makePath_file found]
            exact .inl ⟨rfl, ⟨_, rfl⟩, .inr ⟨path, content, firstMissing_head present, found⟩⟩

/-- The instance directory is not there yet. -/
theorem ScaffoldPlan.Checked.missing (checked : plan.Checked host arguments state.1) :
    firstMissing state.1 plan.parts.inits ≠ none := by
  unfold firstMissing
  intro all
  have whole : plan.parts ∈ plan.parts.inits := (List.mem_inits _ _).mpr (List.prefix_refl _)
  have found := List.find?_eq_none.mp all _ whole
  simp only [ne_eq, decide_not, Bool.not_eq_true, Bool.not_eq_false', decide_eq_true_eq] at found
  unfold Tree.entry at found
  obtain ⟨pair, listed, -⟩ := Option.map_eq_some_iff.mp found
  refine checked.free pair (List.mem_of_find?_eq_some listed) ?_
  have here := List.find?_some listed
  rw [decide_eq_true_eq] at here
  rw [here]

theorem createInstance_begun (checked : plan.Checked host arguments state.1)
    (ahead : Ahead due count) :
    (createInstance host arguments plan).struck due
      (fun outcome _ after => Begun due count plan.parts.inits state outcome after) count state :=
  makeMissing_begun (fun _ _ => HasDirectory.fillInstance) checked.missing ahead

theorem scaffoldChecks_struck (host : ScaffoldHost) (arguments : ScaffoldArguments)
    (disk : ScaffoldDisk) (due : Option Nat) :
    (scaffoldChecks host arguments).struck due (fun outcome taken after => after = (disk, []) ∧
      match outcome with
      | .ok plan => plan.Checked host arguments disk ∧
          ((scaffoldChecks host arguments).start (disk, []) []).1 = .ok plan ∧
          taken = (scaffoldChecks host arguments).acts (disk, []) ∧ Ahead due taken
      | .error _ => EndsEarly host arguments disk due) 0 (disk, []) := by
  have zero : Ahead due 0 := fun _ _ => Nat.zero_le _
  have steady : (scaffoldChecks host arguments).Steady (· = (disk, [])) := scaffoldChecks_steady
  have straight := steady.straight
  have found := @Straight.struck_gives _ _ due none _ _ straight 0 _
    (@scaffoldChecks_gives host arguments (disk, []))
  have ended := struck_and (steady.struck rfl) (struck_and found (struck_and
    (straight.struck_acts zero) (straight.struck_calm [(disk, [])] zero)))
  refine struck_mono ?_ ended
  rintro outcome taken after ⟨rfl, checked, ⟨-, complete⟩, calm⟩
  refine ⟨rfl, ?_⟩
  cases outcome with
  | error message =>
    rcases calm with ⟨same, -⟩ | ⟨-, step, here, bound⟩
    · exact .inl ⟨message, same.symm⟩
    · exact .inr (.inl ⟨step, here, by omega⟩)
  | ok plan =>
    obtain ⟨counted, ahead⟩ := complete plan rfl
    refine ⟨checked plan rfl, ?_, by omega, ahead⟩
    rcases calm with ⟨same, -⟩ | ⟨⟨message, other⟩, -⟩
    · exact same.symm
    · cases other

/-- After an exception the processes directory is as it was exactly if nothing was begun. -/
theorem scaffold_unchanged_iff (host : ScaffoldHost) (arguments : ScaffoldArguments)
    (disk : ScaffoldDisk) (due : Option Nat) :
    (scaffoldIsolatedPlugin host arguments).struck due (fun outcome _ after =>
      ∀ message, outcome = .error message →
        (after.1.processes = disk.processes ↔ EndsEarly host arguments disk due)) 0 (disk, []) := by
  unfold scaffoldIsolatedPlugin
  rw [struck_andThen]
  refine struck_mono ?_ (scaffoldChecks_struck host arguments disk due)
  rintro outcome taken after ⟨rfl, checks⟩
  cases outcome with
  | error message => exact fun _ _ => iff_of_true rfl checks
  | ok plan =>
    obtain ⟨checked, passed, counted, ahead⟩ := checks
    -- The checks have passed, so only the first step after them is early.
    have early : EndsEarly host arguments disk due ↔
        due = some taken ∨ Obstructed disk plan.parts.inits := by
      unfold EndsEarly
      rw [passed, ← checked.parts]
      constructor
      · rintro (⟨message, refused⟩ | ⟨step, here, bound⟩ | obstructed)
        · cases refused
        · have least := ahead step here
          have exactly : step = taken := by omega
          exact .inl (exactly ▸ here)
        · exact .inr obstructed
      · rintro (here | obstructed)
        · exact .inr (.inl ⟨taken, here, by omega⟩)
        · exact .inr (.inr obstructed)
    refine struck_mono ?_ (createInstance_begun checked ahead)
    rintro outcome last after begun message -
    rw [early]
    rcases begun with ⟨rfl, -, reason⟩ | ⟨⟨path, absent, present⟩, later, free⟩
    · exact iff_of_true rfl reason
    · refine iff_of_false (fun same => ?_) (not_or.mpr ⟨later, free⟩)
      unfold HasDirectory at present
      rw [same, absent] at present
      cases present

end Failures

end PocoDDS.Tools
