import PocoDDS.Tools.UpgradePhases

/-! Recovering an interrupted upgrade: at which points of it `recover` brings the old release back. -/

namespace PocoDDS.Tools

open AssocList CrashLogic ProcessLogic Process

/-- What a recovery has to leave of an upgrade: the old release with its mutable directories, and
nothing of the upgrade itself. -/
structure Restored (host : ReleaseHost) (upgradeId : String) (old : Option Tree)
    (disk : ReleaseDisk) : Prop where
  installed : (disk.tree .target).isSome = old.isSome
  inventory : inventoryOf host (disk.tree .target) = inventoryOf host old
  mutable' : ∀ release, old = some release → ∀ entry ∈ release.entries, IsMutable entry.1 →
    ∃ target, disk.tree .target = some target ∧ entry ∈ target.entries
  staging : disk.tree (.staging upgradeId) = none
  backup : disk.tree (.backup upgradeId) = none
  failed : disk.tree (.failed upgradeId) = none
  journal : disk.journal = none
  lock : disk.lock = none

/-- An undisturbed recovery on a disk succeeds, and restores the old release. -/
def Recovers (host : ReleaseHost) (upgradeId : String) (old : Option Tree) (disk : ReleaseDisk) :
    Prop :=
  ((recover host).start (disk, {}) []).1 = .ok 0 ∧
    Restored host upgradeId old ((recover host).start (disk, {}) []).2.state.1

/-- The directory from which recovery brings the mutable directories back. -/
def sideOf (upgradeId : String) (disk : ReleaseDisk) : Tree :=
  ((disk.tree .target <|> disk.tree (.failed upgradeId)) <|> disk.tree (.staging upgradeId)).getD ⟨[]⟩

/-- A disk on which recovery can tell what to do. There is a journal, and: the first release is in
its place; or the backup is there, complete and with nothing in the way of what is brought back to
it; or there is no backup and the journal says that the target holds the old release. -/
def Reconcilable (host : ReleaseHost) (upgradeId : String) (old : Option Tree)
    (disk : ReleaseDisk) : Prop :=
  ∃ transaction, disk.journal = some (.document transaction) ∧
    match old, disk.tree (.backup upgradeId) with
    | none, _ => (disk.tree .target).isSome = true
    | some _, none => transaction.state = .preflightPassed ∨
        transaction.state = .stagingVerified ∨ transaction.state = .healthFailedRollbackVerified
    | some release, some backup =>
        (transaction.state = .healthPassed →
          backup.inventory host.sha256 = release.inventory host.sha256 ∧
            Carried host.parents release backup (sideOf upgradeId disk)) ∧
          Movable host.parents (sideOf upgradeId disk) backup

section Trees

variable {parents : List String}
variable {path above : List String}

theorem SurvivesTransfer.and {first second : Tree → Tree → Prop}
    (one : SurvivesTransfer parents first) (two : SurvivesTransfer parents second) :
    SurvivesTransfer parents fun origin there => first origin there ∧ second origin there where
  made := fun holds chosen member =>
    ⟨one.made holds.1 chosen member, two.made holds.2 chosen member⟩
  moved := fun holds chosen absent clear =>
    ⟨one.moved holds.1 chosen absent clear, two.moved holds.2 chosen absent clear⟩

theorem ne_of_properPrefix {tree : Tree} {other : List String}
    (chosen : path ∈ tree.candidates parents) (outer : other ∈ tree.candidates parents)
    (member : above ∈ properPrefixes path) : above ≠ other := by
  rintro rfl
  exact not_isMutable_of_properPrefix (Tree.mem_candidates.mp chosen).2.2 member
    (isMutable_of_outermost (Tree.mem_candidates.mp outer).2.2)

theorem Tree.entry_append_directory {tree : Tree} {content : List UInt8}
    (found : (⟨tree.entries ++ [(above, .directory)]⟩ : Tree).entry path = some (.file content)) :
    tree.entry path = some (.file content) := by
  unfold Tree.entry at found ⊢
  rw [List.find?_append] at found
  cases here : tree.entries.find? (·.1 = path) with
  | some pair => simpa [here] using found
  | none =>
    by_cases same : above = path
    · simp [here, same] at found
    · simp [here, same] at found

theorem Tree.entry_append_below {tree origin : Tree} (free : ¬path <+: above) :
    (⟨tree.entries ++ origin.below path⟩ : Tree).entry above = tree.entry above := by
  have missing : (origin.below path).find? (·.1 = above) = none := by
    refine List.find?_eq_none.mpr fun entry member same => free ?_
    have sub : path <+: entry.1 := by simpa using (List.mem_filter.mp member).2
    rwa [of_decide_eq_true same] at sub
  simp [Tree.entry, List.find?_append, missing]

/-- What is not in the way at first is not in the way later. -/
theorem movable_survives : SurvivesTransfer parents (Movable parents) where
  made := by
    intro origin there path above movable chosen member other outer
    obtain ⟨absent, clear⟩ := movable other outer
    refine ⟨?_, fun parent inside content found => ?_⟩
    · have apart := ne_of_properPrefix chosen outer member
      simp [Tree.exists_append, absent, apart]
    · exact clear parent inside content (Tree.entry_append_directory found)
  moved := by
    intro origin there path movable chosen absent _ other outer
    obtain ⟨outer, differs⟩ := (Tree.mem_candidates_without chosen).mp outer
    obtain ⟨free, clear⟩ := movable other outer
    have outermost := (Tree.mem_candidates.mp chosen).2.2
    refine ⟨Vacant.moved (fun path chosen => (movable path chosen).1) chosen other ?_, ?_⟩
    · exact (Tree.mem_candidates_without chosen).mpr ⟨outer, differs⟩
    · intro parent inside content found
      -- What has been moved is mutable, and a directory above a candidate is not.
      have apart : ¬path <+: parent := fun sub =>
        not_isMutable_of_properPrefix (Tree.mem_candidates.mp outer).2.2 inside
          ((isMutable_of_outermost outermost).of_above sub)
      rw [Tree.entry_append_below apart] at found
      exact clear parent inside content found

/-- What is in the way at first stays in the way, so that a transfer cannot succeed. -/
theorem blocked_survives : SurvivesTransfer parents fun origin there => ¬Movable parents origin there where
  made := by
    intro origin there path above blocked chosen member movable
    refine blocked fun other outer => ?_
    obtain ⟨absent, clear⟩ := movable other outer
    rw [Tree.exists_append, Bool.or_eq_false_iff] at absent
    refine ⟨absent.1, fun parent inside content found => ?_⟩
    exact clear parent inside content (Tree.entry_append found _)
  moved := by
    intro origin there path blocked chosen absent clear movable
    refine blocked fun other outer => ?_
    by_cases same : other = path
    · rw [same]
      exact ⟨absent, clear⟩
    · obtain ⟨free, unhindered⟩ :=
        movable other ((Tree.mem_candidates_without chosen).mpr ⟨outer, same⟩)
      rw [Tree.exists_append, Bool.or_eq_false_iff] at free
      refine ⟨free.1, fun parent inside content found => ?_⟩
      exact unhindered parent inside content (Tree.entry_append found _)

/-- Nothing mutable is in a backup but what was in it or in a directory that was brought back. -/
structure Brought (parents : List String) (backup side : Tree) (left now : Tree) : Prop where
  rest : ∀ entry ∈ left.entries, entry ∈ side.entries
  origin : ∀ entry ∈ now.entries, IsMutable entry.1 → entry ∈ backup.entries ∨
    (entry ∈ side.entries ∧ ∃ path ∈ side.candidates parents, path <+: entry.1)

theorem brought_survives (backup side : Tree) :
    SurvivesTransfer parents (Brought parents backup side) where
  made := by
    intro left now path above brought chosen member
    refine ⟨brought.rest, fun entry inside held => ?_⟩
    rcases List.mem_append.mp inside with before | new
    · exact brought.origin entry before held
    · rw [List.mem_singleton.mp new] at held
      exact absurd held (not_isMutable_of_properPrefix (Tree.mem_candidates.mp chosen).2.2 member)
  moved := by
    intro left now path brought chosen _ _
    refine ⟨fun entry inside => brought.rest entry (List.mem_filter.mp inside).1, ?_⟩
    intro entry inside held
    rcases List.mem_append.mp inside with before | new
    · exact brought.origin entry before held
    · obtain ⟨within, sub⟩ := List.mem_filter.mp new
      obtain ⟨free, listed, outermost⟩ := Tree.mem_candidates.mp chosen
      exact .inr ⟨brought.rest entry within, path,
        Tree.mem_candidates.mpr ⟨free, brought.rest _ listed, outermost⟩, by simpa using sub⟩

theorem Tree.length_inventory (tree : Tree) (sha256 : List UInt8 → String) :
    (tree.inventory sha256).length = tree.released.length := by
  unfold Tree.inventory
  rw [List.length_insertionSort, List.length_filterMap_eq_countP, List.countP_eq_length]
  rintro ⟨path, entry⟩ member
  have listed := (List.mem_filter.mp member).2
  cases entry with
  | file content => rfl
  | directory => simp [isReleased] at listed

/-- A backup of which files have been removed has fewer records. -/
theorem Tree.released_of_suffix {part whole : Tree} (sub : part.entries <:+ whole.entries)
    {sha256 : List UInt8 → String} (same : part.inventory sha256 = whole.inventory sha256) :
    part.released = whole.released := by
  have shorter : part.released <:+ whole.released := sub.filter _
  refine shorter.eq_of_length ?_
  rw [← part.length_inventory sha256, ← whole.length_inventory sha256, same]

theorem deployedVersion_congr (host : ReleaseHost) {first second : Tree}
    (same : first.released = second.released) :
    deployedVersion host (some first) = deployedVersion host (some second) := by
  simp only [deployedVersion, same]

end Trees

section Calm

variable {host : ReleaseHost} {post : Except String Unit → ReleaseDisk × UpgradeLocals → Prop}
variable {state : ReleaseDisk × UpgradeLocals}

/-- A step that nothing disturbs does what it does. -/
theorem calm_durable {action : Action ReleaseDisk} :
    (durable action).wp false (fun _ _ => True) post state ↔
      match action.effect state.1 with
      | .ok after => post (.ok ()) (after, state.2)
      | .error message => post (.error message) state := by
  rw [wp_durable_calm]
  cases action.effect state.1 <;> rfl

theorem removeTree_calm {place : Place}
    (ended : ∀ after : ReleaseDisk, after.journal = state.1.journal → after.tree place = none →
      (∀ other, other ≠ place → after.tree other = state.1.tree other) →
      post (.ok ()) (after, state.2)) :
    (removeTree place).wp false (fun _ _ => True) post state := by
  unfold removeTree
  rw [wp_get_andThen, wp_whenever]
  cases here : state.1.tree place with
  | none =>
    have missing : state.1.exists' place = false := by rw [ReleaseDisk.exists', here]; rfl
    simp only [missing, Bool.false_eq_true, if_false]
    exact ended state.1 rfl here fun _ _ => rfl
  | some tree =>
    have present : state.1.exists' place = true := by rw [ReleaseDisk.exists', here]; rfl
    simp only [present, if_true]
    rw [calm_durable]
    simp only [removeDirectory, here]
    refine ended _ rfl (by simp) fun other differs => ?_
    rw [ReleaseDisk.tree_remove, if_neg differs]

theorem rename_calm {source destination : Place} {tree : Tree}
    (here : state.1.tree source = some tree) (free : state.1.tree destination = none)
    (ended : post (.ok ()) ((state.1.remove source).put destination tree, state.2)) :
    (durable (rename source destination)).wp false (fun _ _ => True) post state := by
  rw [calm_durable]
  simp only [rename, Action.atomic, here, free]
  exact ended

theorem verifyInventory_calm {place : Place} {expected : List FileRecord}
    (same : inventoryOf host (state.1.tree place) = expected) (ended : post (.ok ()) state) :
    (verifyInventory host place expected).wp false (fun _ _ => True) post state := by
  unfold verifyInventory
  rw [wp_get_andThen, wp_reject]
  simp only [same, ne_eq, not_true_eq_false, decide_false, Bool.false_eq_true, if_false]
  exact ended

end Calm

section Conclude

variable {host : ReleaseHost} {arguments : UpgradeArguments} {old : Option Tree}
variable {transaction : UpgradeTransaction}

theorem Journalled.paths (ours : Journalled host arguments old transaction) :
    transaction.upgradeId = arguments.upgradeId ∧
      transaction.staging = .staging arguments.upgradeId ∧
      transaction.backup = .backup arguments.upgradeId ∧
      transaction.failed = .failed arguments.upgradeId ∧
      transaction.backupInventory = inventoryOf host old := by
  have written := ours.written
  rw [written]
  exact ⟨rfl, rfl, rfl, rfl, rfl⟩

theorem Journalled.governed (ours : Journalled host arguments old transaction) :
    transaction.governed = .ok () := by
  obtain ⟨id, staging, backup, failed, -⟩ := ours.paths
  simp [UpgradeTransaction.governed, id, staging, backup, failed]

/-- Where the decision succeeds, the staging directory, the journal and the lock are removed. -/
theorem recover_of_reconciled {disk : ReleaseDisk} (good : ReleaseDisk → Prop)
    (journal : disk.journal = some (.document transaction))
    (ours : Journalled host arguments old transaction)
    (reconciled : ∀ locals, (reconcileUpgrade host transaction).wp false (fun _ _ => True)
      (fun outcome after => (∃ value, outcome = .ok value) ∧ good after.1 ∧
        after.1.journal.isSome = true ∧
        ∃ version, deployedVersion host (after.1.tree .target) = .ok version) (disk, locals)) :
    (recover host).wp false (fun _ _ => True) (fun outcome after => outcome = .ok 0 ∧
      after.1.journal = none ∧ after.1.lock = none ∧ ∃ settled, good settled ∧
        after.1.tree (.staging arguments.upgradeId) = none ∧
        ∀ place, place ≠ .staging arguments.upgradeId → after.1.tree place = settled.tree place)
      (disk, {}) := by
  obtain ⟨-, staging, -, -, -⟩ := ours.paths
  unfold recover
  rw [wp_get_andThen]
  simp only [journal]
  rw [wp_catching, recoverUpgrade, wp_set_andThen, wp_andThen, wp_ofExcept, ours.governed]
  dsimp only
  rw [wp_andThen]
  refine wp_mono ?_ (reconciled _)
  rintro outcome ⟨settled, locals⟩ ⟨⟨value, rfl⟩, fine, journalled, version, deployed⟩
  dsimp only
  rw [wp_andThen, staging]
  refine removeTree_calm ?_
  intro after same gone others
  have target := others .target (by simp)
  dsimp only
  rw [wp_get_andThen, wp_andThen, wp_ofExcept]
  have known : deployedVersion host (after.tree .target) = .ok version := by
    rw [target]
    exact deployed
  simp only [known]
  rw [wp_andThen, calm_durable]
  simp only [auditUpgrade, Action.atomic]
  rw [wp_andThen, calm_durable]
  have present : after.journal.isNone = false := by
    rw [same]
    cases here : settled.journal with
    | none => simp [here] at journalled
    | some _ => rfl
  simp only [unlinkUpgradeJournal, Action.atomic, present, Bool.false_eq_true, if_false]
  rw [wp_andThen, calm_durable]
  exact ⟨rfl, rfl, rfl, settled, fine, gone, others⟩

theorem recover_of_refused {disk : ReleaseDisk}
    (journal : disk.journal = some (.document transaction))
    (ours : Journalled host arguments old transaction)
    (refused : ∀ locals, (reconcileUpgrade host transaction).wp false (fun _ _ => True)
      (fun outcome _ => ∃ message, outcome = .error message) (disk, locals)) :
    (recover host).wp false (fun _ _ => True) (fun outcome _ => outcome = .ok 1) (disk, {}) := by
  unfold recover
  rw [wp_get_andThen]
  simp only [journal]
  rw [wp_catching, recoverUpgrade, wp_set_andThen, wp_andThen, wp_ofExcept, ours.governed]
  dsimp only
  rw [wp_andThen]
  refine wp_mono ?_ (refused _)
  rintro outcome ⟨left, locals⟩ ⟨message, rfl⟩
  dsimp only
  unfold recoverUpgradeFailed
  rw [wp_get_andThen, wp_andThen]
  cases locals.upgradeId with
  | none => rfl
  | some upgradeId =>
    simp only [Option.elim_some]
    rw [wp_catching, calm_durable]
    rfl

end Conclude

section Decide

variable {host : ReleaseHost} {arguments : UpgradeArguments} {old : Option Tree}
  {transaction : UpgradeTransaction} {disk : ReleaseDisk} {locals : UpgradeLocals}
variable {side backup : Tree}

theorem exists_of_some {place : Place} {tree : Tree} (here : disk.tree place = some tree) :
    disk.exists' place = true := by
  rw [ReleaseDisk.exists', here]
  rfl

theorem exists_of_none {place : Place} (missing : disk.tree place = none) :
    disk.exists' place = false := by
  rw [ReleaseDisk.exists', missing]
  rfl

theorem reconcile_nothing (ours : Journalled host arguments old transaction)
    (backup : disk.tree (.backup arguments.upgradeId) = none) (target : disk.tree .target = none) :
    (reconcileUpgrade host transaction).wp false (fun _ _ => True)
      (fun outcome _ => ∃ message, outcome = .error message) (disk, locals) := by
  obtain ⟨-, -, toBackup, -, -⟩ := ours.paths
  unfold reconcileUpgrade
  rw [wp_get_andThen, toBackup]
  simp only [exists_of_none backup, exists_of_none target, Bool.false_and, Bool.false_eq_true,
    if_false]
  exact ⟨_, rfl⟩

variable {release : Tree} (ours : Journalled host arguments (some release) transaction)
include ours

/-- The backup is gone, but the journal does not say that it was put back. -/
theorem reconcile_unbacked {tree : Tree} (backup : disk.tree (.backup arguments.upgradeId) = none)
    (target : disk.tree .target = some tree)
    (state : transaction.state = .mutableStateTransferred ∨ transaction.state = .activated ∨
      transaction.state = .healthPassed) :
    (reconcileUpgrade host transaction).wp false (fun _ _ => True)
      (fun outcome _ => ∃ message, outcome = .error message) (disk, locals) := by
  obtain ⟨-, -, toBackup, -, -⟩ := ours.paths
  obtain ⟨version, known⟩ := Option.isSome_iff_exists.mp (ours.versioned rfl)
  unfold reconcileUpgrade
  rw [wp_get_andThen, toBackup]
  -- The journalled state is none of those that recovery accepts.
  rcases state with state | state | state <;>
  · simp only [exists_of_none backup, exists_of_some target, known, state, Option.isNone_some,
      Bool.and_false, Bool.false_eq_true, if_false, reduceCtorEq, decide_false, Bool.or_false]
    exact ⟨_, rfl⟩

theorem reconcile_untouched (backup : disk.tree (.backup arguments.upgradeId) = none)
    (target : disk.tree .target = some release)
    (state : transaction.state = .preflightPassed ∨ transaction.state = .stagingVerified)
    {post : Except String String → ReleaseDisk × UpgradeLocals → Prop}
    (ended : ∀ value, post (.ok value) (disk, locals)) :
    (reconcileUpgrade host transaction).wp false (fun _ _ => True) post (disk, locals) := by
  obtain ⟨-, -, toBackup, -, expected⟩ := ours.paths
  obtain ⟨version, known⟩ := Option.isSome_iff_exists.mp (ours.versioned rfl)
  have noted : (decide (transaction.state = .preflightPassed) ||
      decide (transaction.state = .stagingVerified)) = true := by
    simpa using state
  unfold reconcileUpgrade
  rw [wp_get_andThen, toBackup]
  simp only [exists_of_none backup, exists_of_some target, known, noted, Option.isNone_some,
    Bool.and_false, Bool.and_true, Bool.false_eq_true, if_false, if_true]
  rw [wp_andThen]
  refine verifyInventory_calm ?_ (ended _)
  rw [expected, target]

theorem reconcile_rolledBack {tree : Tree} (backup : disk.tree (.backup arguments.upgradeId) = none)
    (target : disk.tree .target = some tree) (kept : tree.released = release.released)
    (state : transaction.state = .healthFailedRollbackVerified)
    {post : Except String String → ReleaseDisk × UpgradeLocals → Prop}
    (ended : ∀ value (after : ReleaseDisk), after.journal = disk.journal →
      after.tree (.failed arguments.upgradeId) = none →
      (∀ other, other ≠ .failed arguments.upgradeId → after.tree other = disk.tree other) →
      post (.ok value) (after, locals)) :
    (reconcileUpgrade host transaction).wp false (fun _ _ => True) post (disk, locals) := by
  obtain ⟨-, -, toBackup, toFailed, expected⟩ := ours.paths
  obtain ⟨version, known⟩ := Option.isSome_iff_exists.mp (ours.versioned rfl)
  unfold reconcileUpgrade
  rw [wp_get_andThen, toBackup, toFailed]
  simp only [exists_of_none backup, exists_of_some target, known, state, Option.isNone_some,
    Bool.and_false, Bool.false_eq_true, if_false, reduceCtorEq, decide_false, decide_true,
    Bool.or_false, Bool.and_true, if_true]
  rw [wp_andThen]
  refine verifyInventory_calm ?_ ?_
  · rw [expected, target]
    exact Tree.inventory_congr kept _
  · dsimp only
    rw [wp_andThen]
    refine removeTree_calm ?_
    intro after same gone others
    exact ended _ after same gone others

omit ours

/-- A first release that is in place is moved away and removed. -/
theorem reconcile_initial {tree : Tree} (ours : Journalled host arguments none transaction)
    (backup : disk.tree (.backup arguments.upgradeId) = none)
    (target : disk.tree .target = some tree)
    (failed : disk.tree (.failed arguments.upgradeId) = none)
    {post : Except String String → ReleaseDisk × UpgradeLocals → Prop}
    (ended : ∀ value (after : ReleaseDisk), after.journal = disk.journal →
      after.tree .target = none → after.tree (.backup arguments.upgradeId) = none →
      after.tree (.failed arguments.upgradeId) = none → post (.ok value) (after, locals)) :
    (reconcileUpgrade host transaction).wp false (fun _ _ => True) post (disk, locals) := by
  obtain ⟨-, -, toBackup, toFailed, -⟩ := ours.paths
  have unknown : transaction.fromVersion = none := by
    have version := ours.version
    simpa [deployedVersion] using version.symm
  unfold reconcileUpgrade
  rw [wp_get_andThen, toBackup, toFailed]
  simp only [exists_of_none backup, exists_of_some target, unknown, Option.isNone_none,
    Bool.and_true, Bool.false_eq_true, if_false, if_true]
  rw [wp_andThen]
  refine rename_calm target failed ?_
  dsimp only
  rw [wp_andThen]
  refine removeTree_calm ?_
  intro after same gone others
  refine ended _ after same ?_ ?_ gone
  · rw [others _ (by simp)]
    simp
  · rw [others _ (by simp)]
    simpa using backup

/-- The tree next to a backup is the one that recovery looks at. -/
theorem Alongside.sideOf {upgradeId : String} (beside : Alongside upgradeId disk side) :
    sideOf upgradeId disk = side := by
  cases beside with
  | target here _ _ => simp [PocoDDS.Tools.sideOf, here]
  | failed target here _ => simp [PocoDDS.Tools.sideOf, target, here]
  | staging target failed here => simp [PocoDDS.Tools.sideOf, target, failed, here]

/-- Without faults a transfer fails where something is in the way, and nowhere else. -/
theorem transfer_calm {source destination : Place} (inv : Tree → Tree → Prop)
    (apart : source ≠ destination) (here : disk.tree source = some side)
    (there : disk.tree destination = some backup) (keeps : SurvivesTransfer host.parents inv)
    (begun : inv side backup) {post : Except String Unit → ReleaseDisk × UpgradeLocals → Prop}
    (failed : ∀ message state, ¬Movable host.parents side backup → post (.error message) state)
    (ended : ∀ after left now, Movable host.parents side backup →
      Trading disk source destination left now after → inv left now →
      left.candidates host.parents = [] → post (.ok ()) (after, locals)) :
    (transferMutable host source destination).wp false (fun _ _ => True) post (disk, locals) := by
  by_cases movable : Movable host.parents side backup
  · refine transferMutable_wp apart (keeps.and movable_survives) (fun _ _ _ _ _ _ _ _ _ _ => trivial)
      ?_ ?_ (.refl here there) ⟨begun, movable⟩
    · rintro after left now message - ⟨-, free⟩ (faulty | blocked)
      · cases faulty
      · exact absurd free blocked
    · intro after left now trading holds empty
      exact ended after left now movable trading holds.1 empty
  · refine transferMutable_wp apart blocked_survives (fun _ _ _ _ _ _ _ _ _ _ => trivial)
      ?_ ?_ (.refl here there) movable
    · exact fun after left now message _ _ _ => failed message _ movable
    · -- A transfer that has ended has nothing left to move, so nothing is in its way.
      intro after left now _ blocked empty
      exact absurd (fun path chosen => by simp [empty] at chosen) blocked

theorem retrieveMutable_calm (inv : Tree → Tree → Prop)
    (ours : Journalled host arguments old transaction)
    (here : disk.tree (.backup arguments.upgradeId) = some backup)
    (beside : Alongside arguments.upgradeId disk side) (keeps : SurvivesTransfer host.parents inv)
    (begun : inv side backup) {post : Except String Unit → ReleaseDisk × UpgradeLocals → Prop}
    (failed : ∀ message state, ¬Movable host.parents side backup → post (.error message) state)
    (ended : ∀ after left now, Movable host.parents side backup → after.journal = disk.journal →
      after.tree .target = none → after.tree (.backup arguments.upgradeId) = some now →
      inv left now → left.candidates host.parents = [] → post (.ok ()) (after, locals)) :
    (retrieveMutable host transaction).wp false (fun _ _ => True) post (disk, locals) := by
  obtain ⟨-, toStaging, toBackup, toFailed, -⟩ := ours.paths
  unfold retrieveMutable
  rw [wp_get_andThen, toBackup, toFailed, toStaging]
  cases beside with
  | target target free staging =>
    simp only [exists_of_some target, if_true]
    rw [wp_andThen]
    refine transfer_calm inv (by simp) target here keeps begun failed ?_
    intro after left now movable trading holds empty
    have free' : after.tree (.failed arguments.upgradeId) = none :=
      (trading.others _ (by simp) (by simp)).trans free
    dsimp only
    rw [wp_get_andThen, wp_andThen, wp_reject]
    simp only [exists_of_none free', Bool.false_eq_true, if_false]
    refine rename_calm trading.origin free' ?_
    refine ended _ left now movable trading.journal (by simp) ?_ holds empty
    simpa using trading.there
  | failed target inside staging =>
    simp only [exists_of_none target, exists_of_some inside, Bool.false_eq_true, if_false, if_true]
    refine transfer_calm inv (by simp) inside here keeps begun failed ?_
    intro after left now movable trading holds empty
    exact ended after left now movable trading.journal
      ((trading.others _ (by simp) (by simp)).trans target) trading.there holds empty
  | staging target free inside =>
    simp only [exists_of_none target, exists_of_none free, exists_of_some inside,
      Bool.false_eq_true, if_false, if_true]
    refine transfer_calm inv (by simp) inside here keeps begun failed ?_
    intro after left now movable trading holds empty
    exact ended after left now movable trading.journal
      ((trading.others _ (by simp) (by simp)).trans target) trading.there holds empty

theorem reconcile_damaged {release : Tree}
    (ours : Journalled host arguments (some release) transaction)
    (here : disk.tree (.backup arguments.upgradeId) = some backup)
    (differs : backup.inventory host.sha256 ≠ release.inventory host.sha256) :
    (reconcileUpgrade host transaction).wp false (fun _ _ => True)
      (fun outcome _ => ∃ message, outcome = .error message) (disk, locals) := by
  obtain ⟨-, -, toBackup, -, expected⟩ := ours.paths
  unfold reconcileUpgrade
  rw [wp_get_andThen, toBackup]
  simp only [exists_of_some here, if_true]
  unfold restoreRelease
  rw [wp_andThen, verifyInventory, wp_get_andThen, wp_reject, toBackup, expected]
  have found : (inventoryOf host (disk.tree (.backup arguments.upgradeId)) ≠
      inventoryOf host (some release)) := by
    rw [here]
    exact differs
  simp only [found, ne_eq, not_false_eq_true, decide_true, if_true]
  exact ⟨_, rfl⟩

/-- An undamaged backup is restored, unless something is in the way of the mutable directories. -/
theorem reconcile_backed {release : Tree} (inv : Tree → Tree → Prop)
    (ours : Journalled host arguments (some release) transaction)
    (here : disk.tree (.backup arguments.upgradeId) = some backup)
    (beside : Alongside arguments.upgradeId disk side) (intact : backup.released = release.released)
    (keeps : SurvivesTransfer host.parents inv) (begun : inv side backup)
    {post : Except String String → ReleaseDisk × UpgradeLocals → Prop}
    (failed : ∀ message state, ¬Movable host.parents side backup → post (.error message) state)
    (ended : ∀ value after left now, Movable host.parents side backup →
      after.journal = disk.journal → after.tree .target = some now →
      after.tree (.backup arguments.upgradeId) = none →
      after.tree (.failed arguments.upgradeId) = none → now.released = release.released →
      inv left now → left.candidates host.parents = [] → post (.ok value) (after, locals)) :
    (reconcileUpgrade host transaction).wp false (fun _ _ => True) post (disk, locals) := by
  obtain ⟨-, -, toBackup, toFailed, expected⟩ := ours.paths
  have released : SurvivesTransfer host.parents fun _ now => now.released = release.released := by
    refine ⟨fun same _ _ => ?_, fun same chosen _ _ => ?_⟩
    · rw [Tree.released_makeDirectory]
      exact same
    · rw [Tree.released_receive (Tree.mem_candidates.mp chosen).2.2]
      exact same
  unfold reconcileUpgrade
  rw [wp_get_andThen, toBackup]
  simp only [exists_of_some here, if_true]
  unfold restoreRelease
  rw [wp_andThen, toBackup, toFailed, expected]
  refine verifyInventory_calm ?_ ?_
  · rw [here]
    exact Tree.inventory_congr intact _
  dsimp only
  rw [wp_andThen]
  refine retrieveMutable_calm (fun left now => inv left now ∧ now.released = release.released) ours
    here beside (keeps.and released) ⟨begun, intact⟩ failed ?_
  intro after left now movable journal target there holds empty
  dsimp only
  rw [wp_andThen]
  refine rename_calm there target ?_
  dsimp only
  rw [wp_andThen]
  refine verifyInventory_calm ?_ ?_
  · simp only [ReleaseDisk.tree_put, if_true]
    exact Tree.inventory_congr holds.2 _
  dsimp only
  rw [wp_andThen]
  refine removeTree_calm ?_
  intro last same gone others
  refine ended _ last left now movable (same.trans journal) ?_ ?_ gone holds.2 holds.1 empty
  · rw [others _ (by simp)]
    simp
  · rw [others _ (by simp)]
    simp

end Decide

section Points

variable {host : ReleaseHost} {arguments : UpgradeArguments} {old : Option Tree}
  {disk : ReleaseDisk}

variable {transaction : UpgradeTransaction} (journal : disk.journal = some (.document transaction))
include journal

theorem not_recovers_of_refused (ours : Journalled host arguments old transaction)
    (refused : ∀ locals, (reconcileUpgrade host transaction).wp false (fun _ _ => True)
      (fun outcome _ => ∃ message, outcome = .error message) (disk, locals)) :
    ¬Recovers host arguments.upgradeId old disk := by
  rintro ⟨returned, -⟩
  have failed := start_calm (recover_of_refused journal ours refused)
  rw [returned] at failed
  cases failed

/-- Success, where the target is what it has to be once the decision has been carried out. -/
theorem recovers_of_settled (ours : Journalled host arguments old transaction) (final : Option Tree)
    (version : ∃ version, deployedVersion host final = .ok version)
    (installed : final.isSome = old.isSome)
    (inventory : inventoryOf host final = inventoryOf host old)
    (kept : ∀ release, old = some release → ∀ entry ∈ release.entries, IsMutable entry.1 →
      ∃ target, final = some target ∧ entry ∈ target.entries)
    (settled : ∀ locals, (reconcileUpgrade host transaction).wp false (fun _ _ => True)
      (fun outcome after => (∃ value, outcome = .ok value) ∧
        after.1.journal = disk.journal ∧ after.1.tree .target = final ∧
        after.1.tree (.backup arguments.upgradeId) = none ∧
        after.1.tree (.failed arguments.upgradeId) = none) (disk, locals)) :
    Recovers host arguments.upgradeId old disk := by
  have reconciled := recover_of_reconciled (fun after => after.tree .target = final ∧
      after.tree (.backup arguments.upgradeId) = none ∧
      after.tree (.failed arguments.upgradeId) = none) journal ours fun locals => by
    refine wp_mono ?_ (settled locals)
    rintro outcome after ⟨returned, same, target, gone⟩
    refine ⟨returned, ⟨target, gone⟩, ?_, ?_⟩
    · rw [same, journal]
      rfl
    · rw [target]
      exact version
  obtain ⟨returned, unlinked, unlocked, last, ⟨target, backup, failed⟩, staging, others⟩ :=
    start_calm reconciled
  refine ⟨returned, ?_, ?_, ?_, staging, ?_, ?_, unlinked, unlocked⟩
  · rw [others _ (by simp), target]
    exact installed
  · rw [others _ (by simp), target]
    exact inventory
  · rw [others _ (by simp), target]
    exact kept
  · rw [others _ (by simp), backup]
  · rw [others _ (by simp), failed]

/-- A backup that the health check has not released yet, or that has not been pruned, comes back
with every mutable entry that is next to it. -/
theorem recovers_backed_iff {release backup side : Tree}
    (ours : Journalled host arguments (some release) transaction)
    (here : disk.tree (.backup arguments.upgradeId) = some backup)
    (beside : Alongside arguments.upgradeId disk side) (intact : backup.released = release.released) :
    Recovers host arguments.upgradeId (some release) disk ↔
      Carried host.parents release backup side ∧ Movable host.parents side backup := by
  by_cases movable : Movable host.parents side backup
  · have known : ∃ version, deployedVersion host (some release) = .ok version :=
      ⟨_, ours.version⟩
    -- What is carried stays so, and what arrives comes from the backup or the tree next to it.
    have keeps : SurvivesTransfer host.parents fun left now =>
        (Carried host.parents release backup side → Carried host.parents release now left) ∧
          Brought host.parents backup side left now := by
      refine SurvivesTransfer.and ⟨fun holds chosen member carried => ?_,
        fun holds chosen _ _ carried => (holds carried).take chosen⟩ (brought_survives _ _)
      simpa using (holds carried).append [(_, .directory)] []
    have reconciled := recover_of_reconciled (fun after => ∃ left now,
        after.tree .target = some now ∧ after.tree (.backup arguments.upgradeId) = none ∧
        after.tree (.failed arguments.upgradeId) = none ∧ now.released = release.released ∧
        (Carried host.parents release backup side → Carried host.parents release now left) ∧
        Brought host.parents backup side left now ∧ left.candidates host.parents = [])
      journal ours fun locals => by
      refine reconcile_backed _ ours here beside intact keeps ⟨id, fun _ inside => inside,
        fun _ inside _ => .inl inside⟩ (fun _ _ blocked => absurd movable blocked) ?_
      intro value after left now _ same target gone failed released holds empty
      refine ⟨⟨value, rfl⟩, ⟨left, now, target, gone, failed, released, holds.1, holds.2, empty⟩,
        ?_, ?_⟩
      · rw [same, journal]
        rfl
      · rw [target, deployedVersion_congr host released]
        exact known
    obtain ⟨returned, unlinked, unlocked, settled, ⟨left, now, target, gone, failed, released,
      carries, brought, empty⟩, staging, others⟩ := start_calm reconciled
    rw [← others _ (by simp)] at target gone failed
    constructor
    · rintro ⟨-, restored⟩
      refine ⟨fun entry member held => ?_, movable⟩
      obtain ⟨tree, is, inside⟩ := restored.mutable' release rfl entry member held
      rw [target] at is
      cases is
      exact brought.origin entry inside held
    · rintro ⟨carried, -⟩
      refine ⟨returned, ?_, ?_, ?_, staging, gone, failed, unlinked, unlocked⟩
      · rw [target]
        rfl
      · rw [target]
        exact Tree.inventory_congr released _
      · rintro _ ⟨rfl⟩ entry member held
        exact ⟨now, target, (carries carried).settled empty entry member held⟩
  · have refused : ¬Recovers host arguments.upgradeId (some release) disk := by
      refine not_recovers_of_refused journal ours fun locals => ?_
      refine reconcile_backed (fun _ _ => True) ours here beside intact
        ⟨fun _ _ _ => trivial, fun _ _ _ _ => trivial⟩ trivial (fun message _ _ => ⟨message, rfl⟩) ?_
      exact fun _ _ _ _ free => absurd free movable
    exact ⟨fun recovers => absurd recovers refused, fun both => absurd both.2 movable⟩

end Points

section Results

variable {host : ReleaseHost} {arguments : UpgradeArguments} {old : Option Tree}
  {disk : ReleaseDisk}

theorem not_recovers_closed (absent : disk.journal = none) :
    ¬Recovers host arguments.upgradeId old disk := by
  have calm : (recover host).wp false (fun _ _ => True) (fun outcome _ => outcome = .ok 1)
      (disk, {}) := by
    unfold recover
    rw [wp_get_andThen]
    simp only [absent]
    rfl
  rintro ⟨returned, -⟩
  have failed := start_calm calm
  rw [returned] at failed
  cases failed

variable {transaction : UpgradeTransaction} (journal : disk.journal = some (.document transaction))
include journal

/-- A target that has not been touched stays as it is. -/
theorem recovers_untouched {release : Tree}
    (ours : Journalled host arguments (some release) transaction)
    (state : transaction.state = .preflightPassed ∨ transaction.state = .stagingVerified)
    (target : disk.tree .target = some release)
    (backup : disk.tree (.backup arguments.upgradeId) = none)
    (failed : disk.tree (.failed arguments.upgradeId) = none) :
    Recovers host arguments.upgradeId (some release) disk := by
  refine recovers_of_settled journal ours (some release) ⟨_, ours.version⟩ rfl rfl ?_ ?_
  · rintro _ ⟨rfl⟩ entry member _
    exact ⟨release, rfl, member⟩
  · intro locals
    refine reconcile_untouched ours backup target state fun value => ?_
    exact ⟨⟨value, rfl⟩, rfl, target, backup, failed⟩

theorem recovers_rolledBack {release target : Tree}
    (ours : Journalled host arguments (some release) transaction)
    (state : transaction.state = .healthFailedRollbackVerified)
    (backup : disk.tree (.backup arguments.upgradeId) = none)
    (here : disk.tree .target = some target) (kept : target.released = release.released)
    (carried : ∀ entry ∈ release.entries, IsMutable entry.1 → entry ∈ target.entries) :
    Recovers host arguments.upgradeId (some release) disk := by
  refine recovers_of_settled journal ours (some target) ?_ rfl ?_ ?_ ?_
  · rw [deployedVersion_congr host kept]
    exact ⟨_, ours.version⟩
  · exact Tree.inventory_congr kept _
  · rintro _ ⟨rfl⟩ entry member held
    exact ⟨target, rfl, carried entry member held⟩
  · intro locals
    refine reconcile_rolledBack ours backup here kept state ?_
    intro value after same gone others
    refine ⟨⟨value, rfl⟩, same, ?_, ?_, gone⟩
    · exact (others _ (by simp)).trans here
    · exact (others _ (by simp)).trans backup

/-- A first release is removed. -/
theorem recovers_initial {target : Tree} (ours : Journalled host arguments none transaction)
    (backup : disk.tree (.backup arguments.upgradeId) = none)
    (here : disk.tree .target = some target)
    (failed : disk.tree (.failed arguments.upgradeId) = none) :
    Recovers host arguments.upgradeId none disk := by
  refine recovers_of_settled journal ours none ⟨_, rfl⟩ rfl rfl (by simp) ?_
  intro locals
  refine reconcile_initial ours backup here failed ?_
  intro value after same target' backup' failed'
  exact ⟨⟨value, rfl⟩, same, target', backup', failed'⟩

omit journal

/-- On a disk in one of the phases, recovery succeeds exactly where it can tell what to do. -/
theorem Phase.recovers_iff (phase : Phase host arguments old disk) :
    Recovers host arguments.upgradeId old disk ↔
      Reconcilable host arguments.upgradeId old disk := by
  cases phase with
  | closed absent =>
    refine iff_of_false (not_recovers_closed absent) ?_
    rintro ⟨transaction, journal, -⟩
    rw [absent] at journal
    cases journal
  | untouched transaction journal ours state target backup failed =>
    cases old with
    | none =>
      refine iff_of_false ?_ ?_
      · exact not_recovers_of_refused journal ours fun _ => reconcile_nothing ours backup target
      · rintro ⟨_, -, present⟩
        simp [target] at present
    | some release =>
      refine iff_of_true (recovers_untouched journal ours state target backup failed) ?_
      refine ⟨transaction, journal, ?_⟩
      simp only [backup]
      exact state.imp_right .inl
  | backed transaction release backup side journal ours installed here beside part kept =>
    subst installed
    unfold Reconcilable
    simp only [journal, here, beside.sideOf, Option.some.injEq, UpgradeJournal.document.injEq,
      exists_eq_left']
    by_cases passed : transaction.state = .healthPassed
    · by_cases same : backup.inventory host.sha256 = release.inventory host.sha256
      · -- Nothing of the release has been pruned yet.
        obtain ⟨whole, released, sub⟩ := part
        have intact : backup.released = release.released := by
          rw [← released]
          refine Tree.released_of_suffix sub (same.trans ?_)
          exact (Tree.inventory_congr released host.sha256).symm
        rw [recovers_backed_iff journal ours here beside intact]
        simp [passed, same]
      · refine iff_of_false ?_ fun both => same (both.1 passed).1
        exact not_recovers_of_refused journal ours fun _ => reconcile_damaged ours here same
    · obtain ⟨intact, carried⟩ := kept passed
      rw [recovers_backed_iff journal ours here beside intact]
      simp [passed, carried]
  | unbacked transaction release target journal ours installed backup here state kept =>
    subst installed
    refine iff_of_false ?_ ?_
    · exact not_recovers_of_refused journal ours fun _ => reconcile_unbacked ours backup here state
    · rintro ⟨current, same, noted⟩
      rw [journal] at same
      cases same
      simp only [backup] at noted
      rcases state with state | state | state <;> simp [state] at noted
  | rolledBack transaction release target journal ours installed state backup staging here kept
      carried =>
    subst installed
    refine iff_of_true (recovers_rolledBack journal ours state backup here kept carried) ?_
    refine ⟨transaction, journal, ?_⟩
    simp only [backup]
    exact .inr (.inr state)
  | initial transaction journal ours fresh backup apart =>
    subst fresh
    cases here : disk.tree .target with
    | none =>
      refine iff_of_false ?_ ?_
      · exact not_recovers_of_refused journal ours fun _ => reconcile_nothing ours backup here
      · rintro ⟨_, -, present⟩
        simp [here] at present
    | some target =>
      have failed : disk.tree (.failed arguments.upgradeId) = none := by
        rcases apart with absent | ⟨failed, -⟩
        · rw [absent] at here
          cases here
        · exact failed
      refine iff_of_true (recovers_initial journal ours backup here failed) ⟨transaction, journal, ?_⟩
      simp [here]

/-- Wherever an upgrade dies or stops, recovery restores the old release if and only if the disk is
one on which it can tell what to do. -/
theorem recovers_iff_reconcilable (host : ReleaseHost) (arguments : UpgradeArguments)
    (old : Option Tree) (disk : ReleaseDisk) (unstarted : Unstarted arguments old disk)
    (faults : List (Option Fault)) (point : ReleaseDisk × UpgradeLocals)
    (died : point ∈ ((applyUpgrade host arguments).start (disk, {}) faults).2.seen) :
    Recovers host arguments.upgradeId old point.1 ↔
      Reconcilable host arguments.upgradeId old point.1 :=
  (applyUpgrade_phase unstarted faults point died).recovers_iff

/-- An installed release with a log directory. -/
def sampleRelease : Tree :=
  ⟨[(["pdr-release.json"], .file [49]), (["logs"], .directory), (["logs", "a.log"], .file [7])]⟩

def sampleDisk : ReleaseDisk :=
  { trees := [(.target, sampleRelease)] }

def sampleHost : ReleaseHost where
  sha256 content := String.ofList (content.map fun byte => Char.ofNat byte.toNat)
  parents := ["opt"]
  readMarker content := .ok (some (String.ofList (content.map fun byte => Char.ofNat byte.toNat)))

/-- An upgrade to a release that turns out not to be healthy. -/
def sampleUpgrade : UpgradeArguments where
  upgradeId := "u1"
  locations := .ok ()
  allowInitialInstall := false
  governance _ := .ok "2"
  files := [⟨["app"], 1, "A", [65]⟩]
  marker := [50]
  skipHealthCheck := false
  healthy := false
  keepBackups := 2
  modified _ := 0
  position _ := 0

/-- The disk when the new release has just been put in place. -/
def samplePoint : ReleaseDisk × UpgradeLocals :=
  ((applyUpgrade sampleHost sampleUpgrade).start (sampleDisk, {}) []).2.seen.getD 14 (sampleDisk, {})

theorem sample_recovers_iff :
    Unstarted sampleUpgrade (some sampleRelease) sampleDisk ∧
      samplePoint ∈ ((applyUpgrade sampleHost sampleUpgrade).start (sampleDisk, {}) []).2.seen ∧
      (Recovers sampleHost "u1" (some sampleRelease) samplePoint.1 ↔
        Reconcilable sampleHost "u1" (some sampleRelease) samplePoint.1) := by
  have unstarted : Unstarted sampleUpgrade (some sampleRelease) sampleDisk :=
    ⟨rfl, rfl, rfl, rfl, rfl⟩
  have died : samplePoint ∈
      ((applyUpgrade sampleHost sampleUpgrade).start (sampleDisk, {}) []).2.seen := by
    decide +kernel
  exact ⟨unstarted, died, recovers_iff_reconcilable _ _ _ _ unstarted [] _ died⟩

/-- When the process dies between the restoring rename and the journal after it, recovery refuses. -/
theorem restored_release_not_reconciled :
    ¬∀ (host : ReleaseHost) (arguments : UpgradeArguments) (old : Option Tree) (disk : ReleaseDisk)
      (faults : List (Option Fault)) (point : ReleaseDisk × UpgradeLocals),
      Unstarted arguments old disk → disk.lock = none →
      point ∈ ((applyUpgrade host arguments).start (disk, {}) faults).2.seen →
      point.1.lock = some arguments.upgradeId → point.1.journal.isSome = true →
      Recovers host arguments.upgradeId old point.1 := by
  intro always
  have unreconciled : ∃ point ∈
      ((applyUpgrade sampleHost sampleUpgrade).start (sampleDisk, {}) []).2.seen,
      point.1.lock = some "u1" ∧ point.1.journal.isSome = true ∧
        ((recover sampleHost).start (point.1, {}) []).1.toOption ≠ some 0 := by
    decide +kernel
  obtain ⟨point, died, lock, journal, refused⟩ := unreconciled
  have recovers := always sampleHost sampleUpgrade (some sampleRelease) sampleDisk [] point
    ⟨rfl, rfl, rfl, rfl, rfl⟩ rfl died lock journal
  rw [recovers.1] at refused
  exact refused rfl

end Results

end PocoDDS.Tools
