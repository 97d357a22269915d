import PocoDDS.Lib.Ranking
import PocoDDS.Tools.UpgradeRollback

/-! Undoing an upgrade: whether its backup survives the retention, and whether a rollback picks it. -/

namespace PocoDDS.Tools

open AssocList CrashLogic ProcessLogic Process Ranking ReleaseDisk

section Listing

variable {disk : ReleaseDisk} {upgradeId : String}

/-- The upgrades that have a backup directory. -/
def ReleaseDisk.backupIds (disk : ReleaseDisk) : List String :=
  (keys disk.trees).filterMap fun
    | .backup upgradeId => some upgradeId
    | _ => none

theorem backupsOf_eq_ranked (modified : String → Int) (position : String → Nat)
    (disk : ReleaseDisk) :
    backupsOf modified position disk = ranked modified position disk.backupIds :=
  rfl

theorem ReleaseDisk.mem_backupIds :
    upgradeId ∈ disk.backupIds ↔ (disk.tree (.backup upgradeId)).isSome = true := by
  rw [backupIds, List.mem_filterMap, ReleaseDisk.tree, lookup_isSome_iff]
  constructor
  · rintro ⟨place, listed, named⟩
    cases place with
    | backup other =>
      cases named
      exact listed
    | target | staging | failed | displaced => cases named
  · exact fun listed => ⟨_, listed, rfl⟩

theorem ReleaseDisk.nodup_backupIds (distinct : (keys disk.trees).Nodup) :
    disk.backupIds.Nodup := by
  refine distinct.filterMap ?_
  intro first second named one two
  -- Only a backup directory is listed, and its name tells the upgrade.
  cases first <;> cases second <;> simp_all

end Listing

section Shipped

variable {state : ReleaseDisk × UpgradeLocals}

def Tree.withPackaged (tree : Tree) (file : PackageFile) : Tree :=
  ((properPrefixes file.path).foldl Tree.withDirectory tree).withFile file.path file.content

def shippedRelease (arguments : UpgradeArguments) : Tree :=
  (arguments.files.foldl Tree.withPackaged ⟨[]⟩).withFile ["pdr-release.json"] arguments.marker

variable {host : ReleaseHost} {base disk : ReleaseDisk} {place : Place} {tree : Tree}

/-- There is a tree at a place, and those elsewhere are as on a given disk. -/
structure OnlyAt (base : ReleaseDisk) (place : Place) (state : ReleaseDisk × UpgradeLocals) :
    Prop where
  here : ∃ tree, state.1.tree place = some tree
  others : ∀ other, other ≠ place → state.1.tree other = base.tree other

theorem ReleaseDisk.treeOrEmpty_of_some (here : disk.tree place = some tree) :
    disk.treeOrEmpty place = tree := by
  rw [treeOrEmpty, here]
  rfl

theorem OnlyAt.put (only : OnlyAt base place state) (more : Tree) :
    OnlyAt base place (state.1.put place more, state.2) ∧
      (state.1.put place more).treeOrEmpty place = more := by
  refine ⟨⟨⟨more, by simp⟩, fun other differs => ?_⟩, ?_⟩
  · rw [tree_put, if_neg differs]
    exact only.others other differs
  · exact treeOrEmpty_of_some (by simp)

theorem makeInside_gives {path : List String} (only : OnlyAt base place state) :
    (durable (makeInside place path)).gives (fun _ after => OnlyAt base place after ∧
      after.1.treeOrEmpty place = (state.1.treeOrEmpty place).withDirectory path) state := by
  refine gives_durable fun after made => ?_
  obtain ⟨tree, here⟩ := only.here
  rw [treeOrEmpty_of_some here]
  simp only [makeInside, Action.atomic, here] at made
  cases found : tree.entry path with
  | none =>
    simp only [found] at made
    cases made
    rw [Tree.withDirectory, Tree.entry_eq_none_iff.mp found]
    exact only.put _
  | some kind =>
    cases kind with
    | file content => simp [found] at made
    | directory =>
      simp only [found] at made
      cases made
      have there : tree.exists' path = true := Tree.exists_of_mem (Tree.mem_of_entry found)
      rw [Tree.withDirectory, if_pos there]
      exact ⟨only, treeOrEmpty_of_some here⟩

theorem writeInside_gives {path : List String} {content : List UInt8}
    (only : OnlyAt base place state) :
    (durable (writeInside place path content)).gives (fun _ after => OnlyAt base place after ∧
      after.1.treeOrEmpty place = (state.1.treeOrEmpty place).withFile path content) state := by
  refine gives_durable fun after written => ?_
  obtain ⟨tree, here⟩ := only.here
  rw [treeOrEmpty_of_some here]
  simp only [writeInside, here] at written
  split at written
  · cases written
  · cases written
    exact only.put _

theorem stageFile_gives {file : PackageFile} (only : OnlyAt base place state) :
    (stageFile host place file).gives (fun _ after => OnlyAt base place after ∧
      after.1.treeOrEmpty place = (state.1.treeOrEmpty place).withPackaged file) state := by
  unfold stageFile Tree.withPackaged
  -- The directories above the file are made one after another.
  refine gives_andThen (gives_forEach (OnlyAt base place)
    (fun state => state.1.treeOrEmpty place) Tree.withDirectory
    (fun above state only => makeInside_gives only) only) ?_
  rintro _ made ⟨only, shape⟩
  rw [← shape]
  refine gives_andThen (writeInside_gives only) ?_
  rintro _ written ⟨only, shape⟩
  exact gives_reject fun _ => ⟨only, shape⟩

theorem stageFiles_gives {arguments : UpgradeArguments}
    (others : ∀ other, state.1.tree other = base.tree other) :
    (stageFiles host arguments).gives (fun _ after =>
      after.1.tree (.staging arguments.upgradeId) = some (shippedRelease arguments) ∧
      ∀ other, other ≠ .staging arguments.upgradeId → after.1.tree other = base.tree other)
      state := by
  have made : (durable (makeRoot (.staging arguments.upgradeId) false)).gives (fun _ after =>
      OnlyAt base (.staging arguments.upgradeId) after ∧
      after.1.treeOrEmpty (.staging arguments.upgradeId) = ⟨[]⟩) state := by
    refine gives_durable fun after made => ?_
    simp only [makeRoot, Action.atomic] at made
    split at made
    · cases made
      refine ⟨⟨⟨⟨[]⟩, by simp⟩, fun other differs => ?_⟩, treeOrEmpty_of_some (by simp)⟩
      rw [tree_put, if_neg differs]
      exact others other
    · cases made
  unfold stageFiles shippedRelease
  refine gives_andThen made ?_
  rintro _ empty ⟨only, shape⟩
  refine gives_andThen (gives_forEach (OnlyAt base (.staging arguments.upgradeId))
    (fun state => state.1.treeOrEmpty (.staging arguments.upgradeId)) Tree.withPackaged
    (fun file state only => stageFile_gives only) only) ?_
  rintro _ staged ⟨only, shape'⟩
  rw [← shape, ← shape']
  refine gives_mono ?_ (writeInside_gives only)
  rintro _ after ⟨only, shape⟩
  obtain ⟨tree, here⟩ := only.here
  rw [← shape, treeOrEmpty_of_some here]
  exact ⟨here, only.others⟩

end Shipped

section Upgrade

variable {host : ReleaseHost} {arguments : UpgradeArguments} {disk : ReleaseDisk}
  {locals : UpgradeLocals} {release : Tree}

theorem writeTransaction_gives {transaction : UpgradeTransaction} {noted : UpgradeState}
    {state : ReleaseDisk × UpgradeLocals} {post : Unit → ReleaseDisk × UpgradeLocals → Prop}
    (holds : ∀ locals, post () ({ state.1 with
      journal := some (.document { transaction with state := noted }) }, locals)) :
    (writeTransaction transaction noted).gives post state := by
  unfold writeTransaction
  refine gives_set_andThen (gives_durable fun after written => ?_)
  cases written
  exact holds _

theorem validateUpgrade_keeps {target : Option Tree} {versions : Option String × String}
    (accepted : validateUpgrade host arguments target = .ok versions) :
    1 ≤ arguments.keepBackups := by
  unfold validateUpgrade at accepted
  simp only [bind, Except.bind, pure, Except.pure, throw, throwThe, MonadExceptOf.throw] at accepted
  split at accepted
  · cases accepted
  split at accepted
  · cases accepted
  split at accepted
  · cases accepted
  split at accepted
  · cases accepted
  split at accepted
  · cases accepted
  · next enough => omega

/-- Preparing an upgrade changes no tree. -/
theorem prepareUpgrade_gives : (prepareUpgrade host arguments).gives (fun transaction after =>
      (∃ fromVersion toVersion, transaction =
        newUpgrade host arguments (disk.tree .target) fromVersion toVersion) ∧
      1 ≤ arguments.keepBackups ∧ after.1.trees = disk.trees) (disk, locals) := by
  have locked : (durable (acquireUpgradeLock arguments.upgradeId)).gives
      (fun _ after => after.1.trees = disk.trees) (disk, locals) := by
    refine gives_durable fun after taken => ?_
    simp only [acquireUpgradeLock] at taken
    split at taken
    · cases taken
    · cases taken
      rfl
  unfold prepareUpgrade
  have located : (ofExcept arguments.locations : UpgradeProcess Unit).gives
      (fun _ after => after = (disk, locals)) (disk, locals) := gives_ofExcept fun _ _ => rfl
  refine gives_andThen located ?_
  rintro _ _ rfl
  refine gives_andThen locked ?_
  intro _ after same
  refine gives_set_andThen (gives_get_andThen (gives_set_andThen ?_))
  have free : (reject after.1.journal.isSome
      "interrupted upgrade transaction exists; run recover first" :
        UpgradeProcess Unit).gives (fun _ final => final.1.trees = disk.trees)
      (after.1, { after.2 with locked := true, interruptedPresent := after.1.journal.isSome }) :=
    gives_reject fun _ => same
  refine gives_andThen free ?_
  intro _ checked same
  refine gives_get_andThen ?_
  have here : checked.1.tree .target = disk.tree .target := by
    rw [ReleaseDisk.tree, same, ReleaseDisk.tree]
  rw [here]
  have judged : (ofExcept (validateUpgrade host arguments (disk.tree .target)) :
      UpgradeProcess (Option String × String)).gives
      (fun _ final => 1 ≤ arguments.keepBackups ∧ final = checked) checked :=
    gives_ofExcept fun _ accepted => ⟨validateUpgrade_keeps accepted, rfl⟩
  refine gives_andThen judged ?_
  rintro versions current ⟨enough, rfl⟩
  have written : (writeTransaction (newUpgrade host arguments (disk.tree .target) versions.1
      versions.2) .preflightPassed).gives (fun _ final => final.1.trees = disk.trees) current :=
    writeTransaction_gives fun _ => same
  refine gives_andThen written fun _ noted same => ?_
  have audited : (durable (auditUpgrade (.preflightPassed arguments.upgradeId versions.1
      versions.2))).gives (fun _ final => final.1.trees = disk.trees) noted := by
    refine gives_durable fun final recorded => ?_
    cases recorded
    exact same
  refine gives_andThen audited fun _ final same => ?_
  exact gives_ret ⟨⟨_, _, rfl⟩, enough, same⟩

/-- How the directories stand when the new release has been put in place. -/
structure ReplacedTarget (host : ReleaseHost) (arguments : UpgradeArguments) (disk : ReleaseDisk)
    (release left now : Tree) (after : ReleaseDisk) : Prop where
  backup : after.tree (.backup arguments.upgradeId) = some left
  others : ∀ id, id ≠ arguments.upgradeId → after.tree (.backup id) = disk.tree (.backup id)
  moved : Transferred host.parents release (shippedRelease arguments) left now
  empty : left.candidates host.parents = []

theorem ReplacedTarget.same {left now : Tree} {before after : ReleaseDisk}
    (exchanged : ReplacedTarget host arguments disk release left now before)
    (trees : ∀ place, after.tree place = before.tree place) :
    ReplacedTarget host arguments disk release left now after :=
  ⟨(trees _).trans exchanged.backup, fun id differs => (trees _).trans (exchanged.others id differs),
    exchanged.moved, exchanged.empty⟩

theorem rename_gives {source destination : Place} {tree : Tree}
    {state : ReleaseDisk × UpgradeLocals} {post : Unit → ReleaseDisk × UpgradeLocals → Prop}
    (here : state.1.tree source = some tree)
    (holds : post () ((state.1.remove source).put destination tree, state.2)) :
    (durable (rename source destination)).gives post state := by
  refine gives_durable fun after moved => ?_
  simp only [rename, Action.atomic, here] at moved
  split at moved
  · next missing => cases missing
  · next same _ =>
    cases same
    cases moved
    exact holds
  · next same _ =>
    cases same
    split at moved
    · cases moved
      exact holds
    · cases moved

/-- Moving the old release away, with its mutable directories taken over by the new one. -/
theorem displaceTarget_gives {fromVersion : Option String} {toVersion : String}
    {state : ReleaseDisk × UpgradeLocals} (target : state.1.tree .target = some release)
    (staging : state.1.tree (.staging arguments.upgradeId) = some (shippedRelease arguments))
    (others : ∀ id, state.1.tree (.backup id) = disk.tree (.backup id)) :
    (displaceTarget host (newUpgrade host arguments (some release) fromVersion toVersion)).gives
      (fun _ after => after.1.tree .target = none ∧ ∃ left now,
        after.1.tree (.staging arguments.upgradeId) = some now ∧
        ReplacedTarget host arguments disk release left now after.1) state := by
  unfold displaceTarget
  refine gives_get_andThen ?_
  generalize shape : newUpgrade host arguments (some release) fromVersion toVersion = transaction
  have paths : transaction.staging = .staging arguments.upgradeId ∧
      transaction.backup = .backup arguments.upgradeId := by
    rw [← shape]
    exact ⟨rfl, rfl⟩
  rw [paths.1, paths.2]
  have renamed : (whenever (state.1.exists' .target)
      (durable (rename .target (.backup arguments.upgradeId)))).gives (fun _ after =>
        after.1.tree .target = none ∧ after.1.tree (.backup arguments.upgradeId) = some release ∧
        after.1.tree (.staging arguments.upgradeId) = some (shippedRelease arguments) ∧
        ∀ id, id ≠ arguments.upgradeId → after.1.tree (.backup id) = disk.tree (.backup id))
      state := by
    refine gives_whenever (fun _ => rename_gives target ?_) fun missing => ?_
    · refine ⟨by simp, by simp, by simp [staging], fun id differs => ?_⟩
      simp [differs, others id]
    · rw [exists_of_some target] at missing
      cases missing
  refine gives_andThen renamed ?_
  rintro _ after ⟨target, backup, staging, others⟩
  have noted : (writeTransaction transaction .backupCreated).gives (fun _ final =>
      final.1.tree = after.1.tree) after := writeTransaction_gives fun _ => rfl
  refine gives_andThen noted ?_
  intro _ current same
  refine gives_get_andThen ?_
  rw [← same] at target backup staging others
  rw [exists_of_some backup]
  refine gives_whenever (fun _ => ?_) nofun
  have verified : (verifyInventory host (.backup arguments.upgradeId)
      transaction.backupInventory).gives (fun _ final => final = current) current :=
    gives_get_andThen (gives_reject fun _ => rfl)
  refine gives_andThen verified ?_
  rintro _ state' rfl
  have transferred : (transferMutable host (.backup arguments.upgradeId)
      (.staging arguments.upgradeId)).gives (fun _ final => final.1.tree .target = none ∧
        ∃ left now, final.1.tree (.staging arguments.upgradeId) = some now ∧
          ReplacedTarget host arguments disk release left now final.1) state' := by
    refine transfer_calm _ (by simp) backup staging (transferred_survives release _) (.refl _ _ _)
      (fun _ _ _ => trivial) fun final left now _ trading moved empty => ?_
    refine ⟨(trading.others _ (by simp) (by simp)).trans target, left, now, trading.there,
      trading.origin, fun id differs => ?_, moved, empty⟩
    exact (trading.others _ (by simpa using differs) (by simp)).trans (others id differs)
  refine gives_andThen transferred ?_
  rintro _ final ⟨free, left, now, there, exchanged⟩
  exact writeTransaction_gives fun _ => ⟨free, left, now, there, exchanged.same fun _ => rfl⟩

theorem activateRelease_gives {transaction : UpgradeTransaction} {left now : Tree}
    {state : ReleaseDisk × UpgradeLocals}
    (staging : state.1.tree transaction.staging = some now)
    (place : transaction.staging = .staging arguments.upgradeId)
    (exchanged : ReplacedTarget host arguments disk release left now state.1) :
    (activateRelease transaction).gives (fun _ after => after.1.tree .target = some now ∧
      ReplacedTarget host arguments disk release left now after.1) state := by
  unfold activateRelease
  have renamed : ((durable (rename transaction.staging .target)).catching fun error => do
      let restorable ← get fun state =>
        state.1.exists' transaction.backup && !state.1.exists' .target
      whenever restorable (durable (rename transaction.backup .target))
      raise error).gives (fun _ after => after.1.tree .target = some now ∧
        ReplacedTarget host arguments disk release left now after.1) state := by
    refine gives_catching (rename_gives staging ?_) fun message after => ?_
    · refine ⟨by simp, ?_, fun id differs => ?_, exchanged.moved, exchanged.empty⟩
      · simp [place, exchanged.backup]
      · simp [place, exchanged.others id differs]
    · -- The handler raises in any case.
      exact gives_last fun _ _ => gives_last fun _ _ => gives_raise
  refine gives_andThen renamed ?_
  intro _ after reached
  refine gives_get_andThen ?_
  have audited : (durable (auditUpgrade (.activated transaction.upgradeId
      (after.1.exists' transaction.backup)))).gives (fun _ final =>
        final.1.tree .target = some now ∧
        ReplacedTarget host arguments disk release left now final.1) after := by
    refine gives_durable fun final recorded => ?_
    cases recorded
    exact ⟨reached.1, reached.2.same fun _ => rfl⟩
  refine gives_andThen audited fun _ final reached => ?_
  exact writeTransaction_gives fun _ => ⟨reached.1, reached.2.same fun _ => rfl⟩

theorem removeTrees_gives {ids : List String} {state : ReleaseDisk × UpgradeLocals} :
    (forEach ids fun id => removeTree (.backup id)).wp false (fun _ _ => True)
      (fun outcome after => outcome = .ok () ∧ after.1.tree .target = state.1.tree .target ∧
        ∀ id, after.1.tree (.backup id) = if id ∈ ids then none else state.1.tree (.backup id))
      state := by
  refine wp_forEach (fun rest after => after.1.tree .target = state.1.tree .target ∧
    (∀ id ∈ rest, id ∈ ids) ∧ (∀ id, id ∉ ids →
      after.1.tree (.backup id) = state.1.tree (.backup id)) ∧
    ∀ id ∈ ids, id ∈ rest ∨ after.1.tree (.backup id) = none) ?_ ?_
    ⟨rfl, fun _ due => due, fun _ _ => rfl, fun _ due => .inl due⟩
  · rintro id rest after ⟨target, listed, kept, gone⟩
    refine removeTree_calm fun final _ absent others => ?_
    refine ⟨(others _ (by simp)).trans target,
      fun other due => listed other (List.mem_cons_of_mem _ due), fun other outside => ?_,
      fun other inside => ?_⟩
    · have differs : other ≠ id := by
        rintro rfl
        exact outside (listed other List.mem_cons_self)
      exact (others _ (by simpa using differs)).trans (kept other outside)
    · by_cases same : other = id
      · rw [same]
        exact .inr absent
      · rcases gone other inside with due | absent'
        · exact .inl ((List.mem_cons.mp due).resolve_left same)
        · exact .inr ((others _ (by simpa using same)).trans absent')
  · rintro after ⟨target, -, kept, gone⟩
    refine ⟨rfl, target, fun id => ?_⟩
    split
    · next inside => exact (gone id inside).resolve_left (by simp)
    · next outside => exact kept id outside

/-- The backups that the retention removes. -/
def retiredBackups (arguments : UpgradeArguments) (disk : ReleaseDisk) : List String :=
  (backupsOf arguments.modified arguments.position disk).drop arguments.keepBackups.toNat

/-- What the retention leaves of the target and of the backups. -/
structure Pruned (arguments : UpgradeArguments) (before after : ReleaseDisk) : Prop where
  target : after.tree .target = before.tree .target
  backups : ∀ id, after.tree (.backup id) =
    if id ∈ retiredBackups arguments before then none else before.tree (.backup id)

/-- The retention is applied to the backups as they are when the upgrade is accepted, and then the
journal and the lock are removed. -/
theorem acceptRelease_gives {transaction : UpgradeTransaction}
    {state : ReleaseDisk × UpgradeLocals} :
    (acceptRelease arguments transaction).gives (fun _ after => Pruned arguments state.1 after.1 ∧
      after.1.journal = none ∧ after.1.lock = none) state := by
  unfold acceptRelease
  have noted : (writeTransaction transaction .healthPassed).gives (fun _ after =>
      after.1.trees = state.1.trees) state := writeTransaction_gives fun _ => rfl
  refine gives_andThen noted fun _ after same => ?_
  have audited : (durable (auditUpgrade (.healthPassed transaction.upgradeId
      transaction.toVersion))).gives (fun _ final => final.1.trees = state.1.trees) after := by
    refine gives_durable fun final recorded => ?_
    cases recorded
    exact same
  refine gives_andThen audited fun _ current same => ?_
  have trees : ∀ place, current.1.tree place = state.1.tree place := fun place => by
    rw [ReleaseDisk.tree, same, ReleaseDisk.tree]
  have listed : backupsOf arguments.modified arguments.position current.1 =
      backupsOf arguments.modified arguments.position state.1 := by
    simp only [backupsOf, listBackups, same]
  have pruned : ((do
      let removed ← pruneBackups arguments
      durable (auditUpgrade (.backupRetentionApplied transaction.upgradeId removed)) :
        UpgradeProcess Unit).catching fun error =>
          durable (auditUpgrade (.backupRetentionFailed transaction.upgradeId error))).gives
        (fun _ final => Pruned arguments state.1 final.1) current := by
    rw [gives, wp_catching, wp_andThen, pruneBackups, wp_get_andThen, wp_andThen]
    rw [listed]
    refine wp_mono ?_ removeTrees_gives
    rintro _ final ⟨rfl, target, backups⟩
    rw [trees] at target
    simp only [trees] at backups
    dsimp only
    rw [wp_pure]
    dsimp only
    -- Nothing disturbs the record of what has been removed.
    rw [calm_durable]
    exact ⟨target, backups⟩
  refine gives_andThen pruned ?_
  rintro _ final ⟨target, backups⟩
  have closed : closeUpgrade.gives (fun _ last => Pruned arguments state.1 last.1 ∧
      last.1.journal = none ∧ last.1.lock = none) final := by
    unfold closeUpgrade releaseHeldLock
    have unlinked : (durable unlinkUpgradeJournal : UpgradeProcess Unit).gives (fun _ last =>
        last.1.trees = final.1.trees ∧ last.1.journal = none) final := by
      refine gives_durable fun last removed => ?_
      simp only [unlinkUpgradeJournal, Action.atomic] at removed
      split at removed
      · cases removed
      · cases removed
        exact ⟨rfl, rfl⟩
    refine gives_andThen unlinked ?_
    rintro _ last ⟨same, journal⟩
    refine gives_andThen (gives_durable fun ended released => ?_) fun _ ended reached =>
      gives_set_andThen (gives_ret reached)
    cases released
    have trees : ∀ place, last.1.tree place = final.1.tree place := fun place => by
      rw [ReleaseDisk.tree, same, ReleaseDisk.tree]
    exact ⟨⟨(trees _).trans target, fun id => (trees _).trans (backups id)⟩, journal, rfl⟩
  refine gives_andThen closed fun _ last reached => gives_ret reached

/-- Which directories there are is told by distinct places. -/
def DistinctPlaces (state : ReleaseDisk × UpgradeLocals) : Prop :=
  (keys state.1.trees).Nodup

theorem distinct_put {place : Place} {tree : Tree} (distinct : (keys disk.trees).Nodup) :
    (keys (disk.put place tree).trees).Nodup :=
  nodup_keys_assign distinct place tree

theorem distinct_remove {place : Place} (distinct : (keys disk.trees).Nodup) :
    (keys (disk.remove place).trees).Nodup :=
  nodup_keys_eraseKey distinct place

theorem keeps_rename (source destination : Place) :
    (durable (rename source destination) : UpgradeProcess Unit).Keeps DistinctPlaces := by
  refine Keeps.durable fun state after distinct moved => ?_
  simp only [rename, Action.atomic] at moved
  split at moved
  · cases moved
  · cases moved
    exact distinct_put (distinct_remove distinct)
  · split at moved
    · cases moved
      exact distinct_put (distinct_remove distinct)
    · cases moved

theorem keeps_makeInside (place : Place) (path : List String) :
    (durable (makeInside place path) : UpgradeProcess Unit).Keeps DistinctPlaces := by
  refine Keeps.durable fun state after distinct made => ?_
  simp only [makeInside, Action.atomic] at made
  split at made
  · cases made
  · split at made
    · cases made
    · cases made
      exact distinct
    · cases made
      exact distinct_put distinct

theorem keeps_makeRoot (place : Place) (existOk : Bool) :
    (durable (makeRoot place existOk) : UpgradeProcess Unit).Keeps DistinctPlaces := by
  refine Keeps.durable fun state after distinct made => ?_
  simp only [makeRoot, Action.atomic] at made
  split at made
  · cases made
    exact distinct_put distinct
  · split at made
    · cases made
      exact distinct
    · cases made

theorem keeps_moveDirectory (source destination : Place) (path : List String) :
    (durable (moveDirectory source destination path) : UpgradeProcess Unit).Keeps
      DistinctPlaces := by
  refine Keeps.durable fun state after distinct moved => ?_
  simp only [moveDirectory, Action.atomic] at moved
  split at moved
  · split at moved
    · cases moved
    · split at moved
      · cases moved
      · cases moved
        exact distinct_put (distinct_put distinct)
  · cases moved

theorem keeps_writeInside (place : Place) (path : List String) (content : List UInt8) :
    (durable (writeInside place path content) : UpgradeProcess Unit).Keeps DistinctPlaces := by
  refine Keeps.durable fun state after distinct written => ?_
  simp only [writeInside] at written
  split at written
  · cases written
  · split at written
    · cases written
    · cases written
      exact distinct_put distinct

/-- A step that does not touch the directories. -/
theorem keeps_aside {action : Action ReleaseDisk}
    (aside : ∀ disk after, action.effect disk = .ok after → after.trees = disk.trees) :
    (durable action : UpgradeProcess Unit).Keeps DistinctPlaces := by
  refine Keeps.durable fun state after distinct done => ?_
  rw [DistinctPlaces, aside _ _ done]
  exact distinct

theorem keeps_audit (event : UpgradeEvent) :
    (durable (auditUpgrade event) : UpgradeProcess Unit).Keeps DistinctPlaces := by
  refine keeps_aside fun disk after done => ?_
  cases done
  rfl

theorem keeps_writeTransaction (transaction : UpgradeTransaction) (noted : UpgradeState) :
    (writeTransaction transaction noted).Keeps DistinctPlaces := by
  refine (Keeps.set fun state distinct => distinct).andThen fun _ => keeps_aside ?_
  intro disk after done
  cases done
  rfl

theorem keeps_transfer (source destination : Place) :
    (transferMutable host source destination).Keeps DistinctPlaces := by
  refine (Keeps.get _).andThen fun tree => ?_
  cases tree with
  | none => trivial
  | some tree =>
    refine (Keeps.forEach fun path => (Keeps.get _).andThen fun _ => Keeps.reject _ _).andThen
      fun _ => Keeps.forEach fun path => ?_
    refine (keeps_makeRoot _ _).andThen fun _ => ?_
    exact (Keeps.forEach fun above => keeps_makeInside _ above).andThen
      fun _ => keeps_moveDirectory _ _ _

theorem keeps_removeTree (place : Place) : (removeTree place).Keeps DistinctPlaces := by
  refine (Keeps.get _).andThen fun there => Keeps.whenever _ (Keeps.durable ?_)
  intro state after distinct removed
  simp only [removeDirectory] at removed
  split at removed
  · cases removed
  · cases removed
    exact distinct_remove distinct

theorem prepareUpgrade_keeps : (prepareUpgrade host arguments).Keeps DistinctPlaces := by
  refine (Keeps.ofExcept _).andThen fun _ => (keeps_aside ?_).andThen fun _ => ?_
  · intro disk after taken
    simp only [acquireUpgradeLock] at taken
    split at taken
    · cases taken
    · cases taken
      rfl
  refine (Keeps.set fun state distinct => distinct).andThen fun _ =>
    (Keeps.get _).andThen fun interrupted => ?_
  refine (Keeps.set fun state distinct => distinct).andThen fun _ =>
    (Keeps.reject _ _).andThen fun _ => (Keeps.get _).andThen fun target => ?_
  refine (Keeps.ofExcept _).andThen fun versions =>
    (keeps_writeTransaction _ _).andThen fun _ => ?_
  exact (keeps_audit _).andThen fun _ => trivial

theorem stageFiles_keeps : (stageFiles host arguments).Keeps DistinctPlaces := by
  refine (keeps_makeRoot _ _).andThen fun _ => (Keeps.forEach fun file => ?_).andThen fun _ =>
    keeps_writeInside _ _ _
  refine (Keeps.forEach fun above => keeps_makeInside _ above).andThen fun _ => ?_
  exact (keeps_writeInside _ _ _).andThen fun _ => Keeps.reject _ _

theorem displaceTarget_keeps (transaction : UpgradeTransaction) :
    (displaceTarget host transaction).Keeps DistinctPlaces := by
  refine (Keeps.get _).andThen fun installed =>
    (Keeps.whenever _ (keeps_rename _ _)).andThen fun _ =>
      (keeps_writeTransaction _ _).andThen fun _ => (Keeps.get _).andThen fun backedUp => ?_
  refine Keeps.whenever _ (Keeps.andThen ?_ fun _ => (keeps_transfer _ _).andThen fun _ =>
    keeps_writeTransaction _ _)
  exact (Keeps.get _).andThen fun _ => Keeps.reject _ _

theorem activateRelease_keeps (transaction : UpgradeTransaction) :
    (activateRelease transaction).Keeps DistinctPlaces := by
  refine (Keeps.catching (keeps_rename _ _) fun message => ?_).andThen fun _ => ?_
  · exact (Keeps.get _).andThen fun restorable =>
      (Keeps.whenever _ (keeps_rename _ _)).andThen fun _ => trivial
  · exact (Keeps.get _).andThen fun backedUp => (keeps_audit _).andThen fun _ =>
      keeps_writeTransaction _ _

theorem acceptRelease_keeps (transaction : UpgradeTransaction) :
    (acceptRelease arguments transaction).Keeps DistinctPlaces := by
  refine (keeps_writeTransaction _ _).andThen fun _ => (keeps_audit _).andThen fun _ => ?_
  refine (Keeps.catching ?_ fun message => keeps_audit _).andThen fun _ => Keeps.andThen ?_
    fun _ => trivial
  · refine Keeps.andThen ?_ fun removed => keeps_audit _
    refine (Keeps.get _).andThen fun backups => ?_
    exact (Keeps.forEach fun id => keeps_removeTree _).andThen fun _ => trivial
  · refine (keeps_aside fun disk after removed => ?_).andThen fun _ =>
      (keeps_aside fun disk after released => ?_).andThen fun _ =>
        Keeps.set fun state distinct => distinct
    · simp only [unlinkUpgradeJournal, Action.atomic] at removed
      split at removed
      · cases removed
      · cases removed
        rfl
    · cases released
      rfl

/-- The directories that an accepted upgrade leaves. -/
structure Accepted (host : ReleaseHost) (arguments : UpgradeArguments) (disk : ReleaseDisk)
    (release : Tree) (after : ReleaseDisk) : Prop where
  enough : 1 ≤ arguments.keepBackups
  exchanged : ∃ before left now, before.tree .target = some now ∧
    ReplacedTarget host arguments disk release left now before ∧ (keys before.trees).Nodup ∧
    Pruned arguments before after
  journal : after.journal = none
  lock : after.lock = none
  distinct : (keys after.trees).Nodup

/-- An upgrade that raises returns 1. -/
theorem applyFailed_gives {error : String} {state : ReleaseDisk × UpgradeLocals} :
    (applyFailed arguments error).gives (fun code _ => code = 1) state := by
  refine gives_last fun _ _ => gives_last fun locals _ => ?_
  split
  · exact gives_last fun _ _ => gives_ret rfl
  · exact gives_last fun _ _ => gives_ret rfl

theorem rejectRelease_gives {transaction : UpgradeTransaction}
    {state : ReleaseDisk × UpgradeLocals} :
    (rejectRelease host transaction).gives (fun code _ => code = 2) state := by
  refine gives_last fun _ _ => gives_last fun _ _ => gives_last fun _ _ => gives_last fun _ _ => ?_
  exact gives_last fun _ _ => gives_last fun _ _ => gives_last fun _ _ => gives_ret rfl

/-- What it takes for an upgrade of an installed release to return 0. -/
theorem applyUpgrade_gives (distinct : (keys disk.trees).Nodup)
    (installed : disk.tree .target = some release) :
    (applyUpgrade host arguments).gives (fun code after =>
      code = 0 → Accepted host arguments disk release after.1) (disk, locals) := by
  refine gives_catching ?_ fun message after =>
    gives_mono (fun code _ failed zero => by omega) applyFailed_gives
  have begun : DistinctPlaces (disk, locals) := distinct
  unfold applyBody
  refine gives_andThen (gives_and prepareUpgrade_gives (prepareUpgrade_keeps.gives begun)) ?_
  rintro _ prepared ⟨⟨⟨fromVersion, toVersion, rfl⟩, enough, same⟩, distinct⟩
  have trees : ∀ place, prepared.1.tree place = disk.tree place := fun place => by
    rw [ReleaseDisk.tree, same, ReleaseDisk.tree]
  refine gives_andThen (gives_and (stageFiles_gives trees) (stageFiles_keeps.gives distinct)) ?_
  rintro _ staged ⟨⟨staging, others⟩, distinct⟩
  rw [installed]
  -- The second journal and its record leave the directories alone.
  have recorded : ∀ {state : ReleaseDisk × UpgradeLocals} {event : UpgradeEvent},
      state.1.trees = staged.1.trees → (durable (auditUpgrade event)).gives
        (fun _ after => after.1.trees = staged.1.trees) state := by
    intro state event same
    refine gives_durable fun after done => ?_
    cases done
    exact same
  have noted : (writeTransaction (newUpgrade host arguments (some release) fromVersion toVersion)
      .stagingVerified).gives (fun _ after => after.1.trees = staged.1.trees) staged :=
    writeTransaction_gives fun _ => rfl
  refine gives_andThen noted fun _ journalled same => ?_
  refine gives_andThen (recorded same) fun _ verified same => ?_
  have trees' : ∀ place, verified.1.tree place = staged.1.tree place := fun place => by
    rw [ReleaseDisk.tree, same, ReleaseDisk.tree]
  have distinct : DistinctPlaces verified := by
    rw [DistinctPlaces, same]
    exact distinct
  have backups : ∀ id, verified.1.tree (.backup id) = disk.tree (.backup id) := fun id =>
    (trees' _).trans (others _ (by simp))
  have target := (trees' .target).trans ((others _ (by simp)).trans installed)
  refine gives_andThen (gives_and (displaceTarget_gives target ((trees' _).trans staging) backups)
    ((displaceTarget_keeps _).gives distinct)) ?_
  rintro _ displaced ⟨⟨-, left, now, staging, exchanged⟩, distinct⟩
  refine gives_andThen (gives_and (activateRelease_gives staging rfl exchanged)
    ((activateRelease_keeps _).gives distinct)) ?_
  rintro _ activated ⟨⟨target, exchanged⟩, distinct⟩
  split
  · exact gives_mono (fun code _ rejected zero => by omega) rejectRelease_gives
  · refine gives_mono ?_ (gives_and acceptRelease_gives ((acceptRelease_keeps _).gives distinct))
    rintro code after ⟨⟨pruned, journal, lock⟩, distinct'⟩ -
    exact ⟨enough, ⟨activated.1, left, now, target, exchanged, distinct, pruned⟩, journal, lock,
      distinct'⟩

end Upgrade

section Undo

variable {host : ReleaseHost} {undo : RollbackArguments} {disk : ReleaseDisk} {active old : Tree}
variable {state : ReleaseDisk × UpgradeLocals}

/-- A rollback that raises returns 1. -/
theorem rollbackFailed_gives {upgradeId error : String} {backup displaced : Place} :
    (rollbackFailed host upgradeId backup displaced error).gives (fun code _ => code = 1) state :=
  gives_last fun _ _ => gives_last fun _ _ => gives_ret rfl

theorem confirmRollback_gives {upgradeId : String} {displaced : Place} {expected : List FileRecord}
    {tree : Tree} (apart : Place.target ≠ displaced) (target : state.1.tree .target = some tree) :
    (confirmRollback host upgradeId displaced expected).gives
      (fun _ after => after.1.tree .target = some tree) state := by
  have read : ∀ {state : ReleaseDisk × UpgradeLocals}, state.1.tree .target = some tree →
      (durable readRelease : UpgradeProcess Unit).gives
        (fun _ after => after.1.tree .target = some tree) state := by
    intro state target
    refine gives_durable fun after done => ?_
    cases done
    exact target
  have versioned : ∀ {state : ReleaseDisk × UpgradeLocals}, state.1.tree .target = some tree →
      (readVersion host).gives (fun _ after => after.1.tree .target = some tree) state := by
    intro state target
    refine gives_andThen (read target) fun _ after target => ?_
    exact gives_get_andThen (gives_ofExcept fun _ _ => target)
  unfold confirmRollback
  refine gives_andThen (read target) fun _ after target => ?_
  have verified : (verifyInventory host .target expected).gives
      (fun _ final => final.1.tree .target = some tree) after :=
    gives_get_andThen (gives_reject fun _ => target)
  refine gives_andThen verified fun _ current target => ?_
  refine gives_andThen (versioned target) fun version current target => ?_
  have recorded : (durable (auditUpgrade (.manualRollback upgradeId version))).gives
      (fun _ final => final.1.tree .target = some tree) current := by
    refine gives_durable fun final done => ?_
    cases done
    exact target
  refine gives_andThen recorded fun _ final target => ?_
  have removed : (removeTree displaced).gives
      (fun _ last => last.1.tree .target = some tree) final :=
    removeTree_calm fun last _ _ others => (others _ apart).trans target
  refine gives_andThen removed fun _ last target => ?_
  exact gives_andThen (versioned target) fun _ _ target => gives_ret target

/-- A rollback that returns 0 has put the chosen backup in place of the active release, with the
mutable directories of that release. -/
theorem rollback_gives (target : disk.tree .target = some active) :
    (rollback host undo).gives (fun code after => code = 0 → ∃ newest old,
      (backupsOf undo.modified undo.position disk).head? = some newest ∧
      disk.tree (.backup newest) = some old ∧ ∃ left now,
        Transferred host.parents active old left now ∧ left.candidates host.parents = [] ∧
        after.1.tree .target = some now) (disk, {}) := by
  unfold rollback
  refine gives_get_andThen (gives_get_andThen (gives_get_andThen ?_))
  have stored : ∀ newest ∈ backupsOf undo.modified undo.position disk,
      ∃ tree, disk.tree (.backup newest) = some tree := fun _ => tree_of_backupsOf
  revert stored
  cases backupsOf undo.modified undo.position disk with
  | nil => exact fun _ => gives_ret (by omega)
  | cons newest rest =>
  intro stored
  obtain ⟨old, there⟩ := stored newest List.mem_cons_self
  dsimp only
  split
  · exact gives_ret (by omega)
  refine gives_get_andThen (gives_catching ?_ fun message after =>
    gives_mono (fun code _ failed zero => by omega) rollbackFailed_gives)
  unfold rollbackBody
  refine gives_get_andThen ?_
  rw [exists_of_some target]
  have transferred : (whenever true (transferMutable host .target (.backup newest))).gives
      (fun _ after => ∃ left now, after.1.tree .target = some left ∧
        after.1.tree (.backup newest) = some now ∧
        Transferred host.parents active old left now ∧ left.candidates host.parents = [])
      (disk, {}) := by
    refine gives_whenever (fun _ => ?_) nofun
    exact transfer_calm _ (by simp) target there (transferred_survives active old) (.refl _ _ _)
      (fun _ _ _ => trivial) fun after left now _ trading moved empty =>
        ⟨left, now, trading.origin, trading.there, moved, empty⟩
  refine gives_andThen transferred ?_
  rintro _ after ⟨left, now, here, backup, moved, empty⟩
  refine gives_get_andThen ?_
  rw [exists_of_some here]
  have aside : (whenever true (durable (rename .target (.displaced undo.upgradeId)))).gives
      (fun _ final => final.1.tree (.backup newest) = some now) after := by
    refine gives_whenever (fun _ => rename_gives here ?_) nofun
    simp [backup]
  refine gives_andThen aside fun _ final backup => ?_
  have placed : (durable (rename (.backup newest) .target)).gives
      (fun _ last => last.1.tree .target = some now) final := rename_gives backup (by simp)
  refine gives_andThen placed fun _ last here => ?_
  refine gives_mono ?_ (confirmRollback_gives (by simp) here)
  exact fun _ _ here _ => ⟨newest, old, rfl, there, left, now, moved, empty, here⟩

end Undo

section Results

variable {host : ReleaseHost} {arguments : UpgradeArguments} {undo : RollbackArguments}
  {disk : ReleaseDisk} {release : Tree} {id : String}
variable {now : Tree}

/-- The backups among which the retention chooses: the new one, and those that are there. -/
def offeredBackups (arguments : UpgradeArguments) (disk : ReleaseDisk) : List String :=
  arguments.upgradeId :: disk.backupIds.filter (· ≠ arguments.upgradeId)

/-- A backup is retained if fewer than the number to be kept outrank it: newer ones, and those of
the same time that are listed before it. -/
def Retained (arguments : UpgradeArguments) (disk : ReleaseDisk) (id : String) : Prop :=
  id ∈ offeredBackups arguments disk ∧
    ((offeredBackups arguments disk).filter fun other =>
      decide (Outranks arguments.modified arguments.position other id)).length <
        arguments.keepBackups.toNat

instance : Decidable (Retained arguments disk id) :=
  inferInstanceAs (Decidable (_ ∧ _))

/-- The retained backup that a rollback chooses, by the times as it reads them. -/
def Chosen (arguments : UpgradeArguments) (undo : RollbackArguments) (disk : ReleaseDisk)
    (id : String) : Prop :=
  Retained arguments disk id ∧
    ∀ other, Retained arguments disk other → ¬Outranks undo.modified undo.position other id

/-- The release in a backup; the new backup holds the old release. -/
def storedRelease (arguments : UpgradeArguments) (disk : ReleaseDisk) (release : Tree)
    (id : String) : Tree :=
  if id = arguments.upgradeId then release else disk.treeOrEmpty (.backup id)

def BackupHolds (host : ReleaseHost) (upgradeId : String) (release : Tree) (disk : ReleaseDisk) :
    Prop :=
  ∃ backup, disk.tree (.backup upgradeId) = some backup ∧
    backup.inventory host.sha256 = release.inventory host.sha256

/-- A rollback has brought a release back, with the mutable directories of the one before it. -/
structure BringsBack (host : ReleaseHost) (release : Tree) (before after : ReleaseDisk) :
    Prop where
  inventory : inventoryOf host (after.tree .target) = release.inventory host.sha256
  mutableDirectories : ∀ entry ∈ (before.treeOrEmpty .target).entries,
    (before.treeOrEmpty .target).Holds entry.1 → entry ∈ (after.treeOrEmpty .target).entries

/-- The release that a rollback chooses is the one that the upgrade has replaced, and the mutable
directories that the package ships are moved there, or are there. -/
structure BringsBackRelease (host : ReleaseHost) (arguments : UpgradeArguments)
    (release chosen : Tree) : Prop where
  inventory : chosen.inventory host.sha256 = release.inventory host.sha256
  mutableDirectories : Visible host.parents ∨ ∀ entry ∈ (shippedRelease arguments).entries,
    (shippedRelease arguments).Holds entry.1 → entry ∈ chosen.entries

theorem ReplacedTarget.perm_offered {before : ReleaseDisk} {left : Tree}
    (exchanged : ReplacedTarget host arguments disk release left now before)
    (distinct : (keys before.trees).Nodup) (distinct' : (keys disk.trees).Nodup) :
    before.backupIds.Perm (offeredBackups arguments disk) := by
  refine (List.perm_ext_iff_of_nodup (nodup_backupIds distinct) ?_).mpr fun id => ?_
  · exact List.nodup_cons.mpr ⟨by simp, (nodup_backupIds distinct').filter _⟩
  · rw [mem_backupIds, offeredBackups, List.mem_cons, List.mem_filter, mem_backupIds]
    by_cases same : id = arguments.upgradeId
    · simp [same, exchanged.backup]
    · simp [same, exchanged.others id same]

/-- Listing positions tell the offered backups apart. -/
def ListedApart (position : String → Nat) (ids : List String) : Prop :=
  ∀ first ∈ ids, ∀ second ∈ ids, position first = position second → first = second

instance (position : String → Nat) (ids : List String) : Decidable (ListedApart position ids) :=
  inferInstanceAs (Decidable (∀ first ∈ ids, ∀ second ∈ ids, _ → _))

/-- What the retention leaves is among the first of the offered backups. -/
theorem ReplacedTarget.retained_iff {before : ReleaseDisk} {left : Tree}
    (exchanged : ReplacedTarget host arguments disk release left now before)
    (distinct : (keys before.trees).Nodup) (distinct' : (keys disk.trees).Nodup)
    (apart : ListedApart arguments.position (offeredBackups arguments disk)) :
    Retained arguments disk id ↔ id ∈ before.backupIds ∧ id ∉ retiredBackups arguments before := by
  have same := exchanged.perm_offered distinct distinct'
  have nodup := nodup_backupIds distinct
  have ranks := perm_ranked arguments.modified arguments.position before.backupIds
  have apart' : ∀ first ∈ before.backupIds, ∀ second ∈ before.backupIds,
      arguments.position first = arguments.position second → first = second :=
    fun first one second two => apart first (same.mem_iff.mp one) second (same.mem_iff.mp two)
  -- The retention removes what is behind the first backups.
  have kept : id ∈ (ranked arguments.modified arguments.position before.backupIds).take
      arguments.keepBackups.toNat ↔ _ := mem_take_iff (ranks.nodup_iff.mpr nodup)
  rw [mem_take_ranked apart' nodup, ranks.mem_iff] at kept
  rw [retiredBackups, backupsOf_eq_ranked, ← kept, Retained, same.mem_iff, (same.filter fun other =>
      decide (Outranks arguments.modified arguments.position other id)).length_eq]

theorem Accepted.backups {after : ReleaseDisk}
    (accepted : Accepted host arguments disk release after) (distinct : (keys disk.trees).Nodup)
    (apart : ListedApart arguments.position (offeredBackups arguments disk)) :
    ∃ left now, after.tree .target = some now ∧
      Transferred host.parents release (shippedRelease arguments) left now ∧
      left.candidates host.parents = [] ∧ ∀ id, after.tree (.backup id) =
        if Retained arguments disk id then
          if id = arguments.upgradeId then some left else disk.tree (.backup id)
        else none := by
  obtain ⟨before, left, now, target, exchanged, distinct', pruned⟩ := accepted.exchanged
  refine ⟨left, now, pruned.target.trans target, exchanged.moved, exchanged.empty, fun id => ?_⟩
  have judged : Retained arguments disk id ↔ _ := exchanged.retained_iff distinct' distinct apart
  rw [pruned.backups]
  by_cases retained : Retained arguments disk id
  · rw [if_pos retained, if_neg (judged.mp retained).2]
    split
    · next same => rw [same, exchanged.backup]
    · next differs => exact exchanged.others id differs
  · rw [if_neg retained]
    split
    · rfl
    · next kept =>
      -- What is neither retained nor removed has never been there.
      have missing : id ∉ before.backupIds := fun there => retained (judged.mpr ⟨there, kept⟩)
      rw [mem_backupIds, Bool.not_eq_true, Option.isSome_eq_false_iff,
        Option.isNone_iff_eq_none] at missing
      exact missing

theorem Transferred.hidden {parents : List String} {source destination left : Tree}
    (moved : Transferred parents source destination left now) (hidden : ¬Visible parents) :
    (∀ entry, entry ∈ left.entries ↔ entry ∈ source.entries) ∧
      ∀ entry, IsMutable entry.1 → (entry ∈ now.entries ↔ entry ∈ destination.entries) := by
  have none : source.candidates parents = [] := Tree.candidates_of_hidden _ hidden
  refine ⟨fun entry => ⟨fun inside => moved.left.subset inside, fun inside => ?_⟩, ?_⟩
  · exact moved.outside entry inside (by simp [none])
  · intro entry held
    refine ⟨fun inside => ?_, moved.kept entry⟩
    rcases moved.arrived entry inside with before | ⟨-, path, chosen, -⟩ | ⟨-, free⟩
    · exact before
    · simp [none] at chosen
    · exact absurd held free

/-- The mutable directories of a release that has taken over none are those that it ships. -/
theorem Transferred.hidden_holds {parents : List String} {source destination left : Tree}
    (moved : Transferred parents source destination left now) (hidden : ¬Visible parents)
    {path : List String} : now.Holds path ↔ destination.Holds path := by
  have same := (moved.hidden hidden).2
  have outer : ∀ above, above ∈ now.outermost ↔ above ∈ destination.outermost := by
    intro above
    rw [Tree.mem_outermost, Tree.mem_outermost]
    constructor
    · exact fun both => ⟨(same _ (isMutable_of_outermost both.2)).mp both.1, both.2⟩
    · exact fun both => ⟨(same _ (isMutable_of_outermost both.2)).mpr both.1, both.2⟩
  simp only [Tree.Holds, outer]

theorem Accepted.chosen_iff {after : ReleaseDisk}
    (accepted : Accepted host arguments disk release after) (distinct : (keys disk.trees).Nodup)
    (apart : ListedApart arguments.position (offeredBackups arguments disk))
    (apart' : ListedApart undo.position (offeredBackups arguments disk)) :
    (backupsOf undo.modified undo.position after).head? = some id ↔
      Chosen arguments undo disk id := by
  obtain ⟨left, now, -, -, -, backups⟩ := accepted.backups distinct apart
  have listed : ∀ other, other ∈ after.backupIds ↔ Retained arguments disk other := by
    intro other
    rw [mem_backupIds, backups]
    split
    · next retained =>
      refine iff_of_true ?_ retained
      split
      · rfl
      · next differs =>
        -- Another backup that is offered is one of the disk.
        have offered := (List.mem_cons.mp retained.1).resolve_left differs
        exact mem_backupIds.mp (List.mem_filter.mp offered).1
    · next gone => exact iff_of_false (by simp) gone
  rw [backupsOf_eq_ranked, head_ranked_iff _ (nodup_backupIds accepted.distinct)]
  · simp only [listed, Chosen]
  · intro first one second two
    exact apart' first ((listed first).mp one).1 second ((listed second).mp two).1

/-- After an upgrade has succeeded, the backup of the old release is there exactly when fewer than
the number of backups to be kept are newer, and a rollback brings the old release back, with the
mutable directories of the new one, exactly when the retained backup that is newest for the rollback
holds such a release and nothing hides the mutable directories. -/
theorem upgrade_undone_iff (host : ReleaseHost) (arguments : UpgradeArguments)
    (undo : RollbackArguments) (disk : ReleaseDisk) (release : Tree)
    (installed : disk.tree .target = some release) (distinct : (keys disk.trees).Nodup)
    (apart : ListedApart arguments.position (offeredBackups arguments disk))
    (apart' : ListedApart undo.position (offeredBackups arguments disk))
    (applied : ((applyUpgrade host arguments).start (disk, {}) []).1 = .ok 0) :
    let after := ((applyUpgrade host arguments).start (disk, {}) []).2.state.1
    let undone := (rollback host undo).start (after, {}) []
    (BackupHolds host arguments.upgradeId release after ↔
      Retained arguments disk arguments.upgradeId) ∧
    (undone.1 = .ok 0 → (BringsBack host release after undone.2.state.1 ↔
      ∀ id, Chosen arguments undo disk id →
        BringsBackRelease host arguments release (storedRelease arguments disk release id))) := by
  have accepted := start_gives (applyUpgrade_gives distinct installed) applied rfl
  revert accepted
  generalize ((applyUpgrade host arguments).start (disk, {}) []).2.state.1 = after
  intro accepted
  obtain ⟨left, now, target, moved, empty, backups⟩ := accepted.backups distinct apart
  have mine : left.inventory host.sha256 = release.inventory host.sha256 :=
    Tree.inventory_congr moved.released _
  dsimp only
  constructor
  · rw [BackupHolds, backups, if_pos rfl]
    constructor
    · rintro ⟨backup, here, -⟩
      by_contra gone
      rw [if_neg gone] at here
      cases here
    · intro retained
      rw [if_pos retained]
      exact ⟨left, rfl, mine⟩
  intro returned
  obtain ⟨newest, old, first, there, left', now', moved', empty', target'⟩ :=
    start_gives (rollback_gives target) returned rfl
  generalize ((rollback host undo).start (after, {}) []).2.state.1 = final at target'
  have chosen := (accepted.chosen_iff distinct apart apart').mp first
  have only : ∀ id, Chosen arguments undo disk id → id = newest := by
    intro id other
    have same := (accepted.chosen_iff distinct apart apart').mpr other
    rw [first] at same
    exact (Option.some.inj same).symm
  have shown : BringsBack host release after final ↔
      now'.inventory host.sha256 = release.inventory host.sha256 ∧
      ∀ entry ∈ now.entries, now.Holds entry.1 → entry ∈ now'.entries := by
    constructor
    · rintro ⟨same, kept⟩
      rw [target'] at same
      rw [ReleaseDisk.treeOrEmpty_of_some target, ReleaseDisk.treeOrEmpty_of_some target'] at kept
      exact ⟨same, kept⟩
    · rintro ⟨same, kept⟩
      refine ⟨by rw [target']; exact same, ?_⟩
      rw [ReleaseDisk.treeOrEmpty_of_some target, ReleaseDisk.treeOrEmpty_of_some target']
      exact kept
  have stored : old.inventory host.sha256 =
        (storedRelease arguments disk release newest).inventory host.sha256 ∧
      (¬Visible host.parents → ∀ entry, entry ∈ old.entries ↔
        entry ∈ (storedRelease arguments disk release newest).entries) := by
    rw [backups, if_pos chosen.1] at there
    unfold storedRelease
    split
    · next same =>
      rw [if_pos same] at there
      cases there
      exact ⟨mine, fun hidden => (moved.hidden hidden).1⟩
    · next differs =>
      rw [if_neg differs] at there
      rw [ReleaseDisk.treeOrEmpty_of_some there]
      exact ⟨rfl, fun _ _ => Iff.rfl⟩
  rw [shown, Tree.inventory_congr moved'.received, moved'.keeps_held_iff empty', stored.1]
  -- Where the mutable directories are hidden, the new release has those that it ships.
  have shipped : (Visible host.parents ∨
        ∀ entry ∈ now.entries, now.Holds entry.1 → entry ∈ old.entries) ↔
      (Visible host.parents ∨ ∀ entry ∈ (shippedRelease arguments).entries,
        (shippedRelease arguments).Holds entry.1 →
          entry ∈ (storedRelease arguments disk release newest).entries) := by
    by_cases visible : Visible host.parents
    · simp [visible]
    · simp only [visible, false_or]
      have holds : ∀ {path}, now.Holds path ↔ (shippedRelease arguments).Holds path :=
        moved.hidden_holds visible
      constructor
      · intro kept entry inside held
        rw [← stored.2 visible]
        exact kept entry (moved.kept entry inside) (holds.mpr held)
      · intro kept entry inside held
        rw [stored.2 visible]
        exact kept entry (((moved.hidden visible).2 entry held.isMutable).mp inside)
          (holds.mp held)
  rw [shipped]
  constructor
  · rintro ⟨same, kept⟩ id other
    rw [only id other]
    exact ⟨same, kept⟩
  · intro brought
    exact ⟨(brought newest chosen).inventory, (brought newest chosen).mutableDirectories⟩

/-- Release 1 with its logs, beside the backup of an earlier upgrade. -/
def retentionDisk : ReleaseDisk where
  trees := [(.target, sampleRelease), (.backup "u0", ⟨[(["pdr-release.json"], .file [48])]⟩)]

/-- An upgrade to release 2 that keeps one backup; the times of the directories are given. -/
def retentionUpgrade (modified : String → Int) : UpgradeArguments :=
  { sampleUpgrade with
    healthy := true
    keepBackups := 1
    modified
    position := fun id => if id = "u1" then 1 else 0 }

def retentionRollback (modified : String → Int) : RollbackArguments where
  upgradeId := "r1"
  modified
  position id := if id = "u1" then 1 else 0

/-- The directory of release 1 is the newest one. -/
def replacedNewest (id : String) : Int :=
  if id = "u1" then 7 else 3

/-- The directory of release 1 was modified before the earlier backup was. -/
def earlierNewest (id : String) : Int :=
  if id = "u1" then 3 else 7

/-- Where the directory of the old release is the newest, its backup is kept and brought back. -/
theorem newest_backup_brought_back :
    let after := ((applyUpgrade sampleHost (retentionUpgrade replacedNewest)).start
      (retentionDisk, {}) []).2.state.1
    BackupHolds sampleHost "u1" sampleRelease after ∧
      BringsBack sampleHost sampleRelease after
        ((rollback sampleHost (retentionRollback replacedNewest)).start (after, {}) []).2.state.1 := by
  have exact' := upgrade_undone_iff sampleHost (retentionUpgrade replacedNewest)
    (retentionRollback replacedNewest) retentionDisk sampleRelease (by decide) (by decide) (by decide)
    (by decide) (by decide +kernel)
  refine ⟨exact'.1.mpr (by decide), (exact'.2 (by decide +kernel)).mpr ?_⟩
  intro id chosen
  have listed : id = "u1" ∨ id = "u0" := by
    have offered := chosen.1.1
    rw [show offeredBackups (retentionUpgrade replacedNewest) retentionDisk = ["u1", "u0"] by decide]
      at offered
    simpa using offered
  rcases listed with rfl | rfl
  · exact ⟨rfl, .inl (by simp [Visible, sampleHost, mutableParts])⟩
  · -- The earlier backup has not been retained.
    exact absurd chosen.1 (by decide)

/-- Where an earlier backup is newer than the directory of the old release, the upgrade removes the
release that it has just replaced. -/
theorem retention_removes_replaced_release :
    ¬∀ (host : ReleaseHost) (arguments : UpgradeArguments) (undo : RollbackArguments)
      (disk : ReleaseDisk) (release : Tree), disk.tree .target = some release →
      (keys disk.trees).Nodup →
      ListedApart arguments.position (offeredBackups arguments disk) →
      ListedApart undo.position (offeredBackups arguments disk) →
      ((applyUpgrade host arguments).start (disk, {}) []).1 = .ok 0 →
      let after := ((applyUpgrade host arguments).start (disk, {}) []).2.state.1
      let undone := (rollback host undo).start (after, {}) []
      BackupHolds host arguments.upgradeId release after ∧
        (undone.1 = .ok 0 → BringsBack host release after undone.2.state.1) := by
  intro always
  obtain ⟨⟨backup, here, -⟩, -⟩ := always sampleHost (retentionUpgrade earlierNewest)
    (retentionRollback earlierNewest) retentionDisk sampleRelease (by decide) (by decide)
    (by decide) (by decide) (by decide +kernel)
  have gone : ((applyUpgrade sampleHost (retentionUpgrade earlierNewest)).start
      (retentionDisk, {}) []).2.state.1.tree (.backup "u1") = none := by decide +kernel
  have same : some backup = none := here.symm.trans gone
  cases same

end Results

end PocoDDS.Tools
