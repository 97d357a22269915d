import PocoDDS.Lib.SingleFault
import PocoDDS.Tools.RecoveryPoint

/-! A restore that fails once it has begun to change files: what its result says of them. -/

namespace PocoDDS.Tools.RestorePoint

open CrashLogic JsonModel Monitoring OutcomeLogic ProcessLogic Process SnapshotInspection

section Sources

variable {host : RestoreHost} {arguments : RestoreArguments} {point : RecoveryPoint}

def RecoveryPoint.content (host : RestoreHost) (point : RecoveryPoint) (role : Role) :
    Option (List UInt8) :=
  match host.readManifest (point.manifest.getD []) with
  | .error _ => none
  | .ok manifest => (manifest.entryOf role).bind (point.artifact host)

theorem Role.mem_all (role : Role) : role ∈ Role.all := by
  cases role <;> decide

theorem Role.nodup_all : Role.all.Nodup := by
  decide

theorem verifyEntry_ok {roles paths : List String} {entry : RecoveryEntry} {path : String}
    (checked : verifyEntry host point roles paths entry = .ok path) :
    ∃ content, point.artifact host entry = some content ∧
      describes host entry.sizeBytes entry.sha256 content = true := by
  unfold verifyEntry at checked
  obtain ⟨relative, safe, checked⟩ := bind_eq_ok.mp checked
  split at checked
  · cases checked
  · split at checked
    · cases checked
    · next content found =>
      refine ⟨content, ?_, ?_⟩
      · rw [RecoveryPoint.artifact, safe]
        exact found
      · by_contra differs
        rw [Bool.not_eq_true] at differs
        simp [differs] at checked

theorem verifyEntries_ok {roles paths : List String} {entries : List RecoveryEntry}
    {result : List String × List String}
    (checked : verifyEntries host point roles paths entries = .ok result) :
    ∀ entry ∈ entries, ∃ content, point.artifact host entry = some content ∧
      describes host entry.sizeBytes entry.sha256 content = true := by
  induction entries generalizing roles paths with
  | nil => simp
  | cons first rest ih =>
    rw [verifyEntries] at checked
    obtain ⟨path, one, others⟩ := bind_eq_ok.mp checked
    intro entry listed
    rcases List.mem_cons.mp listed with rfl | later
    · exact verifyEntry_ok one
    · exact ih others entry later

theorem verifyRecoveryPoint_ok {digest : String}
    (verified : verifyRecoveryPoint host point = .ok digest) :
    ∃ manifest, host.readManifest (point.manifest.getD []) = .ok manifest ∧
      point.manifest.map host.sha256 = some digest ∧
      ∀ entry ∈ manifest.files, ∃ content, point.artifact host entry = some content ∧
        describes host entry.sizeBytes entry.sha256 content = true := by
  unfold verifyRecoveryPoint at verified
  split at verified
  swap
  · cases verified
  next text expected here _ =>
  simp only [here, Option.getD_some, Option.map_some]
  dsimp only at verified
  split at verified
  · cases verified
  split at verified
  · cases verified
  obtain ⟨manifest, read, verified⟩ := bind_eq_ok.mp verified
  split at verified
  · cases verified
  split at verified
  · cases verified
  obtain ⟨⟨roles, paths⟩, entries, verified⟩ := bind_eq_ok.mp verified
  dsimp only at verified
  split at verified
  · cases verified
  refine ⟨manifest, read, ?_, verifyEntries_ok entries⟩
  split at verified
  · cases verified
  · cases verified
  · cases verified
    rfl

def Sourced (host : RestoreHost) (point : RecoveryPoint) (target : RestoreTarget) : Prop :=
  match target.source with
  | none => point.content host target.role = none
  | some entry => ∃ content, point.artifact host entry = some content ∧
      point.content host target.role = some content ∧
      describes host entry.sizeBytes entry.sha256 content = true

/-- The targets of a restore are the five destinations, each with its source. -/
theorem restoreTargets_ok {manifest : RecoveryManifest} {targets : List RestoreTarget}
    (read : host.readManifest (point.manifest.getD []) = .ok manifest)
    (files : ∀ entry ∈ manifest.files, ∃ content, point.artifact host entry = some content ∧
      describes host entry.sizeBytes entry.sha256 content = true)
    (checked : restoreTargets host arguments manifest = .ok targets) :
    targets.map RestoreTarget.role = Role.all ∧ ∀ target ∈ targets, Sourced host point target := by
  unfold restoreTargets at checked
  dsimp only at checked
  split at checked
  · cases checked
  split at checked
  · cases checked
  -- One target is made for each role.
  have made : ∀ {role : Role} {target : RestoreTarget}, (match manifest.entryOf role with
      | none => (return ⟨role, none⟩ : Except String RestoreTarget)
      | some entry => do
        let relative ← safeRecoveryRelative host entry.path
        if arguments.destination role = arguments.point ++ "/" ++ relative then
          .error ("restore source and destination overlap: " ++ role.name)
        return ⟨role, some entry⟩) = .ok target →
      target = ⟨role, manifest.entryOf role⟩ := by
    intro role target one
    cases found : manifest.entryOf role with
    | none =>
      rw [found] at one
      cases one
      rfl
    | some entry =>
      simp only [found] at one
      obtain ⟨relative, -, one⟩ := bind_eq_ok.mp one
      split at one
      · cases one
      · cases one
        rfl
  have shape : targets.map (fun target => target) =
      Role.all.map fun role => ⟨role, manifest.entryOf role⟩ :=
    mapM_map checked fun {_ _} one => made one
  rw [List.map_id'] at shape
  constructor
  · rw [shape, List.map_map]
    exact List.map_id' _
  · intro target listed
    rw [shape] at listed
    obtain ⟨role, -, one⟩ := List.mem_map.mp listed
    rw [← one, Sourced, RecoveryPoint.content, read]
    dsimp only
    cases found : manifest.entryOf role with
    | none => rfl
    | some entry =>
      have inside : entry ∈ manifest.files :=
        List.mem_reverse.mp (List.mem_of_find?_eq_some found)
      obtain ⟨content, here, described⟩ := files entry inside
      exact ⟨content, here, here, described⟩

end Sources

section Archive

variable {host : RestoreHost} {before : RestoreDisk} {targets : List RestoreTarget}
  {post : Except String Unit → RestoreDisk × RestoreLocals → Prop}
  {state : RestoreDisk × RestoreLocals}

theorem readFile_calm (holds : post (.ok ()) state) :
    (durable readFile).wp false (fun _ _ => True) post state :=
  wp_durable_calm.mpr holds

/-- What the archive says of a destination as it was before. -/
def entryFor (host : RestoreHost) (before : RestoreDisk) (role : Role) : ArchiveEntry :=
  ⟨role, (before.file (.destination role)).map fun content => (content.length, host.sha256 content)⟩

theorem matches_entryFor (host : RestoreHost) (before : RestoreDisk) (role : Role) :
    matchesArchiveState host (before.file (.destination role)) (entryFor host before role) =
      true := by
  unfold matchesArchiveState entryFor
  cases before.file (.destination role) with
  | none => rfl
  | some content => simp [describes]

theorem archiveTarget_calm {target : RestoreTarget}
    (free : state.1.file (.archiving target.role) = none)
    (ended : post (.ok ()) (state.1.put (.archiving target.role)
        (state.1.file (.destination target.role)),
      { state.2 with collected := state.2.collected ++ [entryFor host state.1 target.role] })) :
    (archiveTarget host target).wp false (fun _ _ => True) post state := by
  unfold archiveTarget
  rw [wp_get_andThen]
  unfold entryFor at ended
  cases here : state.1.file (.destination target.role) with
  | none =>
    rw [here] at ended
    have same : state.1.put (.archiving target.role) none = state.1 := by
      rw [RestoreDisk.put, ← free, Function.update_eq_self]
    rw [same] at ended
    exact ended
  | some content =>
    rw [here] at ended
    simp only [Option.isSome_some, if_true]
    rw [wp_andThen, wp_durable_calm]
    simp only [copyFile, here, copyContent]
    rw [wp_andThen]
    refine readFile_calm ?_
    dsimp only
    rw [wp_get_andThen]
    simpa [RestoreDisk.put] using ended

def OutsideArchive (before disk : RestoreDisk) : Prop :=
  ∀ place, (∀ role, place ≠ .archiving role) → (∀ role, place ≠ .archived role) →
    disk.file place = before.file place

theorem OutsideArchive.destination {disk : RestoreDisk} (same : OutsideArchive before disk)
    (role : Role) : disk.file (.destination role) = before.file (.destination role) :=
  same _ (by simp) (by simp)

/-- How far the archive has come when some targets are still to be copied. -/
structure Archiving (host : RestoreHost) (before : RestoreDisk) (locals : RestoreLocals)
    (done rest : List RestoreTarget) (state : RestoreDisk × RestoreLocals) : Prop where
  outside : OutsideArchive before state.1
  copied : ∀ target ∈ done, state.1.file (.archiving target.role) =
    before.file (.destination target.role)
  free : ∀ role, (∀ target ∈ done, target.role ≠ role) → state.1.file (.archiving role) = none
  locals : state.2 = { locals with collected := done.map fun target => entryFor host before target.role }

theorem archiveTargets_calm {locals : RestoreLocals} (distinct : (targets.map RestoreTarget.role).Nodup)
    (begun : Archiving host before locals [] targets state)
    (ended : ∀ after, Archiving host before locals targets [] after → post (.ok ()) after) :
    (forEach targets (archiveTarget host)).wp false (fun _ _ => True) post state := by
  refine wp_forEach (fun rest state => ∃ done, done ++ rest = targets ∧
    Archiving host before locals done rest state) ?_ ?_ ⟨[], rfl, begun⟩
  · rintro target rest state ⟨done, whole, archiving⟩
    have fresh : ∀ other ∈ done, other.role ≠ target.role := by
      intro other inside same
      rw [← whole, List.map_append, List.map_cons] at distinct
      have apart := (List.nodup_append.mp distinct).2.2
      exact apart _ (List.mem_map_of_mem inside) _ List.mem_cons_self same
    have entry : entryFor host state.1 target.role = entryFor host before target.role := by
      unfold entryFor
      rw [archiving.outside.destination]
    refine archiveTarget_calm (archiving.free _ fresh) ⟨done ++ [target], by simp [whole], ?_⟩
    constructor
    · intro place one two
      have differs : place ≠ .archiving target.role := one _
      simp only [RestoreDisk.put, Function.update_of_ne differs]
      exact archiving.outside place one two
    · intro other inside
      rcases List.mem_append.mp inside with earlier | now
      · have differs : RestorePlace.archiving other.role ≠ .archiving target.role := by
          simpa using fresh other earlier
        simp only [RestoreDisk.put, Function.update_of_ne differs]
        exact archiving.copied other earlier
      · rw [List.mem_singleton.mp now]
        simp only [RestoreDisk.put, Function.update_self]
        exact archiving.outside.destination _
    · intro role missing
      have differs : RestorePlace.archiving role ≠ .archiving target.role := by
        have one := missing target (by simp)
        simpa using Ne.symm one
      simp only [RestoreDisk.put, Function.update_of_ne differs]
      exact archiving.free role fun other inside => missing other (by simp [inside])
    · rw [archiving.locals, entry]
      simp
  · rintro state ⟨done, whole, archiving⟩
    rw [List.append_nil] at whole
    exact ended state (whole ▸ archiving)

/-- The archive has every destination as it was before. -/
structure Archived (host : RestoreHost) (before : RestoreDisk) (entries : List ArchiveEntry)
    (disk : RestoreDisk) : Prop where
  stored : ∀ role, disk.file (.archived role) = before.file (.destination role)
  listed : ∀ role, archiveEntryOf entries role = some (entryFor host before role)

theorem archiveEntryOf_map (roles : targets.map RestoreTarget.role = Role.all) (role : Role) :
    archiveEntryOf (targets.map fun target => entryFor host before target.role) role =
      some (entryFor host before role) := by
  have same : (targets.map fun target => entryFor host before target.role) =
      Role.all.map (entryFor host before) := by
    rw [← roles, List.map_map]
    rfl
  rw [same]
  cases role <;> rfl

/-- Before it gets its name, the archive is found to be as it says. -/
theorem verifyArchived_calm {locals : RestoreLocals}
    (archiving : Archiving host before locals targets [] state)
    (ended : post (.ok ()) state) :
    (forEach (targets.map fun target => entryFor host before target.role)
      (verifyArchived host)).wp false (fun _ _ => True) post state := by
  refine wp_forEach (fun rest after => after = state ∧ ∀ entry ∈ rest,
    entry ∈ targets.map fun target => entryFor host before target.role) ?_ ?_
    ⟨rfl, fun _ inside => inside⟩
  · rintro entry rest after ⟨rfl, listed⟩
    obtain ⟨target, inside, rfl⟩ := List.mem_map.mp (listed entry List.mem_cons_self)
    have later := fun other due => listed other (List.mem_cons_of_mem _ due)
    unfold verifyArchived
    rw [wp_whenever]
    split
    · rw [wp_andThen]
      refine readFile_calm ?_
      dsimp only
      rw [wp_get_andThen, wp_reject]
      have copied := archiving.copied target inside
      have shown : (entryFor host before target.role).role = target.role := rfl
      rw [shown, copied, matches_entryFor]
      exact ⟨rfl, later⟩
    · exact ⟨rfl, later⟩
  · rintro after ⟨rfl, -⟩
    exact ended

/-- Without a fault the archive is always published. -/
theorem archiveRestoreTargets_calm (roles : targets.map RestoreTarget.role = Role.all)
    (outside : OutsideArchive before state.1) (fresh : ∀ role, state.1.file (.archiving role) = none)
    (unmade : state.1.archiveStaging = false) (uncollected : state.2.collected = [])
    (ended : ∀ disk collected entries, OutsideArchive before disk →
      Archived host before entries disk →
      post (.ok ()) (disk, { state.2 with collected, archive := some entries })) :
    (archiveRestoreTargets host targets).wp false (fun _ _ => True) post state := by
  unfold archiveRestoreTargets
  rw [wp_catching, wp_andThen, wp_durable_calm]
  simp only [makeArchive, Action.atomic, unmade, Bool.false_eq_true, if_false]
  rw [wp_andThen]
  have distinct : (targets.map RestoreTarget.role).Nodup := by
    rw [roles]
    exact Role.nodup_all
  have begun : Archiving host before state.2 [] targets
      ({ state.1 with archiveStaging := true }, state.2) :=
    ⟨outside, by simp, fun role _ => fresh role, by rw [List.map_nil, ← uncollected]⟩
  refine archiveTargets_calm distinct begun ?_
  intro after archiving
  dsimp only
  rw [wp_get_andThen, wp_andThen, wp_durable_calm]
  simp only [writeArchiveManifest, Action.atomic]
  rw [wp_andThen]
  have shown : after.2.collected = targets.map fun target => entryFor host before target.role := by
    rw [archiving.locals]
  rw [shown]
  have archiving' : Archiving host before state.2 targets []
      ({ after.1 with preRestoreManifest := some (targets.map fun target =>
        entryFor host before target.role) }, after.2) :=
    ⟨archiving.outside, archiving.copied, archiving.free, archiving.locals⟩
  refine verifyArchived_calm archiving' ?_
  dsimp only
  rw [wp_andThen, wp_durable_calm]
  simp only [publishArchive, Action.atomic]
  rw [wp_set, archiving.locals]
  refine ended _ _ _ ?_ ⟨fun role => ?_, archiveEntryOf_map roles⟩
  · intro place one two
    have same := archiving.outside place one two
    cases place with
    | archived role => exact absurd rfl (two role)
    | archiving role => exact absurd rfl (one role)
    | destination | staged | rollbackStage => exact same
  · -- Every role has its target, whose copy gets its name now.
    have listed : role ∈ targets.map RestoreTarget.role := by
      rw [roles]
      exact Role.mem_all role
    obtain ⟨target, inside, rfl⟩ := List.mem_map.mp listed
    exact archiving.copied target inside

end Archive

section Prepare

variable {host : RestoreHost} {arguments : RestoreArguments} {point : RecoveryPoint}
  {before : RestoreDisk} {targets : List RestoreTarget}
  {post : Except String Unit → RestoreDisk × RestoreLocals → Prop}
  {state : RestoreDisk × RestoreLocals}

/-- The paths that are to be removed at the end, once a target has been staged. -/
def stagedPathsOf (host : RestoreHost) (point : RecoveryPoint) (roles : List Role) : List Role :=
  roles.filter fun role => (point.content host role).isSome

theorem stageTarget_calm {target : RestoreTarget} (sourced : Sourced host point target)
    (free : state.1.file (.staged target.role) = none)
    (ended : post (.ok ()) (state.1.put (.staged target.role) (point.content host target.role),
      { state.2 with
        stagedPaths := state.2.stagedPaths ++ stagedPathsOf host point [target.role] })) :
    (stageTarget host arguments point target).wp false (fun _ _ => True) post state := by
  unfold stageTarget
  unfold Sourced at sourced
  cases source : target.source with
  | none =>
    rw [source] at sourced
    have same : state.1.put (.staged target.role) none = state.1 := by
      rw [RestoreDisk.put, ← free, Function.update_eq_self]
    simp only [stagedPathsOf, sourced, same, List.filter_cons, Option.isSome_none,
      Bool.false_eq_true, if_false, List.filter_nil, List.append_nil] at ended
    exact ended
  | some entry =>
    rw [source] at sourced
    obtain ⟨content, here, shown, described⟩ := sourced
    dsimp only
    rw [wp_get_andThen, wp_andThen, wp_reject]
    simp only [free, Option.isSome_none, Bool.false_eq_true, if_false]
    rw [wp_andThen, wp_ofExcept, here]
    dsimp only [Option.elim_some]
    rw [wp_andThen, wp_durable_calm]
    simp only [copyContent]
    rw [wp_andThen]
    refine readFile_calm ?_
    dsimp only
    rw [wp_get_andThen, wp_andThen, wp_reject]
    simp only [RestoreDisk.put, Function.update_self, Option.any_some, described, Bool.not_true,
      Bool.false_eq_true, if_false]
    rw [wp_set]
    simpa [stagedPathsOf, shown, RestoreDisk.put] using ended

/-- How far the staging has come. -/
structure Staging (host : RestoreHost) (point : RecoveryPoint) (begun : RestoreDisk × RestoreLocals)
    (done : List RestoreTarget) (state : RestoreDisk × RestoreLocals) : Prop where
  others : ∀ place, (∀ role, place ≠ .staged role) → state.1.file place = begun.1.file place
  staged : ∀ target ∈ done, state.1.file (.staged target.role) = point.content host target.role
  free : ∀ role, (∀ target ∈ done, target.role ≠ role) → state.1.file (.staged role) = none
  locals : state.2 =
    { begun.2 with stagedPaths := stagedPathsOf host point (done.map RestoreTarget.role) }

theorem stageTargets_calm (roles : targets.map RestoreTarget.role = Role.all)
    (sourced : ∀ target ∈ targets, Sourced host point target)
    (free : ∀ role, state.1.file (.staged role) = none) (none' : state.2.stagedPaths = [])
    (ended : ∀ after, Staging host point state targets after → post (.ok ()) after) :
    (forEach targets (stageTarget host arguments point)).wp false (fun _ _ => True) post state := by
  have distinct : (targets.map RestoreTarget.role).Nodup := by
    rw [roles]
    exact Role.nodup_all
  refine wp_forEach (fun rest after => ∃ done, done ++ rest = targets ∧
    Staging host point state done after) ?_ ?_ ⟨[], rfl, fun _ _ => rfl, by simp,
      fun role _ => free role, by rw [List.map_nil, stagedPathsOf, List.filter_nil, ← none']⟩
  · rintro target rest after ⟨done, whole, staging⟩
    have fresh : ∀ other ∈ done, other.role ≠ target.role := by
      intro other inside same
      rw [← whole, List.map_append, List.map_cons] at distinct
      have apart := (List.nodup_append.mp distinct).2.2
      exact apart _ (List.mem_map_of_mem inside) _ List.mem_cons_self same
    have listed : target ∈ targets := by
      rw [← whole]
      simp
    refine stageTarget_calm (sourced target listed) (staging.free _ fresh)
      ⟨done ++ [target], by simp [whole], ?_⟩
    constructor
    · intro place outside
      simp only [RestoreDisk.put, Function.update_of_ne (outside target.role)]
      exact staging.others place outside
    · intro other inside
      rcases List.mem_append.mp inside with earlier | now
      · have differs : RestorePlace.staged other.role ≠ .staged target.role := by
          simpa using fresh other earlier
        simp only [RestoreDisk.put, Function.update_of_ne differs]
        exact staging.staged other earlier
      · rw [List.mem_singleton.mp now]
        simp only [RestoreDisk.put, Function.update_self]
    · intro role missing
      have differs : RestorePlace.staged role ≠ .staged target.role := by
        have one := missing target (by simp)
        simpa using Ne.symm one
      simp only [RestoreDisk.put, Function.update_of_ne differs]
      exact staging.free role fun other inside => missing other (by simp [inside])
    · rw [staging.locals]
      simp [stagedPathsOf]
  · rintro after ⟨done, whole, staging⟩
    rw [List.append_nil] at whole
    exact ended after (whole ▸ staging)

theorem checkArchiveState_calm {entries : List ArchiveEntry} {role : Role} {message : String}
    (archived : Archived host before entries state.1)
    (same : state.1.file (.destination role) = before.file (.destination role))
    (ended : post (.ok ()) state) :
    (checkArchiveState host entries role message).wp false (fun _ _ => True) post state := by
  unfold checkArchiveState
  rw [wp_andThen]
  refine readFile_calm ?_
  dsimp only
  rw [wp_get_andThen, wp_reject, archived.listed, Option.any_some, same, matches_entryFor]
  exact ended

/-- A restore that is about to change the destinations. -/
structure Prepared (host : RestoreHost) (point : RecoveryPoint) (before : RestoreDisk)
    (targets : List RestoreTarget) (state : RestoreDisk × RestoreLocals) : Prop where
  roles : targets.map RestoreTarget.role = Role.all
  sourced : ∀ target ∈ targets, Sourced host point target
  listed : state.2.targets = targets
  recorded : state.2.operationAuditStarted = true
  clean : state.2.rollbackErrors = []
  archive : ∃ entries, state.2.archive = some entries ∧ Archived host before entries state.1
  destination : ∀ role, state.1.file (.destination role) = before.file (.destination role)
  staged : ∀ role, state.1.file (.staged role) = point.content host role
  stagedPaths : ∀ role, role ∈ state.2.stagedPaths ↔ (point.content host role).isSome = true
  rollbackStage : ∀ role, state.1.file (.rollbackStage role) = none

/-- Before a restore there is none of the files that it makes for itself. -/
structure Fresh (disk : RestoreDisk) : Prop where
  staged : ∀ role, disk.file (.staged role) = none
  rollbackStage : ∀ role, disk.file (.rollbackStage role) = none
  archiving : ∀ role, disk.file (.archiving role) = none
  unmade : disk.archiveStaging = false

/-- How a preparation ends that nothing disturbs: what is refused is refused before anything is
made. -/
def PreparedOrRefused (host : RestoreHost) (point : RecoveryPoint) (before : RestoreDisk)
    (outcome : Except String (List RestoreTarget)) (state : RestoreDisk × RestoreLocals) : Prop :=
  match outcome with
  | .ok targets => Prepared host point before targets state
  | .error _ => state = (before, {})

theorem prepareRestore_calm (fresh : Fresh before) :
    (prepareRestore host arguments point).wp false (fun _ _ => True)
      (PreparedOrRefused host point before) (before, {}) := by
  unfold prepareRestore
  rw [wp_andThen, wp_reject]
  split
  · rfl
  dsimp only
  rw [wp_andThen]
  refine readFile_calm ?_
  dsimp only
  rw [wp_andThen, wp_ofExcept]
  cases verified : verifyRecoveryPoint host point with
  | error message => rfl
  | ok digest =>
  obtain ⟨manifest, read, digested, files⟩ := verifyRecoveryPoint_ok verified
  dsimp only [Except.mapError]
  rw [wp_andThen, wp_reject]
  split
  · rfl
  next approved =>
  dsimp only
  rw [wp_andThen]
  refine readFile_calm ?_
  dsimp only
  rw [wp_andThen, wp_ofExcept, read]
  dsimp only
  rw [wp_andThen, wp_ofExcept]
  cases checked : restoreTargets host arguments manifest with
  | error message => rfl
  | ok targets =>
  obtain ⟨roles, sourced⟩ := restoreTargets_ok read files checked
  dsimp only
  rw [wp_set_andThen, wp_andThen, wp_durable_calm]
  simp only [appendAudit, Action.atomic]
  rw [wp_set_andThen, wp_andThen]
  refine archiveRestoreTargets_calm roles (fun _ _ _ => rfl) fresh.archiving fresh.unmade rfl ?_
  intro disk collected entries outside archived
  dsimp only
  rw [wp_andThen]
  refine stageTargets_calm roles sourced ?_ rfl ?_
  · intro role
    exact (outside _ (by simp) (by simp)).trans (fresh.staged role)
  intro after staging
  dsimp only
  have expected : digest = arguments.expectedManifestSha256 := by simpa using approved
  rw [wp_andThen, checkManifest, wp_andThen]
  refine readFile_calm ?_
  dsimp only
  rw [wp_reject, digested, expected]
  simp only [ne_eq, not_true_eq_false, decide_false, Bool.false_eq_true, if_false]
  rw [wp_get_andThen, wp_andThen]
  have held : after.2.archive = some entries := by rw [staging.locals]
  have kept : Archived host before entries after.1 :=
    ⟨fun role => (staging.others _ (by simp)).trans (archived.stored role), archived.listed⟩
  have same : ∀ role, after.1.file (.destination role) = before.file (.destination role) :=
    fun role => (staging.others _ (by simp)).trans (outside _ (by simp) (by simp))
  have every : ∀ role, ∃ target ∈ targets, target.role = role := by
    intro role
    have listed : role ∈ targets.map RestoreTarget.role := by
      rw [roles]
      exact Role.mem_all role
    exact List.mem_map.mp listed
  refine wp_forEach (fun _ state => state = after) ?_ ?_ rfl
  · rintro target rest state rfl
    rw [held, Option.getD_some]
    exact checkArchiveState_calm kept (same _) rfl
  · rintro state rfl
    refine ⟨roles, sourced, by rw [staging.locals], by rw [staging.locals], by rw [staging.locals],
      ⟨entries, held, kept⟩, same, fun role => ?_, fun role => ?_, fun role => ?_⟩
    · obtain ⟨target, inside, rfl⟩ := every role
      exact staging.staged target inside
    · rw [staging.locals, stagedPathsOf, List.mem_filter, roles]
      simp [Role.mem_all role]
    · exact (staging.others _ (by simp)).trans
        ((outside _ (by simp) (by simp)).trans (fresh.rollbackStage role))

end Prepare

section Commit

variable {host : RestoreHost} {arguments : RestoreArguments} {point : RecoveryPoint}
  {before : RestoreDisk} {targets : List RestoreTarget} {state : RestoreDisk × RestoreLocals}
variable {target : RestoreTarget}

/-- What holds from the first change of a destination on, wherever a step fails. -/
structure Underway (host : RestoreHost) (before : RestoreDisk) (state : RestoreDisk × RestoreLocals) :
    Prop where
  roles : state.2.targets.map RestoreTarget.role = Role.all
  started : state.2.mutationsStarted = true
  recorded : state.2.operationAuditStarted = true
  clean : state.2.rollbackErrors = []
  archive : ∃ entries, state.2.archive = some entries ∧ Archived host before entries state.1
  leftover : ∀ role, state.1.file (.staged role) ≠ none → role ∈ state.2.stagedPaths
  rollbackStage : ∀ role, state.1.file (.rollbackStage role) = none

/-- All destinations are as in the recovery point, and nothing is left beside them. -/
structure Replaced (host : RestoreHost) (point : RecoveryPoint) (disk : RestoreDisk) : Prop where
  destination : ∀ role, disk.file (.destination role) = point.content host role
  staged : ∀ role, disk.file (.staged role) = none
  rollbackStage : ∀ role, disk.file (.rollbackStage role) = none

/-- How far the destinations have been replaced when some targets are still to come. -/
structure Replacing (host : RestoreHost) (point : RecoveryPoint) (before : RestoreDisk)
    (rest : List RestoreTarget) (state : RestoreDisk × RestoreLocals) : Prop where
  underway : Underway host before state
  stagedPaths : ∀ role, role ∈ state.2.stagedPaths ↔ (point.content host role).isSome = true
  due : ∀ target ∈ rest, state.1.file (.staged target.role) = point.content host target.role
  done : ∀ role, (∀ target ∈ rest, target.role ≠ role) →
    state.1.file (.destination role) = point.content host role ∧
      state.1.file (.staged role) = none

variable {rest : List RestoreTarget}
  (replacing : Replacing host point before (target :: rest) state)
  (distinct : ((target :: rest).map RestoreTarget.role).Nodup)
include replacing distinct

theorem Replacing.next {disk : RestoreDisk}
    (others : ∀ place, place ≠ .destination target.role → place ≠ .staged target.role →
      disk.file place = state.1.file place)
    (placed : disk.file (.destination target.role) = point.content host target.role)
    (unstaged : disk.file (.staged target.role) = none) :
    Replacing host point before rest (disk, state.2) := by
  obtain ⟨underway, stagedPaths, due, done⟩ := replacing
  refine ⟨⟨underway.roles, underway.started, underway.recorded, underway.clean, ?_, ?_, ?_⟩,
    stagedPaths, ?_, ?_⟩
  · obtain ⟨entries, held, archived⟩ := underway.archive
    exact ⟨entries, held, fun role => (others _ (by simp) (by simp)).trans (archived.stored role),
      archived.listed⟩
  · intro role there
    by_cases same : role = target.role
    · exact absurd (same ▸ unstaged) there
    · rw [others _ (by simp) (by simpa using same)] at there
      exact underway.leftover role there
  · exact fun role => (others _ (by simp) (by simp)).trans (underway.rollbackStage role)
  · intro other inside
    have differs : other.role ≠ target.role := by
      intro same
      rw [List.map_cons, List.nodup_cons] at distinct
      exact distinct.1 (same ▸ List.mem_map_of_mem inside)
    rw [others _ (by simp) (by simpa using differs)]
    exact due other (List.mem_cons_of_mem _ inside)
  · intro role missing
    by_cases same : role = target.role
    · rw [same]
      exact ⟨placed, unstaged⟩
    · have earlier := done role fun other inside => by
        rcases List.mem_cons.mp inside with rfl | later
        · exact fun same' => same same'.symm
        · exact missing other later
      rw [others _ (by simpa using same) (by simp), others _ (by simp) (by simpa using same)]
      exact earlier

/-- One replacement is made or not; where it raises, everything is as before it. -/
theorem replaceTarget_wp :
    (replaceTarget target).wp true (fun _ _ => True) (fun outcome after =>
      match outcome with
      | .ok _ => Replacing host point before rest after
      | .error _ => Underway host before after) state := by
  have staged := replacing.due target List.mem_cons_self
  unfold replaceTarget
  rw [wp_get_andThen]
  by_cases listed : target.role ∈ state.2.stagedPaths
  · simp only [listed, decide_true, if_true]
    obtain ⟨content, here⟩ := Option.isSome_iff_exists.mp ((replacing.stagedPaths _).mp listed)
    rw [replaceFile, wp_atomic, staged, here]
    refine ⟨fun _ => ⟨trivial, fun _ => replacing.underway⟩, trivial, ?_⟩
    refine replacing.next distinct ?_ ?_ ?_
    · intro place one two
      simp [RestoreDisk.put, Function.update_of_ne one, Function.update_of_ne two]
    · simp [RestoreDisk.put, here]
    · simp [RestoreDisk.put]
  · simp only [listed, decide_false, Bool.false_eq_true, if_false]
    have none' : point.content host target.role = none := by
      rw [← Option.not_isSome_iff_eq_none]
      exact fun some => listed ((replacing.stagedPaths _).mpr some)
    rw [wp_get_andThen, wp_whenever]
    split
    · next there =>
      rw [unlinkFile, wp_atomic]
      have here : (state.1.file (.destination target.role)).isNone = false := by
        rw [Option.isNone_eq_false_iff]
        exact there
      rw [here]
      refine ⟨fun _ => ⟨trivial, fun _ => replacing.underway⟩, trivial, ?_⟩
      refine replacing.next distinct ?_ ?_ ?_
      · intro place one _
        simp [RestoreDisk.put, Function.update_of_ne one]
      · simp [RestoreDisk.put, none']
      · simp [RestoreDisk.put, staged, none']
    · next absent =>
      refine replacing.next distinct (fun _ _ _ => rfl) ?_ (staged.trans none')
      rw [none']
      simpa using absent

omit replacing distinct

/-- How the changing part of a restore ends, whichever of its steps fail. -/
def CommittedOrUnderway (host : RestoreHost) (point : RecoveryPoint) (before : RestoreDisk)
    (outcome : Except String Unit) (state : RestoreDisk × RestoreLocals) : Prop :=
  match outcome with
  | .ok _ => Replaced host point state.1 ∧ Underway host before state
  | .error _ => Underway host before state

theorem check_wp {α : Type} {view : RestoreDisk × RestoreLocals → α}
    {judge : α → RestoreProcess Unit} {post : Except String Unit → RestoreDisk × RestoreLocals → Prop}
    (failed : ∀ message, post (.error message) state)
    (judged : (judge (view state)).wp true (fun _ _ => True) post state) :
    (do durable readFile
        let value ← get view
        judge value : RestoreProcess Unit).wp true (fun _ _ => True) post state := by
  rw [wp_andThen, readFile, wp_atomic]
  exact ⟨fun _ => ⟨trivial, failed⟩, trivial, judged⟩

theorem checkRestored_wp {post : Except String Unit → RestoreDisk × RestoreLocals → Prop}
    (failed : ∀ message, post (.error message) state) (passed : post (.ok ()) state) :
    (checkRestored host target).wp true (fun _ _ => True) post state := by
  refine check_wp failed ?_
  cases target.source with
  | none =>
    rw [wp_reject]
    split
    · exact failed _
    · exact passed
  | some entry =>
    rw [wp_reject]
    split
    · exact failed _
    · exact passed

theorem checkSnapshot_wp {role : Role} {kind : Monitoring.SnapshotKind} {message : String}
    {post : Except String Unit → RestoreDisk × RestoreLocals → Prop}
    (failed : ∀ message, post (.error message) state) (passed : post (.ok ()) state) :
    (checkSnapshot host arguments role kind message).wp true (fun _ _ => True) post state := by
  refine check_wp failed ?_
  rw [wp_reject]
  split
  · exact failed _
  · exact passed

theorem commitRestore_wp (prepared : Prepared host point before targets state) :
    (commitRestore host arguments targets).wp true (fun _ _ => True)
      (CommittedOrUnderway host point before) state := by
  have distinct : (targets.map RestoreTarget.role).Nodup := by
    rw [prepared.roles]
    exact Role.nodup_all
  have begun : Replacing host point before targets
      (state.1, { state.2 with mutationsStarted := true }) := by
    refine ⟨⟨?_, rfl, prepared.recorded, prepared.clean, prepared.archive, ?_,
      prepared.rollbackStage⟩, prepared.stagedPaths, fun target _ => prepared.staged _,
      fun role missing => ?_⟩
    · rw [prepared.listed]
      exact prepared.roles
    · intro role there
      rw [prepared.staged] at there
      exact (prepared.stagedPaths role).mpr (Option.isSome_iff_ne_none.mpr there)
    · -- Every role has a target that is still to come.
      have listed : role ∈ targets.map RestoreTarget.role := by
        rw [prepared.roles]
        exact Role.mem_all role
      obtain ⟨target, inside, same⟩ := List.mem_map.mp listed
      exact absurd same (missing target inside)
  unfold commitRestore
  rw [wp_set_andThen, wp_andThen]
  refine wp_forEach (fun rest after => (rest.map RestoreTarget.role).Nodup ∧
    Replacing host point before rest after) ?_ ?_ ⟨distinct, begun⟩
  · rintro target rest after ⟨distinct, replacing⟩
    refine wp_mono ?_ (replaceTarget_wp replacing distinct)
    intro outcome final reached
    cases outcome with
    | ok _ => exact ⟨(List.nodup_cons.mp distinct).2, reached⟩
    | error message => exact reached
  rintro after ⟨-, replacing⟩
  have replaced : Replaced host point after.1 :=
    ⟨fun role => (replacing.done role (by simp)).1, fun role => (replacing.done role (by simp)).2,
      replacing.underway.rollbackStage⟩
  have failed : ∀ message : String, CommittedOrUnderway host point before (.error message) after :=
    fun _ => replacing.underway
  dsimp only
  rw [wp_andThen]
  refine wp_forEach (fun _ final => final = after) ?_ ?_ rfl
  · rintro target rest final rfl
    exact checkRestored_wp failed rfl
  rintro final rfl
  dsimp only
  rw [wp_andThen]
  refine checkSnapshot_wp failed ?_
  dsimp only
  rw [wp_andThen]
  refine checkSnapshot_wp failed ?_
  dsimp only
  rw [wp_set]
  have under := replacing.underway
  exact ⟨replaced, under.roles, under.started, under.recorded, under.clean, under.archive,
    under.leftover, under.rollbackStage⟩

end Commit

section Rollback

variable {host : RestoreHost} {before : RestoreDisk} {entries : List ArchiveEntry}
  {state : RestoreDisk × RestoreLocals}

def AsBefore (before after : RestoreDisk) : Prop :=
  ∀ role, after.file (.destination role) = before.file (.destination role)

/-- How far the destinations have been brought back when some targets are still to come. -/
structure BringingBack (host : RestoreHost) (before : RestoreDisk) (entries : List ArchiveEntry)
    (begun : RestoreDisk × RestoreLocals) (rest : List RestoreTarget)
    (state : RestoreDisk × RestoreLocals) : Prop where
  archived : Archived host before entries state.1
  locals : state.2 = begun.2
  staged : ∀ role, state.1.file (.staged role) = begun.1.file (.staged role)
  rollbackStage : ∀ role, state.1.file (.rollbackStage role) = none
  done : ∀ role, (∀ target ∈ rest, target.role ≠ role) →
    state.1.file (.destination role) = before.file (.destination role)

variable {begun : RestoreDisk × RestoreLocals} {target : RestoreTarget} {rest : List RestoreTarget}
  (back : BringingBack host before entries begun (target :: rest) state)
include back

theorem BringingBack.next {disk : RestoreDisk}
    (others : ∀ place, place ≠ .destination target.role → place ≠ .rollbackStage target.role →
      disk.file place = state.1.file place)
    (placed : disk.file (.destination target.role) = before.file (.destination target.role))
    (unstaged : disk.file (.rollbackStage target.role) = none) :
    BringingBack host before entries begun rest (disk, state.2) := by
  refine ⟨⟨fun role => ?_, back.archived.listed⟩, back.locals, fun role => ?_, fun role => ?_,
    fun role missing => ?_⟩
  · exact (others _ (by simp) (by simp)).trans (back.archived.stored role)
  · exact (others _ (by simp) (by simp)).trans (back.staged role)
  · by_cases same : role = target.role
    · rw [same]
      exact unstaged
    · exact (others _ (by simp) (by simpa using same)).trans (back.rollbackStage role)
  · by_cases same : role = target.role
    · rw [same]
      exact placed
    · rw [others _ (by simpa using same) (by simp)]
      refine back.done role fun other inside => ?_
      rcases List.mem_cons.mp inside with rfl | later
      · exact fun same' => same same'.symm
      · exact missing other later

/-- Without a fault a destination is brought back, and is found to be as it was. -/
theorem rollbackTarget_calm :
    (rollbackTarget host entries target).wp false (fun _ _ => True) (fun outcome after =>
      outcome = .ok () ∧ BringingBack host before entries begun rest after) state := by
  have found : wasArchived entries target.role =
      (before.file (.destination target.role)).isSome := by
    unfold wasArchived
    rw [back.archived.listed, Option.any_some, entryFor, Option.isSome_map]
  unfold rollbackTarget bringBack
  rw [wp_catching, found]
  cases here : before.file (.destination target.role) with
  | some content =>
    simp only [Option.isSome_some, if_true]
    have stored := (back.archived.stored target.role).trans here
    rw [wp_andThen, wp_durable_calm]
    simp only [copyFile, stored, copyContent]
    rw [wp_andThen, wp_durable_calm]
    simp only [replaceFile, Action.atomic, RestoreDisk.put, Function.update_self]
    -- The copy has been put in place, and its own name is free again.
    generalize shape : Function.update (Function.update (Function.update state.1.file
      (.rollbackStage target.role) (some content)) (.rollbackStage target.role) none)
        (.destination target.role) (some content) = files
    have placed : files (.destination target.role) = before.file (.destination target.role) := by
      rw [← shape, Function.update_self, here]
    have after : BringingBack host before entries begun rest
        ({ state.1 with file := files }, state.2) := by
      refine back.next (fun place one two => ?_) placed ?_
      · simp only [← shape, Function.update_of_ne one, Function.update_of_ne two]
      · simp [← shape]
    exact checkArchiveState_calm after.archived placed ⟨trivial, after⟩
  | none =>
    simp only [Option.isSome_none, Bool.false_eq_true, if_false]
    rw [wp_get_andThen, wp_andThen, wp_whenever]
    split
    · next there =>
      have present : (state.1.file (.destination target.role)).isNone = false := by
        rw [Option.isNone_eq_false_iff]
        exact there
      rw [wp_durable_calm]
      simp only [unlinkFile, Action.atomic, present, Bool.false_eq_true, if_false]
      have placed : (state.1.put (.destination target.role) none).file
          (.destination target.role) = before.file (.destination target.role) := by
        simp [RestoreDisk.put, here]
      have after : BringingBack host before entries begun rest
          (state.1.put (.destination target.role) none, state.2) := by
        refine back.next (fun place one two => ?_) placed ?_
        · simp [RestoreDisk.put, Function.update_of_ne one]
        · simp [RestoreDisk.put, back.rollbackStage]
      exact checkArchiveState_calm after.archived placed ⟨trivial, after⟩
    · next absent =>
      have placed : state.1.file (.destination target.role) =
          before.file (.destination target.role) := by
        rw [here]
        simpa using absent
      have after : BringingBack host before entries begun rest state :=
        back.next (fun _ _ _ => rfl) placed (back.rollbackStage _)
      exact checkArchiveState_calm after.archived placed ⟨trivial, after⟩

omit back

/-- What is left of a restore before the staged files are removed. -/
structure HandledAs (before : RestoreDisk) (outcome : Except String Nat)
    (state : RestoreDisk × RestoreLocals) : Prop where
  code : outcome = .ok 2
  recorded : state.2.operationAuditStarted = true
  destination : AsBefore before state.1
  leftover : ∀ role, state.1.file (.staged role) ≠ none → role ∈ state.2.stagedPaths
  rollbackStage : ∀ role, state.1.file (.rollbackStage role) = none

/-- Once a destination may have been changed, the handler brings all of them back. -/
theorem restoreFailed_calm {error : String} (underway : Underway host before state) :
    (restoreFailed host error).wp false (fun _ _ => True) (HandledAs before) state := by
  obtain ⟨entries, held, archived⟩ := underway.archive
  unfold restoreFailed
  rw [wp_set_andThen, wp_get_andThen]
  simp only [underway.started, held]
  rw [wp_set_andThen, wp_andThen]
  refine wp_forEach (fun rest after => ∃ locals : RestoreLocals, locals.rollbackErrors = [] ∧
    locals.stagedPaths = state.2.stagedPaths ∧
    locals.operationAuditStarted = state.2.operationAuditStarted ∧
    BringingBack host before entries (state.1, locals) rest after) ?_ ?_ ?_
  · rintro target rest after ⟨locals, clean, paths, noted, back⟩
    refine wp_mono ?_ (rollbackTarget_calm back)
    rintro outcome final ⟨rfl, back⟩
    exact ⟨locals, clean, paths, noted, back⟩
  · rintro after ⟨locals, clean, paths, noted, back⟩
    have clean' : after.2.rollbackErrors = [] := by
      rw [back.locals]
      exact clean
    dsimp only
    rw [wp_get_andThen, wp_set_andThen, wp_pure, clean']
    have recorded : after.2.operationAuditStarted = true := by
      rw [back.locals, noted]
      exact underway.recorded
    refine ⟨rfl, recorded, fun role => back.done role (by simp), fun role there => ?_,
      back.rollbackStage⟩
    have listed := underway.leftover role (back.staged role ▸ there)
    have kept : after.2.stagedPaths = state.2.stagedPaths := by rw [back.locals, paths]
    rw [← kept] at listed
    exact listed
  · refine ⟨_, ?_, ?_, ?_, ⟨archived, rfl, fun _ => rfl, underway.rollbackStage, ?_⟩⟩
    · exact underway.clean
    · rfl
    · rfl
    · intro role missing
      have listed : role ∈ state.2.targets.map RestoreTarget.role := by
        rw [underway.roles]
        exact Role.mem_all role
      obtain ⟨target, inside, same⟩ := List.mem_map.mp listed
      exact absurd same (missing target inside)

/-- Before anything has been made, the handler has nothing to bring back. -/
theorem restoreFailed_idle {error : String} (idle : state.2.mutationsStarted = false) :
    (restoreFailed host error).wp false (fun _ _ => True) (fun outcome after =>
      outcome = .ok 2 ∧ after = (state.1, { state.2 with error := some error })) state := by
  unfold restoreFailed
  rw [wp_set_andThen, wp_get_andThen]
  simp only [idle]
  exact ⟨rfl, rfl⟩

theorem removeStaged_calm {paths : List Role}
    (leftover : ∀ role, state.1.file (.staged role) ≠ none → role ∈ paths) :
    (forEach paths removeStaged).wp false (fun _ _ => True) (fun outcome after =>
      outcome = .ok () ∧ after.2 = state.2 ∧
      (∀ place, (∀ role, place ≠ .staged role) → after.1.file place = state.1.file place) ∧
      ∀ role, after.1.file (.staged role) = none) state := by
  refine wp_forEach (fun rest after => after.2 = state.2 ∧
    (∀ place, (∀ role, place ≠ .staged role) → after.1.file place = state.1.file place) ∧
    ∀ role, after.1.file (.staged role) ≠ none → role ∈ rest) ?_ ?_
    ⟨rfl, fun _ _ => rfl, leftover⟩
  · rintro role rest after ⟨same, others, due⟩
    unfold removeStaged
    rw [wp_get_andThen, wp_whenever]
    split
    · next there =>
      have present : (after.1.file (.staged role)).isNone = false := by
        rw [Option.isNone_eq_false_iff]
        exact there
      rw [wp_durable_calm]
      simp only [unlinkFile, Action.atomic, present, Bool.false_eq_true, if_false]
      refine ⟨same, fun place outside => ?_, fun other still => ?_⟩
      · simp only [RestoreDisk.put, Function.update_of_ne (outside role)]
        exact others place outside
      · by_cases here : other = role
        · simp [RestoreDisk.put, here] at still
        · have differs : RestorePlace.staged other ≠ .staged role := by simpa using here
          simp only [RestoreDisk.put, Function.update_of_ne differs] at still
          exact (List.mem_cons.mp (due other still)).resolve_left here
    · next absent =>
      refine ⟨same, others, fun other still => ?_⟩
      refine (List.mem_cons.mp (due other still)).resolve_left ?_
      rintro rfl
      exact absent (Option.isSome_iff_ne_none.mpr still)
  · rintro after ⟨same, others, none'⟩
    refine ⟨rfl, same, others, fun role => ?_⟩
    by_contra there
    simpa using none' role there

end Rollback

section Results

variable {host : RestoreHost} {arguments : RestoreArguments} {point : RecoveryPoint}
  {before : RestoreDisk} {state : RestoreDisk × RestoreLocals}
variable {outcome : Except String Unit}

def EqualsPoint (host : RestoreHost) (point : RecoveryPoint) (disk : RestoreDisk) : Prop :=
  ∀ role, disk.file (.destination role) = point.content host role

/-- None of the files that a restore makes beside the destinations is left. -/
def NothingBeside (disk : RestoreDisk) : Prop :=
  ∀ role, disk.file (.staged role) = none ∧ disk.file (.rollbackStage role) = none

/-- The code of a restore fits what has become of the destinations. -/
def Judged (host : RestoreHost) (point : RecoveryPoint) (before : RestoreDisk) (code : Nat)
    (disk : RestoreDisk) : Prop :=
  (code = 0 ∧ EqualsPoint host point disk) ∨ (code = 2 ∧ AsBefore before disk)

/-- A restore that has come to a code, but has not recorded it. -/
structure Settled (host : RestoreHost) (point : RecoveryPoint) (before : RestoreDisk)
    (code : Nat) (disk : RestoreDisk) : Prop where
  beside : NothingBeside disk
  judged : Judged host point before code disk

/-- How the guarded part of a restore ends. -/
def BodyEnded (host : RestoreHost) (point : RecoveryPoint) (before : RestoreDisk)
    (outcome : Except String Unit) (state : RestoreDisk × RestoreLocals) : Prop :=
  match outcome with
  | .ok _ => Replaced host point state.1 ∧ Underway host before state
  | .error _ => Underway host before state ∨ state = (before, {})

theorem removal_settles {code : Nat}
    (leftover : ∀ role, state.1.file (.staged role) ≠ none → role ∈ state.2.stagedPaths)
    (rollbackStage : ∀ role, state.1.file (.rollbackStage role) = none)
    (judged : Judged host point before code state.1) :
    (do let staged ← get fun state => state.2.stagedPaths
        forEach staged removeStaged
        return code : RestoreProcess Nat).wp false (fun _ _ => True) (fun outcome after =>
      outcome = .ok code ∧ Settled host point before code after.1 ∧ after.2 = state.2) state := by
  rw [wp_get_andThen, wp_andThen]
  refine wp_mono ?_ (removeStaged_calm leftover)
  rintro outcome after ⟨rfl, locals, others, staged⟩
  have kept : ∀ role, after.1.file (.destination role) = state.1.file (.destination role) :=
    fun role => others _ (by simp)
  refine ⟨rfl, ⟨fun role => ⟨staged role, ?_⟩, ?_⟩, locals⟩
  · exact (others _ (by simp)).trans (rollbackStage role)
  · rcases judged with ⟨zero, equal⟩ | ⟨two, as⟩
    · exact .inl ⟨zero, fun role => (kept role).trans (equal role)⟩
    · exact .inr ⟨two, fun role => (kept role).trans (as role)⟩

/-- What follows the guarded part of a restore. -/
def afterBody (host : RestoreHost) (outcome : Except String Unit) : RestoreProcess Nat := do
  let code ← match outcome with
    | .ok _ => ret 0
    | .error message => restoreFailed host message
  let staged ← get fun state => state.2.stagedPaths
  forEach staged removeStaged
  return code

/-- From the end of the guarded part a restore settles, when nothing disturbs it any more. -/
theorem afterBody_calm (fresh : Fresh before) (ended : BodyEnded host point before outcome state) :
    (afterBody host outcome).wp false (fun _ _ => True) (fun outcome final =>
      ∃ code : Nat, outcome = .ok code ∧ Settled host point before code final.1 ∧
        (Underway host before state → final.2.operationAuditStarted = true)) state := by
  unfold afterBody
  cases outcome with
  | ok _ =>
    obtain ⟨replaced, underway⟩ := ended
    have judged : Judged host point before 0 state.1 := .inl ⟨rfl, replaced.destination⟩
    refine wp_mono ?_ (removal_settles underway.leftover underway.rollbackStage judged)
    rintro outcome final ⟨rfl, settled, locals⟩
    exact ⟨0, rfl, settled, fun _ => by rw [locals]; exact underway.recorded⟩
  | error message =>
    dsimp only
    rw [wp_andThen]
    rcases ended with underway | rfl
    · -- The destinations may have been changed: all of them are brought back.
      refine wp_mono ?_ (restoreFailed_calm underway)
      rintro outcome after ⟨rfl, recorded, as, leftover, rollbackStage⟩
      have judged : Judged host point before 2 after.1 := .inr ⟨rfl, as⟩
      refine wp_mono ?_ (removal_settles leftover rollbackStage judged)
      rintro outcome final ⟨rfl, settled, locals⟩
      exact ⟨2, rfl, settled, fun _ => by rw [locals]; exact recorded⟩
    · -- Nothing has been made yet.
      refine wp_mono ?_ (restoreFailed_idle rfl)
      rintro outcome after ⟨rfl, rfl⟩
      have judged : Judged host point before 2 before := .inr ⟨rfl, fun _ => rfl⟩
      refine wp_mono ?_ (removal_settles (fun role there => absurd (fresh.staged role) there)
        fresh.rollbackStage judged)
      rintro outcome final ⟨rfl, settled, -⟩
      refine ⟨2, rfl, settled, fun underway => ?_⟩
      cases underway.recorded

/-- A restore that settles runs its guarded part first. -/
theorem settle_wp {faulty : Bool} {allowed : RestoreDisk × RestoreLocals →
      RestoreDisk × RestoreLocals → Prop}
    {post : Except String Nat → RestoreDisk × RestoreLocals → Prop} :
    (settleRestore host arguments point).wp faulty allowed post state ↔
      (restoreBody host arguments point).wp faulty allowed (fun outcome after =>
        (afterBody host outcome).wp faulty allowed post after) state := by
  unfold settleRestore afterBody
  rw [wp_andThen, wp_catching, wp_andThen]
  refine wp_congr fun outcome after => ?_
  cases outcome with
  | ok _ => rfl
  | error message =>
    dsimp only
    rw [wp_andThen]

theorem settle_struck {due : Option Nat} {count : Nat}
    {post : Except String Nat → Nat → RestoreDisk × RestoreLocals → Prop} :
    (settleRestore host arguments point).struck due post count state ↔
      (restoreBody host arguments point).struck due (fun outcome count after =>
        (afterBody host outcome).struck due post count after) count state := by
  unfold settleRestore afterBody
  rw [struck_andThen, struck_catching, struck_andThen]
  refine struck_congr fun outcome count after => ?_
  cases outcome with
  | ok _ => rfl
  | error message =>
    dsimp only
    rw [struck_andThen]

/-- Without a fault the guarded part is refused before anything is made, or it changes the
destinations. -/
theorem restoreBody_calm (fresh : Fresh before) :
    (restoreBody host arguments point).wp false (fun _ _ => True) (fun outcome after =>
      BodyEnded host point before outcome after ∧
      ((prepareRestore host arguments point).acts (before, {}) <
        (restoreBody host arguments point).acts (before, {}) → Underway host before after))
      (before, {}) := by
  have counted := acts_andThen (prepareRestore host arguments point)
    (fun targets => commitRestore host arguments targets) (before, {})
  show (prepareRestore host arguments point >>= _).wp _ _ _ _
  rw [wp_andThen]
  refine wp_mono ?_ (wp_and (prepareRestore_calm fresh) counted)
  rintro outcome after ⟨prepared, counted⟩
  cases outcome with
  | ok targets =>
    dsimp only
    refine wp_mono ?_ (wp_calm (commitRestore_wp prepared))
    intro outcome final ended
    cases outcome with
    | ok _ => exact ⟨ended, fun _ => ended.2⟩
    | error message => exact ⟨.inl ended, fun _ => ended⟩
  | error message =>
    refine ⟨.inr prepared, fun more => ?_⟩
    -- A refused preparation is all that there is.
    unfold restoreBody at more
    dsimp only at counted
    omega

theorem settleRestore_calm (fresh : Fresh before) :
    (settleRestore host arguments point).wp false (fun _ _ => True) (fun outcome final =>
      ∃ code : Nat, outcome = .ok code ∧ Settled host point before code final.1 ∧
        ((prepareRestore host arguments point).acts (before, {}) <
          (restoreBody host arguments point).acts (before, {}) →
          final.2.operationAuditStarted = true)) (before, {}) := by
  rw [settle_wp]
  refine wp_mono ?_ (restoreBody_calm fresh)
  rintro outcome after ⟨ended, mutated⟩
  refine wp_mono ?_ (afterBody_calm fresh ended)
  rintro outcome final ⟨code, rfl, settled, recorded⟩
  exact ⟨code, rfl, settled, fun more => recorded (mutated more)⟩

theorem writeReport_calm {code : Nat} {post : Except String Nat → RestoreDisk × RestoreLocals → Prop}
    (ended : ∀ report, post (.ok code) ({ state.1 with report }, state.2)) :
    (do let report ← get fun state : RestoreDisk × RestoreLocals => reportOf state.2
        whenever arguments.report (durable (writeReport report))
        return code : RestoreProcess Nat).wp false (fun _ _ => True) post state := by
  rw [wp_get_andThen, wp_andThen, wp_whenever]
  split
  · rw [wp_durable_calm]
    exact ended _
  · exact ended _

/-- The finishing records leave every file of a restore alone. -/
theorem finishRestore_calm {code : Nat} (settled : Settled host point before code state.1) :
    (finishRestore arguments code).wp false (fun _ _ => True) (fun outcome final =>
      outcome = .ok code ∧ Settled host point before code final.1) state := by
  unfold finishRestore recordFinish
  rw [wp_andThen, wp_get_andThen]
  split
  · rw [wp_catching, wp_andThen, wp_durable_calm]
    exact writeReport_calm fun _ => ⟨rfl, settled.beside, settled.judged⟩
  · exact writeReport_calm fun _ => ⟨rfl, settled.beside, settled.judged⟩

/-- Without its record a restore that has succeeded is none. -/
theorem recordFinish_hit {due : Option Nat} {count code : Nat} (here : due = some count)
    (recorded : state.2.operationAuditStarted = true) :
    (recordFinish arguments code).struck due (fun outcome taken final => Past due taken ∧
      outcome = .ok (if code = 0 then 3 else code) ∧ final.1 = state.1) count state := by
  have ahead : Ahead due count := by
    intro step same
    rw [here, Option.some.injEq] at same
    omega
  have past : Past due (count + 1) := by
    intro step same
    rw [here, Option.some.injEq] at same
    omega
  unfold recordFinish
  rw [struck_get_andThen, recorded, if_pos rfl, struck_catching, struck_andThen, appendAudit]
  refine struck_atomic ahead (fun _ message => ?_) (fun later => ?_)
  · dsimp only
    rw [struck_set_andThen]
    split
    · exact ⟨past, rfl, rfl⟩
    · exact ⟨past, rfl, rfl⟩
  · have bound := later count here
    omega

/-- A step that fails once the destinations may have been changed: one of the changes or checks, or
the finishing record. -/
def FailsMutating (host : RestoreHost) (arguments : RestoreArguments) (point : RecoveryPoint)
    (before : RestoreDisk) (step : Nat) : Prop :=
  let prepared := (prepareRestore host arguments point).acts (before, {})
  let changed := (restoreBody host arguments point).acts (before, {})
  prepared < changed ∧
    (prepared ≤ step ∧ step < changed ∨ step = (settleRestore host arguments point).acts (before, {}))

/-- The finishing record is what fails. -/
def RecordFails (host : RestoreHost) (arguments : RestoreArguments) (point : RecoveryPoint)
    (before : RestoreDisk) (due : Option Nat) : Prop :=
  due = some ((settleRestore host arguments point).acts (before, {}))

/-- How a restore ends in which nothing fails, or one step once destinations may have been changed. -/
def Ended (host : RestoreHost) (arguments : RestoreArguments) (point : RecoveryPoint)
    (before : RestoreDisk) (due : Option Nat) (outcome : Except String Nat) (disk : RestoreDisk) :
    Prop :=
  ∃ code : Nat, outcome = .ok code ∧ NothingBeside disk ∧
    (code = 0 ∧ EqualsPoint host point disk ∨ code = 2 ∧ AsBefore before disk ∨
      code = 3 ∧ RecordFails host arguments point before due ∧ EqualsPoint host point disk)

/-- Behind the step that fails a restore comes to its end without another failure. -/
theorem restore_past {due : Option Nat} {count : Nat} (fresh : Fresh before) (past : Past due count)
    (ended : BodyEnded host point before outcome state) :
    (do let code ← afterBody host outcome
        finishRestore arguments code : RestoreProcess Nat).struck due (fun outcome _ final =>
      Ended host arguments point before due outcome final.1) count state := by
  refine struck_past past ?_
  rw [wp_andThen]
  refine wp_mono ?_ (afterBody_calm fresh ended)
  rintro outcome after ⟨code, rfl, settled, -⟩
  refine wp_mono ?_ (finishRestore_calm settled)
  rintro outcome final ⟨rfl, settled⟩ count -
  refine ⟨code, rfl, settled.beside, ?_⟩
  rcases settled.judged with zero | two
  · exact .inl zero
  · exact .inr (.inl two)

theorem restore_changing {step : Nat} (fresh : Fresh before)
    (begun : (prepareRestore host arguments point).acts (before, {}) ≤ step)
    (within : step < (restoreBody host arguments point).acts (before, {})) :
    (restoreBody host arguments point).struck (some step) (fun outcome count after =>
      BodyEnded host point before outcome after ∧ Past (some step) count) 0 (before, {}) := by
  have past : Past (some step) (0 + (restoreBody host arguments point).acts (before, {})) := by
    intro due same
    cases same
    omega
  refine struck_within past ?_
  show (prepareRestore host arguments point >>= _).struck _ _ _ _
  rw [struck_andThen]
  have beyond : ∀ due, some step = some due →
      0 + (prepareRestore host arguments point).acts (before, {}) ≤ due := by
    intro due same
    cases same
    omega
  -- Nothing disturbs the preparation.
  refine struck_beyond beyond (wp_mono ?_ (prepareRestore_calm fresh))
  intro outcome after prepared
  cases outcome with
  | ok targets =>
    refine struck_mono ?_ (struck_of_wp (commitRestore_wp prepared))
    intro outcome count final ended past
    cases outcome with
    | ok _ => exact ⟨ended, past⟩
    | error message => exact ⟨.inl ended, past⟩
  | error message => exact fun past => ⟨.inr prepared, past⟩

/-- A restore in which one step fails once it may have changed the destinations leaves all of them
as they were, or all of them as in the recovery point, as its code tells. -/
theorem restore_ended {due : Option Nat} (fresh : Fresh before)
    (scope : ∀ step, due = some step → FailsMutating host arguments point before step)
    (fault : Fault) :
    Ended host arguments point before due
      ((restoreRecoveryPoint host arguments point).start (before, {}) (faultAt due fault)).1
      ((restoreRecoveryPoint host arguments point).start (before, {})
        (faultAt due fault)).2.state.1 := by
  suffices holds : (restoreRecoveryPoint host arguments point).struck due (fun outcome _ final =>
      Ended host arguments point before due outcome final.1) 0 (before, {}) by
    obtain ⟨-, ended⟩ := start_of_struck fault holds
    exact ended
  unfold restoreRecoveryPoint
  cases due with
  | none =>
    rw [struck_andThen, settle_struck]
    have past : Past none 0 := nofun
    refine struck_past past (wp_mono ?_ (restoreBody_calm fresh))
    rintro outcome after ⟨ended, -⟩ count past
    exact (struck_andThen _ _ _ _ _).mp (restore_past fresh past ended)
  | some step =>
    obtain ⟨more, within | rfl⟩ := scope step rfl
    · rw [struck_andThen, settle_struck]
      refine struck_mono ?_ (restore_changing fresh within.1 within.2)
      rintro outcome count after ⟨ended, past⟩
      exact (struck_andThen _ _ _ _ _).mp (restore_past fresh past ended)
    · -- The restore has settled; its record is what fails.
      rw [struck_andThen]
      have beyond : ∀ due, some ((settleRestore host arguments point).acts (before, {})) = some due →
          0 + (settleRestore host arguments point).acts (before, {}) ≤ due := by
        intro due same
        cases same
        omega
      refine struck_beyond beyond (wp_mono ?_ (settleRestore_calm fresh))
      rintro outcome after ⟨code, rfl, settled, recorded⟩
      dsimp only
      rw [Nat.zero_add, finishRestore, struck_andThen]
      refine struck_mono ?_ (recordFinish_hit rfl (recorded more))
      rintro outcome count final ⟨past, rfl, same⟩
      refine struck_past past (writeReport_calm fun report count _ => ?_)
      refine ⟨_, rfl, ?_⟩
      rw [same]
      refine ⟨settled.beside, ?_⟩
      rcases settled.judged with ⟨rfl, equal⟩ | ⟨rfl, as⟩
      · exact .inr (.inr ⟨rfl, rfl, equal⟩)
      · exact .inr (.inl ⟨rfl, as⟩)

end Results

/-- The bytes of a text without special characters. -/
def plantBytes (text : List Char) : List UInt8 :=
  text.map fun character => UInt8.ofNat character.toNat

def plantConfiguration : List UInt8 :=
  plantBytes "runtime.name=plant\n".toList

/-- A snapshot without records. -/
def plantSnapshotDocument (kind : SnapshotKind) : Json :=
  .obj [("schemaVersion", .num 1), (kind.arrayField, .arr [])]

def plantSnapshotText (kind : SnapshotKind) : List Char :=
  pocoWriter.text (plantSnapshotDocument kind)

def plantEntries : List RecoveryEntry :=
  [{ role := "configuration", path := "configuration.properties", sizeBytes := 19,
      sha256 := "0b9be5553ee53c40641420462ff1ddf147a7b39ff92c4d7643a05bfd47a6ce95" },
    { role := "management-tasks", path := "tasks.json", sizeBytes := 30,
      sha256 := "f6424bf88dac1855309024827613f2576fc3c19940a2d272b0dec0d585f2bdb1",
      persistenceKind := some "tasks" },
    { role := "management-idempotency", path := "idempotency.json", sizeBytes := 33,
      sha256 := "699ea2f9811c898599eba7a4dccc74aaeeb4a07060656c7117807db02f551204",
      persistenceKind := some "idempotency" },
    { role := "management-audit", path := "audit.jsonl", sizeBytes := 0,
      sha256 := "e3b0c44298fc1c149afbf4c8996fb92427ae41e4649b934ca495991b7852b855" }]

def plantManifest : RecoveryManifest where
  product := "PocoDDSRuntime"
  schemaVersion := 1
  type := "management-recovery-point"
  consistency := "runtime-stopped"
  files := plantEntries

def entryDocument (entry : RecoveryEntry) : Json :=
  .obj ([("role", .str entry.role), ("path", .str entry.path), ("sizeBytes", .num entry.sizeBytes),
    ("sha256", .str entry.sha256)] ++
      (entry.persistenceKind.toList.map fun kind => ("persistenceKind", .str kind)))

def plantManifestBytes : List UInt8 :=
  plantBytes (pocoWriter.text (.obj [("product", .str plantManifest.product),
    ("schemaVersion", .num plantManifest.schemaVersion), ("type", .str plantManifest.type),
    ("consistency", .str plantManifest.consistency),
    ("files", .arr (plantEntries.map entryDocument))]))

def plantManifestDigest : String :=
  "70b5d7eb052c1a233443ad75d3bc4b105edeaf9891ad3751b1795a6fb0bbc755"

/-- The digests of the files of the sample. -/
def plantSha256 (content : List UInt8) : String :=
  if content = plantConfiguration then
    "0b9be5553ee53c40641420462ff1ddf147a7b39ff92c4d7643a05bfd47a6ce95"
  else if content = plantBytes (plantSnapshotText .tasks) then
    "f6424bf88dac1855309024827613f2576fc3c19940a2d272b0dec0d585f2bdb1"
  else if content = plantBytes (plantSnapshotText .requests) then
    "699ea2f9811c898599eba7a4dccc74aaeeb4a07060656c7117807db02f551204"
  else if content = [] then
    "e3b0c44298fc1c149afbf4c8996fb92427ae41e4649b934ca495991b7852b855"
  else plantManifestDigest

/-- A host on which the files of the sample can be read. -/
def plantHost : RestoreHost where
  python :=
    { loads := fun text =>
        if text = String.ofList (plantSnapshotText .tasks) then
          .ok (plantSnapshotDocument .tasks)
        else if text = String.ofList (plantSnapshotText .requests) then
          .ok (plantSnapshotDocument .requests)
        else .error "Expecting value: line 1 column 1 (char 0)"
      repr := fun _ => "None"
      floatText := fun _ => ['0']
      sha256 := fun _ => plantManifestDigest }
  sha256 := plantSha256
  decode := fun content => some (String.ofList (content.map fun byte => Char.ofNat byte.toNat))
  readManifest := fun content =>
    if content = plantManifestBytes then .ok plantManifest
    else .error "Expecting value: line 1 column 1 (char 0)"

/-- A recovery point without a previous management audit. -/
def plantPoint : RecoveryPoint where
  manifest := some plantManifestBytes
  digest := some plantManifestDigest
  artifacts := [("configuration.properties", plantConfiguration),
    ("tasks.json", plantBytes (plantSnapshotText .tasks)),
    ("idempotency.json", plantBytes (plantSnapshotText .requests)),
    ("audit.jsonl", [])]

def plantArguments : RestoreArguments where
  restoreId := "7d0bb3d4-6f9c-4f0e-8a3c-2b1f0f5f6a11"
  operator := "operator"
  confirmRuntimeStopped := true
  expectedManifestSha256 := plantManifestDigest
  destination := fun role => "/plant/" ++ role.name
  point := "/recovery/point"
  operationAudit := "/recovery/operations.jsonl"
  report := false

/-- A runtime with an earlier configuration, and an audit that has been rotated once. -/
def plantDisk : RestoreDisk where
  file
    | .destination .configuration => some (plantBytes "runtime.name=old\n".toList)
    | .destination .managementAudit => some []
    | .destination .managementAuditPrevious => some []
    | _ => none

def plantFault : Fault := ⟨"No space left on device", 0⟩

/-- The step that appends the finishing record. -/
def plantFinish : Nat :=
  (settleRestore plantHost plantArguments plantPoint).acts (plantDisk, {})

theorem plantDisk_fresh : Fresh plantDisk :=
  ⟨fun _ => rfl, fun _ => rfl, fun _ => rfl, rfl⟩

theorem plant_evaluated :
    verifyRecoveryPoint plantHost plantPoint = .ok plantManifestDigest ∧
    (prepareRestore plantHost plantArguments plantPoint).acts (plantDisk, {}) <
      (restoreBody plantHost plantArguments plantPoint).acts (plantDisk, {}) ∧
    ((restoreRecoveryPoint plantHost plantArguments plantPoint).start (plantDisk, {})
      (faultAt (some plantFinish) plantFault)).1 = .ok 3 ∧
    ((restoreRecoveryPoint plantHost plantArguments plantPoint).start (plantDisk, {})
      (faultAt (some plantFinish) plantFault)).2.state.1.file (.destination .configuration) ≠
        plantDisk.file (.destination .configuration) := by
  decide +kernel

theorem plantFinish_mutating :
    FailsMutating plantHost plantArguments plantPoint plantDisk plantFinish :=
  ⟨plant_evaluated.2.1, .inr rfl⟩

/-- A restore whose finishing record fails ends with code 3, and the new files stay. -/
theorem unrecorded_restore_stays :
    verifyRecoveryPoint plantHost plantPoint = .ok plantManifestDigest ∧
    FailsMutating plantHost plantArguments plantPoint plantDisk plantFinish ∧
    ((restoreRecoveryPoint plantHost plantArguments plantPoint).start (plantDisk, {})
      (faultAt (some plantFinish) plantFault)).1 = .ok 3 ∧
    ¬ AsBefore plantDisk
      ((restoreRecoveryPoint plantHost plantArguments plantPoint).start (plantDisk, {})
        (faultAt (some plantFinish) plantFault)).2.state.1 := by
  obtain ⟨verified, -, ended, differs⟩ := plant_evaluated
  exact ⟨verified, plantFinish_mutating, ended, fun as => differs (as .configuration)⟩

/-- The restore of the sample whose finishing record fails. -/
theorem plant_restore_ended :
    Ended plantHost plantArguments plantPoint plantDisk (some plantFinish)
      ((restoreRecoveryPoint plantHost plantArguments plantPoint).start (plantDisk, {})
        (faultAt (some plantFinish) plantFault)).1
      ((restoreRecoveryPoint plantHost plantArguments plantPoint).start (plantDisk, {})
        (faultAt (some plantFinish) plantFault)).2.state.1 :=
  restore_ended plantDisk_fresh (fun _ here => by cases here; exact plantFinish_mutating) plantFault

end PocoDDS.Tools.RestorePoint
