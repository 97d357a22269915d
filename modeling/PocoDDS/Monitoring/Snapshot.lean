import PocoDDS.Lib.Crash
import PocoDDS.Lib.Json

/-! Persistence snapshots: the four files of one snapshot and the steps that replace it. -/

namespace PocoDDS.Monitoring

open CrashLogic JsonModel

/-- The two snapshots of the management plane. -/
inductive SnapshotKind
  | tasks
  | requests
  deriving DecidableEq, Repr

/-- The root member that holds the records of a snapshot. -/
def SnapshotKind.arrayField : SnapshotKind → String
  | .tasks => "tasks"
  | .requests => "requests"

/-- The snapshot file and its `.new`, `.previous` and `.previous.new` companions. -/
structure SnapshotFiles where
  current : Option String
  staged : Option String
  previous : Option String
  stagedPrevious : Option String

/-- Reading a JSON object: a missing file is no object, and anything else must parse to one. -/
def readJsonObject (library : JsonLibrary) : Option String → Except String (Option Json)
  | none => .ok none
  | some text =>
    match library.parse text with
    | none => .error "JSON syntax error"
    | some root => if root.isObject then .ok (some root) else .error "Can not convert to object"

/-- The checks a snapshot must pass, returning the records it encodes. -/
def validatePersistenceSnapshot (library : JsonLibrary) (kind : SnapshotKind)
    (file : Option String) : Except String (List Json) := do
  match ← readJsonObject library file with
  | none => .error "File not found"
  | some root =>
    let schemaVersion := JsonLibrary.optValue library.convertInt root "schemaVersion" 0
    if schemaVersion ≠ 1 ∧ schemaVersion ≠ 2 then
      .error "unsupported persistence snapshot schema"
    else
      match root.getArray kind.arrayField with
      | none => .error ("persistence snapshot is missing " ++ kind.arrayField ++ " array")
      | some records =>
        -- Only schema 2 carries a digest over the serialised records.
        if schemaVersion = 2 ∧
            JsonLibrary.optValue library.convertString root "contentSha256" "" ≠
              library.sha256 (library.stringify (.arr records)) then
          .error "persistence snapshot integrity check failed"
        else .ok records

/-- The document written for a list of records. -/
def snapshotDocument (library : JsonLibrary) (kind : SnapshotKind) (records : List Json)
    (savedAtMicroseconds : Int) : Json :=
  .obj [("schemaVersion", .num 2),
    ("savedAtMicroseconds", .num savedAtMicroseconds),
    ("contentSha256", .str (library.sha256 (library.stringify (.arr records)))),
    (kind.arrayField, .arr records)]

def removeStaged : Action SnapshotFiles :=
  .atomic fun files => .ok { files with staged := none }

/-- Writing the staged file, which a crash may cut short anywhere. -/
def writeStaged (text : String) : Action SnapshotFiles where
  effect := fun files => .ok { files with staged := some text }
  torn := fun files => text.toList.inits.map fun part =>
    { files with staged := some (String.ofList part) }

/-- Reading the staged file back. -/
def readStaged (library : JsonLibrary) : Action SnapshotFiles :=
  .atomic fun files => (readJsonObject library files.staged).map fun _ => files

/-- Validating the current file before it is preserved. -/
def validateCurrent (library : JsonLibrary) (kind : SnapshotKind) : Action SnapshotFiles :=
  .atomic fun files => (validatePersistenceSnapshot library kind files.current).map fun _ => files

def removeStagedPrevious : Action SnapshotFiles :=
  .atomic fun files => .ok { files with stagedPrevious := none }

/-- Copying the current file, which a crash may cut short anywhere. -/
def copyCurrent : Action SnapshotFiles where
  effect := fun files => .ok { files with stagedPrevious := files.current }
  torn := fun files => (files.current.getD "").toList.inits.map fun part =>
    { files with stagedPrevious := some (String.ofList part) }

/-- Validating the copy before it replaces the previous snapshot. -/
def validateStagedPrevious (library : JsonLibrary) (kind : SnapshotKind) : Action SnapshotFiles :=
  .atomic fun files =>
    (validatePersistenceSnapshot library kind files.stagedPrevious).map fun _ => files

def replacePrevious : Action SnapshotFiles :=
  .atomic fun files => .ok { files with
    previous := files.stagedPrevious, stagedPrevious := none }

def replaceCurrent : Action SnapshotFiles :=
  .atomic fun files => .ok { files with current := files.staged, staged := none }

def preservePreviousSnapshot (library : JsonLibrary) (kind : SnapshotKind) :
    Prog SnapshotFiles Unit := do
  let present ← Prog.look fun files => files.current.isSome
  if present then
    Prog.act (validateCurrent library kind)
    Prog.act removeStagedPrevious
    Prog.act copyCurrent
    Prog.act (validateStagedPrevious library kind)
    Prog.act replacePrevious
  else pure ()

/-- The file work shared by both persist functions, once the records are serialised. -/
def persistSnapshot (library : JsonLibrary) (kind : SnapshotKind) (records : List Json)
    (savedAtMicroseconds : Int) : Prog SnapshotFiles Unit := do
  Prog.act removeStaged
  Prog.act (writeStaged
    (library.stringify (snapshotDocument library kind records savedAtMicroseconds)))
  Prog.act (readStaged library)
  preservePreviousSnapshot library kind
  Prog.act replaceCurrent

/-- What an operation may have done to the files at any of its crash points or ends. -/
structure Kept (library : JsonLibrary) (kind : SnapshotKind) (text : String)
    (before after : SnapshotFiles) : Prop where
  current : after.current = before.current ∨ after.current = some text
  previous : after.previous = before.previous ∨
    (after.previous = before.current ∧
      ∃ records, validatePersistenceSnapshot library kind before.current = .ok records)

/-- Before either replacement both durable files are as they were. -/
structure Untouched (before after : SnapshotFiles) : Prop where
  current : after.current = before.current
  previous : after.previous = before.previous

theorem Untouched.kept {library : JsonLibrary} {kind : SnapshotKind} {text : String}
    {before after : SnapshotFiles} (untouched : Untouched before after) :
    Kept library kind text before after :=
  ⟨Or.inl untouched.current, Or.inl untouched.previous⟩

/-- A check that succeeds returns the state it was given. -/
theorem map_const_ok {α : Type} {check : Except String α} {files next : SnapshotFiles}
    (performed : (check.map fun _ => files) = .ok next) :
    ∃ value, check = .ok value ∧ files = next := by
  cases check with
  | error message => simp [Except.map] at performed
  | ok value =>
    simp only [Except.map, Except.ok.injEq] at performed
    exact ⟨value, rfl, performed⟩

section Persist

variable {library : JsonLibrary} {kind : SnapshotKind} {text : String} {before : SnapshotFiles}

/-- A step that leaves the durable files alone keeps an assertion about the staging files. -/
theorem act_untouched {action : Action SnapshotFiles} {held reached : SnapshotFiles → Prop}
    (torn : ∀ files, Untouched before files → ∀ left ∈ action.torn files, Untouched before left)
    (effect : ∀ files next, Untouched before files → held files →
      action.effect files = .ok next → Untouched before next ∧ reached next) :
    (Prog.act action).Spec (Kept library kind text before)
      (fun files => Untouched before files ∧ held files)
      (fun _ files => Untouched before files ∧ reached files)
      (Kept library kind text before) := by
  apply Prog.Spec.act
  · intro files start left member
    have same := torn files start.1 left member
    exact ⟨same.kept, same.kept⟩
  · intro files start
    exact ⟨start.1.kept, start.1.kept⟩
  · intro files next start performed
    obtain ⟨same, holds⟩ := effect files next start.1 start.2 performed
    exact ⟨same.kept, same, holds⟩

/-- Preserving the current snapshot changes at most the previous one, to a validated copy. -/
theorem preservePreviousSnapshot_spec :
    (preservePreviousSnapshot library kind).Spec (Kept library kind text before)
      (fun files => Untouched before files ∧ files.staged = some text)
      (fun _ files => Kept library kind text before files ∧ files.staged = some text)
      (Kept library kind text before) := by
  apply Prog.Spec.andThen fun _ files => Untouched before files ∧ files.staged = some text
  · exact Prog.Spec.look fun files start => start
  intro present
  cases present with
  | false =>
    exact Prog.Spec.ret fun files start => ⟨start.1.kept, start.2⟩
  | true =>
    -- The copy is taken from the current file, and that file has just been validated.
    let valid : SnapshotFiles → Prop := fun files => files.staged = some text ∧
      ∃ records, validatePersistenceSnapshot library kind before.current = .ok records
    apply Prog.Spec.andThen fun _ files => Untouched before files ∧ valid files
    · apply act_untouched
      · intro files same left member
        cases member
      · intro files next same staged performed
        simp only [validateCurrent, Action.atomic, same.current] at performed
        obtain ⟨records, checked, rfl⟩ := map_const_ok performed
        exact ⟨same, staged, records, checked⟩
    intro _
    apply Prog.Spec.andThen fun _ files => Untouched before files ∧ valid files
    · apply act_untouched
      · intro files same left member
        cases member
      · intro files next same held performed
        cases performed
        exact ⟨⟨same.current, same.previous⟩, held⟩
    intro _
    apply Prog.Spec.andThen fun _ files => Untouched before files ∧
      (valid files ∧ files.stagedPrevious = before.current)
    · apply act_untouched
      · intro files same left member
        obtain ⟨part, -, rfl⟩ := List.mem_map.mp member
        exact ⟨same.current, same.previous⟩
      · intro files next same held performed
        cases performed
        exact ⟨⟨same.current, same.previous⟩, held, same.current⟩
    intro _
    apply Prog.Spec.andThen fun _ files => Untouched before files ∧
      (valid files ∧ files.stagedPrevious = before.current)
    · apply act_untouched
      · intro files same left member
        cases member
      · intro files next same held performed
        obtain ⟨records, checked, rfl⟩ := map_const_ok performed
        exact ⟨same, held⟩
    intro _
    apply Prog.Spec.act
    · intro files start left member
      cases member
    · intro files start
      exact ⟨start.1.kept, start.1.kept⟩
    · intro files next start performed
      cases performed
      obtain ⟨same, ⟨staged, valid⟩, copied⟩ := start
      have kept : Kept library kind text before
          { files with previous := files.stagedPrevious, stagedPrevious := none } :=
        ⟨Or.inl same.current, Or.inr ⟨copied, valid⟩⟩
      exact ⟨kept, kept, staged⟩

/-- Replacing the snapshot keeps the current file whole and the previous one validated. -/
theorem persistSnapshot_spec (records : List Json) (savedAtMicroseconds : Int) (written : text =
      library.stringify (snapshotDocument library kind records savedAtMicroseconds)) :
    (persistSnapshot library kind records savedAtMicroseconds).Spec
      (Kept library kind text before) (· = before)
      (fun _ files => Kept library kind text before files ∧ files.current = some text)
      (Kept library kind text before) := by
  -- Staging never touches the durable files, so the assertion carried is about `.new` only.
  have staging : (persistSnapshot library kind records savedAtMicroseconds).Spec
      (Kept library kind text before) (fun files => Untouched before files ∧ True)
      (fun _ files => Kept library kind text before files ∧ files.current = some text)
      (Kept library kind text before) := by
    apply Prog.Spec.andThen fun _ files => Untouched before files ∧ True
    · apply act_untouched
      · intro files same left member
        cases member
      · intro files next same _ performed
        cases performed
        exact ⟨⟨same.current, same.previous⟩, trivial⟩
    intro _
    apply Prog.Spec.andThen fun _ files => Untouched before files ∧ files.staged = some text
    · apply act_untouched
      · intro files same left member
        obtain ⟨part, -, rfl⟩ := List.mem_map.mp member
        exact ⟨same.current, same.previous⟩
      · intro files next same _ performed
        cases performed
        exact ⟨⟨same.current, same.previous⟩, by rw [written]⟩
    intro _
    apply Prog.Spec.andThen fun _ files => Untouched before files ∧ files.staged = some text
    · apply act_untouched
      · intro files same left member
        cases member
      · intro files next same staged performed
        obtain ⟨root, -, rfl⟩ := map_const_ok performed
        exact ⟨same, staged⟩
    intro _
    apply Prog.Spec.andThen fun _ files =>
      Kept library kind text before files ∧ files.staged = some text
    · exact preservePreviousSnapshot_spec
    intro _
    apply Prog.Spec.act
    · intro files start left member
      cases member
    · intro files start
      exact ⟨start.1, start.1⟩
    · intro files next start performed
      cases performed
      have kept : Kept library kind text before
          { files with current := files.staged, staged := none } :=
        ⟨Or.inr start.2, start.1.previous⟩
      exact ⟨kept, kept, start.2⟩
  apply staging.weaken
  · intro files same
    subst same
    exact ⟨⟨rfl, rfl⟩, trivial⟩
  · exact fun _ files held => held
  · exact fun files held => held

end Persist

/-- One persist operation, with the exceptions injected into it and an optional crash point. -/
structure Persist where
  records : List Json
  savedAtMicroseconds : Int
  faults : List (Option Fault)
  crash : Option Nat

/-- The text an operation stages. -/
def Persist.text (library : JsonLibrary) (kind : SnapshotKind) (operation : Persist) : String :=
  library.stringify
    (snapshotDocument library kind operation.records operation.savedAtMicroseconds)

/-- The files left behind: at the crash point if there is one, else when the call ended. -/
def Persist.leaves (library : JsonLibrary) (kind : SnapshotKind) (operation : Persist)
    (files : SnapshotFiles) : SnapshotFiles :=
  let world := ((persistSnapshot library kind operation.records
    operation.savedAtMicroseconds).run files operation.faults).2
  match operation.crash with
  | none => world.state
  | some point => world.seen.getD point world.state

/-- The files after a sequence of operations, each of which may have crashed. -/
def persistAll (library : JsonLibrary) (kind : SnapshotKind) (operations : List Persist)
    (files : SnapshotFiles) : SnapshotFiles :=
  operations.foldl (fun files operation => operation.leaves library kind files) files

/-- Every way an operation can end keeps the durable files whole. -/
theorem Persist.leaves_kept (library : JsonLibrary) (kind : SnapshotKind) (operation : Persist)
    (files : SnapshotFiles) :
    Kept library kind (operation.text library kind) files
      (operation.leaves library kind files) := by
  have spec := @persistSnapshot_spec library kind _ files operation.records
    operation.savedAtMicroseconds rfl
  have start : Kept library kind (operation.text library kind) files files :=
    ⟨Or.inl rfl, Or.inl rfl⟩
  have ended : Kept library kind (operation.text library kind) files
      ((persistSnapshot library kind operation.records
        operation.savedAtMicroseconds).run files operation.faults).2.state := by
    rcases spec.run_state rfl start operation.faults with ⟨_, returned⟩ | raised
    · exact returned.1
    · exact raised
  have crashes := spec.run_seen rfl start operation.faults
  unfold Persist.leaves
  cases operation.crash with
  | none => exact ended
  | some point =>
    show Kept _ _ _ _ (List.getD _ _ _)
    rcases Nat.lt_or_ge point ((persistSnapshot library kind operation.records
      operation.savedAtMicroseconds).run files operation.faults).2.seen.length with within | past
    · rw [List.getD_eq_getElem _ _ within]
      exact crashes _ (List.getElem_mem within)
    · rw [List.getD_eq_default _ _ past]
      exact ended

theorem Persist.leaves_written (library : JsonLibrary) (kind : SnapshotKind)
    (operation : Persist) (files : SnapshotFiles) (alive : operation.crash = none)
    (returned : ((persistSnapshot library kind operation.records
      operation.savedAtMicroseconds).run files operation.faults).1 = .ok ()) :
    (operation.leaves library kind files).current = some (operation.text library kind) := by
  have spec := @persistSnapshot_spec library kind _ files operation.records
    operation.savedAtMicroseconds rfl
  have written := spec.run_ok rfl ⟨Or.inl rfl, Or.inl rfl⟩ returned
  simp only [Persist.leaves, alive]
  exact written.2

theorem validate_written {library : JsonLibrary} (converts : library.Converts)
    (kind : SnapshotKind) (records : List Json) (savedAtMicroseconds : Int)
    (readsBack : library.ReadsBack (snapshotDocument library kind records savedAtMicroseconds)) :
    validatePersistenceSnapshot library kind
      (some (library.stringify (snapshotDocument library kind records savedAtMicroseconds))) =
        .ok records := by
  -- Each member is found under its own key, and the digest is over the same serialisation.
  have root : readJsonObject library
      (some (library.stringify (snapshotDocument library kind records savedAtMicroseconds))) =
        .ok (some (snapshotDocument library kind records savedAtMicroseconds)) := by
    unfold readJsonObject
    simp only [show library.parse (library.stringify _) = some _ from readsBack]
    rfl
  have schema := converts.optInt (show (snapshotDocument library kind records
    savedAtMicroseconds).member "schemaVersion" = some (.num 2) from rfl) 0
  have digest := converts.optString (show (snapshotDocument library kind records
    savedAtMicroseconds).member "contentSha256" =
      some (.str (library.sha256 (library.stringify (.arr records)))) from rfl) ""
  have array : (snapshotDocument library kind records savedAtMicroseconds).getArray
      kind.arrayField = some records := by
    cases kind <;> rfl
  unfold validatePersistenceSnapshot
  rw [root]
  simp [bind, Except.bind, schema, digest, array]

theorem persistAll_previous (library : JsonLibrary) (kind : SnapshotKind) (start : SnapshotFiles)
    (fresh : start.previous = none) (operations : List Persist) :
    (persistAll library kind operations start).previous = none ∨ ∃ count records,
      count ≤ operations.length ∧
      validatePersistenceSnapshot library kind
          (persistAll library kind (operations.take count) start).current = .ok records ∧
        validatePersistenceSnapshot library kind
          (persistAll library kind operations start).previous = .ok records := by
  -- The induction appends operations at the end, as they happen.
  induction operations using List.reverseRecOn with
  | nil => exact Or.inl fresh
  | append_singleton earlier operation ih =>
    have last : persistAll library kind (earlier ++ [operation]) start =
        operation.leaves library kind (persistAll library kind earlier start) := by
      simp [persistAll]
    have kept := operation.leaves_kept library kind (persistAll library kind earlier start)
    rw [← last] at kept
    rcases kept.previous with same | ⟨copied, records, valid⟩
    · rw [same]
      rcases ih with absent | ⟨count, records, within, encoded, held⟩
      · exact Or.inl absent
      · refine Or.inr ⟨count, records, by simp; omega, ?_, held⟩
        rw [List.take_append_of_le_length within]
        exact encoded
    · refine Or.inr ⟨earlier.length, records, by simp, ?_, ?_⟩
      · rw [List.take_left]
        exact valid
      · rw [copied]
        exact valid

/--
Crash consistency of a snapshot.

After any sequence of earlier operations, an operation that crashes or raises anywhere leaves a
valid current file valid and encoding the records before or after it, and a previous file that
is absent or encodes what the current file encoded at some earlier point.
-/
theorem persist_crash_consistent {library : JsonLibrary} (converts : library.Converts)
    (kind : SnapshotKind) (start : SnapshotFiles) (fresh : start.previous = none)
    (earlier : List Persist) (operation : Persist)
    (readsBack : library.ReadsBack (snapshotDocument library kind operation.records
      operation.savedAtMicroseconds)) :
    let before := persistAll library kind earlier start
    let after := operation.leaves library kind before
    (∀ records, validatePersistenceSnapshot library kind before.current = .ok records →
      validatePersistenceSnapshot library kind after.current = .ok records ∨
        validatePersistenceSnapshot library kind after.current = .ok operation.records) ∧
      (after.previous = none ∨ ∃ count records, count ≤ earlier.length ∧
        validatePersistenceSnapshot library kind
            (persistAll library kind (earlier.take count) start).current = .ok records ∧
          validatePersistenceSnapshot library kind after.previous = .ok records) := by
  intro before after
  have kept := operation.leaves_kept library kind before
  constructor
  · intro records valid
    rcases kept.current with same | replaced
    · left
      rw [show after.current = before.current from same]
      exact valid
    · right
      rw [show after.current = _ from replaced]
      exact validate_written converts kind _ _ readsBack
  · rcases kept.previous with same | ⟨copied, records, valid⟩
    · rw [show after.previous = before.previous from same]
      exact persistAll_previous library kind start fresh earlier
    · refine Or.inr ⟨earlier.length, records, Nat.le_refl _, ?_, ?_⟩
      · rw [List.take_length]
        exact valid
      · rw [show after.previous = before.current from copied]
        exact valid

/-- SHA-256 of the two characters of an empty array. -/
def emptyArrayDigest : String :=
  "4f53cda18c2baa0c0354bb5f9a3ecbe5ed12ab4d8e11ba873c2f11161202b945"

/-- An empty ledger snapshot, as the program writes it. -/
def emptySnapshot : Json :=
  snapshotDocument (tableLibrary [] [("[]", emptyArrayDigest)]) .requests [] 1

/-- The theorem applied to a first snapshot whose second write is cut short by a crash. -/
theorem persist_crash_consistent_empty :
    let library := tableLibrary [emptySnapshot] [("[]", emptyArrayDigest)]
    let files : SnapshotFiles := ⟨none, none, none, none⟩
    let before := persistAll library .requests [⟨[], 1, [], none⟩] files
    let after := Persist.leaves library .requests ⟨[], 1, [], some 3⟩ before
    (∀ records, validatePersistenceSnapshot library .requests before.current = .ok records →
      validatePersistenceSnapshot library .requests after.current = .ok records ∨
        validatePersistenceSnapshot library .requests after.current = .ok []) ∧
      (after.previous = none ∨ ∃ count records, count ≤ 1 ∧
        validatePersistenceSnapshot library .requests
          (persistAll library .requests
            ([(⟨[], 1, [], none⟩ : Persist)].take count) files).current = .ok records ∧
          validatePersistenceSnapshot library .requests after.previous = .ok records) :=
  persist_crash_consistent (tableLibrary_converts _ _) .requests ⟨none, none, none, none⟩ rfl
    [⟨[], 1, [], none⟩] ⟨[], 1, [], some 3⟩ (tableLibrary_readsBack [] [] emptySnapshot _ (by simp))

end PocoDDS.Monitoring
