import PocoDDS.Lib.JsonText
import PocoDDS.Lib.PyJson
import PocoDDS.Monitoring.LedgerFile

/-! The offline inspection of a persistence snapshot, beside the check that the runtime makes. -/

namespace PocoDDS.Tools.SnapshotInspection

open JsonModel Monitoring Json

/-- A digit of a lower-case hexadecimal number. -/
def lowerDigit (value : Nat) : Char :=
  Char.ofNat (if value < 10 then 48 + value else 87 + value)

/-- How `json.dumps` writes a character when it keeps what is not ASCII. -/
def pythonEscape (character : Char) : List Char :=
  if character = '"' then ['\\', '"']
  else if character = '\\' then ['\\', '\\']
  else if character = '\n' then ['\\', 'n']
  else if character = '\r' then ['\\', 'r']
  else if character = '\t' then ['\\', 't']
  else if character = '\x08' then ['\\', 'b']
  else if character = '\x0c' then ['\\', 'f']
  else if character.toNat < 32 then
    ['\\', 'u', '0', '0', lowerDigit (character.toNat / 16), lowerDigit (character.toNat % 16)]
  else [character]

/-- What the tool takes from Python: the parser, `repr`, the text of a float and the digest. -/
structure Python where
  loads : String → Except String Json
  repr : Option Json → String
  floatText : String → List Char
  sha256 : String → String

/-- `json.dumps` with sorted keys and without white space. -/
def Python.writer (python : Python) : Writer where
  escape := pythonEscape
  real := python.floatText

/-- The text that a lower-case SHA-256 digest must match. -/
def isDigest (text : String) : Bool :=
  text.toList.length == 64 && text.toList.all fun character =>
    ('0' ≤ character && character ≤ '9') || ('a' ≤ character && character ≤ 'f')

/-- What is reported about one snapshot file. -/
structure SnapshotEvidence where
  path : String
  kind : SnapshotKind
  arrayField : String
  present : Bool
  valid : Bool := false
  error : Option String := none
  fileSha256 : Option String := none
  sizeBytes : Option Nat := none
  schemaVersion : Option Json := none
  recordCount : Option Nat := none
  contentSha256 : Option String := none
  computedContentSha256 : Option String := none

/-- A report that ends with an error. -/
def SnapshotEvidence.rejected (evidence : SnapshotEvidence) (error : String) : SnapshotEvidence :=
  { evidence with error := some error }

/-- The digest over the records, as the tool writes them again. -/
def Python.contentDigest (python : Python) (records : List Json) : String :=
  python.sha256 (String.ofList (python.writer.text (.arr records)))

/-- The part of the inspection that schema 2 adds. -/
def inspectDigest (python : Python) (evidence : SnapshotEvidence) (root : Json)
    (records : List Json) : SnapshotEvidence :=
  match Json.str? (root.member "contentSha256") with
  | none => evidence.rejected "contentSha256 must be a lowercase SHA-256 digest"
  | some expected =>
    if !isDigest expected then
      evidence.rejected "contentSha256 must be a lowercase SHA-256 digest"
    else
      let actual := python.contentDigest records
      let evidence := { evidence with
        contentSha256 := some expected, computedContentSha256 := some actual }
      if actual ≠ expected then evidence.rejected "contentSha256 mismatch"
      else { evidence with valid := true }

/-- The checks on a parsed snapshot. -/
def inspectRoot (python : Python) (evidence : SnapshotEvidence) (root : Json) :
    SnapshotEvidence :=
  let schemaVersion := root.member "schemaVersion"
  if !root.isObject then evidence.rejected "snapshot root must be a JSON object"
  else if !(Json.isInt schemaVersion 1 || Json.isInt schemaVersion 2) then
    evidence.rejected ("unsupported schemaVersion: " ++ python.repr schemaVersion)
  else
    match root.getArray evidence.arrayField with
    | none => evidence.rejected (evidence.arrayField ++ " must be a JSON array")
    | some records =>
      let evidence := { evidence with schemaVersion, recordCount := some records.length }
      if Json.isInt schemaVersion 2 then inspectDigest python evidence root records
      else { evidence with valid := true }

/-- `inspect_persistence_snapshot`, on the content of the file or on none. -/
def inspectPersistenceSnapshot (python : Python) (path : String) (kind : SnapshotKind)
    (file : Option String) : SnapshotEvidence :=
  let evidence : SnapshotEvidence :=
    { path, kind, arrayField := kind.arrayField, present := file.isSome }
  match file with
  | none => evidence.rejected "file not found"
  | some text =>
    let evidence := { evidence with
      fileSha256 := some (python.sha256 text), sizeBytes := some text.utf8ByteSize }
    match python.loads text with
    | .error message => evidence.rejected message
    | .ok root => inspectRoot python evidence root

/-- What is assumed of the runtime's writer: which characters it escapes, and how. -/
structure EscapesSlash (runtime : Writer) : Prop where
  quote : runtime.escape '"' = ['\\', '"']
  backslash : runtime.escape '\\' = ['\\', '\\']
  slash : runtime.escape '/' = ['\\', '/']
  control : ∀ character : Char, character.toNat < 32 → IsEscape (runtime.escape character)
  other : ∀ character : Char, 32 ≤ character.toNat → character ≠ '"' → character ≠ '\\' →
    character ≠ '/' → runtime.escape character = [character]
  real : ∀ literal, ∀ character ∈ runtime.real literal, ¬ Delimited [character]

/-- The runtime's JSON library and Python's read the same format and compute the same digest. -/
structure SameFormat (library : JsonLibrary) (runtime : Writer) (python : Python) : Prop where
  converts : library.Converts
  readsBool : ∀ value, library.convertInt (.bool value) = some (if value then 1 else 0)
  readsWhole : ∀ (value : Int) literal, library.convertInt (.real value literal) = some value
  stringify : ∀ value, library.stringify value = String.ofList (runtime.text value)
  escapes : EscapesSlash runtime
  floats : ∀ literal, ∀ character ∈ python.floatText literal, ¬ Delimited [character]
  digest : ∀ text, python.sha256 text = library.sha256 text
  digestForm : ∀ text, isDigest (library.sha256 text) = true

/-- A file that both parsers read as the same document. -/
def ReadAs (library : JsonLibrary) (python : Python) (text : String) (root : Json) : Prop :=
  library.parse text = some root ∧ python.loads text = .ok root

/-- A character that both writers put into a string in the same way. -/
def Shared (runtime : Writer) (character : Char) : Prop :=
  character ≠ '/' ∧
    (character.toNat < 32 → runtime.escape character = pythonEscape character)

instance (runtime : Writer) (character : Char) : Decidable (Shared runtime character) :=
  inferInstanceAs (Decidable (_ ∧ _))

/-- Records without a slash, and without any other text that the writers write differently. -/
def SharedRecords (runtime : Writer) (python : Python) (records : List Json) : Prop :=
  (Json.arr records).Holds (Shared runtime) fun literal =>
    runtime.real literal = python.floatText literal

/-- The digest over the records that the runtime computes. -/
def contentDigest (library : JsonLibrary) (records : List Json) : String :=
  library.sha256 (library.stringify (.arr records))

/-- The digest tells the two texts of the records apart. -/
def NoCollision (library : JsonLibrary) (python : Python) (records : List Json) : Prop :=
  contentDigest library records = python.contentDigest records →
    library.stringify (.arr records) = String.ofList (python.writer.text (.arr records))

/-- The schema version that the runtime reads. -/
def schemaVersion (library : JsonLibrary) (root : Json) : Int :=
  JsonLibrary.optValue library.convertInt root "schemaVersion" 0

/-- The recorded digest that the runtime reads. -/
def recordedDigest (library : JsonLibrary) (root : Json) : String :=
  JsonLibrary.optValue library.convertString root "contentSha256" ""

/-- The documents that the two checks answer differently. -/
inductive Disputed (library : JsonLibrary) (runtime : Writer) (python : Python) (root : Json)
    (records : List Json) : Prop
  /-- A schema version that only the runtime converts to 1. -/
  | converted (unread : Json.isInt (root.member "schemaVersion") 1 = false)
    (version : schemaVersion library root = 1)
  /-- A schema version that only the runtime converts to 2. -/
  | convertedSealed (unread : Json.isInt (root.member "schemaVersion") 2 = false)
    (version : schemaVersion library root = 2)
    (recorded : recordedDigest library root = contentDigest library records)
  /-- A digest that is no text, and that only the runtime converts to one. -/
  | convertedDigest (version : Json.isInt (root.member "schemaVersion") 2 = true)
    (unread : Json.str? (root.member "contentSha256") = none)
    (recorded : recordedDigest library root = contentDigest library records)
  /-- Records written differently, under the digest of one of the two texts. -/
  | rewritten (version : Json.isInt (root.member "schemaVersion") 2 = true)
    (differs : ¬ SharedRecords runtime python records)
    (recorded : Json.str? (root.member "contentSha256") = some (contentDigest library records) ∨
      Json.str? (root.member "contentSha256") = some (python.contentDigest records))

theorem pythonEscape_isEscape (character : Char) : IsEscape (pythonEscape character) := by
  unfold pythonEscape
  split_ifs
  all_goals first
    | exact IsEscape.short _ (by decide)
    | exact IsEscape.long _ _ _ _
    | exact IsEscape.plain _ ‹_›

theorem Python.writer_lawful {python : Python}
    (floats : ∀ literal, ∀ character ∈ python.floatText literal, ¬ Delimited [character]) :
    python.writer.Lawful :=
  ⟨pythonEscape_isEscape, floats⟩

theorem pythonEscape_other {character : Char} (printed : 32 ≤ character.toNat)
    (quote : character ≠ '"') (backslash : character ≠ '\\') :
    pythonEscape character = [character] := by
  have escaped : ∀ control : Char, control.toNat < 32 → character ≠ control := by
    intro control below same
    rw [same] at printed
    omega
  unfold pythonEscape
  rw [if_neg quote, if_neg backslash, if_neg (escaped '\n' (by decide)),
    if_neg (escaped '\r' (by decide)), if_neg (escaped '\t' (by decide)),
    if_neg (escaped '\x08' (by decide)), if_neg (escaped '\x0c' (by decide)),
    if_neg (by omega)]

section Escapes

variable {runtime : Writer}

theorem EscapesSlash.lawful (escapes : EscapesSlash runtime) : runtime.Lawful := by
  refine ⟨fun character => ?_, escapes.real⟩
  by_cases control : character.toNat < 32
  · exact escapes.control character control
  by_cases quote : character = '"'
  · rw [quote, escapes.quote]
    exact IsEscape.short _ (by decide)
  by_cases backslash : character = '\\'
  · rw [backslash, escapes.backslash]
    exact IsEscape.short _ (by decide)
  by_cases slash : character = '/'
  · rw [slash, escapes.slash]
    exact IsEscape.short _ (by decide)
  rw [escapes.other character (by omega) quote backslash slash]
  exact IsEscape.plain _ backslash

/-- The two writers part ways at the slash, and perhaps at control characters. -/
theorem EscapesSlash.shared_iff (escapes : EscapesSlash runtime) (character : Char) :
    runtime.escape character = pythonEscape character ↔ Shared runtime character := by
  constructor
  · intro same
    refine ⟨?_, fun _ => same⟩
    intro slash
    rw [slash, escapes.slash] at same
    exact absurd same (by decide)
  · intro shared
    by_cases control : character.toNat < 32
    · exact shared.2 control
    by_cases quote : character = '"'
    · rw [quote, escapes.quote]
      rfl
    by_cases backslash : character = '\\'
    · rw [backslash, escapes.backslash]
      rfl
    rw [escapes.other character (by omega) quote backslash shared.1,
      pythonEscape_other (by omega) quote backslash]

end Escapes

section Verdicts

variable {library : JsonLibrary} {runtime : Writer} {python : Python}
variable {root : Json} {kind : SnapshotKind}

variable (format : SameFormat library runtime python)
include format

theorem SameFormat.text_eq_iff (records : List Json) :
    library.stringify (.arr records) = String.ofList (python.writer.text (.arr records)) ↔
      SharedRecords runtime python records := by
  have characters : (fun character => runtime.escape character = python.writer.escape character) =
      Shared runtime :=
    funext fun character => propext (format.escapes.shared_iff character)
  rw [format.stringify, String.ofList_inj,
    Writer.text_eq_iff format.escapes.lawful (Python.writer_lawful format.floats),
    Writer.Agree, characters]
  rfl

theorem SameFormat.digest_eq_iff {records : List Json}
    (noCollision : NoCollision library python records) :
    contentDigest library records = python.contentDigest records ↔
      SharedRecords runtime python records := by
  rw [← format.text_eq_iff]
  constructor
  · exact noCollision
  · intro same
    rw [contentDigest, Python.contentDigest, same, format.digest]

theorem SameFormat.schemaVersion_eq {number : Int}
    (read : isInt (root.member "schemaVersion") number = true) :
    schemaVersion library root = number := by
  unfold schemaVersion JsonLibrary.optValue
  cases found : root.member "schemaVersion" with
  | none => simp [found, isInt, int?] at read
  | some value =>
    rw [found] at read
    cases value with
    | bool value =>
      have same : (if value then 1 else 0) = number := by
        simpa [isInt, int?] using read
      simp [format.readsBool, same]
    | num value =>
      have same : value = number := by
        simpa [isInt, int?] using read
      simp [format.converts.int, same]
    | real value literal =>
      have same : value = number := by
        simpa [isInt] using read
      simp [same, format.readsWhole]
    | _ => simp [isInt, int?] at read

theorem SameFormat.recordedDigest_eq {text : String}
    (recorded : str? (root.member "contentSha256") = some text) :
    recordedDigest library root = text := by
  have found := str?_eq_some.mp recorded
  rw [recordedDigest, format.converts.optString found]

omit format

theorem isObject_of_getArray {key : String} {records : List Json}
    (found : root.getArray key = some records) : root.isObject = true := by
  cases root with
  | obj members => rfl
  | _ => simp [getArray, member] at found

/-- What the runtime accepts. -/
theorem validate_isOk_iff {text : String} (reads : library.parse text = some root) :
    (validatePersistenceSnapshot library kind (some text)).isOk = true ↔
      ∃ records, root.getArray kind.arrayField = some records ∧
        (schemaVersion library root = 1 ∨ schemaVersion library root = 2 ∧
          recordedDigest library root = contentDigest library records) := by
  unfold validatePersistenceSnapshot readJsonObject
  simp only [reads]
  change _ ↔ ∃ records, _ ∧ (JsonLibrary.optValue library.convertInt root "schemaVersion" 0 = 1 ∨
    JsonLibrary.optValue library.convertInt root "schemaVersion" 0 = 2 ∧
      JsonLibrary.optValue library.convertString root "contentSha256" "" =
        library.sha256 (library.stringify (.arr records)))
  cases array : root.getArray kind.arrayField with
  | none =>
    -- Whatever else the document holds, there are no records.
    cases root.isObject with
    | false => simp [Bind.bind, Except.bind, Except.isOk, Except.toBool]
    | true =>
      simp only [if_true, Bind.bind, Except.bind, array]
      split_ifs <;> simp [Except.isOk, Except.toBool]
  | some records =>
    simp only [isObject_of_getArray array, if_true, Bind.bind, Except.bind, array]
    generalize JsonLibrary.optValue library.convertInt root "schemaVersion" 0 = version
    by_cases first : version = 1
    · simp [first, Except.isOk, Except.toBool]
    by_cases second : version = 2
    · subst second
      by_cases recorded : JsonLibrary.optValue library.convertString root "contentSha256" "" =
          library.sha256 (library.stringify (.arr records))
      · simp [recorded, Except.isOk, Except.toBool]
      · simp [recorded, Except.isOk, Except.toBool]
    · simp [first, second, Except.isOk, Except.toBool]

theorem inspectDigest_valid_iff (digestForm : ∀ text, isDigest (python.sha256 text) = true)
    {evidence : SnapshotEvidence} (fresh : evidence.valid = false) (root : Json)
    (records : List Json) :
    (inspectDigest python evidence root records).valid = true ↔
      str? (root.member "contentSha256") = some (python.contentDigest records) := by
  unfold inspectDigest
  cases recorded : str? (root.member "contentSha256") with
  | none => simp [SnapshotEvidence.rejected, fresh]
  | some expected =>
    by_cases same : python.contentDigest records = expected
    · have formed : isDigest expected = true := by
        rw [← same]
        exact digestForm _
      simp [formed, same]
    · have differs : expected ≠ python.contentDigest records := fun equal => same equal.symm
      cases formed : isDigest expected with
      | false => simp [formed, SnapshotEvidence.rejected, fresh, differs]
      | true => simp [formed, same, SnapshotEvidence.rejected, fresh, differs]

/-- What the tool reports as valid. -/
theorem inspect_valid_iff (format : SameFormat library runtime python) {path text : String}
    (reads : python.loads text = .ok root) :
    (inspectPersistenceSnapshot python path kind (some text)).valid = true ↔
      ∃ records, root.getArray kind.arrayField = some records ∧
        (isInt (root.member "schemaVersion") 1 = true ∨
          isInt (root.member "schemaVersion") 2 = true ∧
            str? (root.member "contentSha256") = some (python.contentDigest records)) := by
  have digestForm : ∀ text, isDigest (python.sha256 text) = true := by
    intro text
    rw [format.digest]
    exact format.digestForm text
  unfold inspectPersistenceSnapshot inspectRoot
  simp only [reads]
  cases array : root.getArray kind.arrayField with
  | none =>
    simp only [reduceCtorEq, false_and, exists_false, iff_false]
    split_ifs <;> simp [SnapshotEvidence.rejected]
  | some records =>
    simp only [isObject_of_getArray array, Bool.not_true, Bool.false_eq_true, if_false,
      Option.some.injEq, exists_eq_left']
    cases second : isInt (root.member "schemaVersion") 2 with
    | true =>
      -- The version is 2, so it is not 1 as well.
      have first : isInt (root.member "schemaVersion") 1 = false := by
        by_contra one
        have both := format.schemaVersion_eq (by simpa using one)
        rw [format.schemaVersion_eq second] at both
        omega
      simp only [first, Bool.or_true, Bool.not_true, Bool.false_eq_true, if_false, if_true,
        false_or, true_and]
      exact inspectDigest_valid_iff digestForm rfl root records
    | false =>
      cases isInt (root.member "schemaVersion") 1 with
      | true => simp
      | false => simp [SnapshotEvidence.rejected]

theorem disputed_sealed_iff (format : SameFormat library runtime python) {records : List Json}
    (noCollision : NoCollision library python records)
    (second : isInt (root.member "schemaVersion") 2 = true) :
    ¬ (recordedDigest library root = contentDigest library records ↔
        str? (root.member "contentSha256") = some (python.contentDigest records)) ↔
      Disputed library runtime python root records := by
  have sameDigest := format.digest_eq_iff noCollision
  have version := format.schemaVersion_eq second
  constructor
  · intro differ
    cases recorded : str? (root.member "contentSha256") with
    | none =>
      rw [recorded] at differ
      exact Disputed.convertedDigest second recorded (by simpa using differ)
    | some text =>
      rw [format.recordedDigest_eq recorded, recorded, Option.some.injEq] at differ
      have differs : ¬ SharedRecords runtime python records := by
        intro shared
        exact differ (by rw [sameDigest.mpr shared])
      refine Disputed.rewritten second differs ?_
      rw [recorded, Option.some.injEq, Option.some.injEq]
      tauto
  · intro disputed both
    cases disputed with
    | converted _ one => omega
    | convertedSealed unread _ _ => simp [second] at unread
    | convertedDigest _ unread recorded => simp [both.mp recorded] at unread
    | rewritten _ differs recorded =>
      -- Either digest being recorded would make the two equal.
      apply differs
      rw [← sameDigest]
      rcases recorded with runtimeDigest | toolDigest
      · have equal := both.mp (format.recordedDigest_eq runtimeDigest)
        rw [runtimeDigest] at equal
        exact Option.some.inj equal
      · rw [← both.mpr toolDigest]
        exact format.recordedDigest_eq toolDigest

/-- The two checks answer differently exactly on the disputed documents. -/
theorem verdicts_differ_iff (format : SameFormat library runtime python) {path text : String}
    (reads : ReadAs library python text root)
    (noCollision : ∀ records, root.getArray kind.arrayField = some records →
      NoCollision library python records) :
    (validatePersistenceSnapshot library kind (some text)).isOk ≠
        (inspectPersistenceSnapshot python path kind (some text)).valid ↔
      ∃ records, root.getArray kind.arrayField = some records ∧
        Disputed library runtime python root records := by
  have runtimeReads : (validatePersistenceSnapshot library kind (some text)).isOk = true ↔ _ :=
    validate_isOk_iff reads.1
  have toolReads : (inspectPersistenceSnapshot python path kind (some text)).valid = true ↔ _ :=
    inspect_valid_iff format reads.2
  rw [ne_eq, Bool.eq_iff_iff, runtimeReads, toolReads]
  cases array : root.getArray kind.arrayField with
  | none => simp
  | some records =>
    simp only [Option.some.injEq, exists_eq_left']
    by_cases first : isInt (root.member "schemaVersion") 1 = true
    · -- Schema 1 has no digest, and both accept it.
      have version := format.schemaVersion_eq first
      simp only [first, version, true_or, not_true, false_iff]
      intro disputed
      cases disputed with
      | converted unread _ => simp [first] at unread
      | convertedSealed _ other _ => omega
      | convertedDigest other _ _ => simp [format.schemaVersion_eq other] at version
      | rewritten other _ _ => simp [format.schemaVersion_eq other] at version
    by_cases second : isInt (root.member "schemaVersion") 2 = true
    · -- Schema 2 on both sides, so the digests decide.
      have version := format.schemaVersion_eq second
      have notOne : ¬ (2 : Int) = 1 := by omega
      simp only [first, second, version, notOne, false_or, true_and, Bool.false_eq_true]
      exact disputed_sealed_iff format (noCollision records array) second
    · -- The tool rejects the version, whatever it converts to.
      have rejected : ¬ (isInt (root.member "schemaVersion") 1 = true ∨
          isInt (root.member "schemaVersion") 2 = true ∧
            str? (root.member "contentSha256") = some (python.contentDigest records)) := by
        rintro (one | ⟨two, -⟩)
        · exact first one
        · exact second two
      simp only [rejected, iff_false, not_not]
      constructor
      · rintro (version | ⟨version, recorded⟩)
        · exact Disputed.converted (by simpa using first) version
        · exact Disputed.convertedSealed (by simpa using second) version recorded
      · intro disputed
        cases disputed with
        | converted _ version => exact Or.inl version
        | convertedSealed _ version recorded => exact Or.inr ⟨version, recorded⟩
        | convertedDigest two _ _ => exact absurd two second
        | rewritten two _ _ => exact absurd two second

end Verdicts

/-- A digit of an upper-case hexadecimal number. -/
def upperDigit (value : Nat) : Char :=
  Char.ofNat (if value < 10 then 48 + value else 55 + value)

/-- How the runtime's library writes a character. -/
def pocoEscape (character : Char) : List Char :=
  if character = '"' then ['\\', '"']
  else if character = '\\' then ['\\', '\\']
  else if character = '/' then ['\\', '/']
  else if character = '\n' then ['\\', 'n']
  else if character = '\r' then ['\\', 'r']
  else if character = '\t' then ['\\', 't']
  else if character = '\x08' then ['\\', 'b']
  else if character = '\x0c' then ['\\', 'f']
  else if character.toNat < 32 then
    ['\\', 'u', '0', '0', upperDigit (character.toNat / 16), upperDigit (character.toNat % 16)]
  else [character]

/-- The runtime's writer, for records without fractions. -/
def pocoWriter : Writer where
  escape := pocoEscape
  real := fun _ => ['0']

theorem pocoWriter_escapesSlash : EscapesSlash pocoWriter := by
  refine ⟨rfl, rfl, rfl, ?_, ?_, ?_⟩
  · intro character _
    simp only [pocoWriter, pocoEscape]
    split_ifs
    all_goals first
      | exact IsEscape.short _ (by decide)
      | exact IsEscape.long _ _ _ _
  · intro character printed quote backslash slash
    have escaped : ∀ control : Char, control.toNat < 32 → character ≠ control := by
      intro control below same
      rw [same] at printed
      omega
    simp only [pocoWriter, pocoEscape]
    rw [if_neg quote, if_neg backslash, if_neg slash, if_neg (escaped '\n' (by decide)),
      if_neg (escaped '\r' (by decide)), if_neg (escaped '\t' (by decide)),
      if_neg (escaped '\x08' (by decide)), if_neg (escaped '\x0c' (by decide)),
      if_neg (by omega)]
  · intro literal character digit
    simp only [pocoWriter, List.mem_singleton] at digit
    subst digit
    simp [Delimited]

/-- A completed request to open a protocol. -/
def sampleRecords (target : String) : List Json :=
  ledgerRecords [("open-1",
    ⟨"952fd4d6f375e660a5b4382160dff4c2fb1675a8041e76a85f4fe02ffe8560c2",
      "protocol-lifecycle", target, "open", 1, true, false⟩)]

/-- SHA-256 of the records, for a target with a slash, as the runtime and the tool write them. -/
@[irreducible]
def sampleSha256 (text : String) : String :=
  if text = String.ofList (pocoWriter.text (.arr (sampleRecords "plant/pump"))) then
    "009961ad7a290e0e62dade8a6ded0fed5b1ee54319e561697349961376bb4a5f"
  else "0532f9b630bae03f5b34ecb5ece596a8f3562f7544bb7dbdf9c819e56201a80d"

theorem sampleSha256_runtime :
    sampleSha256 (String.ofList (pocoWriter.text (.arr (sampleRecords "plant/pump")))) =
      "009961ad7a290e0e62dade8a6ded0fed5b1ee54319e561697349961376bb4a5f" := by
  unfold sampleSha256
  exact if_pos rfl

theorem sampleSha256_other {text : String}
    (other : ¬ text = String.ofList (pocoWriter.text (.arr (sampleRecords "plant/pump")))) :
    sampleSha256 text = "0532f9b630bae03f5b34ecb5ece596a8f3562f7544bb7dbdf9c819e56201a80d" := by
  unfold sampleSha256
  exact if_neg other

/-- A JSON library that knows one document. -/
def sampleLibrary (document : Json) : JsonLibrary where
  stringify := fun value => String.ofList (pocoWriter.text value)
  parse := fun text =>
    if text = String.ofList (pocoWriter.text document) then some document else none
  convertString := fun value => match value with | .str text => some text | _ => none
  convertInt := fun value => match value with
    | .num number => some number
    | .bool flag => some (if flag then 1 else 0)
    | .real number _ => some (number.num.tdiv number.den)
    | _ => none
  convertBool := fun value => match value with | .bool flag => some flag | _ => none
  sha256 := sampleSha256

/-- Python's side of the same document. -/
def samplePython (document : Json) : Python where
  loads := fun text =>
    if text = String.ofList (pocoWriter.text document) then .ok document
    else .error "Expecting value: line 1 column 1 (char 0)"
  repr := fun _ => "None"
  floatText := fun _ => ['0']
  sha256 := sampleSha256

def sampleSnapshot (target : String) : Json :=
  snapshotDocument (sampleLibrary .null) .requests (sampleRecords target) 1

theorem sampleSnapshot_eq (document : Json) (target : String) :
    snapshotDocument (sampleLibrary document) .requests (sampleRecords target) 1 =
      sampleSnapshot target := rfl

theorem sampleSnapshot_records (target : String) :
    (sampleSnapshot target).getArray SnapshotKind.requests.arrayField =
      some (sampleRecords target) := rfl

theorem sampleSha256_isDigest (text : String) : isDigest (sampleSha256 text) = true := by
  unfold sampleSha256
  split <;> decide +kernel

theorem sample_sameFormat (document : Json) :
    SameFormat (sampleLibrary document) pocoWriter (samplePython document) where
  converts := ⟨fun _ => rfl, fun _ => rfl, fun _ => rfl⟩
  readsBool := fun _ => rfl
  readsWhole := by
    intro value literal
    simp [sampleLibrary]
  stringify := fun _ => rfl
  escapes := pocoWriter_escapesSlash
  floats := pocoWriter_escapesSlash.real
  digest := fun _ => rfl
  digestForm := sampleSha256_isDigest

theorem sample_readAs (document : Json) : ReadAs (sampleLibrary document) (samplePython document)
      ((sampleLibrary document).stringify document) document :=
  ⟨if_pos rfl, if_pos rfl⟩

theorem sampleSnapshot_readAs (target : String) :
    let document := sampleSnapshot target
    let written := snapshotDocument (sampleLibrary document) .requests (sampleRecords target) 1
    ReadAs (sampleLibrary document) (samplePython document)
      ((sampleLibrary document).stringify written) written := by
  intro document written
  have same : written = document := sampleSnapshot_eq document target
  rw [same]
  exact sample_readAs document

theorem shared_of_plain {text : String}
    (plain : text.toList.all (fun character => decide (32 ≤ character.toNat) && character != '/') =
      true) : ∀ character ∈ text.toList, Shared pocoWriter character := by
  intro character inside
  have both := List.all_eq_true.mp plain character inside
  simp only [Bool.and_eq_true, decide_eq_true_eq, bne_iff_ne, ne_eq] at both
  exact ⟨both.2, fun control => absurd both.1 (by omega)⟩

/-- Nothing in the request is written differently when its target has no slash. -/
theorem sample_shared (document : Json) :
    SharedRecords pocoWriter (samplePython document) (sampleRecords "pump") := by
  rw [SharedRecords, holds_arr]
  intro record listed
  obtain rfl := List.mem_singleton.mp listed
  rw [ledgerRecord, holds_obj]
  simp only [List.forall_mem_cons, List.not_mem_nil, false_imp_iff, implies_true, and_true,
    Json.Holds]
  -- One text after the other: evaluating all of them at once goes too deep.
  refine ⟨⟨?_, ?_⟩, ⟨?_, ?_⟩, ⟨?_, ?_⟩, ⟨?_, ?_⟩, ⟨?_, ?_⟩, ?_, ?_, ?_⟩ <;>
    exact shared_of_plain (by decide +kernel)

end PocoDDS.Tools.SnapshotInspection
