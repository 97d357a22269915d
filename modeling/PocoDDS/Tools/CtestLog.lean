import PocoDDS.Lib.PosixPath
import PocoDDS.Tools.PythonText

/-! The log that CTest leaves of a run, and the tests that the qualification finds in it. -/

namespace PocoDDS.Tools.Qualification

open JsonModel PosixPaths TrimLogic

/-- What the log states of a test. -/
inductive TestStatus
  | passed
  | failed
  | notRun
  deriving DecidableEq, Repr

/-- A test of the log. -/
@[ext] structure TestItem where
  name : List Char
  status : TestStatus
  deriving DecidableEq, Repr

/-- The name in a line that matches `^\d+/\d+ Test: (.+)$`. -/
def testName (line : List Char) : Option (List Char) :=
  -- Digits, a slash, digits, the label, and at least one character of a name.
  match line.dropWhile isDigit with
  | '/' :: rest =>
    match " Test: ".toList.isPrefixOf? (rest.dropWhile isDigit) with
    | some (first :: name) =>
      if (line.takeWhile isDigit).isEmpty || (rest.takeWhile isDigit).isEmpty then none
      else some (stripText (first :: name))
    | _ => none
  | _ => none

/-- The status in a line that matches `^Test (Passed|Failed|Not Run)\.$`. -/
def testStatus (line : List Char) : Option TestStatus :=
  if line = "Test Passed.".toList then some .passed
  else if line = "Test Failed.".toList then some .failed
  else if line = "Test Not Run.".toList then some .notRun
  else none

/-- The variables of the loop over the lines. -/
structure LogState where
  started : Option (List Char)
  ended : Option (List Char)
  current : Option (List Char)
  tests : List TestItem

def LogState.initial : LogState := ⟨none, none, none, []⟩

/-- `line.partition(":")[2].strip()` -/
def textAfterColon (line : List Char) : List Char :=
  stripText ((partition ':' line).2.getD [])

/-- What a line states of the whole run. -/
def LogState.readTimes (state : LogState) (line : List Char) : LogState :=
  if "Start testing:".toList.isPrefixOf line then
    { state with started := some (textAfterColon line) }
  else if "End testing:".toList.isPrefixOf line then
    { state with ended := some (textAfterColon line) }
  else state

/-- What a line states of a test; an empty name counts as none. -/
def LogState.readTest (state : LogState) (line : List Char) : LogState :=
  match testName line with
  | some name => { state with current := some name }
  | none =>
    match testStatus line, state.current with
    | some status, some (first :: rest) =>
      { state with current := none, tests := state.tests ++ [⟨first :: rest, status⟩] }
    | _, _ => state

/-- One round of the loop. -/
def LogState.readLine (state : LogState) (line : List Char) : LogState :=
  (state.readTimes line).readTest line

/-- The loop over the lines of a log. -/
def readLog (lines : List (List Char)) : LogState :=
  lines.foldl LogState.readLine .initial

/-- The names that occur more than once, in order. -/
def duplicateNames (names : List (List Char)) : List (List Char) :=
  (names.filter fun name => 1 < names.count name).dedup.insertionSort (· ≤ ·)

/-- The summary that `parse_ctest_log` returns. -/
structure CtestSummary where
  path : PosixPath
  sha256 : String
  startedAtText : Option (List Char)
  endedAtText : Option (List Char)
  total : Nat
  passed : Nat
  failed : Nat
  notRun : Nat
  duplicateNames : List (List Char)
  failedTests : List (List Char)

/-- How many tests have a status. -/
def countStatus (tests : List TestItem) (status : TestStatus) : Nat :=
  tests.countP (·.status = status)

/-- `parse_ctest_log`, given the digest and the text of the file. -/
def parseCtestLog (path : PosixPath) (sha256 : String) (text : List Char) : CtestSummary :=
  -- A test whose status is none of the three is not counted at all.
  let log := readLog (splitLines text)
  { path, sha256, startedAtText := log.started, endedAtText := log.ended,
    total := log.tests.length, passed := countStatus log.tests .passed,
    failed := countStatus log.tests .failed, notRun := countStatus log.tests .notRun,
    duplicateNames := duplicateNames (log.tests.map (·.name)),
    failedTests := (log.tests.filter (·.status ≠ .passed)).map (·.name) }

theorem duplicateNames_eq_nil {names : List (List Char)} :
    duplicateNames names = [] ↔ names.Nodup := by
  have empty : duplicateNames names = [] ↔ names.filter (fun name => 1 < names.count name) = [] := by
    -- Sorting and removing repetitions keep the members of a list.
    simp only [List.eq_nil_iff_forall_not_mem, duplicateNames, List.mem_insertionSort,
      List.mem_dedup]
  rw [empty, List.filter_eq_nil_iff, List.nodup_iff_count_le_one]
  constructor
  · intro single name
    by_cases listed : name ∈ names
    · simpa using single name listed
    · simp [List.count_eq_zero_of_not_mem listed]
  · intro single name _
    simpa using single name

theorem counts_eq_zero {tests : List TestItem} :
    countStatus tests .failed = 0 ∧ countStatus tests .notRun = 0 ↔
      ∀ test ∈ tests, test.status = .passed := by
  simp only [countStatus, List.countP_eq_zero, decide_eq_true_eq]
  constructor
  · rintro ⟨unfailed, run⟩ test listed
    cases status : test.status with
    | passed => rfl
    | failed => exact absurd status (unfailed test listed)
    | notRun => exact absurd status (run test listed)
  · intro passed
    constructor
    · intro test listed failed
      simp [passed test listed] at failed
    · intro test listed notRun
      simp [passed test listed] at notRun

section Lines

def Silent (line : List Char) : Prop :=
  testName line = none ∧ testStatus line = none

/-- The last test that the lines announce has this name, and no line has stated anything since. -/
def Announced (lines : List (List Char)) (name : List Char) : Prop :=
  ∃ before header since, lines = before ++ header :: since ∧ testName header = some name ∧
    ∀ line ∈ since, Silent line

def Shown (lines : List (List Char)) (test : TestItem) : Prop :=
  ∃ before line after, lines = before ++ line :: after ∧ Announced before test.name ∧
    testName line = none ∧ testStatus line = some test.status

variable {lines : List (List Char)} {line name : List Char} {test : TestItem}

@[simp] theorem readLog_nil : readLog [] = .initial := rfl

theorem readLog_concat : readLog (lines ++ [line]) = (readLog lines).readLine line := by
  simp [readLog]

@[simp] theorem readTimes_current (state : LogState) : (state.readTimes line).current =
    state.current := by
  unfold LogState.readTimes
  split_ifs <;> rfl

@[simp] theorem readTimes_tests (state : LogState) : (state.readTimes line).tests =
    state.tests := by
  unfold LogState.readTimes
  split_ifs <;> rfl

theorem concat_eq_split {α : Type} {front before after : List α} {last item : α} :
    front ++ [last] = before ++ item :: after ↔ (after = [] ∧ front = before ∧ last = item) ∨
      ∃ rest, after = rest ++ [last] ∧ front = before ++ item :: rest := by
  constructor
  · intro split
    rcases List.eq_nil_or_concat' after with rfl | ⟨rest, other, rfl⟩
    · obtain ⟨same, ends⟩ := List.append_inj' split rfl
      exact .inl ⟨rfl, same, by simpa using ends⟩
    · rw [← List.cons_append, ← List.append_assoc] at split
      obtain ⟨same, ends⟩ := List.append_inj' split rfl
      exact .inr ⟨rest, by simp [List.singleton_inj.mp ends], same⟩
  · rintro (⟨rfl, rfl, rfl⟩ | ⟨rest, rfl, rfl⟩) <;> simp

theorem announced_concat : Announced (lines ++ [line]) name ↔
    testName line = some name ∨ (Silent line ∧ Announced lines name) := by
  constructor
  · rintro ⟨before, header, since, split, named, silent⟩
    -- The last line is the announcing one, or one that has followed it.
    rcases concat_eq_split.mp split with ⟨-, -, rfl⟩ | ⟨front, rfl, rfl⟩
    · exact .inl named
    · exact .inr ⟨silent line (by simp), before, header, front, rfl, named,
        fun other listed => silent other (List.mem_append_left _ listed)⟩
  · rintro (named | ⟨silent, before, header, since, rfl, named, earlier⟩)
    · exact ⟨lines, line, [], rfl, named, by simp⟩
    · refine ⟨before, header, since ++ [line], by simp, named, fun other listed => ?_⟩
      rcases List.mem_append.mp listed with old | new
      · exact earlier other old
      · exact List.mem_singleton.mp new ▸ silent

theorem shown_concat : Shown (lines ++ [line]) test ↔ Shown lines test ∨
    (Announced lines test.name ∧ testName line = none ∧ testStatus line = some test.status) := by
  constructor
  · rintro ⟨before, found, after, split, announced, unnamed, stated⟩
    rcases concat_eq_split.mp split with ⟨-, rfl, rfl⟩ | ⟨front, rfl, rfl⟩
    · exact .inr ⟨announced, unnamed, stated⟩
    · exact .inl ⟨before, found, front, rfl, announced, unnamed, stated⟩
  · rintro (⟨before, found, after, rfl, announced, unnamed, stated⟩ | ⟨announced, unnamed, stated⟩)
    · exact ⟨before, found, after ++ [line], by simp, announced, unnamed, stated⟩
    · exact ⟨lines, line, [], rfl, announced, unnamed, stated⟩

/-- The loop holds the name of a test from the line that announces it to the next that states
anything of a test. -/
theorem current_iff (filled : name ≠ []) :
    (readLog lines).current = some name ↔ Announced lines name := by
  induction lines using List.reverseRecOn with
  | nil => simp [LogState.initial, Announced]
  | append_singleton lines line ih =>
    -- The induction takes the lines from the end, so that the loop has read all others.
    rw [readLog_concat, announced_concat, LogState.readLine, LogState.readTest]
    cases named : testName line with
    | some other => simp [Silent, named]
    | none =>
      cases stated : testStatus line with
      | none => simp [Silent, named, stated, ih]
      | some status =>
        -- A status ends the wait, unless the name that is held is empty.
        cases held : (readLog lines).current with
        | none => simp [Silent, stated, held]
        | some text =>
          cases text with
          | nil => simpa [Silent, stated, held] using filled.symm
          | cons first rest => simp [Silent, stated, held]

/-- The tests that are found in a log are those whose status a line states, with nothing stated or
announced between it and the line that announced the test. -/
theorem mem_tests_iff : test ∈ (readLog lines).tests ↔ test.name ≠ [] ∧ Shown lines test := by
  induction lines using List.reverseRecOn with
  | nil => simp [LogState.initial, Shown]
  | append_singleton lines line ih =>
    -- A line adds a test only if it states a status while a name is held.
    rw [readLog_concat, shown_concat, and_or_left, ← ih, LogState.readLine, LogState.readTest]
    cases named : testName line with
    | some other => simp
    | none =>
      cases stated : testStatus line with
      | none => simp
      | some status =>
        -- The status is that of the test whose name the loop holds, if it holds one.
        have heldName : test.name ≠ [] →
            ((readLog lines).current = some test.name ↔ Announced lines test.name) := current_iff
        cases held : (readLog lines).current with
        | none => simp_all
        | some text =>
          cases text with
          | nil => simp_all
          | cons first rest =>
            have recorded : test = ⟨first :: rest, status⟩ ↔
                test.name ≠ [] ∧ Announced lines test.name ∧ status = test.status := by
              constructor
              · rintro rfl
                exact ⟨by simp, (heldName (by simp)).mp held, rfl⟩
              · rintro ⟨filled, announced, rfl⟩
                have same := held.symm.trans ((heldName filled).mpr announced)
                exact TestItem.ext (Option.some.inj same).symm rfl
            simp only [readTimes_tests, readTimes_current, held, List.mem_append,
              List.mem_singleton, recorded, true_and, Option.some.injEq]

end Lines

end PocoDDS.Tools.Qualification
