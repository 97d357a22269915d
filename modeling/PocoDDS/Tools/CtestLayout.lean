import PocoDDS.Tools.CtestLog
import PocoDDS.Tools.SubprocessRoundTrip

/-! The log as CTest lays it out, and when the tests that are found in it are those that were run. -/

namespace PocoDDS.Tools.Qualification

open JsonModel PosixPaths TrimLogic LogState
open ProcessManagement (decimal)

/-- A test that CTest has run, with what it printed. -/
structure LoggedTest where
  name : List Char
  command : List Char
  output : List Char
  status : TestStatus

def TestStatus.text : TestStatus → List Char
  | .passed => "Test Passed.".toList
  | .failed => "Test Failed.".toList
  | .notRun => "Test Not Run.".toList

def separator : List Char := List.replicate 58 '-'

/-- A test in the log, between the numbers of its header and the line of its status. -/
def LoggedTest.report (test : LoggedTest) : List Char :=
  "Test: ".toList ++ test.name ++ "\nCommand: ".toList ++ test.command ++
    "\nOutput:\n".toList ++ separator ++ '\n' :: test.output ++
    "<end of output>\n".toList ++ separator

def LoggedTest.render (index total : Nat) (test : LoggedTest) : List Char :=
  decimal index ++ '/' :: decimal total ++ ' ' :: test.report ++
    '\n' :: (test.status.text ++ ['\n'])

def renderTests (total : Nat) : (index : Nat) → List LoggedTest → List Char
  | _, [] => []
  | index, test :: rest => test.render index total ++ renderTests total (index + 1) rest

/-- A run of tests, with the times that CTest prints into a line each. -/
structure CtestRun where
  startedAt : List Char
  endedAt : List Char
  tests : List LoggedTest
  startedLine : ∀ character ∈ startedAt, isLineBreak character = false
  endedLine : ∀ character ∈ endedAt, isLineBreak character = false

/-- The whole log. -/
def CtestRun.render (run : CtestRun) : List Char :=
  "Start testing: ".toList ++ run.startedAt ++ '\n' ::
    (renderTests run.tests.length 1 run.tests ++
      ("End testing: ".toList ++ run.endedAt ++ ['\n']))

/-- The summary of a log says of the tests what their list does. -/
structure ReadExactly (summary : CtestSummary) (tests : List LoggedTest) : Prop where
  total : summary.total = tests.length
  passed : summary.passed = tests.countP (·.status = .passed)
  failed : summary.failed = tests.countP (·.status = .failed)
  notRun : summary.notRun = tests.countP (·.status = .notRun)
  failedTests : summary.failedTests =
    (tests.filter (·.status ≠ .passed)).map (·.name)

def LoggedTest.lines (test : LoggedTest) : List (List Char) := splitLines (test.render 1 1)

def ReportedAt (lines : List (List Char)) (place : Nat) (item : TestItem) : Prop :=
  ∃ line, lines[place]? = some line ∧ item.name ≠ [] ∧ Announced (lines.take place) item.name ∧
    testName line = none ∧ testStatus line = some item.status

/-- Among the lines of a test, one status follows a header: that of the test, and behind its own
header unless it passed. -/
def Harmless (test : LoggedTest) : Prop :=
  ∃ place item, ReportedAt test.lines place item ∧
    (∀ other reported, ReportedAt test.lines other reported → other = place) ∧
    item.status = test.status ∧ (test.status ≠ .passed → item.name = test.name)

section Reports

variable {lines : List (List Char)} {line : List Char} {place : Nat} {item : TestItem}

theorem reportedAt_concat : ReportedAt (lines ++ [line]) place item ↔
    ReportedAt lines place item ∨ (place = lines.length ∧ item.name ≠ [] ∧
      Announced lines item.name ∧ testName line = none ∧ testStatus line = some item.status) := by
  constructor
  · rintro ⟨found, here, rest⟩
    rcases lt_trichotomy place lines.length with inside | rfl | outside
    · rw [List.getElem?_append_left inside] at here
      rw [List.take_append_of_le_length inside.le] at rest
      exact .inl ⟨found, here, rest⟩
    · -- The new line is the one at the place behind the others.
      rw [List.getElem?_concat_length, Option.some.injEq] at here
      rw [List.take_left, ← here] at rest
      exact .inr ⟨rfl, rest⟩
    · rw [List.getElem?_eq_none (by simpa using outside)] at here
      cases here
  · rintro (⟨found, here, rest⟩ | ⟨rfl, rest⟩)
    · have inside : place < lines.length := (List.getElem?_eq_some_iff.mp here).1
      refine ⟨found, by rwa [List.getElem?_append_left inside], ?_⟩
      rwa [List.take_append_of_le_length inside.le]
    · exact ⟨line, List.getElem?_concat_length, by rwa [List.take_left]⟩

theorem reportedAt_last : ReportedAt (lines ++ [line]) lines.length item ↔
    testName line = none ∧ testStatus line = some item.status ∧ item.name ≠ [] ∧
      (readLog lines).current = some item.name := by
  -- No line of the others stands at this place.
  have outside : ¬ ReportedAt lines lines.length item := by
    rintro ⟨found, here, -⟩
    rw [List.getElem?_eq_none le_rfl] at here
    cases here
  rw [reportedAt_concat, or_iff_right outside]
  constructor
  · rintro ⟨-, filled, announced, unnamed, stated⟩
    exact ⟨unnamed, stated, filled, (current_iff filled).mpr announced⟩
  · rintro ⟨unnamed, stated, filled, held⟩
    exact ⟨rfl, filled, (current_iff filled).mp held, unnamed, stated⟩

theorem tests_concat : (readLog (lines ++ [line])).tests = (readLog lines).tests ∧
      (∀ item, ¬ ReportedAt (lines ++ [line]) lines.length item) ∨
    ∃ item, (readLog (lines ++ [line])).tests = (readLog lines).tests ++ [item] ∧
      ∀ other, ReportedAt (lines ++ [line]) lines.length other ↔ other = item := by
  simp only [reportedAt_last]
  rw [readLog_concat, readLine, readTest]
  -- The cases are those of the loop: a header, a line that states nothing, and a status.
  cases named : testName line with
  | some name => exact .inl ⟨by simp, by simp⟩
  | none =>
    cases stated : testStatus line with
    | none => exact .inl ⟨by simp, by simp⟩
    | some status =>
      cases held : (readLog lines).current with
      | none => exact .inl ⟨by simp [held], by simp⟩
      | some name =>
        cases name with
        | nil => exact .inl ⟨by simp [held], by simp +contextual [eq_comm]⟩
        | cons initial name =>
          refine .inr ⟨⟨initial :: name, status⟩, by simp [held], fun other => ?_⟩
          constructor
          · rintro ⟨-, same, -, name'⟩
            exact TestItem.ext (Option.some.inj name').symm (Option.some.inj same).symm
          · rintro rfl
            exact ⟨rfl, rfl, by simp, rfl⟩

theorem tests_eq_nil_iff : (readLog lines).tests = [] ↔
    ∀ place item, ¬ ReportedAt lines place item := by
  -- The loop reads from the front, so the lines grow at their end.
  induction lines using List.reverseRecOn with
  | nil => simp [ReportedAt, initial]
  | append_singleton lines line ih =>
    rcases @tests_concat lines line with ⟨same, silent⟩ | ⟨item, added, only⟩
    · rw [same, ih]
      constructor
      · intro none place item reported
        rcases reportedAt_concat.mp reported with old | ⟨rfl, -⟩
        · exact none place item old
        · exact silent item reported
      · exact fun none place item old => none place item (reportedAt_concat.mpr (.inl old))
    · rw [added]
      exact ⟨by simp, fun none => absurd ((only item).mpr rfl) (none _ _)⟩

theorem tests_eq_singleton_iff : (readLog lines).tests = [item] ↔
    ∃ place, ReportedAt lines place item ∧
      ∀ other reported, ReportedAt lines other reported → other = place := by
  induction lines using List.reverseRecOn with
  | nil => simp [ReportedAt, initial]
  | append_singleton lines line ih =>
    -- The only report is one of the earlier lines, or it is the last line.
    rcases @tests_concat lines line with ⟨same, silent⟩ | ⟨last, added, only⟩
    · rw [same, ih]
      have agree : ∀ place item, ReportedAt (lines ++ [line]) place item ↔
          ReportedAt lines place item := by
        intro place item
        refine ⟨fun reported => ?_, fun old => reportedAt_concat.mpr (.inl old)⟩
        rcases reportedAt_concat.mp reported with old | ⟨rfl, -⟩
        · exact old
        · exact absurd reported (silent item)
      simp only [agree]
    · rw [added, List.append_eq_singleton_iff]
      constructor
      · rintro (⟨none, same⟩ | ⟨-, wrong⟩)
        · obtain rfl := List.singleton_inj.mp same
          refine ⟨lines.length, (only _).mpr rfl, fun other reported now => ?_⟩
          rcases reportedAt_concat.mp now with old | ⟨place, -⟩
          · exact absurd old (tests_eq_nil_iff.mp none other reported)
          · exact place
        · cases wrong
      · rintro ⟨place, reported, single⟩
        have here : lines.length = place := single _ last ((only last).mpr rfl)
        subst here
        refine .inl ⟨tests_eq_nil_iff.mpr fun other earlier old => ?_, ?_⟩
        · -- An earlier report would be at another place.
          have same := single other earlier (reportedAt_concat.mpr (.inl old))
          obtain ⟨found, here, -⟩ := old
          rw [same, List.getElem?_eq_none le_rfl] at here
          cases here
        · rw [(only item).mp reported]

end Reports

section Sections

variable {state : LogState} {line : List Char} {lines : List (List Char)}

/-- The name that a status line would find; an empty one counts as none. -/
def LogState.waiting (state : LogState) : Option (List Char) :=
  state.current.filter (· ≠ [])

def waitingAfter (line : List Char) (waiting : Option (List Char)) : Option (List Char) :=
  match testName line, testStatus line with
  | some name, _ => (some name).filter (· ≠ [])
  | none, some _ => none
  | none, none => waiting

def reportOf (line : List Char) (waiting : Option (List Char)) : List TestItem :=
  match testName line, testStatus line with
  | none, some status => (waiting.map fun name => ⟨name, status⟩).toList
  | _, _ => []

theorem readLine_eq (state : LogState) (line : List Char) :
    (state.readLine line).waiting = waitingAfter line state.waiting ∧
      (state.readLine line).tests = state.tests ++ reportOf line state.waiting := by
  -- A header replaces what is waited for, and a status uses it up, if it has a name.
  rw [readLine, readTest, waitingAfter, reportOf]
  cases testName line with
  | some name => simp [waiting]
  | none =>
    cases testStatus line with
    | none => simp [waiting]
    | some status =>
      cases held : state.current with
      | none => simp [waiting, held]
      | some name => cases name <;> simp [waiting, held, Option.filter]

theorem readLines_alike {one other : LogState} (same : one.waiting = other.waiting)
    (lines : List (List Char)) : ∃ added, (lines.foldl readLine one).tests = one.tests ++ added ∧
      (lines.foldl readLine other).tests = other.tests ++ added := by
  induction lines generalizing one other with
  | nil => exact ⟨[], by simp, by simp⟩
  | cons line lines ih =>
    -- The line adds the same test to both, and leaves both waiting for the same one.
    obtain ⟨waits, adds⟩ := readLine_eq one line
    obtain ⟨waits', adds'⟩ := readLine_eq other line
    obtain ⟨added, first, second⟩ := ih (waits.trans ((congrArg _ same).trans waits'.symm))
    refine ⟨reportOf line other.waiting ++ added, ?_, ?_⟩
    · rw [List.foldl_cons, first, adds, same, List.append_assoc]
    · rw [List.foldl_cons, second, adds', List.append_assoc]

theorem readLines_tests (calm : state.waiting = none) (lines : List (List Char)) :
    (lines.foldl readLine state).tests = state.tests ++ (readLog lines).tests := by
  have same : state.waiting = initial.waiting := calm
  obtain ⟨added, first, second⟩ := readLines_alike same lines
  rw [first, readLog, second]
  rfl

theorem waiting_of_status {status : TestStatus} (lines : List (List Char)) :
    ((lines ++ [status.text]).foldl readLine state).waiting = none := by
  rw [List.foldl_append, List.foldl_cons, List.foldl_nil, (readLine_eq _ _).1]
  cases status <;> rfl

theorem readLine_silent (silent : Silent line) (state : LogState) :
    (state.readLine line).waiting = state.waiting ∧ (state.readLine line).tests = state.tests := by
  obtain ⟨waits, adds⟩ := readLine_eq state line
  rw [waits, adds, waitingAfter, reportOf, silent.1, silent.2]
  exact ⟨rfl, List.append_nil _⟩

theorem testName_numbered (index total : Nat) (text : List Char) :
    testName (decimal index ++ '/' :: decimal total ++ ' ' :: text) =
      match " Test: ".toList.isPrefixOf? (' ' :: text) with
      | some (first :: name) => some (stripText (first :: name))
      | _ => none := by
  have slash : isDigit '/' = false := by decide
  have blank : isDigit ' ' = false := by decide
  have shape : decimal index ++ '/' :: decimal total ++ ' ' :: text =
      decimal index ++ '/' :: (decimal total ++ ' ' :: text) := by simp
  -- The numbers are cut off one by one, and neither is empty.
  obtain ⟨front, back⟩ := cut_decimal index slash (decimal total ++ ' ' :: text)
  obtain ⟨front', back'⟩ := cut_decimal total blank text
  have filled : ((decimal index).isEmpty || (decimal total).isEmpty) = false := by
    simp [decimal_ne_nil]
  rw [shape, testName, back, front]
  simp only [front', back']
  cases " Test: ".toList.isPrefixOf? (' ' :: text) with
  | none => rfl
  | some name =>
    cases name with
    | nil => rfl
    | cons initial name => exact if_neg (by simp [filled])

theorem testStatus_numbered (index : Nat) (text : List Char) :
    testStatus (decimal index ++ text) = none := by
  obtain ⟨digit, digits, shape⟩ := List.exists_cons_of_ne_nil (decimal_ne_nil index)
  have isOne : isDigit digit = true := isDigit_decimal (shape ▸ List.mem_cons_self)
  rw [shape, List.cons_append, testStatus]
  -- The lines that state one start with a letter.
  have other : ∀ word : List Char, digit :: (digits ++ text) ≠ 'T' :: word := by
    rintro word same
    rw [(List.cons.inj same).1] at isOne
    cases isOne
  exact (if_neg (other _)).trans ((if_neg (other _)).trans (if_neg (other _)))

theorem decimal_plain (number : Nat) :
    ∀ character ∈ decimal number, isLineBreak character = false := by
  intro digit member
  have isOne := Nat.isDigit_of_mem_toDigits (by decide) (by decide) member
  simp only [Char.isDigit, ge_iff_le, Bool.and_eq_true, decide_eq_true_eq] at isOne
  have least : 48 ≤ digit.toNat := UInt32.le_iff_toNat_le.mp isOne.1
  have most : digit.toNat ≤ 57 := UInt32.le_iff_toNat_le.mp isOne.2
  simp only [isLineBreak, Bool.or_eq_false_iff, Bool.and_eq_false_iff, decide_eq_false_iff_not,
    beq_eq_false_iff_ne]
  omega

theorem splitLines_render (test : LoggedTest) : ∃ text lines, ∀ index total,
    splitLines (test.render index total) =
      (decimal index ++ '/' :: decimal total ++ ' ' :: text) :: (lines ++ [test.status.text]) := by
  cases split : splitLines (test.report ++ ['\n']) with
  | nil => simp [splitLines, splitLinesFrom_eq_nil] at split
  | cons text lines =>
    refine ⟨text, lines, fun index total => ?_⟩
    -- The numbers and the blank behind them are read before the first line ends.
    have numbers : ∀ character ∈ decimal index ++ '/' :: decimal total ++ [' '],
        isLineBreak character = false := by
      simp only [List.mem_append, List.mem_cons, List.not_mem_nil, or_false]
      rintro character ((member | rfl | member) | rfl)
      · exact decimal_plain _ _ member
      · decide
      · exact decimal_plain _ _ member
      · decide
    have status : splitLines (test.status.text ++ ['\n']) = [test.status.text] :=
      splitLines_line (by cases test.status <;> exact plain_of_all rfl)
    have first : splitLines (decimal index ++ '/' :: decimal total ++ ' ' :: test.report ++ ['\n']) =
        (decimal index ++ '/' :: decimal total ++ ' ' :: text) :: lines := by
      have read := splitLinesFrom_cons (decimal index ++ '/' :: decimal total ++ [' ']) split
      rw [List.append_nil, ← splitLines_plain numbers] at read
      simpa using read
    rw [LoggedTest.render, splitLines_append, first, status, List.cons_append]

/-- The tests of a section do not depend on its numbers. -/
theorem render_tests (test : LoggedTest) (index total : Nat) :
    (readLog (splitLines (test.render index total))).tests = (readLog test.lines).tests := by
  obtain ⟨text, lines, shape⟩ := splitLines_render test
  -- Both headers leave the loop waiting for the same test, with none read yet.
  have header : ∀ index total, (initial.readLine
      (decimal index ++ '/' :: decimal total ++ ' ' :: text)).tests = [] ∧
      (initial.readLine (decimal index ++ '/' :: decimal total ++ ' ' :: text)).waiting =
        waitingAfter (decimal 1 ++ '/' :: decimal 1 ++ ' ' :: text) none := by
    intro index total
    obtain ⟨waits, adds⟩ := readLine_eq .initial
      (decimal index ++ '/' :: decimal total ++ ' ' :: text)
    have unstated : ∀ index total,
        testStatus (decimal index ++ '/' :: decimal total ++ ' ' :: text) = none := by
      intro index total
      rw [List.append_assoc]
      exact testStatus_numbered index _
    rw [waits, adds, reportOf, waitingAfter, waitingAfter, unstated, unstated, testName_numbered,
      testName_numbered]
    exact ⟨by split <;> simp_all [initial], rfl⟩
  obtain ⟨added, first, second⟩ := readLines_alike
    ((header index total).2.trans (header 1 1).2.symm) (lines ++ [test.status.text])
  rw [LoggedTest.lines, shape, shape, readLog, readLog, List.foldl_cons, List.foldl_cons, first,
    second, (header index total).1, (header 1 1).1]

/-- A section ends its last line. -/
theorem splitLines_render_append (test : LoggedTest) (index total : Nat) (rest : List Char) :
    splitLines (test.render index total ++ rest) =
      splitLines (test.render index total) ++ splitLines rest := by
  have shape : ∀ behind, test.render index total ++ behind =
      (decimal index ++ '/' :: decimal total ++ ' ' :: test.report ++
        '\n' :: test.status.text) ++ '\n' :: behind := by simp [LoggedTest.render]
  have alone := shape []
  rw [List.append_nil] at alone
  rw [shape, splitLines_append, alone]

theorem renderTests_tests {ending : List Char} (silent : ∀ line ∈ splitLines ending, Silent line)
    (total index : Nat) (tests : List LoggedTest) (calm : state.waiting = none) :
    ((splitLines (renderTests total index tests ++ ending)).foldl readLine state).tests =
      state.tests ++ tests.flatMap fun test => (readLog test.lines).tests := by
  induction tests generalizing state index with
  | nil =>
    rw [renderTests, List.nil_append, List.flatMap_nil, List.append_nil]
    generalize splitLines ending = lines at silent
    clear calm
    induction lines generalizing state with
    | nil => rfl
    | cons line lines ih =>
      obtain ⟨head, tail⟩ := List.forall_mem_cons.mp silent
      rw [List.foldl_cons, ih tail, (readLine_silent head state).2]
  | cons test tests ih =>
    -- The status at the end of the section leaves the loop waiting for no test.
    obtain ⟨text, lines, shape⟩ := splitLines_render test
    have ends : ((splitLines (test.render index total)).foldl readLine state).waiting =
        none := by
      rw [shape, ← List.cons_append]
      exact waiting_of_status _
    rw [renderTests, List.append_assoc, splitLines_render_append, List.foldl_append,
      ih (index + 1) ends, readLines_tests calm, render_tests, List.flatMap_cons, List.append_assoc]

theorem silent_of_letter {first : Char} (noDigit : isDigit first = false) (noStatus : first ≠ 'T')
    (noSlash : first ≠ '/') (text : List Char) : Silent (first :: text) := by
  constructor
  · rw [testName, List.dropWhile_cons_of_neg (by simp [noDigit])]
    split
    · next same => exact absurd (List.cons.inj same).1 noSlash
    · rfl
  · have other : ∀ word : List Char, first :: text ≠ 'T' :: word :=
      fun word same => noStatus (List.cons.inj same).1
    exact (if_neg (other _)).trans ((if_neg (other _)).trans (if_neg (other _)))

theorem plain_append {word times : List Char}
    (plain : ∀ character ∈ word, isLineBreak character = false)
    (one : ∀ character ∈ times, isLineBreak character = false) :
    ∀ character ∈ word ++ times, isLineBreak character = false := by
  intro character member
  rcases List.mem_append.mp member with first | second
  · exact plain character first
  · exact one character second

theorem readLog_render (run : CtestRun) : (readLog (splitLines run.render)).tests =
    run.tests.flatMap fun test => (readLog test.lines).tests := by
  have started := plain_append
    (show ∀ character ∈ "Start testing: ".toList, isLineBreak character = false from plain_of_all rfl)
    run.startedLine
  have ended := plain_append
    (show ∀ character ∈ "End testing: ".toList, isLineBreak character = false from plain_of_all rfl)
    run.endedLine
  have first : Silent ("Start testing: ".toList ++ run.startedAt) :=
    silent_of_letter (by decide) (by decide) (by decide) _
  have last : ∀ line ∈ splitLines ("End testing: ".toList ++ run.endedAt ++ ['\n']),
      Silent line := by
    rw [splitLines_line ended]
    intro line member
    rw [List.mem_singleton.mp member]
    exact silent_of_letter (by decide) (by decide) (by decide) _
  -- The line with the start leaves the loop as it was.
  obtain ⟨waits, unread⟩ := readLine_silent first .initial
  have calm : (initial.readLine ("Start testing: ".toList ++ run.startedAt)).waiting =
      none := waits
  have all := renderTests_tests last run.tests.length 1 run.tests calm
  rw [unread, show initial.tests = [] from rfl, List.nil_append] at all
  have split : splitLines run.render = ("Start testing: ".toList ++ run.startedAt) ::
      splitLines (renderTests run.tests.length 1 run.tests ++
        ("End testing: ".toList ++ run.endedAt ++ ['\n'])) := by
    have parts := splitLines_append ("Start testing: ".toList ++ run.startedAt)
      (renderTests run.tests.length 1 run.tests ++
        ("End testing: ".toList ++ run.endedAt ++ ['\n']))
    rw [splitLines_line started] at parts
    exact parts
  rw [split, readLog, List.foldl_cons]
  exact all

end Sections

section Exact

variable {tests : List LoggedTest} {test : LoggedTest}

def LoggedTest.reported (test : LoggedTest) : List TestItem := (readLog test.lines).tests

theorem harmless_iff : Harmless test ↔ ∃ item, test.reported = [item] ∧
    item.status = test.status ∧ (test.status ≠ .passed → item.name = test.name) := by
  constructor
  · rintro ⟨place, item, here, only, same⟩
    exact ⟨item, tests_eq_singleton_iff.mpr ⟨place, here, only⟩, same⟩
  · rintro ⟨item, alone, same⟩
    obtain ⟨place, here, only⟩ := tests_eq_singleton_iff.mp alone
    exact ⟨place, item, here, only, same⟩

/-- What a summary is compared with, in terms of what the sections report. -/
theorem readExactly_iff_reported {path : PosixPath} {sha256 : String} (run : CtestRun) :
    ReadExactly (parseCtestLog path sha256 run.render) run.tests ↔
      let items := run.tests.flatMap LoggedTest.reported
      items.length = run.tests.length ∧
        (∀ status, countStatus items status = run.tests.countP (·.status = status)) ∧
        (items.filter (·.status ≠ .passed)).map (·.name) =
          (run.tests.filter (·.status ≠ .passed)).map (·.name) := by
  -- The summary counts each status, so that its fields are the three cases of the count.
  have read := readLog_render run
  constructor
  · rintro ⟨total, passed, failed, notRun, failedTests⟩
    simp only [parseCtestLog, read] at total passed failed notRun failedTests
    refine ⟨total, fun status => ?_, failedTests⟩
    cases status with
    | passed => exact passed
    | failed => exact failed
    | notRun => exact notRun
  · rintro ⟨total, counts, failedTests⟩
    constructor <;> simp only [parseCtestLog, read]
    · exact total
    · exact counts .passed
    · exact counts .failed
    · exact counts .notRun
    · exact failedTests

/-- An item says of a test what its list does. -/
def Tells (test : LoggedTest) (item : TestItem) : Prop :=
  item.status = test.status ∧ (test.status ≠ .passed → item.name = test.name)

theorem reported_of_harmless (harmless : ∀ test ∈ tests, Harmless test) :
    List.Forall₂ Tells tests (tests.flatMap LoggedTest.reported) := by
  induction tests with
  | nil => exact .nil
  | cons test tests ih =>
    obtain ⟨head, tail⟩ := List.forall_mem_cons.mp harmless
    obtain ⟨item, alone, same⟩ := harmless_iff.mp head
    rw [List.flatMap_cons, alone]
    exact .cons same (ih tail)

theorem countStatus_tells {items : List TestItem} (beside : List.Forall₂ Tells tests items)
    (status : TestStatus) : countStatus items status = tests.countP (·.status = status) := by
  induction beside with
  | nil => rfl
  | cons same _ ih =>
    rw [countStatus] at ih ⊢
    rw [List.countP_cons, List.countP_cons, ih, same.1]

theorem failedTests_tells {items : List TestItem} (beside : List.Forall₂ Tells tests items) :
    (items.filter (·.status ≠ .passed)).map (·.name) =
      (tests.filter (·.status ≠ .passed)).map (·.name) := by
  induction beside with
  | nil => rfl
  | @cons test item tests items same _ ih =>
    obtain ⟨status, name⟩ := same
    -- Only the name of a test that has not passed is compared.
    by_cases passed : test.status = .passed
    · simpa [List.filter_cons, status, passed] using ih
    · simpa [List.filter_cons, status, passed, name passed] using ih

/-- Every selection of tests is read exactly if and only if each test is harmless. -/
theorem ctestLog_readExactly_iff (path : PosixPath) (sha256 : String) (run : CtestRun) :
    (∀ chosen, chosen.Sublist run.tests →
      ReadExactly (parseCtestLog path sha256 { run with tests := chosen }.render) chosen) ↔
    ∀ test ∈ run.tests, Harmless test := by
  constructor
  · -- A test that is read exactly on its own is harmless.
    intro exactly test listed
    obtain ⟨total, counts, names⟩ := (readExactly_iff_reported _).mp
      (exactly [test] (List.singleton_sublist.mpr listed))
    simp only [List.flatMap_singleton, List.length_singleton] at total counts names
    obtain ⟨item, alone⟩ := List.length_eq_one_iff.mp total
    rw [alone] at counts names
    have status := counts test.status
    simp only [countStatus, List.countP_singleton, decide_true, if_true] at status
    refine harmless_iff.mpr ⟨item, alone, by simpa using status, fun failed => ?_⟩
    have same : item.status ≠ .passed := by
      intro passed
      simp [passed, failed] at names
    simpa [failed, same] using names
  · -- Side by side, the items and the tests agree in everything that is compared.
    intro harmless chosen selected
    have beside := reported_of_harmless fun test listed => harmless test (selected.subset listed)
    exact (readExactly_iff_reported _).mpr
      ⟨beside.length_eq.symm, countStatus_tells beside, failedTests_tells beside⟩

def misleadingRun : CtestRun where
  startedAt := "Aug 02 02:00 UTC".toList
  endedAt := "Aug 02 02:01 UTC".toList
  tests := [⟨"smoke".toList, "smoke-test".toList, "Test Passed.\n".toList, .failed⟩]
  startedLine := plain_of_all rfl
  endedLine := plain_of_all rfl

/-- Its failure is counted as a test that has passed. -/
theorem failed_test_read_as_passed :
    misleadingRun.tests.map (·.status) = [.failed] ∧
    (parseCtestLog ⟨true, []⟩ "" misleadingRun.render).passed = 1 ∧
    (parseCtestLog ⟨true, []⟩ "" misleadingRun.render).failed = 0 ∧
    ¬ ReadExactly (parseCtestLog ⟨true, []⟩ "" misleadingRun.render) misleadingRun.tests := by
  have passed : (parseCtestLog ⟨true, []⟩ "" misleadingRun.render).passed = 1 := by decide +kernel
  refine ⟨rfl, passed, by decide +kernel, fun exactly => ?_⟩
  have counted := exactly.passed
  rw [passed] at counted
  exact absurd counted (by decide)

end Exact

end PocoDDS.Tools.Qualification
