import PocoDDS.Tools.ReleaseQualification

/-! When a qualification approves a release, and when that is what it promises. -/

namespace PocoDDS.Tools.Qualification

open AssocList ExternalAcceptance JsonModel OutcomeLogic PosixPaths

section Grounds

/-- The log states the expected number of tests, each once and as passed, a start and an end. -/
structure Complete (log : LogState) (expected : Int) : Prop where
  total : (log.tests.length : Int) = expected
  passed : ∀ test ∈ log.tests, test.status = .passed
  distinct : (log.tests.map (·.name)).Nodup
  started : ∃ text, log.started = some text ∧ text ≠ []
  ended : ∃ text, log.ended = some text ∧ text ≠ []

/-- The log is neither too old nor from the future, and nothing has been changed since. -/
structure Recent (host : Host) (arguments : Arguments) (log : PosixPath) : Prop where
  past : -(5 / 60) ≤ testAgeHours host log
  young : testAgeHours host log ≤ arguments.maxTestAgeHours
  unchanged : (gitState host.git).latestChangeEpoch ≤ host.modified log + 2

/-- A document states that something has passed. -/
def Passing (upper : String → String) (document : Json) : Prop :=
  Json.isTrue (document.member "passed") = true ∨
    Json.isTrue (document.member "integrationPassed") = true ∨
    approvedVerdict upper (document.member "verdict") = true

/-- A document states that something has not passed. -/
def Failing (upper : String → String) (document : Json) : Prop :=
  Json.isFalse (document.member "passed") = true ∨
    Json.isFalse (document.member "integrationPassed") = true ∨
    ∃ verdict, document.member "verdict" = some verdict ∧ approvedVerdict upper (some verdict) = false

variable (host : Host) (arguments : Arguments)

/-- What the test log consists of. -/
def LogIs (log : LogState) : Prop :=
  ∃ content, host.disk.read (host.disk.resolve arguments.ctestLog) = some content ∧
    log = readLog (splitLines (host.decode content))

def Supplied (supplied : String × PosixPath) (document : Json) : Prop :=
  supplied ∈ arguments.evidence ∧
    host.readDocument (host.disk.resolve supplied.2) = .ok document

/-- The document that the artifact manifest consists of. -/
def Manifested (document : Json) : Prop :=
  ∃ given, arguments.artifactManifest = some given ∧
    host.isFile (host.disk.resolve given) = true ∧
    host.readDocument (host.disk.resolve given) = .ok document

/-- The manifest is verified, from a clean worktree that had to be clean, and of the version under
qualification. -/
structure Certified (document : Json) : Prop where
  verified : ∃ output, verifyArtifacts host arguments document = .ok (true, output)
  clean : Json.isFalse (document.member "dirty") = true
  cleanRequired : Json.isTrue (document.member "cleanRequired") = true
  version : Json.isText (document.member "version") arguments.version = true

/-- The manifest is of the commit under qualification. -/
def OfCommit (document : Json) : Prop :=
  ∃ commit, (gitState host.git).commitText = some commit ∧
    Json.isText (document.member "gitCommit") commit = true

/-- What an external acceptance has to be about. -/
def expectedCandidate (name : String) : Expected :=
  ⟨name, arguments.version, (gitState host.git).commitText.map .str,
    (arguments.artifactManifest.bind fun given => host.digest (host.disk.resolve given)).map .str⟩

def Accepted (name : String) : Prop :=
  ∃ path trust, lastValue arguments.externalEvidence name = some path ∧
    requiredTrust arguments name = some trust ∧ ∃ signed : Signed (List UInt8),
      signed.Passes host.environment host.disk host.instant
        (host.isFile (host.disk.resolve trust.executable)) (signedReport host path trust)
        trust.policyId trust.policySha256 (expectedCandidate host arguments name)

/-- What the code asks for before it approves a release. -/
structure Approvable : Prop where
  log : ∃ log, LogIs host arguments log ∧ Complete log arguments.expectedTests
  recent : Recent host arguments (host.disk.resolve arguments.ctestLog)
  evidence : ∀ supplied ∈ arguments.evidence, ∃ document, Supplied host arguments supplied document ∧
    document.isObject = true ∧ Passing host.upper document
  distinct : (arguments.evidence.map Prod.fst).Nodup
  required : ∀ name ∈ requiredEvidence arguments, name ∈ arguments.evidence.map Prod.fst
  manifest : ∃ document, Manifested host arguments document ∧ Certified host arguments document ∧
    identified arguments (gitState host.git) document = true
  externalDistinct : (arguments.externalEvidence.map Prod.fst).Nodup
  external : ∀ name ∈ arguments.requiredExternal, Accepted host arguments name
  configuration : host.lower arguments.config = "release"
  clean : (gitState host.git).clean = true

/-- What an approval promises. -/
structure Deserved : Prop where
  log : ∃ log, LogIs host arguments log ∧ Complete log arguments.expectedTests
  evidence : ∀ supplied ∈ arguments.evidence, ∃ document, Supplied host arguments supplied document ∧
    document.isObject = true ∧ Passing host.upper document ∧ ¬Failing host.upper document
  required : ∀ name ∈ requiredEvidence arguments,
    (arguments.evidence.map Prod.fst).count name = 1
  manifest : ∃ document, Manifested host arguments document ∧ Certified host arguments document ∧
    OfCommit host document
  clean : (gitState host.git).clean = true
  external : ∀ name ∈ arguments.requiredExternal, Accepted host arguments name

end Grounds

section Tests

variable {host : Host} {arguments : Arguments}

theorem getD_isEmpty_eq_false {text : Option (List Char)} :
    (text.getD []).isEmpty = false ↔ ∃ found, text = some found ∧ found ≠ [] := by
  cases text <;> simp

theorem testFailures_eq_nil {log : PosixPath} {digest : String} {text : List Char} :
    testFailures host arguments (gitState host.git) (parseCtestLog log digest text) = [] ↔
      Complete (readLog (splitLines text)) arguments.expectedTests ∧ Recent host arguments log := by
  simp only [testFailures, List.append_eq_nil_iff, Reason.when_eq_nil, Bool.or_eq_false_iff,
    decide_eq_false_iff_not, not_not, Bool.not_eq_false', List.isEmpty_iff, getD_isEmpty_eq_false,
    not_lt, gt_iff_lt]
  constructor
  · rintro ⟨⟨⟨⟨total, counted, distinct⟩, started, ended⟩, past, young⟩, unchanged⟩
    exact ⟨⟨total, counts_eq_zero.mp counted, duplicateNames_eq_nil.mp distinct, started, ended⟩,
      ⟨past, young, unchanged⟩⟩
  · rintro ⟨complete, recent⟩
    exact ⟨⟨⟨⟨complete.total, counts_eq_zero.mpr complete.passed,
      duplicateNames_eq_nil.mpr complete.distinct⟩, complete.started, complete.ended⟩,
      recent.past, recent.young⟩, recent.unchanged⟩

end Tests

section Evidence

variable {host : Host} {arguments : Arguments}

/-- `evidence_passed` asks for an object with a passing indicator. -/
theorem evidencePassed_iff {upper : String → String} {document : Json} :
    evidencePassed upper document = true ↔ document.isObject = true ∧ Passing upper document := by
  unfold evidencePassed Passing
  cases document.isObject with
  | false => simp
  | true =>
    -- Of an object the code asks for one of the three indicators.
    simp only [Bool.not_true, Bool.false_eq_true, if_false, true_and, ← or_assoc]
    split <;> simp_all

theorem checkEvidence_name (supplied : String × PosixPath) :
    (checkEvidence host supplied).name = supplied.1 := by
  unfold checkEvidence
  dsimp only
  cases host.readDocument (host.disk.resolve supplied.2) <;> rfl

theorem checkEvidence_passed {supplied : String × PosixPath} :
    (checkEvidence host supplied).passed = true ↔ ∃ document,
      host.readDocument (host.disk.resolve supplied.2) = .ok document ∧
        document.isObject = true ∧ Passing host.upper document := by
  unfold checkEvidence
  dsimp only
  cases host.readDocument (host.disk.resolve supplied.2) with
  | error message => simp
  | ok document => simp [evidencePassed_iff]

theorem dedup_length_eq {names : List String} :
    names.dedup.length = names.length ↔ names.Nodup := by
  rw [(List.dedup_sublist names).length_eq, List.dedup_eq_self]

theorem evidenceFailures_eq_nil :
    evidenceFailures arguments (arguments.evidence.map (checkEvidence host)) = [] ↔
      (∀ supplied ∈ arguments.evidence, ∃ document, Supplied host arguments supplied document ∧
        document.isObject = true ∧ Passing host.upper document) ∧
      (arguments.evidence.map Prod.fst).Nodup ∧
      ∀ name ∈ requiredEvidence arguments, name ∈ arguments.evidence.map Prod.fst := by
  have names : (arguments.evidence.map (checkEvidence host)).map (·.name) =
      arguments.evidence.map Prod.fst := by
    rw [List.map_map]
    exact List.map_congr_left fun supplied _ => checkEvidence_name supplied
  simp only [evidenceFailures, names, List.append_eq_nil_iff, List.flatMap_eq_nil_iff,
    Reason.when_eq_nil, Bool.not_eq_false', decide_eq_false_iff_not, not_not, dedup_length_eq,
    List.contains_iff_mem, List.forall_mem_map, checkEvidence_passed, and_assoc]
  -- The documents are the same ones, under the names that the items keep.
  refine and_congr (forall₂_congr fun supplied listed => ?_) Iff.rfl
  simp [Supplied, listed]

end Evidence

section Manifest

variable {host : Host} {arguments : Arguments}

def verifiedItem (host : Host) (arguments : Arguments) (path : PosixPath) (document : Json) :
    ManifestItem :=
  { path, present := true, verified := true, sha256 := host.digest path,
    artifactRoot := some (reportedRoot host arguments document),
    version := document.member "version", gitCommit := document.member "gitCommit",
    dirty := document.member "dirty", cleanRequired := document.member "cleanRequired",
    verificationError := none, error := none }

theorem reportManifest_clear {git : GitState} {path : PosixPath} {document : Json}
    {item : ManifestItem} :
    reportManifest host arguments git path document = .ok (item, []) ↔
      identified arguments git document = true ∧
      (∃ output, verifyArtifacts host arguments document = .ok (true, output)) ∧
      item = verifiedItem host arguments path document := by
  unfold reportManifest
  simp only [bind_eq_ok, pure_eq_ok, Prod.exists, Prod.mk.injEq, List.append_eq_nil_iff,
    Reason.when_eq_nil, Bool.not_eq_false']
  constructor
  · rintro ⟨verified, output, checked, rfl, rfl, same⟩
    exact ⟨same, ⟨output, checked⟩, rfl⟩
  · rintro ⟨same, ⟨output, checked⟩, rfl⟩
    exact ⟨true, output, checked, rfl, rfl, same⟩

/-- A manifest that stands against nothing is read, certified and of the candidate; its digest is the
one that external acceptances are compared with. -/
theorem manifest_clear {manifest : Option ManifestItem}
    (checked : checkManifest host arguments (gitState host.git) = .ok (manifest, []))
    (clear : manifestReasons manifest = []) :
    (∃ document, Manifested host arguments document ∧ Certified host arguments document ∧
      identified arguments (gitState host.git) document = true) ∧
    ∀ name, candidate arguments (gitState host.git) manifest name =
      expectedCandidate host arguments name := by
  unfold checkManifest at checked
  cases provided : arguments.artifactManifest with
  | none =>
    simp only [provided, Except.ok.injEq, Prod.mk.injEq, and_true] at checked
    subst checked
    cases clear
  | some given =>
    simp only [provided] at checked
    -- A manifest that is missing or cannot be read gives a reason, so only one way is left.
    split_ifs at checked with present
    · cases read : host.readDocument (host.disk.resolve given) with
      | error message => simp [read] at checked
      | ok document =>
        simp only [read, bind_eq_ok, pure_eq_ok, Prod.exists, Prod.mk.injEq] at checked
        obtain ⟨item, reasons, reported, rfl, rfl⟩ := checked
        obtain ⟨same, verified, rfl⟩ := reportManifest_clear.mp reported
        simp only [manifestReasons, List.append_eq_nil_iff, Reason.when_eq_nil,
          Bool.not_eq_false'] at clear
        have version : Json.isText (document.member "version") arguments.version = true := by
          unfold identified at same
          exact (Bool.and_eq_true_iff.mp same).1
        refine ⟨⟨document, ⟨given, provided, present, read⟩,
          ⟨verified, clear.1, clear.2, version⟩, same⟩, fun name => ?_⟩
        simp [candidate, expectedCandidate, provided, verifiedItem]
    · simp at checked

theorem clear_manifest {document : Json} (manifested : Manifested host arguments document)
    (certified : Certified host arguments document)
    (same : identified arguments (gitState host.git) document = true) :
    ∃ manifest, checkManifest host arguments (gitState host.git) = .ok (manifest, []) ∧
      manifestReasons manifest = [] ∧
      ∀ name, candidate arguments (gitState host.git) manifest name =
        expectedCandidate host arguments name := by
  obtain ⟨given, provided, present, read⟩ := manifested
  have reported : reportManifest host arguments (gitState host.git) (host.disk.resolve given)
      document = .ok (verifiedItem host arguments (host.disk.resolve given) document, []) :=
    reportManifest_clear.mpr ⟨same, certified.verified, rfl⟩
  refine ⟨some (verifiedItem host arguments (host.disk.resolve given) document), ?_, ?_, ?_⟩
  · simp [checkManifest, provided, present, read, reported]
  · simp [manifestReasons, verifiedItem, certified.clean, certified.cleanRequired]
  · intro name
    simp [candidate, expectedCandidate, provided, verifiedItem]

end Manifest

section External

variable {host : Host} {arguments : Arguments} {git : GitState} {manifest : Option ManifestItem}
  {name : String}

theorem checkExternal_verified
    (same : candidate arguments git manifest name = expectedCandidate host arguments name) :
    (∃ item, checkExternal host arguments git manifest name = .ok item ∧ item.verified = true) ↔
      Accepted host arguments name := by
  unfold checkExternal Accepted
  cases listed : lastValue arguments.externalEvidence name with
  | none => simp [ExternalItem.unverified]
  | some path =>
    cases trusted : requiredTrust arguments name with
    | none => simp [ExternalItem.unverified]
    | some trust =>
      simp only [Option.some.injEq, exists_and_left, exists_eq_left']
      rw [← verifySignedReport_ok_iff, ← same]
      show _ ↔ ∃ evidence, verifyExternal host arguments git manifest name path trust = .ok evidence
      cases verified : verifyExternal host arguments git manifest name path trust with
      | ok evidence => simp
      | error message =>
        -- Caught or not, an error does not verify anything.
        cases caught : host.caught message <;> simp [ExternalItem.unverified, caught]

end External

section Results

variable {host : Host} {arguments : Arguments}

theorem releaseOnlyReasons_eq_nil {git : GitState} {manifest : Option ManifestItem}
    {external : List ExternalItem} :
    releaseOnlyReasons host arguments git manifest external = [] ↔
      host.lower arguments.config = "release" ∧ git.clean = true ∧ manifestReasons manifest = [] ∧
      ∀ item ∈ external, item.verified = true := by
  simp only [releaseOnlyReasons, List.append_eq_nil_iff, Reason.when_eq_nil, Bool.not_eq_false',
    bne_eq_false_iff_eq, List.all_eq_true, and_assoc]

theorem approved_iff : (∃ report code, qualify host arguments = .ok (report, code) ∧
    report.releaseApproved = true) ↔ Approvable host arguments := by
  simp only [qualify, bind_eq_ok, pure_eq_ok, load_eq_ok]
  constructor
  · rintro ⟨report, code, ⟨content, read, ⟨manifest, manifestFailures⟩, checked, external, required,
      rfl, -⟩, approved⟩
    simp only [List.isEmpty_iff, List.append_eq_nil_iff, releaseOnlyReasons_eq_nil,
      Reason.when_eq_nil, decide_eq_false_iff_not, not_not, dedup_length_eq] at approved
    obtain ⟨⟨⟨⟨tested, evidenced⟩, rfl⟩, distinct⟩, configuration, clean, clear, verified⟩ :=
      approved
    -- Each list of reasons is empty on its own grounds.
    obtain ⟨complete, recent⟩ := testFailures_eq_nil.mp tested
    obtain ⟨passing, once, named⟩ := evidenceFailures_eq_nil.mp evidenced
    obtain ⟨certified, same⟩ := manifest_clear checked clear
    have accepted := mapM_all.mp ⟨external, required, verified⟩
    exact ⟨⟨_, ⟨content, read, rfl⟩, complete⟩, recent, passing, once, named, certified, distinct,
      fun name listed => (checkExternal_verified (same name)).mp (accepted name listed),
      configuration, clean⟩
  · intro approvable
    obtain ⟨_, ⟨content, read, rfl⟩, complete⟩ := approvable.log
    obtain ⟨document, manifested, certified, identified⟩ := approvable.manifest
    -- Every part of the run returns, and none of them gives a reason.
    obtain ⟨manifest, checked, clear, same⟩ := clear_manifest manifested certified identified
    have accepted : ∀ name ∈ arguments.requiredExternal, ∃ item,
        checkExternal host arguments (gitState host.git) manifest name = .ok item ∧
          item.verified = true :=
      fun name listed => (checkExternal_verified (same name)).mpr (approvable.external name listed)
    obtain ⟨external, required, verified⟩ := mapM_all.mpr accepted
    refine ⟨_, _, ⟨content, read, (manifest, []), checked, external, required, rfl⟩, ?_⟩
    simp only [List.isEmpty_iff, List.append_eq_nil_iff, releaseOnlyReasons_eq_nil,
      Reason.when_eq_nil, decide_eq_false_iff_not, not_not, dedup_length_eq]
    exact ⟨⟨⟨⟨testFailures_eq_nil.mpr ⟨complete, approvable.recent⟩,
      evidenceFailures_eq_nil.mpr ⟨approvable.evidence, approvable.distinct, approvable.required⟩⟩,
      trivial⟩, approvable.externalDistinct⟩, approvable.configuration, approvable.clean, clear,
      verified⟩

theorem passed_of_success {report : Report}
    (qualified : qualify host arguments = .ok (report, 0)) : report.localFailureReasons = [] := by
  simp only [qualify, bind_eq_ok, pure_eq_ok, load_eq_ok] at qualified
  obtain ⟨content, -, ⟨manifest, manifestFailures⟩, -, external, -, same⟩ := qualified
  -- The exit code is computed from the report that is returned with it.
  obtain ⟨rfl, success⟩ := Prod.mk.inj same
  by_contra failed
  -- Local failures alone make the code one.
  have denied := List.isEmpty_eq_false_iff.mpr failed
  simp only [exitCode] at success denied
  rw [denied] at success
  cases success

/-- What is promised of a qualification. -/
def FailClosed (host : Host) (arguments : Arguments) : Prop :=
  ∀ report code, qualify host arguments = .ok (report, code) →
    (report.releaseApproved = true → Deserved host arguments) ∧
    (code = 0 → report.localFailureReasons = [])

/-- No document contradicts itself, and a commit that git leaves empty is that of the manifest. -/
structure Unequivocal (host : Host) (arguments : Arguments) : Prop where
  evidence : ∀ supplied document, Supplied host arguments supplied document →
    ¬Failing host.upper document
  commit : (gitState host.git).commitText = some "" → ∀ document,
    Manifested host arguments document → Json.isText (document.member "gitCommit") "" = true

theorem exists_commit {git : GitAnswers} (clean : (gitState git).clean = true) :
    ∃ commit, (gitState git).commitText = some commit := by
  unfold gitState at clean ⊢
  split_ifs at clean ⊢
  exact ⟨_, rfl⟩

/-- A document is read in one way. -/
theorem Supplied.unique {supplied : String × PosixPath} {one other : Json}
    (first : Supplied host arguments supplied one)
    (second : Supplied host arguments supplied other) : one = other :=
  Except.ok.inj (first.2.symm.trans second.2)

theorem Manifested.unique {one other : Json} (first : Manifested host arguments one)
    (second : Manifested host arguments other) : one = other := by
  obtain ⟨given, provided, -, read⟩ := first
  obtain ⟨again, providedAgain, -, readAgain⟩ := second
  cases provided.symm.trans providedAgain
  exact Except.ok.inj (read.symm.trans readAgain)

/-- What the code asks for is what an approval promises, apart from documents that contradict
themselves and from an empty commit. -/
theorem deserved_iff (approvable : Approvable host arguments) :
    Deserved host arguments ↔ Unequivocal host arguments := by
  constructor
  · intro deserved
    constructor
    · intro supplied document read
      obtain ⟨same, readSame, -, -, unfailing⟩ := deserved.evidence supplied read.1
      -- The document that the promise is about is the one that was read.
      exact read.unique readSame ▸ unfailing
    · intro empty document manifested
      obtain ⟨same, manifestedSame, -, commit, committed, text⟩ := deserved.manifest
      cases empty.symm.trans committed
      exact manifested.unique manifestedSame ▸ text
  · intro unequivocal
    obtain ⟨document, manifested, certified, identified⟩ := approvable.manifest
    obtain ⟨commit, committed⟩ := exists_commit approvable.clean
    have ofCommit : Json.isText (document.member "gitCommit") commit = true := by
      rw [Qualification.identified, committed, Bool.and_eq_true, Bool.or_eq_true] at identified
      rcases identified.2 with empty | text
      · -- The code has not compared an empty commit.
        have none : commit = "" := String.isEmpty_iff.mp empty
        exact none ▸ unequivocal.commit (none ▸ committed) document manifested
      · exact text
    refine ⟨approvable.log, fun supplied listed => ?_, fun name listed => ?_,
      ⟨document, manifested, certified, commit, committed, ofCommit⟩, approvable.clean,
      approvable.external⟩
    · obtain ⟨evidence, read, object, passing⟩ := approvable.evidence supplied listed
      exact ⟨evidence, read, object, passing, unequivocal.evidence supplied evidence read⟩
    · exact List.count_eq_one_of_mem approvable.distinct (approvable.required name listed)

/-- A qualification is fail-closed exactly if, where nothing that the code asks for is missing, no
evidence document contradicts itself and an empty commit is that of the manifest. -/
theorem failClosed_iff (host : Host) (arguments : Arguments) :
    FailClosed host arguments ↔ (Approvable host arguments → Unequivocal host arguments) := by
  constructor
  · intro closed approvable
    obtain ⟨report, code, qualified, approved⟩ := approved_iff.mpr approvable
    exact (deserved_iff approvable).mp ((closed report code qualified).1 approved)
  · intro unequivocal report code qualified
    constructor
    · intro approved
      have approvable := approved_iff.mp ⟨report, code, qualified, approved⟩
      exact (deserved_iff approvable).mpr (unequivocal approvable)
    · rintro rfl
      exact passed_of_success qualified

/-- The manifest of a release without artifacts. -/
def sampleManifest : Json :=
  .obj [("schemaVersion", .num 1), ("product", .str "PocoDDSRuntime"), ("version", .str "1.2.3"),
    ("gitCommit", .str "abc"), ("dirty", .bool false), ("cleanRequired", .bool true),
    ("files", .arr [])]

def contradictoryReport : Json :=
  .obj [("passed", .bool true), ("verdict", .str "DENIED")]

def sampleLog : List Char :=
  "Start testing: Aug 02\n1/1 Test: contract-files\nTest Passed.\nEnd testing: Aug 02\n".toList

/-- A host with a log, an evidence document and a manifest, in a clean worktree. -/
def sampleHost (evidence : Json) : Host where
  environment :=
    { loads := fun content =>
        if content = [2] then .ok evidence
        else if content = [3] then .ok sampleManifest
        else .error "Expecting value"
      dumps := fun _ => [], canonical := fun _ => [], repr := fun _ => "",
      sha256 := fun _ => "", size := List.length, fromIsoFormat := fun _ => none,
      signatureValid := fun _ _ _ _ _ => false }
  disk :=
    { resolve := id
      read := fun path =>
        if path.parts = ["LastTest.log"] then some [1]
        else if path.parts = ["package.json"] then some [2]
        else if path.parts = ["sums.json"] then some [3]
        else none }
  isFile := fun path => path.parts = ["sums.json"]
  modified := fun _ => 0
  artifacts := fun _ => ⟨[]⟩
  git := ⟨⟨0, "abc\n".toList⟩, ⟨0, []⟩, []⟩
  generated := 0
  instant := 0
  decode := fun content => if content = [1] then sampleLog else []
  lower := id
  upper := id
  caught := fun _ => true

/-- The arguments for a release that needs one report. -/
def sampleArguments : Arguments where
  version := "1.2.3"
  config := "release"
  ctestLog := ⟨true, ["LastTest.log"]⟩
  expectedTests := 1
  maxTestAgeHours := 1
  evidence := [("package", ⟨true, ["package.json"]⟩)]
  requiredEvidence := ["package"]
  artifactManifest := some ⟨true, ["sums.json"]⟩
  artifacts := some ⟨true, ["dist"]⟩
  requiredExternal := []
  externalEvidence := []
  externalSignature := []
  externalTrustPolicy := none
  expectedExternalTrustPolicyId := none
  expectedExternalTrustPolicySha256 := none
  signatureCheckExecutable := none
  requireReleaseApproval := true

/-- A report that is denied counts as passing if it also states that it has passed, and the release is
approved. -/
theorem contradictory_report_approves :
    ((qualify (sampleHost contradictoryReport) sampleArguments).toOption.map fun result =>
      (result.1.releaseApproved, result.1.verdict, result.2)) =
        some (true, .releaseCandidateApproved, 0) ∧
    ¬FailClosed (sampleHost contradictoryReport) sampleArguments := by
  have evaluated : ((qualify (sampleHost contradictoryReport) sampleArguments).toOption.map
      fun result => (result.1.releaseApproved, result.1.verdict, result.2)) =
        some (true, .releaseCandidateApproved, 0) := by
    decide +kernel
  refine ⟨evaluated, fun closed => ?_⟩
  cases qualified : qualify (sampleHost contradictoryReport) sampleArguments with
  | error message => simp [qualified, Except.toOption] at evaluated
  | ok result =>
    obtain ⟨report, code⟩ := result
    simp only [qualified, Except.toOption, Option.map_some, Option.some.injEq,
      Prod.mk.injEq] at evaluated
    have deserved := (closed report code qualified).1 evaluated.1
    obtain ⟨document, read, -, -, unfailing⟩ :=
      deserved.evidence ("package", ⟨true, ["package.json"]⟩) (by simp [sampleArguments])
    have same : document = contradictoryReport := (Except.ok.inj read.2).symm
    subst same
    exact unfailing (.inr (.inr ⟨.str "DENIED", rfl, by decide⟩))

end Results

end PocoDDS.Tools.Qualification
