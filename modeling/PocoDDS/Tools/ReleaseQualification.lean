import PocoDDS.Lib.Assoc
import PocoDDS.Tools.CtestLog
import PocoDDS.Tools.ExternalAcceptance
import PocoDDS.Tools.ReleaseManifest

/-! The qualification of a release: what it reads, its reasons for a denial, and its report. -/

namespace PocoDDS.Tools.Qualification

open AssocList ExternalAcceptance JsonModel OutcomeLogic PosixPaths

/-- The reasons that a qualification gives. -/
inductive Reason
  | ctestTotalMismatch
  | ctestNotAllPassed
  | ctestLogIncomplete
  | ctestEvidenceStale
  | sourceChangedAfterCtest
  | evidenceFailed (name : String)
  | evidenceNameDuplicate
  | evidenceMissing (name : String)
  | artifactManifestVerificationFailed
  | artifactManifestIdentityMismatch
  | artifactManifestInvalid
  | artifactManifestMissing
  | externalEvidenceNameDuplicate
  | configurationNotRelease
  | gitWorktreeNotClean
  | artifactManifestNotProvided
  | artifactManifestDirty
  | artifactManifestNotCleanRequired
  | externalAcceptanceIncomplete
  deriving DecidableEq, Repr

/-- A reason as the report states it. -/
def Reason.text : Reason → String
  | .ctestTotalMismatch => "CTEST_TOTAL_MISMATCH"
  | .ctestNotAllPassed => "CTEST_NOT_ALL_PASSED"
  | .ctestLogIncomplete => "CTEST_LOG_INCOMPLETE"
  | .ctestEvidenceStale => "CTEST_EVIDENCE_STALE"
  | .sourceChangedAfterCtest => "SOURCE_CHANGED_AFTER_CTEST"
  | .evidenceFailed name => "EVIDENCE_FAILED:" ++ name
  | .evidenceNameDuplicate => "EVIDENCE_NAME_DUPLICATE"
  | .evidenceMissing name => "EVIDENCE_MISSING:" ++ name
  | .artifactManifestVerificationFailed => "ARTIFACT_MANIFEST_VERIFICATION_FAILED"
  | .artifactManifestIdentityMismatch => "ARTIFACT_MANIFEST_IDENTITY_MISMATCH"
  | .artifactManifestInvalid => "ARTIFACT_MANIFEST_INVALID"
  | .artifactManifestMissing => "ARTIFACT_MANIFEST_MISSING"
  | .externalEvidenceNameDuplicate => "EXTERNAL_EVIDENCE_NAME_DUPLICATE"
  | .configurationNotRelease => "CONFIGURATION_NOT_RELEASE"
  | .gitWorktreeNotClean => "GIT_WORKTREE_NOT_CLEAN"
  | .artifactManifestNotProvided => "ARTIFACT_MANIFEST_NOT_PROVIDED"
  | .artifactManifestDirty => "ARTIFACT_MANIFEST_DIRTY"
  | .artifactManifestNotCleanRequired => "ARTIFACT_MANIFEST_NOT_CLEAN_REQUIRED"
  | .externalAcceptanceIncomplete => "EXTERNAL_ACCEPTANCE_INCOMPLETE"

/-- A reason that is given under a condition. -/
def Reason.when (condition : Bool) (reason : Reason) : List Reason :=
  if condition then [reason] else []

@[simp] theorem Reason.when_eq_nil {condition : Bool} {reason : Reason} :
    Reason.when condition reason = [] ↔ condition = false := by
  cases condition <;> simp [Reason.when]

/-- How a git command has ended, and what it has printed. -/
structure Completed where
  returncode : Int
  stdout : List Char

/-- The answers of git about a source directory, and the times at which the changed and the untracked
files were modified; a file that is gone has none. -/
structure GitAnswers where
  revision : Completed
  status : Completed
  modified : List (Option ℚ)

/-- What `git_state` returns. -/
structure GitState where
  available : Bool
  clean : Bool
  commit : Option (List Char)
  changeCount : Nat
  latestChangeEpoch : ℚ

/-- `git_state` -/
def gitState (git : GitAnswers) : GitState :=
  if git.revision.returncode ≠ 0 ∨ git.status.returncode ≠ 0 then
    { available := false, clean := false, commit := none, changeCount := 0, latestChangeEpoch := 0 }
  else
    let changes := (splitLines git.status.stdout).filter (!·.isEmpty)
    { available := true, clean := changes.isEmpty, commit := some (stripText git.revision.stdout),
      changeCount := changes.length,
      latestChangeEpoch := (git.modified.filterMap id).foldl max 0 }

/-- The commit as it is written in documents. -/
def GitState.commitText (git : GitState) : Option String :=
  git.commit.map String.ofList

/-- What the qualification finds on its host. -/
structure Host where
  environment : Environment (List UInt8)
  disk : Disk (List UInt8)
  isFile : PosixPath → Bool
  /-- `st_mtime` of a file. -/
  modified : PosixPath → ℚ
  /-- What is below a directory. -/
  artifacts : PosixPath → Tree
  git : GitAnswers
  /-- `generated`, and the later clock reading of the external verification. -/
  generated : ℚ
  instant : Int
  /-- `read_text` with undecodable bytes replaced. -/
  decode : List UInt8 → List Char
  lower : String → String
  upper : String → String
  /-- Whether an error of the external verification is one that its loop catches. -/
  caught : String → Bool

/-- The arguments of the command. -/
structure Arguments where
  version : String
  config : String
  ctestLog : PosixPath
  expectedTests : Int
  maxTestAgeHours : ℚ
  evidence : List (String × PosixPath)
  requiredEvidence : List String
  artifactManifest : Option PosixPath
  artifacts : Option PosixPath
  requiredExternal : List String
  externalEvidence : List (String × PosixPath)
  externalSignature : List (String × PosixPath)
  externalTrustPolicy : Option PosixPath
  expectedExternalTrustPolicyId : Option String
  expectedExternalTrustPolicySha256 : Option String
  signatureCheckExecutable : Option PosixPath
  requireReleaseApproval : Bool

def Host.readDocument (host : Host) (path : PosixPath) : Except String Json := do
  host.environment.loads (← host.disk.load path)

/-- The digest of a file that is there. -/
def Host.digest (host : Host) (path : PosixPath) : Option String :=
  (host.disk.read path).map host.environment.sha256

def testAgeHours (host : Host) (log : PosixPath) : ℚ :=
  (host.generated - host.modified log) / 3600

/-- The reasons that the test log gives. -/
def testFailures (host : Host) (arguments : Arguments) (git : GitState) (tests : CtestSummary) :
    List Reason :=
  -- Clocks may differ by a few minutes; a log from further in the future is refused.
  let age := testAgeHours host tests.path
  Reason.when (tests.total ≠ arguments.expectedTests) .ctestTotalMismatch ++
    Reason.when (tests.failed ≠ 0 || tests.notRun ≠ 0 || !tests.duplicateNames.isEmpty)
      .ctestNotAllPassed ++
    Reason.when ((tests.startedAtText.getD []).isEmpty || (tests.endedAtText.getD []).isEmpty)
      .ctestLogIncomplete ++
    Reason.when (age < -(5 / 60) || age > arguments.maxTestAgeHours) .ctestEvidenceStale ++
    Reason.when (git.latestChangeEpoch > host.modified tests.path + 2) .sourceChangedAfterCtest

/-- The verdicts that `evidence_passed` accepts, in upper case. -/
def approvedVerdicts : List String :=
  ["APPROVED", "PASS", "PASSED", "RELEASE_CANDIDATE_APPROVED"]

/-- Whether a verdict is an approved one; the text of a value that is no string never is. -/
def approvedVerdict (upper : String → String) (verdict : Option Json) : Bool :=
  match verdict with
  | some (.str text) => approvedVerdicts.contains (upper text)
  | _ => false

/-- `evidence_passed` -/
def evidencePassed (upper : String → String) (document : Json) : Bool :=
  -- The first indicator that says passed decides: no other one is looked at.
  if !document.isObject then false
  else if Json.isTrue (document.member "passed") ||
      Json.isTrue (document.member "integrationPassed") then true
  else approvedVerdict upper (document.member "verdict")

/-- An item of `evidence` in the report. -/
structure EvidenceItem where
  name : String
  path : PosixPath
  passed : Bool
  sha256 : Option String
  error : Option String

def checkEvidence (host : Host) (supplied : String × PosixPath) : EvidenceItem :=
  let path := host.disk.resolve supplied.2
  -- A document that cannot be read or parsed counts as failed.
  match host.readDocument path with
  | .ok document =>
    let passed := evidencePassed host.upper document
    { name := supplied.1, path, passed, sha256 := host.digest path,
      error := if passed then none else some "report does not contain a passing verdict" }
  | .error message =>
    { name := supplied.1, path, passed := false, sha256 := none, error := some message }

def defaultRequiredEvidence : List String :=
  ["package", "upgrade", "identity", "persistence", "protocol"]

/-- `args.required_evidence or list(DEFAULT_REQUIRED_EVIDENCE)` -/
def requiredEvidence (arguments : Arguments) : List String :=
  if arguments.requiredEvidence.isEmpty then defaultRequiredEvidence
  else arguments.requiredEvidence

/-- The reasons that the evidence gives. -/
def evidenceFailures (arguments : Arguments) (evidence : List EvidenceItem) : List Reason :=
  let names := evidence.map (·.name)
  -- The names are those of the supplied documents, whether these pass or not.
  evidence.flatMap (fun item => Reason.when (!item.passed) (.evidenceFailed item.name)) ++
    Reason.when (names.dedup.length ≠ names.length) .evidenceNameDuplicate ++
    (requiredEvidence arguments).flatMap fun name =>
      Reason.when (!names.contains name) (.evidenceMissing name)

/-- `manifest` in the report. -/
structure ManifestItem where
  path : PosixPath
  present : Bool
  verified : Bool
  sha256 : Option String
  artifactRoot : Option PosixPath
  version : Option Json
  gitCommit : Option Json
  dirty : Option Json
  cleanRequired : Option Json
  verificationError : Option (List String)
  error : Option String

/-- Where the verifier looks for the artifacts. -/
def artifactRoot (host : Host) (arguments : Arguments) (document : Json) :
    Except String PosixPath :=
  -- Without a directory of its own the command trusts the one that the manifest names.
  match arguments.artifacts, document.member "artifactRoot" with
  | some root, _ => .ok (host.disk.resolve root)
  | none, none => .ok (host.disk.resolve (.parse ""))
  | none, some (.str text) => .ok (host.disk.resolve (.parse text))
  | none, some value =>
    .error ("expected str, bytes or os.PathLike object, not " ++ value.typeName)

/-- The root of the artifacts that the report names. -/
def reportedRoot (host : Host) (arguments : Arguments) (document : Json) : PosixPath :=
  match arguments.artifacts with
  | some root => host.disk.resolve root
  | none => host.disk.resolve (.parse (host.environment.text document "artifactRoot"))

/-- What the verifier asks of a manifest before it looks at the artifacts. -/
def supported (document : Json) : Bool :=
  Json.isInt (document.member "schemaVersion") 1 &&
    Json.isText (document.member "product") "PocoDDSRuntime" &&
    ((document.member "files").bind Json.items?).isSome

/-- `verify_artifacts`: whether the verifier returns zero, and the errors that it prints. -/
def verifyArtifacts (host : Host) (arguments : Arguments) (document : Json) :
    Except String (Bool × List String) := do
  -- A document that is no object raises here, and no handler catches that.
  let _ ← document.get "schemaVersion"
  if supported document then
    let root ← artifactRoot host arguments document
    let (result, output) ←
      ReleaseManifest.verify host.environment.sha256 document (host.artifacts root)
    return (result == 0, output)
  else return (false, ["unsupported or malformed release manifest"])

/-- Whether a manifest has the version and the commit under qualification; an empty commit is not
compared. -/
def identified (arguments : Arguments) (git : GitState) (document : Json) : Bool :=
  Json.isText (document.member "version") arguments.version &&
    match git.commitText with
    | some commit => commit.isEmpty || Json.isText (document.member "gitCommit") commit
    | none => true

/-- The report on a manifest that can be read, and the reasons that it gives. -/
def reportManifest (host : Host) (arguments : Arguments) (git : GitState) (path : PosixPath)
    (document : Json) : Except String (ManifestItem × List Reason) := do
  let (verified, output) ← verifyArtifacts host arguments document
  let item : ManifestItem :=
    { path, present := true, verified, sha256 := host.digest path,
      artifactRoot := some (reportedRoot host arguments document),
      version := document.member "version", gitCommit := document.member "gitCommit",
      dirty := document.member "dirty", cleanRequired := document.member "cleanRequired",
      verificationError := if verified then none else some output, error := none }
  return (item, Reason.when (!verified) .artifactManifestVerificationFailed ++
    Reason.when (!identified arguments git document) .artifactManifestIdentityMismatch)

/-- A manifest of which nothing is known. -/
def ManifestItem.unread (path : PosixPath) (present : Bool) (error : Option String) :
    ManifestItem :=
  { path, present, verified := false, sha256 := none, artifactRoot := none, version := none,
    gitCommit := none, dirty := none, cleanRequired := none, verificationError := none, error }

def checkManifest (host : Host) (arguments : Arguments) (git : GitState) :
    Except String (Option ManifestItem × List Reason) :=
  match arguments.artifactManifest with
  | none => .ok (none, [])
  | some given =>
    let path := host.disk.resolve given
    if host.isFile path then
      -- Only reading and parsing raise what the handler catches.
      match host.readDocument path with
      | .ok document => do
        let (item, reasons) ← reportManifest host arguments git path document
        return (some item, reasons)
      | .error message =>
        .ok (some (.unread path true (some message)), [.artifactManifestInvalid])
    else .ok (some (.unread path false none), [.artifactManifestMissing])

/-- The reasons against a release that the manifest gives beyond those. -/
def manifestReasons : Option ManifestItem → List Reason
  | none => [.artifactManifestNotProvided]
  | some manifest =>
    Reason.when (!Json.isFalse manifest.dirty) .artifactManifestDirty ++
      Reason.when (!Json.isTrue manifest.cleanRequired) .artifactManifestNotCleanRequired

/-- What a signed external acceptance is verified with. -/
structure Trust where
  signature : PosixPath
  policy : PosixPath
  policyId : String
  policySha256 : String
  executable : PosixPath

/-- `required_trust`, if none of it is missing. -/
def requiredTrust (arguments : Arguments) (name : String) : Option Trust := do
  return ⟨← lastValue arguments.externalSignature name, ← arguments.externalTrustPolicy,
    ← arguments.expectedExternalTrustPolicyId, ← arguments.expectedExternalTrustPolicySha256,
    ← arguments.signatureCheckExecutable⟩

/-- An item of `externalAcceptance` in the report. -/
structure ExternalItem where
  name : String
  verified : Bool
  path : Option PosixPath
  error : Option String
  signed : Option SignedReport
  digests : Option (Option String × Option String × Option String)
  verification : Option SignedEvidence

def ExternalItem.unverified (name : String) (path : Option PosixPath) (error : Option String) :
    ExternalItem :=
  { name, verified := false, path, error, signed := none, digests := none, verification := none }

/-- The files of an external acceptance. -/
def signedReport (host : Host) (path : PosixPath) (trust : Trust) : SignedReport :=
  ⟨host.disk.resolve path, host.disk.resolve trust.signature, host.disk.resolve trust.policy⟩

/-- The candidate that an external acceptance has to be about. -/
def candidate (arguments : Arguments) (git : GitState) (manifest : Option ManifestItem)
    (name : String) : Expected :=
  ⟨name, arguments.version, git.commitText.map .str,
    (manifest.bind (·.sha256)).map .str⟩

/-- `verify_external_acceptance` -/
def verifyExternal (host : Host) (arguments : Arguments) (git : GitState)
    (manifest : Option ManifestItem) (name : String) (path : PosixPath) (trust : Trust) :
    Except String SignedEvidence :=
  verifySignedReport host.environment host.disk host.instant
    (host.isFile (host.disk.resolve trust.executable)) (signedReport host path trust)
    trust.policyId trust.policySha256 (candidate arguments git manifest name)

def checkExternal (host : Host) (arguments : Arguments) (git : GitState)
    (manifest : Option ManifestItem) (name : String) : Except String ExternalItem :=
  match lastValue arguments.externalEvidence name with
  | none => .ok (.unverified name none none)
  | some path =>
    let resolved := host.disk.resolve path
    -- A missing part of the trust raises an error that the handler catches itself.
    match requiredTrust arguments name with
    | none => .ok (.unverified name (some resolved)
        (some "signed external acceptance and pinned trust policy are required"))
    | some trust =>
      let signed := signedReport host path trust
      match verifyExternal host arguments git manifest name path trust with
      | .ok verification => .ok
          { name, verified := true, path := some resolved, error := none, signed := some signed,
            digests := some (host.digest signed.report, host.digest signed.signature,
              host.digest signed.policy),
            verification := some verification }
      | .error message =>
        if host.caught message then .ok (.unverified name (some resolved) (some message))
        else .error message

/-- The verdicts of a qualification. -/
inductive Verdict
  | releaseCandidateApproved
  | localValidationPassed
  | denied
  deriving DecidableEq, Repr

/-- A verdict as the report states it. -/
def Verdict.text : Verdict → String
  | .releaseCandidateApproved => "RELEASE_CANDIDATE_APPROVED"
  | .localValidationPassed => "LOCAL_VALIDATION_PASSED"
  | .denied => "DENIED"

/-- The report of a qualification. -/
structure Report where
  verdict : Verdict
  passed : Bool
  releaseApproved : Bool
  version : String
  configuration : String
  git : GitState
  tests : CtestSummary
  evidence : List EvidenceItem
  requiredEvidence : List String
  artifactManifest : Option ManifestItem
  externalAcceptance : List ExternalItem
  localFailureReasons : List Reason
  releaseDenialReasons : List Reason

/-- The reasons against a release that are none against the local validation. -/
def releaseOnlyReasons (host : Host) (arguments : Arguments) (git : GitState)
    (manifest : Option ManifestItem) (external : List ExternalItem) : List Reason :=
  Reason.when (host.lower arguments.config != "release") .configurationNotRelease ++
    Reason.when (!git.clean) .gitWorktreeNotClean ++ manifestReasons manifest ++
    Reason.when (!external.all (·.verified)) .externalAcceptanceIncomplete

def verdictOf (localFailures releaseReasons : List Reason) : Verdict :=
  if releaseReasons.isEmpty then .releaseCandidateApproved
  else if localFailures.isEmpty then .localValidationPassed
  else .denied

/-- The code that the command exits with. -/
def exitCode (arguments : Arguments) (report : Report) : Nat :=
  -- A denial for local reasons comes before one for want of an approval.
  if !report.passed then 1
  else if arguments.requireReleaseApproval && !report.releaseApproved then 2
  else 0

/-- `qualify` -/
def qualify (host : Host) (arguments : Arguments) : Except String (Report × Nat) := do
  let log := host.disk.resolve arguments.ctestLog
  let content ← host.disk.load log
  let tests := parseCtestLog log (host.environment.sha256 content) (host.decode content)
  let git := gitState host.git
  let evidence := arguments.evidence.map (checkEvidence host)
  let (manifest, manifestFailures) ← checkManifest host arguments git
  let external ← arguments.requiredExternal.mapM (checkExternal host arguments git manifest)
  let externalNames := arguments.externalEvidence.map Prod.fst
  -- The reasons come in the order in which the source finds them.
  let localFailures := testFailures host arguments git tests ++
    evidenceFailures arguments evidence ++ manifestFailures ++
    Reason.when (externalNames.dedup.length ≠ externalNames.length) .externalEvidenceNameDuplicate
  let releaseReasons := localFailures ++
    releaseOnlyReasons host arguments git manifest external
  let report : Report :=
    { verdict := verdictOf localFailures releaseReasons, passed := localFailures.isEmpty,
      releaseApproved := releaseReasons.isEmpty, version := arguments.version,
      configuration := arguments.config, git, tests, evidence,
      requiredEvidence := requiredEvidence arguments, artifactManifest := manifest,
      externalAcceptance := external, localFailureReasons := localFailures,
      releaseDenialReasons := releaseReasons }
  return (report, exitCode arguments report)

end PocoDDS.Tools.Qualification
