import PocoDDS.Lib.Outcome
import PocoDDS.Lib.PosixPath
import PocoDDS.Lib.PyJson

/-! External acceptance reports: what must hold of a report, its attachments and its signature. -/

namespace PocoDDS.Tools

open JsonModel OutcomeLogic PosixPaths

/-- What the evidence tools take from Python and from the signature checker. -/
structure Environment (Content : Type) where
  loads : Content → Except String Json
  dumps : Json → Content
  canonical : Json → Content
  repr : Json → String
  sha256 : Content → String
  size : Content → Nat
  /-- `datetime.fromisoformat`: no date, a date without a time zone, or an instant. -/
  fromIsoFormat : String → Option (Option Int)
  /-- `pdr-signature-check`: signed file, signature file, public key, key id and product. -/
  signatureValid : Content → Content → Content → String → String → Bool

/-- The files of a host, under their resolved paths. -/
structure Disk (Content : Type) where
  resolve : PosixPath → PosixPath
  read : PosixPath → Option Content

variable {Content : Type}

/-- Reading a file that must be there. -/
def Disk.load (disk : Disk Content) (path : PosixPath) : Except String Content :=
  match disk.read path with
  | some content => .ok content
  | none => .error ("[Errno 2] No such file or directory: '" ++ path.asPosix ++ "'")

/-- `str(value)`. -/
def Environment.str (environment : Environment Content) : Json → String
  | .str text => text
  | value => environment.repr value

/-- `str(document.get(key, ""))`. -/
def Environment.text (environment : Environment Content) (document : Json) (key : String) :
    String :=
  environment.str ((document.member key).getD (.str ""))

/-- `str(document.get(key))`. -/
def Environment.shown (environment : Environment Content) (document : Json) (key : String) :
    String :=
  environment.str ((document.member key).getD .null)

/-- Raising an error unless a condition holds. -/
def require (condition : Bool) (message : String) : Except String Unit :=
  if condition then .ok () else .error message

theorem require_eq_ok {condition : Bool} {message : String} :
    require condition message = .ok () ↔ condition = true := by
  cases condition <;> simp [require]

namespace ExternalAcceptance

/-- The checks that each type of acceptance consists of. -/
def acceptanceChecks : List (String × List String) :=
  [("petalinux-target", ["image-identity", "boot-cycle", "runtime-health", "resource-boundary",
      "upgrade-rollback"]),
    ("physical-protocols", ["device-inventory", "connectivity", "data-integrity",
      "disconnect-recovery", "throughput-error-budget"]),
    ("production-identity", ["identity-provider", "least-privilege", "rotation", "revocation",
      "audit-secret-redaction"]),
    ("site-network", ["routing-dns", "tls-path", "firewall-proxy", "reconnect",
      "time-synchronization"]),
    ("soak-24h", ["duration", "health", "resource-growth", "error-budget", "fault-recovery"]),
    ("soak-72h", ["duration", "health", "resource-growth", "error-budget", "fault-recovery"])]

/-- The candidate that a report must be about; a missing value is not compared. -/
structure Expected where
  type : String
  version : String
  commit : Option Json
  manifestSha256 : Option Json

/-- `expected is not None and actual != expected`. -/
def mismatch (actual expected : Option Json) : Bool :=
  match expected with
  | none | some .null => false
  | some value => !Json.same actual (some value)

/-- The digest over a report without its own digest. -/
def contentDigest (environment : Environment Content) (document : Json) : String :=
  environment.sha256 (environment.canonical (.obj
    ((document.members?.getD []).filter fun member => member.1 ≠ "contentSha256")))

/-- The ids of the checks are those of the acceptance type, in any order. -/
def sameIds (checks : List Json) (ids : List String) : Bool :=
  checks.all (fun check => ids.any fun id => Json.isText (check.member "id") id) &&
    ids.all fun id => checks.any fun check => Json.isText (check.member "id") id

/-- The part of `verify_report` that looks at the report alone; returns its checks. -/
def checkReport (environment : Environment Content) (document : Json) (expected : Expected) :
    Except String (List Json) := do
  let acceptanceType ← document.get "acceptanceType"
  let known := (Json.str? acceptanceType).bind fun type => acceptanceChecks.lookup type
  require (Json.isInt (document.member "schemaVersion") 1 &&
      Json.isText (document.member "operation") "external-acceptance" &&
      Json.isTrue (document.member "passed") &&
      Json.isText (document.member "verdict") "APPROVED" && known.isSome)
    "unsupported or non-approved external acceptance report"
  require (expected.type.isEmpty || Json.isText acceptanceType expected.type)
    "external acceptance type mismatch"
  require (Json.isText (document.member "contentSha256") (contentDigest environment document))
    "external acceptance content digest mismatch"
  let candidate := (document.member "candidate").getD (.obj [])
  let version ← candidate.get "version"
  require (!mismatch version (some (.str expected.version)))
    "external acceptance candidate version mismatch"
  require (!mismatch (candidate.member "gitCommit") expected.commit)
    "external acceptance candidate git commit mismatch"
  require (!mismatch (candidate.member "artifactManifestSha256") expected.manifestSha256)
    "external acceptance candidate artifact manifest mismatch"
  let approval := (document.member "approval").getD (.obj [])
  let _ ← approval.get "approverId"
  require (Json.filled (some (.str (environment.text approval "approverId"))) &&
      Json.filled (some (.str (environment.text approval "record"))))
    "external acceptance has no approver or approval record"
  let checks := ((document.member "checks").bind Json.items?).getD []
  checks.forM fun check => do
    let _ ← check.get "id"
  require (((document.member "checks").bind Json.items?).isSome &&
      sameIds checks (known.getD [])) "external acceptance check set mismatch"
  return checks

/-- Where an attachment lies: relative paths start at the directory of the report. -/
def attachmentPath (disk : Disk Content) (report : PosixPath) (text : String) : PosixPath :=
  disk.resolve ((disk.resolve report).parent.join (PosixPath.parse text))

/-- One attachment: there, and unchanged. -/
def checkAttachment (environment : Environment Content) (disk : Disk Content)
    (report : PosixPath) (attachment : Json) : Except String Unit := do
  let _ ← attachment.get "path"
  let path := attachmentPath disk report (environment.text attachment "path")
  match disk.read path with
  | none => .error ("external acceptance attachment changed: " ++ path.asPosix)
  | some content =>
    require (Json.isInt (attachment.member "size") (environment.size content) &&
        Json.isText (attachment.member "sha256") (environment.sha256 content))
      ("external acceptance attachment changed: " ++ path.asPosix)

def attachments (check : Json) : List Json :=
  ((check.member "evidence").bind Json.items?).getD []

/-- One check: passed, and with attachments that are all in place. -/
def checkEvidence (environment : Environment Content) (disk : Disk Content)
    (report : PosixPath) (check : Json) : Except String Unit := do
  require (Json.isText (check.member "status") "PASSED" && !(attachments check).isEmpty)
    ("external acceptance check is incomplete: " ++ environment.shown check "id")
  (attachments check).forM (checkAttachment environment disk report)

/-- What `verify_report` returns. -/
structure ReportEvidence where
  acceptanceType : Option Json
  attachmentCount : Nat
  contentSha256 : Option Json

/-- `verify_report`. -/
def verifyReport (environment : Environment Content) (disk : Disk Content) (path : PosixPath)
    (expected : Expected) : Except String ReportEvidence := do
  let document ← environment.loads (← disk.load (disk.resolve path))
  let checks ← checkReport environment document expected
  checks.forM (checkEvidence environment disk path)
  return ⟨document.member "acceptanceType", (checks.flatMap attachments).length,
    document.member "contentSha256"⟩

/-- `parse_time`. -/
def parseTime (environment : Environment Content) (value : Option Json) (field : String) :
    Except String (Option Int) :=
  match value with
  | none | some .null => .ok none
  | some (.str text) =>
    match environment.fromIsoFormat text with
    | none => .error ("external approval trust policy " ++ field ++ " is invalid")
    | some none => .error ("external approval trust policy " ++ field ++ " requires timezone")
    | some (some instant) => .ok (some instant)
  | some _ => .error ("external approval trust policy " ++ field ++ " is invalid")

/-- Five minutes, in microseconds. -/
def clockTolerance : Int := 300000000

/-- One entry of the revocation list: well formed, and not about the signing key. -/
def checkRevoked (environment : Environment Content) (keyId : String) (entry : Json) :
    Except String Unit := do
  require (entry.isObject && Json.truthy (entry.member "keyId") &&
    Json.truthy (entry.member "reason")) "external approval revocation entry is malformed"
  let _ ← parseTime environment (entry.member "revokedAt") "revokedAt"
  require (!Json.isText (entry.member "keyId") keyId)
    ("external approval key is revoked: " ++ keyId ++ ": " ++ environment.shown entry "reason")

def selectApprover (policy : Json) (approverId : Option Json) (keyId type : String) :
    Except String Json := do
  let allowed := (policy.member "allowedApprovers").bind Json.items?
  require allowed.isSome "external approval approver list is malformed"
  let named := (allowed.getD []).filter fun entry =>
    entry.isObject && Json.same (entry.member "approverId") approverId &&
      Json.isText (entry.member "keyId") keyId
  match named with
  | [approver] =>
    require (Json.isText (approver.member "algorithm") "Ed25519" &&
        (((approver.member "acceptanceTypes").bind Json.items?).getD []).any fun allowedType =>
          Json.isText (some allowedType) type)
      "external approver is not allowed for this acceptance type"
    return approver
  | _ => .error "external approver and signing key are not uniquely allowed"

def checkWindow (environment : Environment Content) (approver : Json) (approvedAt now : Int) :
    Except String Unit := do
  let notBefore ← parseTime environment (approver.member "notBefore") "notBefore"
  let notAfter ← parseTime environment (approver.member "notAfter") "notAfter"
  require (!(notBefore.any fun first => notAfter.any fun last => last ≤ first))
    "external approver validity window is invalid"
  require (!(notBefore.any fun first => now < first || approvedAt < first))
    "external approver key is not active yet"
  require (!(notAfter.any fun last => last ≤ now || last ≤ approvedAt))
    "external approver key has expired"

/-- The product that signs acceptance reports. -/
def product : String := "PocoDDSRuntimeExternalAcceptance"

def checkPolicy (policy : Json) (policyId : String) : Except String Unit := do
  let _ ← policy.get "schemaVersion"
  require (Json.isInt (policy.member "schemaVersion") 1 &&
      Json.isText (policy.member "product") product &&
      Json.isText (policy.member "policyId") policyId)
    "external approval trust policy identity is invalid"

/-- The time of the approval, which may not be in the future. -/
def approvalTime (environment : Environment Content) (report : Json) (now : Int) :
    Except String Int := do
  match ← parseTime environment (report.member "approvedAt") "approvedAt" with
  | none => .error "external approval time is invalid or in the future"
  | some approvedAt =>
    require (approvedAt ≤ now + clockTolerance)
      "external approval time is invalid or in the future"
    return approvedAt

/-- The key that a signature envelope names. -/
def signingKey (signature : Json) : Except String String := do
  let keyId ← signature.get "keyId"
  require (Json.isInt (signature.member "schemaVersion") 1 &&
      Json.isText (signature.member "product") product &&
      Json.isText (signature.member "algorithm") "Ed25519" && (Json.str? keyId).isSome)
    "unsupported external approval signature envelope"
  return (Json.str? keyId).getD ""

def checkRevocations (environment : Environment Content) (policy : Json) (keyId : String) :
    Except String Unit := do
  let revoked := (policy.member "revokedKeys").bind Json.items?
  require revoked.isSome "external approval revocation list is malformed"
  (revoked.getD []).forM (checkRevoked environment keyId)

/-- The approver that a report names. -/
def approverId (report : Json) : Option Json :=
  ((report.member "approval").getD (.obj [])).member "approverId"

/-- Where the policy's approver has its key: relative paths start beside the policy. -/
def keyPath (environment : Environment Content) (disk : Disk Content) (policy : PosixPath)
    (approver : Json) : PosixPath :=
  disk.resolve ((disk.resolve policy).parent.join
    (PosixPath.parse (environment.text approver "publicKeyPath")))

/-- The paths of a report, its signature and the trust policy. -/
structure SignedReport where
  report : PosixPath
  signature : PosixPath
  policy : PosixPath

/-- What `verify_signed_report` returns. -/
structure SignedEvidence extends ReportEvidence where
  approverId : Option Json
  keyId : String
  publicKeySha256 : String
  policyId : Option Json
  policySha256 : String

/-- `verify_signed_report`, at an instant and with the signature checker in place or not. -/
def verifySignedReport (environment : Environment Content) (disk : Disk Content) (now : Int)
    (verifier : Bool) (paths : SignedReport) (policyId policySha256 : String)
    (expected : Expected) : Except String SignedEvidence := do
  let evidence ← verifyReport environment disk paths.report expected
  let policyContent ← disk.load (disk.resolve paths.policy)
  require (environment.sha256 policyContent == policySha256.toLower)
    "external approval trust policy SHA-256 is not trusted"
  let policy ← environment.loads policyContent
  checkPolicy policy policyId
  let reportContent ← disk.load (disk.resolve paths.report)
  let report ← environment.loads reportContent
  let approvedAt ← approvalTime environment report now
  let signatureContent ← disk.load (disk.resolve paths.signature)
  let keyId ← signingKey (← environment.loads signatureContent)
  checkRevocations environment policy keyId
  let approver ← selectApprover policy (approverId report) keyId expected.type
  let key ← disk.load (keyPath environment disk paths.policy approver)
  require (Json.isText (approver.member "publicKeySha256") (environment.sha256 key))
    "external approver public key is not allowed by trust policy"
  checkWindow environment approver approvedAt now
  require verifier "external signature verifier is unavailable"
  require (environment.signatureValid reportContent signatureContent key keyId product)
    "external approval signature verification failed"
  return { evidence with
    approverId := approverId report, keyId, publicKeySha256 := environment.sha256 key,
    policyId := policy.member "policyId", policySha256 := environment.sha256 policyContent }

theorem load_eq_ok {disk : Disk Content} {path : PosixPath} {content : Content} :
    disk.load path = .ok content ↔ disk.read path = some content := by
  unfold Disk.load
  cases disk.read path <;> simp

/-- Everything that the verification of a signed report reads and finds. -/
structure Signed (Content : Type) where
  reportContent : Content
  signatureContent : Content
  policyContent : Content
  report : Json
  signature : Json
  policy : Json
  checks : List Json
  approvedAt : Int
  keyId : String
  approver : Json
  key : Content

/-- What has to hold for a signed report to be verified. -/
structure Signed.Passes (signed : Signed Content) (environment : Environment Content)
    (disk : Disk Content) (now : Int) (verifier : Bool) (paths : SignedReport)
    (policyId policySha256 : String) (expected : Expected) : Prop where
  reportRead : disk.read (disk.resolve paths.report) = some signed.reportContent
  signatureRead : disk.read (disk.resolve paths.signature) = some signed.signatureContent
  policyRead : disk.read (disk.resolve paths.policy) = some signed.policyContent
  reportLoaded : environment.loads signed.reportContent = .ok signed.report
  signatureLoaded : environment.loads signed.signatureContent = .ok signed.signature
  policyLoaded : environment.loads signed.policyContent = .ok signed.policy
  reported : checkReport environment signed.report expected = .ok signed.checks
  attached : ∀ check ∈ signed.checks, checkEvidence environment disk paths.report check = .ok ()
  pinned : environment.sha256 signed.policyContent = policySha256.toLower
  identified : checkPolicy signed.policy policyId = .ok ()
  approved : approvalTime environment signed.report now = .ok signed.approvedAt
  enveloped : signingKey signed.signature = .ok signed.keyId
  unrevoked : checkRevocations environment signed.policy signed.keyId = .ok ()
  selected : selectApprover signed.policy (approverId signed.report) signed.keyId expected.type =
    .ok signed.approver
  keyRead : disk.read (keyPath environment disk paths.policy signed.approver) = some signed.key
  keyPinned : Json.isText (signed.approver.member "publicKeySha256")
    (environment.sha256 signed.key) = true
  valid : checkWindow environment signed.approver signed.approvedAt now = .ok ()
  checker : verifier = true
  signed : environment.signatureValid signed.reportContent signed.signatureContent signed.key
    signed.keyId product = true

theorem verifySignedReport_ok_iff {environment : Environment Content} {disk : Disk Content}
    {now : Int} {verifier : Bool} {paths : SignedReport} {policyId policySha256 : String}
    {expected : Expected} :
    (∃ evidence, verifySignedReport environment disk now verifier paths policyId policySha256
      expected = .ok evidence) ↔ ∃ signed : Signed Content,
        signed.Passes environment disk now verifier paths policyId policySha256 expected := by
  constructor
  · rintro ⟨evidence, verified⟩
    unfold verifySignedReport verifyReport at verified
    simp only [bind_eq_ok, load_eq_ok, pure_eq_ok] at verified
    obtain ⟨_, ⟨reportContent, reportRead, report, reportLoaded, checks, reported, _, attached, _⟩,
      policyContent, policyRead, _, pinned, policy, policyLoaded, _, identified, again, reread,
      reportAgain, reloaded, approvedAt, approved, signatureContent, signatureRead, signature,
      signatureLoaded, keyId, enveloped, _, unrevoked, approver, selected, key, keyRead,
      _, keyPinned, _, valid, _, checker, _, checked, _⟩ := verified
    -- The report is read a second time, with the same result.
    obtain rfl : reportContent = again := Option.some.inj (reportRead.symm.trans reread)
    obtain rfl : report = reportAgain := Except.ok.inj (reportLoaded.symm.trans reloaded)
    refine ⟨⟨reportContent, signatureContent, policyContent, report, signature, policy, checks,
      approvedAt, keyId, approver, key⟩, ?_⟩
    exact ⟨reportRead, signatureRead, policyRead, reportLoaded, signatureLoaded, policyLoaded,
      reported, forM_eq_ok.mp attached, beq_iff_eq.mp (require_eq_ok.mp pinned), identified,
      approved, enveloped, unrevoked, selected, keyRead, require_eq_ok.mp keyPinned, valid,
      require_eq_ok.mp checker, require_eq_ok.mp checked⟩
  · rintro ⟨signed, passes⟩
    unfold verifySignedReport verifyReport
    simp only [load_eq_ok.mpr passes.reportRead, load_eq_ok.mpr passes.signatureRead,
      load_eq_ok.mpr passes.policyRead, load_eq_ok.mpr passes.keyRead, passes.reportLoaded,
      passes.signatureLoaded, passes.policyLoaded, passes.reported,
      forM_eq_ok.mpr passes.attached, passes.identified, passes.approved, passes.enveloped,
      passes.unrevoked, passes.selected, passes.valid, require, passes.pinned, passes.keyPinned,
      passes.checker, passes.signed, Bind.bind, Except.bind, beq_self_eq_true, if_true]
    exact ⟨_, rfl⟩

/-- An approval that is not in the future stays so. -/
theorem approvalTime_later {environment : Environment Content} {report : Json}
    {now later approvedAt : Int} (approved : approvalTime environment report now = .ok approvedAt)
    (after : now ≤ later) : approvalTime environment report later = .ok approvedAt := by
  unfold approvalTime at approved ⊢
  obtain ⟨time, parsed, past⟩ := bind_eq_ok.mp approved
  refine bind_eq_ok.mpr ⟨time, parsed, ?_⟩
  cases time with
  | none => cases past
  | some instant =>
    obtain ⟨within, same⟩ := andThen_eq_ok.mp past
    have before := require_eq_ok.mp within
    simp only [decide_eq_true_eq] at before
    refine andThen_eq_ok.mpr ⟨require_eq_ok.mpr ?_, same⟩
    simp only [decide_eq_true_eq]
    omega

theorem eq_of_isText {value : Option Json} {one other : String}
    (first : Json.isText value one = true) (second : Json.isText value other = true) :
    one = other := by
  simp only [Json.isText, beq_iff_eq] at first second
  exact Option.some.inj (first.symm.trans second)

/-- What a verification reads and finds is determined by the files. -/
theorem Signed.Passes.unique {environment : Environment Content} {disk : Disk Content} {now : Int}
    {verifier : Bool} {paths : SignedReport} {policyId policySha256 : String}
    {expected : Expected} {first second : Signed Content}
    (one : first.Passes environment disk now verifier paths policyId policySha256 expected)
    (other : second.Passes environment disk now verifier paths policyId policySha256 expected) :
    first.approver = second.approver ∧ first.key = second.key := by
  have report : first.report = second.report := by
    have same := Option.some.inj (one.reportRead.symm.trans other.reportRead)
    exact Except.ok.inj ((same ▸ one.reportLoaded).symm.trans other.reportLoaded)
  have signature : first.signature = second.signature := by
    have same := Option.some.inj (one.signatureRead.symm.trans other.signatureRead)
    exact Except.ok.inj ((same ▸ one.signatureLoaded).symm.trans other.signatureLoaded)
  have policy : first.policy = second.policy := by
    have same := Option.some.inj (one.policyRead.symm.trans other.policyRead)
    exact Except.ok.inj ((same ▸ one.policyLoaded).symm.trans other.policyLoaded)
  have keyId : first.keyId = second.keyId :=
    Except.ok.inj ((signature ▸ one.enveloped).symm.trans other.enveloped)
  have approver : first.approver = second.approver := by
    have selected := one.selected
    rw [policy, report, keyId] at selected
    exact Except.ok.inj (selected.symm.trans other.selected)
  exact ⟨approver, Option.some.inj ((approver ▸ one.keyRead).symm.trans other.keyRead)⟩

section Copies

variable {environment : Environment Content} {disk copy : Disk Content} {now later : Int}
  {verifier : Bool} {paths copies : SignedReport} {policyId policySha256 : String}
  {expected : Expected} {signed : Signed Content}

theorem checkAttachment_copied {report reportCopy : PosixPath} {attachment : Json}
    (same : copy.read (attachmentPath copy reportCopy (environment.text attachment "path")) =
      disk.read (attachmentPath disk report (environment.text attachment "path")))
    (passes : checkAttachment environment disk report attachment = .ok ()) :
    checkAttachment environment copy reportCopy attachment = .ok () := by
  unfold checkAttachment at passes ⊢
  obtain ⟨path, found, unchanged⟩ := bind_eq_ok.mp passes
  refine bind_eq_ok.mpr ⟨path, found, ?_⟩
  simp only [same]
  cases content : disk.read (attachmentPath disk report (environment.text attachment "path")) with
  | none => simp [content] at unchanged
  | some content =>
    simp only [content] at unchanged
    exact require_eq_ok.mpr (require_eq_ok.mp unchanged)

theorem checkEvidence_copied {report reportCopy : PosixPath} {check : Json}
    (same : ∀ attachment ∈ attachments check,
      copy.read (attachmentPath copy reportCopy (environment.text attachment "path")) =
        disk.read (attachmentPath disk report (environment.text attachment "path")))
    (passes : checkEvidence environment disk report check = .ok ()) :
    checkEvidence environment copy reportCopy check = .ok () := by
  unfold checkEvidence at passes ⊢
  obtain ⟨complete, attached⟩ := andThen_eq_ok.mp passes
  refine andThen_eq_ok.mpr ⟨complete, forM_eq_ok.mpr fun attachment listed => ?_⟩
  exact checkAttachment_copied (same attachment listed) (forM_eq_ok.mp attached attachment listed)

/--
A copy of a verified report is verified exactly when the approver's key is found beside the copy.

The copy holds the same report, signature, policy and attachments; only the place that the
policy's key path names may have been left behind.
-/
theorem Signed.Passes.copied_iff
    (passes : signed.Passes environment disk now verifier paths policyId policySha256 expected)
    (reportRead : copy.read (copy.resolve copies.report) = some signed.reportContent)
    (signatureRead : copy.read (copy.resolve copies.signature) = some signed.signatureContent)
    (policyRead : copy.read (copy.resolve copies.policy) = some signed.policyContent)
    (attached : ∀ check ∈ signed.checks, ∀ attachment ∈ attachments check,
      copy.read (attachmentPath copy copies.report (environment.text attachment "path")) =
        disk.read (attachmentPath disk paths.report (environment.text attachment "path")))
    (after : now ≤ later)
    (valid : checkWindow environment signed.approver signed.approvedAt later = .ok ())
    (collisionFree : ∀ key, environment.sha256 key = environment.sha256 signed.key →
      key = signed.key) :
    (∃ evidence, verifySignedReport environment copy later verifier copies policyId policySha256
      expected = .ok evidence) ↔
        copy.read (keyPath environment copy copies.policy signed.approver) = some signed.key := by
  rw [verifySignedReport_ok_iff]
  constructor
  · rintro ⟨found, copied⟩
    -- The same contents lead to the same documents, and those to the same approver.
    have samePolicy : found.policy = signed.policy := by
      have same := Option.some.inj (copied.policyRead.symm.trans policyRead)
      exact Except.ok.inj ((same ▸ copied.policyLoaded).symm.trans passes.policyLoaded)
    have sameReport : found.report = signed.report := by
      have same := Option.some.inj (copied.reportRead.symm.trans reportRead)
      exact Except.ok.inj ((same ▸ copied.reportLoaded).symm.trans passes.reportLoaded)
    have sameSignature : found.signature = signed.signature := by
      have same := Option.some.inj (copied.signatureRead.symm.trans signatureRead)
      exact Except.ok.inj ((same ▸ copied.signatureLoaded).symm.trans passes.signatureLoaded)
    have sameKeyId : found.keyId = signed.keyId :=
      Except.ok.inj ((sameSignature ▸ copied.enveloped).symm.trans passes.enveloped)
    have sameApprover : found.approver = signed.approver := by
      have selected := copied.selected
      rw [samePolicy, sameReport, sameKeyId] at selected
      exact Except.ok.inj (selected.symm.trans passes.selected)
    -- The policy pins the digest of the key, so it is the same key.
    have sameKey : found.key = signed.key := by
      have pinned := copied.keyPinned
      rw [sameApprover] at pinned
      exact collisionFree _ (eq_of_isText pinned passes.keyPinned)
    rw [← sameApprover, ← sameKey]
    exact copied.keyRead
  · intro keyRead
    refine ⟨signed, ?_⟩
    exact { passes with
      reportRead, signatureRead, policyRead, valid, keyRead
      attached := fun check listed =>
        checkEvidence_copied (attached check listed) (passes.attached check listed)
      approved := approvalTime_later passes.approved after }

end Copies

end ExternalAcceptance

end PocoDDS.Tools
