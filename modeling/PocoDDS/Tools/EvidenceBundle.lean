import PocoDDS.Lib.Assoc
import PocoDDS.Tools.ExternalAcceptance

/-! Evidence bundles: the files that are collected into an archive, and how it is verified. -/

namespace PocoDDS.Tools.EvidenceBundle

open ExternalAcceptance JsonModel OutcomeLogic PosixPaths

variable {Content : Type}

/-- The product that signs evidence bundles. -/
def bundleProduct : String := "PocoDDSRuntimeEvidenceBundle"

/-- `safe_member`: a relative path that stays below its start. -/
def safeMember (name : String) : Bool :=
  let path := PosixPath.parse name
  !path.parts.isEmpty && !path.absolute && !name.toList.contains '\\' &&
    path.parts.all fun part => !(["", ".", ".."].contains part)

/-- A file of the bundle: where it comes from and what it is there for. -/
structure BundleFile where
  source : PosixPath
  role : String

/-- The collected files under their paths in the bundle, in the order of collection. -/
abbrev Files := List (String × BundleFile)

/-- `add_file`. -/
def addFile (disk : Disk Content) (files : Files) (bundlePath : String) (source : PosixPath)
    (role : String) : Except String Files := do
  require (safeMember bundlePath && (files.lookup bundlePath).isNone)
    ("unsafe or duplicate evidence bundle path: " ++ bundlePath)
  let resolved := disk.resolve source
  require (disk.read resolved).isSome ("evidence source file not found: " ++ resolved.asPosix)
  return files ++ [(bundlePath, ⟨resolved, role⟩)]

/-- `name.startswith(start)`. -/
def hasStart (start name : String) : Bool :=
  start.toList.isPrefixOf name.toList

/-- A text whose first character passes one test and whose others pass another. -/
def matchesName (first rest : Char → Bool) (name : String) : Bool :=
  match name.toList with
  | [] => false
  | character :: characters => first character && characters.all rest

/-- A letter or a digit of ASCII. -/
def isAlphanumeric (character : Char) : Bool :=
  ('0' ≤ character && character ≤ '9') || ('a' ≤ character && character ≤ 'z') ||
    ('A' ≤ character && character ≤ 'Z')

/-- A lower-case letter or a digit of ASCII. -/
def isLowerAlphanumeric (character : Char) : Bool :=
  ('0' ≤ character && character ≤ '9') || ('a' ≤ character && character ≤ 'z')

/-- The names that local evidence may have. -/
def localName : String → Bool :=
  matchesName isAlphanumeric fun character =>
    isAlphanumeric character || character == '.' || character == '_' || character == '-'

/-- The names that external acceptances may have. -/
def externalName : String → Bool :=
  matchesName isLowerAlphanumeric fun character =>
    isLowerAlphanumeric character || character == '-'

def collectLocal (environment : Environment Content) (disk : Disk Content) (files : Files)
    (item : Json) : Except String Files := do
  let _ ← item.get "name"
  let name := environment.text item "name"
  require (localName name) "qualification contains unsafe evidence name"
  addFile disk files ("local/" ++ name ++ ".json")
    (PosixPath.parse (environment.text item "path")) ("local:" ++ name)

/-- One artifact of the release manifest. -/
def collectArtifact (environment : Environment Content) (disk : Disk Content) (root : PosixPath)
    (files : Files) (entry : Json) : Except String Files := do
  let _ ← entry.get "path"
  let relative := environment.text entry "path"
  require (safeMember relative) ("unsafe artifact manifest path: " ++ relative)
  addFile disk files ("artifacts/payload/" ++ relative)
    (root.join (PosixPath.parse relative)) "artifact"

/-- The artifact manifest that a qualification refers to. -/
def artifactManifest? (qualification : Json) : Option Json :=
  match qualification.member "artifactManifest" with
  | some artifact =>
    if artifact.isObject && Json.truthy (artifact.member "path") then some artifact else none
  | none => none

/-- The files that a release manifest lists. -/
def manifestEntries (environment : Environment Content) (content : Content) :
    Except String (List Json) := do
  let manifest ← environment.loads content
  Json.iterate (← manifest.get "files")

/-- The artifact manifest and, if asked for, the artifacts. -/
def collectArtifacts (environment : Environment Content) (disk : Disk Content)
    (includeArtifacts : Bool) (qualification : Json) (files : Files) : Except String Files :=
  match artifactManifest? qualification with
  | none => .ok files
  | some artifact => do
    let path := PosixPath.parse (environment.text artifact "path")
    let files ← addFile disk files "artifacts/SHA256SUMS.json" path "artifact-manifest"
    if includeArtifacts then do
      let root := disk.resolve (PosixPath.parse (environment.text artifact "artifactRoot"))
      let entries ← manifestEntries environment (← disk.load (disk.resolve path))
      entries.foldlM (collectArtifact environment disk root) files
    else return files

/-- The key of one approver: beside the policy in the bundle, under its own file name. -/
def collectKey (environment : Environment Content) (disk : Disk Content) (name : String)
    (policy : PosixPath) (files : Files) (approver : Json) : Except String Files := do
  let _ ← approver.get "publicKeyPath"
  let publicPath := disk.resolve (policy.parent.join
    (PosixPath.parse (environment.text approver "publicKeyPath")))
  addFile disk files ("external/" ++ name ++ "/" ++ publicPath.name) publicPath
    ("external-public-key:" ++ name)

/-- One attachment: below the report in the bundle, under its own relative path. -/
def collectAttachment (environment : Environment Content) (disk : Disk Content) (name : String)
    (report : PosixPath) (files : Files) (attachment : Json) : Except String Files := do
  let _ ← attachment.get "path"
  let relative := PosixPath.parse (environment.text attachment "path")
  require (safeMember relative.asPosix) "external acceptance contains unsafe attachment path"
  addFile disk files ("external/" ++ name ++ "/" ++ relative.asPosix)
    (report.parent.join relative) ("external-attachment:" ++ name)

def collectCheck (environment : Environment Content) (disk : Disk Content) (name : String)
    (report : PosixPath) (files : Files) (check : Json) : Except String Files := do
  let evidence ← Json.iterate (← check.get "evidence")
  evidence.foldlM (collectAttachment environment disk name report) files

def collectExternal (environment : Environment Content) (disk : Disk Content) (files : Files)
    (item : Json) : Except String Files := do
  let verified ← item.get "verified"
  if !Json.truthy verified then return files
  let name := environment.text item "name"
  require (externalName name) "qualification contains unsafe external acceptance name"
  let report := disk.resolve (PosixPath.parse (environment.text item "path"))
  let files ← addFile disk files ("external/" ++ name ++ "/report.json") report
    ("external:" ++ name)
  let files ← addFile disk files ("external/" ++ name ++ "/report.sig.json")
    (PosixPath.parse (environment.text item "signaturePath")) ("external-signature:" ++ name)
  let policy := disk.resolve (PosixPath.parse (environment.text item "trustPolicyPath"))
  let files ← addFile disk files ("external/" ++ name ++ "/trust-policy.json") policy
    ("external-policy:" ++ name)
  let policyDocument ← environment.loads (← disk.load policy)
  let approvers ← Json.iterate (← policyDocument.get "allowedApprovers")
  let files ← approvers.foldlM (collectKey environment disk name policy) files
  let reportDocument ← environment.loads (← disk.load report)
  let checks ← Json.iterate (← reportDocument.get "checks")
  checks.foldlM (collectCheck environment disk name report) files

/-- The collected files in the order of their paths in the bundle. -/
def sorted (files : Files) : Files :=
  files.insertionSort fun left right => left.1 ≤ right.1

/-- The manifest entry of one file. -/
def manifestEntry (environment : Environment Content) (path role : String) (content : Content) :
    Json :=
  .obj [("path", .str path), ("role", .str role), ("size", .num (environment.size content)),
    ("sha256", .str (environment.sha256 content))]

/-- What `create` is asked for. -/
structure CreateArguments (Content : Type) where
  qualification : PosixPath
  includeArtifacts : Bool
  outputsExist : Bool
  keyId : String
  privateKey : Option Content
  createdAt : String

/-- The files to put into a bundle, with their contents. -/
def readFiles (disk : Disk Content) (files : Files) :
    Except String (List (String × BundleFile × Content)) :=
  (sorted files).mapM fun file => do
    let content ← disk.load file.2.source
    return (file.1, file.2, content)

def collectFiles (environment : Environment Content) (disk : Disk Content)
    (arguments : CreateArguments Content) : Except String (Json × Files) := do
  let qualificationPath := disk.resolve arguments.qualification
  let qualification ← environment.loads (← disk.load qualificationPath)
  let operation ← qualification.get "operation"
  require (Json.isText operation "release-qualification" &&
      Json.isTrue (qualification.member "passed"))
    "evidence bundle requires passing release qualification"
  let files ← addFile disk [] "metadata/release-qualification.json" qualificationPath
    "qualification"
  let tests := (qualification.member "tests").getD (.obj [])
  let _ ← tests.get "path"
  let files ← addFile disk files "tests/ctest.log"
    (PosixPath.parse (environment.text tests "path")) "ctest"
  let evidence ← Json.iterate (qualification.member "evidence")
  let files ← evidence.foldlM (collectLocal environment disk) files
  let files ← collectArtifacts environment disk arguments.includeArtifacts qualification files
  let items ← Json.iterate (qualification.member "externalAcceptance")
  let files ← items.foldlM (collectExternal environment disk) files
  return (qualification, files)

def bundleManifest (environment : Environment Content) (arguments : CreateArguments Content)
    (qualification : Json) (contents : List (String × BundleFile × Content)) :
    Except String Json := do
  let git := (qualification.member "git").getD (.obj [])
  let commit ← git.get "commit"
  let value := fun (member : Option Json) => member.getD .null
  return .obj [("schemaVersion", .num 1), ("product", .str bundleProduct),
    ("createdAt", .str arguments.createdAt),
    ("qualificationVerdict", value (qualification.member "verdict")),
    ("releaseApproved", value (qualification.member "releaseApproved")),
    ("version", value (qualification.member "version")),
    ("gitCommit", value commit), ("worktreeSha256", value (git.member "worktreeSha256")),
    ("includesArtifacts", .bool arguments.includeArtifacts),
    ("files", .arr (contents.map fun file =>
      manifestEntry environment file.1 file.2.1.role file.2.2))]

/-- The archive format and the private keys. -/
structure Sealing (Content : Type) where
  pack : List (String × Content) → Content
  unpack : Content → Option (List (String × Content))
  sign : Content → Content → String

/-- An archive and its signature file. -/
structure Bundle (Content : Type) where
  archive : Content
  signature : Content

/-- The signature file over an archive. -/
def envelope (environment : Environment Content) (sealing : Sealing Content) (keyId : String)
    (key archive : Content) : Content :=
  environment.dumps (.obj [("schemaVersion", .num 1), ("product", .str bundleProduct),
    ("algorithm", .str "Ed25519"), ("keyId", .str keyId),
    ("manifestSha256", .str (environment.sha256 archive)),
    ("signature", .str (sealing.sign key archive))])

/-- `sign_file`. -/
def signFile (environment : Environment Content) (sealing : Sealing Content)
    (arguments : CreateArguments Content) (archive : Content) : Except String Content := do
  require (!arguments.keyId.isEmpty && !arguments.keyId.toList.any isSpace)
    "evidence bundle key id must be non-empty and contain no whitespace"
  match arguments.privateKey with
  | none => .error "evidence bundle private key path environment is unset"
  | some key => return envelope environment sealing arguments.keyId key archive

/-- The name of the manifest in the archive. -/
def manifestName : String := "evidence-bundle.json"

/-- `create`. -/
def create (environment : Environment Content) (sealing : Sealing Content) (disk : Disk Content)
    (arguments : CreateArguments Content) : Except String (Bundle Content) := do
  require (!arguments.outputsExist) "evidence bundle or signature already exists"
  let (qualification, files) ← collectFiles environment disk arguments
  let contents ← readFiles disk files
  let manifest ← bundleManifest environment arguments qualification contents
  let archive := sealing.pack ((manifestName, environment.dumps manifest) ::
    contents.map fun file => (file.1, file.2.2))
  let signature ← signFile environment sealing arguments archive
  return ⟨archive, signature⟩

def readMember (entries : List (String × Content)) (name : String) : Except String Content :=
  match entries.lookup name with
  | some content => .ok content
  | none => .error ("There is no item named '" ++ name ++ "' in the archive")

/-- One entry of the manifest against the archive; the names seen so far are kept. -/
def checkEntry (environment : Environment Content) (entries : List (String × Content))
    (seen : List String) (entry : Json) : Except String (List String) := do
  let path ← entry.get "path"
  match Json.str? path with
  | none => .error "evidence bundle entry is unsafe or duplicated"
  | some name =>
    require (safeMember name && !seen.contains name)
      "evidence bundle entry is unsafe or duplicated"
    match entries.lookup name with
    | none => .error ("evidence bundle file changed or missing: " ++ name)
    | some content =>
      require (Json.isInt (entry.member "size") (environment.size content) &&
          Json.isText (entry.member "sha256") (environment.sha256 content))
        ("evidence bundle file changed or missing: " ++ name)
      return seen ++ [name]

/-- The manifest of an archive, checked against its members. -/
def checkManifest (environment : Environment Content) (entries : List (String × Content)) :
    Except String Json := do
  let names := entries.map Prod.fst
  require (names.Nodup && names.all safeMember)
    "evidence bundle contains unsafe or duplicate paths"
  require (names.contains manifestName) "evidence bundle manifest is missing"
  let manifest ← environment.loads (← readMember entries manifestName)
  let schemaVersion ← manifest.get "schemaVersion"
  require (Json.isInt schemaVersion 1 && Json.isText (manifest.member "product") bundleProduct)
    "unsupported evidence bundle manifest"
  match (manifest.member "files").bind Json.items? with
  | none => .error "evidence bundle file list is malformed"
  | some files =>
    let expected ← files.foldlM (checkEntry environment entries) []
    require (names.all (fun name => name == manifestName || expected.contains name) &&
        expected.all names.contains) "evidence bundle contains unexpected files"
    return manifest

/-- One artifact in the archive against the release manifest. -/
def checkArtifact (environment : Environment Content) (entries : List (String × Content))
    (entry : Json) : Except String Unit := do
  let _ ← entry.get "path"
  let relative := environment.text entry "path"
  let name := "artifacts/payload/" ++ relative
  require (safeMember relative && (entries.map Prod.fst).contains name)
    ("bundled artifact is unsafe or missing: " ++ relative)
  let content ← readMember entries name
  require (Json.isInt (entry.member "size") (environment.size content) &&
      Json.isText (entry.member "sha256") (environment.sha256 content))
    ("bundled artifact differs from release manifest: " ++ relative)

/-- The artifacts in the archive are those of the release manifest. -/
def checkArtifacts (environment : Environment Content) (entries : List (String × Content)) :
    Except String Unit := do
  let listed ← manifestEntries environment (← readMember entries "artifacts/SHA256SUMS.json")
  listed.forM (checkArtifact environment entries)
  require ((entries.map Prod.fst).all fun name => !hasStart "artifacts/payload/" name ||
      listed.any fun entry => name == "artifacts/payload/" ++ environment.text entry "path")
    "bundled artifact payload contains unexpected files"

/-- The files below the temporary directory, under their components. -/
abbrev Tree (Content : Type) := List (List String × Content)

/-- Writing one file: neither it nor a directory on the way may be there as the other kind. -/
def writeExtracted (tree : Tree Content) (parts : List String) (content : Content) :
    Except String (Tree Content) :=
  if tree.any fun file => file.1.isPrefixOf parts && file.1 ≠ parts then
    .error "[Errno 20] Not a directory"
  else if tree.any fun file => parts.isPrefixOf file.1 && file.1 ≠ parts then
    .error "[Errno 21] Is a directory"
  else .ok ((tree.filter fun file => file.1 ≠ parts) ++ [(parts, content)])

/-- Extracting the external evidence. -/
def extract (entries : List (String × Content)) : Except String (Tree Content) :=
  (entries.filter fun entry => hasStart "external/" entry.1).foldlM
    (fun tree entry => writeExtracted tree (PosixPath.parse entry.1).parts entry.2) []

/-- What `verify` is given: the host at that time, and how a directory tree shows up on it. -/
structure VerifyArguments (Content : Type) where
  bundle : Bundle Content
  publicKey : Content
  expectedKeyId : String
  expectedPublicKeySha256 : String
  verifier : Bool
  now : Int
  /-- The temporary directory, and the files of the host once there are some below it. -/
  directory : PosixPath
  mount : (List String → Option Content) → Disk Content

/-- The paths of one acceptance below a directory. -/
def bundledPaths (directory : PosixPath) (name : String) : SignedReport where
  report := ⟨directory.absolute, directory.parts ++ ["external", name, "report.json"]⟩
  signature := ⟨directory.absolute, directory.parts ++ ["external", name, "report.sig.json"]⟩
  policy := ⟨directory.absolute, directory.parts ++ ["external", name, "trust-policy.json"]⟩

/-- The policy under which an acceptance was recorded as verified. -/
def recordedPolicy (environment : Environment Content) (item : Json) :
    Except String (String × String) := do
  let verification := (item.member "verification").getD (.obj [])
  let _ ← verification.get "policyId"
  return (environment.shown verification "policyId", environment.shown verification "policySha256")

/-- One acceptance in the extracted directory. -/
def checkExternal (environment : Environment Content) (arguments : VerifyArguments Content)
    (tree : Tree Content) (qualification item : Json) : Except String Unit := do
  let (policyId, policySha256) ← recordedPolicy environment item
  let type := environment.shown item "name"
  let git := (qualification.member "git").getD (.obj [])
  let commit ← git.get "commit"
  let artifact := (qualification.member "artifactManifest").getD (.obj [])
  let manifestSha256 ← artifact.get "sha256"
  let _ ← verifySignedReport environment (arguments.mount (AssocList.valueAt tree))
    arguments.now arguments.verifier (bundledPaths arguments.directory type) policyId policySha256
    ⟨type, environment.shown qualification "version", commit, manifestSha256⟩
  return ()

def verifiedItems (qualification : Json) : Except String (List Json) := do
  let items ← Json.iterate (qualification.member "externalAcceptance")
  items.forM fun item => do
    let _ ← item.get "verified"
  return items.filter fun item => Json.truthy (item.member "verified")

/-- The external acceptances of the bundled qualification. -/
def checkExternals (environment : Environment Content) (arguments : VerifyArguments Content)
    (entries : List (String × Content)) (qualification : Json) : Except String Unit := do
  let items ← verifiedItems qualification
  if items.isEmpty then return ()
  let tree ← extract entries
  items.forM (checkExternal environment arguments tree qualification)

/-- `verify`. -/
def verify (environment : Environment Content) (sealing : Sealing Content)
    (arguments : VerifyArguments Content) : Except String Unit := do
  require (environment.sha256 arguments.publicKey ==
    arguments.expectedPublicKeySha256.toLower) "evidence bundle public key SHA-256 is not trusted"
  require (environment.signatureValid arguments.bundle.archive arguments.bundle.signature
    arguments.publicKey arguments.expectedKeyId bundleProduct)
    "evidence bundle signature verification failed"
  match sealing.unpack arguments.bundle.archive with
  | none => .error "File is not a zip file"
  | some entries => do
    let manifest ← checkManifest environment entries
    let qualification ← environment.loads
      (← readMember entries "metadata/release-qualification.json")
    let passed ← qualification.get "passed"
    require (Json.isTrue passed && !Json.isText (qualification.member "verdict") "DENIED")
      "bundled release qualification is not passing"
    if Json.truthy (manifest.member "includesArtifacts") then checkArtifacts environment entries
    checkExternals environment arguments entries qualification

end PocoDDS.Tools.EvidenceBundle
