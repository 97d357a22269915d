import Mathlib.Data.List.GetD
import PocoDDS.Lib.Outcome

/-! The principals of the management interface, and how their bearer tokens are recognised. -/

namespace PocoDDS.Security

open OutcomeLogic

/-- A string of the program: bytes, of which any may be zero. -/
abbrev Bytes := List UInt8

/-- The bytes of a literal. -/
def bytes (text : String) : Bytes :=
  text.toList.map fun character => UInt8.ofNat character.toNat

/-- The byte at an index, or zero past the end. -/
def byteAt (text : Bytes) (index : Nat) : UInt8 :=
  text.getD index 0

/-- `constantTimeEquals`: one byte gathers the difference of the sizes and of all bytes. -/
def constantTimeEquals (supplied expected : Bytes) : Bool :=
  let size := max supplied.length expected.length
  -- The conversion to a byte keeps the low eight bits of the sizes only.
  let start := UInt8.ofNat (supplied.length ^^^ expected.length)
  let difference := (List.range size).foldl
    (fun difference index => difference ||| (byteAt supplied index ^^^ byteAt expected index)) start
  difference == 0 && !supplied.isEmpty

/-- A set of permissions. -/
abbrev PermissionSet := Finset Bytes

/-- `managementPermissions`. -/
def managementPermissions : PermissionSet :=
  (["protocol.manage", "process.manage", "bundle.manage", "configuration.manage",
    "identity.manage", "audit.read", "task.read", "task.cancel"].map bytes).toFinset

structure Principal where
  id : Bytes
  permissions : PermissionSet
  deriving DecidableEq

/-- `Principal::authorized`. -/
def Principal.authorized (principal : Principal) (permission : Bytes) : Bool :=
  permission ∈ principal.permissions

structure Entry where
  principal : Principal
  token : Bytes
  deriving DecidableEq

structure PrincipalStore where
  required : Bool := false
  fileBackedCount : Nat := 0
  environmentBackedCount : Nat := 0
  insecureFileCount : Nat := 0
  filePermissionChecksComplete : Bool := true
  entries : List Entry := []
  deriving DecidableEq

/-- `std::isspace`. -/
def isSpace (byte : UInt8) : Bool :=
  (9 ≤ byte && byte ≤ 13) || byte == 32

/-- Removing the white space at both ends. -/
def trim (item : Bytes) : Bytes :=
  ((item.dropWhile isSpace).reverse.dropWhile isSpace).reverse

/-- Collecting the items of a list of permissions; an asterisk stands for all of them. -/
def collectPermissions : List Bytes → PermissionSet → PermissionSet
  | [], permissions => permissions
  | item :: rest, permissions =>
    let item := trim item
    if item = bytes "*" then managementPermissions
    else collectPermissions rest (if item = [] then permissions else insert item permissions)

/-- `parsePermissions`. -/
def parsePermissions (value : Bytes) : PermissionSet :=
  collectPermissions (value.splitOn 44) ∅

/-- A file that may hold a token, and what the check of its permissions finds. -/
structure TokenFile where
  isFile : Bool
  readable : Bool
  content : Bytes
  permissionsVerified : Bool
  restricted : Bool

/-- The variables and files that tokens are taken from. -/
structure TokenHost where
  environment : Bytes → Option Bytes
  file : Bytes → Option TokenFile

/-- The getters of a configuration, which may raise. -/
structure Configuration where
  getBool : (key : String) → (default : Bool) → Except String Bool
  getInt : (key : String) → (default : Int) → Except String Int
  getString : (key : String) → (default : Bytes) → Except String Bytes
  expand : Bytes → Except String Bytes

structure TokenMaterial where
  token : Bytes
  fileBacked : Bool := false
  permissionsVerified : Bool := true
  restricted : Bool := true

/-- Removing the line ends at the end of a text. -/
def stripLineEnds (text : Bytes) : Bytes :=
  (text.reverse.dropWhile fun byte => byte == 10 || byte == 13).reverse

/-- `tokenFromFile`. -/
def tokenFromFile (host : TokenHost) (configuration : Configuration) (configuredPath : Bytes)
    (description : String) : Except String TokenMaterial := do
  let path ← configuration.expand configuredPath
  match host.file path with
  | none => .error (description ++ " file is missing")
  | some file =>
    let token := stripLineEnds file.content
    if !file.isFile then .error (description ++ " file is missing")
    else if file.content.length > 16 * 1024 then .error (description ++ " file exceeds 16 KiB")
    else if !file.readable then .error (description ++ " file")
    else if token.contains 10 || token.contains 13 then
      .error (description ++ " file contains embedded newline")
    else if token.isEmpty then .error (description ++ " file is empty")
    else .ok ⟨token, true, file.permissionsVerified, file.restricted⟩

/-- `tokenFromSource`: exactly one of a variable and a file. -/
def tokenFromSource (host : TokenHost) (configuration : Configuration)
    (environmentKey fileKey description : String) : Except String TokenMaterial := do
  let environmentName ← configuration.getString environmentKey []
  let configuredPath ← configuration.getString fileKey []
  if environmentName.isEmpty == configuredPath.isEmpty then
    .error (description ++ " requires exactly one tokenEnvironment or tokenFile")
  else if !configuredPath.isEmpty then tokenFromFile host configuration configuredPath description
  else
    match host.environment environmentName with
    | none => .error (description ++ " environment is missing")
    | some token =>
      if token.isEmpty then .error (description ++ " environment is empty")
      else .ok { token }

/-- `PrincipalStore::recordSource`. -/
def PrincipalStore.recordSource (store : PrincipalStore) (material : TokenMaterial) :
    PrincipalStore :=
  if !material.fileBacked then
    { store with environmentBackedCount := store.environmentBackedCount + 1 }
  else { store with
    fileBackedCount := store.fileBackedCount + 1
    filePermissionChecksComplete :=
      store.filePermissionChecksComplete && material.permissionsVerified
    insecureFileCount := store.insecureFileCount +
      if material.permissionsVerified && !material.restricted then 1 else 0 }

/-- One entry against a new principal: neither its id nor its token may be taken. -/
def checkEntry (id token : Bytes) (entry : Entry) : Except String Unit :=
  if entry.principal.id = id then .error "duplicate management principal ID"
  else if constantTimeEquals entry.token token then .error "duplicate management bearer token"
  else .ok ()

/-- `PrincipalStore::appendEntry`. -/
def PrincipalStore.appendEntry (store : PrincipalStore) (id token : Bytes)
    (permissions : PermissionSet) : Except String PrincipalStore := do
  store.entries.forM (checkEntry id token)
  return { store with entries := store.entries ++ [⟨⟨id, permissions⟩, token⟩] }

/-- The principal without an index, who may do everything. -/
def appendLegacy (host : TokenHost) (configuration : Configuration) (store : PrincipalStore) :
    Except String PrincipalStore := do
  let environmentKey := "pdr.management.authentication.tokenEnvironment"
  let fileKey := "pdr.management.authentication.tokenFile"
  let environmentName ← configuration.getString environmentKey []
  let configuredPath ← configuration.getString fileKey []
  if environmentName.isEmpty && configuredPath.isEmpty then return store
  else do
    let material ← tokenFromSource host configuration environmentKey fileKey "management token"
    (store.recordSource material).appendEntry (bytes "legacy-admin") material.token
      managementPermissions

def appendIndexed (host : TokenHost) (configuration : Configuration) (store : PrincipalStore)
    (index : Nat) : Except String PrincipalStore := do
  let start := "pdr.management.authentication.principals." ++ toString index ++ "."
  let id ← configuration.getString (start ++ "id") []
  let permissions := parsePermissions (← configuration.getString (start ++ "permissions") [])
  if id.isEmpty || permissions = ∅ then .error "management principal is incomplete"
  else do
    let material ← tokenFromSource host configuration (start ++ "tokenEnvironment")
      (start ++ "tokenFile") "management principal token"
    (store.recordSource material).appendEntry id material.token permissions

/-- `PrincipalStore::fromManagementConfiguration`. -/
def fromManagementConfiguration (host : TokenHost) (configuration : Configuration) :
    Except String PrincipalStore := do
  let required ← configuration.getBool "pdr.management.authentication.required" false
  let store ← appendLegacy host configuration { required }
  let count ← configuration.getInt "pdr.management.authentication.principals.count" 0
  if count < 0 || count > 64 then .error "management principal count"
  else do
    let store ← (List.range count.toNat).foldlM (appendIndexed host configuration) store
    if store.required && store.entries.isEmpty then
      .error "management authentication requires at least one principal"
    else return store

/-- `PrincipalStore::authenticateBearerToken`: every entry is compared, and the last match counts. -/
def PrincipalStore.authenticateBearerToken (store : PrincipalStore) (token : Bytes) :
    Option Principal :=
  store.entries.foldl (fun matched entry =>
    if constantTimeEquals token entry.token then some entry.principal else matched) none

/-- `PrincipalStore::authenticateAuthorizationHeader`. -/
def PrincipalStore.authenticateAuthorizationHeader (store : PrincipalStore) (header : Bytes) :
    Option Principal :=
  if (bytes "Bearer ").isPrefixOf header then
    store.authenticateBearerToken (header.drop (bytes "Bearer ").length)
  else none

/-- One text is the other one followed by a positive multiple of 256 zero bytes. -/
def NulPadded (first second : Bytes) : Prop :=
  ∃ count, 0 < count ∧ (first = second ++ List.replicate (256 * count) 0 ∨
    second = first ++ List.replicate (256 * count) 0)

theorem gathered_eq_zero_iff (difference : Nat → UInt8) (indices : List Nat) (start : UInt8) :
    indices.foldl (fun gathered index => gathered ||| difference index) start = 0 ↔
      start = 0 ∧ ∀ index ∈ indices, difference index = 0 := by
  -- A bit that is set once stays set, whatever is gathered after it.
  induction indices generalizing start with
  | nil => simp
  | cons first rest ih =>
    rw [List.foldl_cons, ih, UInt8.or_eq_zero_iff, List.forall_mem_cons, and_assoc]

/-- The low byte of the difference of two sizes says that they agree modulo 256. -/
theorem sizes_agree_iff (first second : Nat) :
    UInt8.ofNat (first ^^^ second) = 0 ↔ first % 256 = second % 256 := by
  rw [UInt8.ofNat_xor, UInt8.xor_eq_zero_iff, ← UInt8.toNat_inj]
  simp

theorem byteAt_of_le {text : Bytes} {index : Nat} (past : text.length ≤ index) :
    byteAt text index = 0 := by
  simp [byteAt, past]

/-- Texts with the same bytes, read with zeros past the end, differ in trailing zeros only. -/
theorem eq_append_zeros {longer shorter : Bytes} (sizes : shorter.length ≤ longer.length)
    (same : ∀ index, byteAt longer index = byteAt shorter index) :
    longer = shorter ++ List.replicate (longer.length - shorter.length) 0 := by
  -- Position by position: within the shorter text its own bytes, past it zeros.
  apply List.ext_getElem
  · simp
    omega
  · intro index inside _
    have here := same index
    rw [byteAt, List.getD_eq_getElem _ _ inside] at here
    rw [here, List.getElem_append]
    split
    · next within => rw [byteAt, List.getD_eq_getElem _ _ within]
    · next past =>
      rw [List.getElem_replicate]
      exact byteAt_of_le (by omega)

theorem byteAt_append_zeros (text : Bytes) (count index : Nat) :
    byteAt (text ++ List.replicate count 0) index = byteAt text index := by
  unfold byteAt
  by_cases within : index < text.length
  · rw [List.getD_append _ _ _ _ within]
  · -- Past the end of the text both sides are zero.
    rw [List.getD_append_right _ _ _ _ (by omega), List.getD_eq_default text _ (by omega)]
    by_cases inside : index - text.length < count
    · rw [List.getD_eq_getElem _ _ (by simpa using inside), List.getElem_replicate]
    · rw [List.getD_eq_default _ _ (by simpa using inside)]

/-- Equal sizes modulo 256 and equal bytes mean equality, up to appended zeros. -/
theorem eq_or_nulPadded_iff (first second : Bytes) : (first.length % 256 = second.length % 256 ∧
        ∀ index, byteAt first index = byteAt second index) ↔
      first = second ∨ NulPadded first second := by
  constructor
  · rintro ⟨sizes, same⟩
    -- The longer text decides which one was padded.
    by_cases equal : first.length = second.length
    · left
      have padded := eq_append_zeros (by omega) same
      simpa [equal] using padded
    · right
      rcases Nat.lt_or_gt_of_ne equal with shorter | longer
      · have padded := eq_append_zeros (by omega) fun index => (same index).symm
        refine ⟨(second.length - first.length) / 256, by omega, .inr ?_⟩
        have whole : 256 * ((second.length - first.length) / 256) =
            second.length - first.length := by omega
        rw [whole]
        exact padded
      · have padded := eq_append_zeros (by omega) same
        refine ⟨(first.length - second.length) / 256, by omega, .inl ?_⟩
        have whole : 256 * ((first.length - second.length) / 256) =
            first.length - second.length := by omega
        rw [whole]
        exact padded
  · rintro (rfl | ⟨count, -, rfl | rfl⟩)
    · exact ⟨rfl, fun _ => rfl⟩
    · refine ⟨?_, byteAt_append_zeros _ _⟩
      simp
    · refine ⟨?_, fun index => (byteAt_append_zeros _ _ index).symm⟩
      simp

theorem not_eq_of_nulPadded {first second : Bytes} (padded : NulPadded first second) :
    first ≠ second := by
  rintro rfl
  obtain ⟨count, positive, same | same⟩ := padded
  · have sizes := congrArg List.length same
    simp at sizes
    omega
  · have sizes := congrArg List.length same
    simp at sizes
    omega

theorem constantTimeEquals_iff (supplied expected : Bytes) :
    constantTimeEquals supplied expected = true ↔
      supplied ≠ [] ∧ (supplied = expected ∨ NulPadded supplied expected) := by
  unfold constantTimeEquals
  simp only [Bool.and_eq_true, beq_iff_eq, Bool.not_eq_true', List.isEmpty_eq_false_iff]
  rw [gathered_eq_zero_iff, sizes_agree_iff, ← eq_or_nulPadded_iff, and_comm]
  refine and_congr_right fun _ => and_congr_right fun _ => ?_
  constructor
  · intro compared index
    by_cases inside : index < max supplied.length expected.length
    · exact UInt8.xor_eq_zero_iff.mp (compared index (List.mem_range.mpr inside))
    · -- Past the longer text both bytes are zero.
      rw [byteAt_of_le (by omega), byteAt_of_le (by omega)]
  · intro same index _
    exact UInt8.xor_eq_zero_iff.mpr (same index)

theorem NulPadded.symm {first second : Bytes} (padded : NulPadded first second) :
    NulPadded second first := by
  obtain ⟨count, positive, either⟩ := padded
  exact ⟨count, positive, either.symm⟩

section Entries

variable {host : TokenHost}

/-- Every token is filled, and no two entries have tokens that pass for each other. -/
structure PrincipalStore.Distinct (store : PrincipalStore) : Prop where
  filled : ∀ entry ∈ store.entries, entry.token ≠ []
  apart : store.entries.Pairwise fun earlier later =>
    constantTimeEquals earlier.token later.token = false

theorem tokenFromFile_filled {configuration : Configuration} {path : Bytes} {description : String}
    {material : TokenMaterial}
    (read : tokenFromFile host configuration path description = .ok material) :
    material.token ≠ [] := by
  unfold tokenFromFile at read
  obtain ⟨expanded, -, opened⟩ := bind_eq_ok.mp read
  cases found : host.file expanded with
  | none => simp [found] at opened
  | some file =>
    -- The last check before the token is returned is that it is not empty.
    simp only [found] at opened
    repeat' split at opened
    all_goals cases opened
    next filled =>
      intro empty
      simp only at empty
      simp [empty] at filled

theorem tokenFromSource_filled {configuration : Configuration}
    {environmentKey fileKey description : String} {material : TokenMaterial}
    (read : tokenFromSource host configuration environmentKey fileKey description =
      .ok material) : material.token ≠ [] := by
  unfold tokenFromSource at read
  obtain ⟨environmentName, -, named⟩ := bind_eq_ok.mp read
  obtain ⟨configuredPath, -, chosen⟩ := bind_eq_ok.mp named
  split at chosen
  · cases chosen
  · split at chosen
    · exact tokenFromFile_filled chosen
    · cases found : host.environment environmentName with
      | none => simp [found] at chosen
      | some token =>
        simp only [found] at chosen
        split at chosen
        · cases chosen
        · next filled =>
          cases chosen
          intro empty
          simp only at empty
          simp [empty] at filled

@[simp] theorem recordSource_entries (store : PrincipalStore) (material : TokenMaterial) :
    (store.recordSource material).entries = store.entries := by
  unfold PrincipalStore.recordSource
  split
  · rfl
  · rfl

variable {store : PrincipalStore} (distinct : store.Distinct)
include distinct

theorem appendEntry_distinct {result : PrincipalStore} {id token : Bytes}
    {permissions : PermissionSet} (filled : token ≠ [])
    (appended : store.appendEntry id token permissions = .ok result) : result.Distinct := by
  unfold PrincipalStore.appendEntry at appended
  obtain ⟨checked, same⟩ := andThen_eq_ok.mp appended
  obtain rfl := pure_eq_ok.mp same
  have free : ∀ entry ∈ store.entries, constantTimeEquals entry.token token = false := by
    intro entry listed
    have passed := forM_eq_ok.mp checked entry listed
    unfold checkEntry at passed
    split at passed
    · cases passed
    · split at passed
      · cases passed
      · next other => simpa using other
  constructor
  · intro entry listed
    rcases List.mem_append.mp listed with old | new
    · exact distinct.filled entry old
    · rw [List.mem_singleton.mp new]
      exact filled
  · rw [List.pairwise_append]
    refine ⟨distinct.apart, List.pairwise_singleton _ _, ?_⟩
    intro earlier listed later new
    rw [List.mem_singleton.mp new]
    exact free earlier listed

theorem PrincipalStore.Distinct.recorded (material : TokenMaterial) :
    (store.recordSource material).Distinct := by
  constructor
  · rw [recordSource_entries]
    exact distinct.filled
  · rw [recordSource_entries]
    exact distinct.apart

theorem appendLegacy_distinct {configuration : Configuration} {result : PrincipalStore}
    (appended : appendLegacy host configuration store = .ok result) :
    result.Distinct := by
  unfold appendLegacy at appended
  obtain ⟨_, -, named⟩ := bind_eq_ok.mp appended
  obtain ⟨_, -, chosen⟩ := bind_eq_ok.mp named
  split at chosen
  · obtain rfl := pure_eq_ok.mp chosen
    exact distinct
  · obtain ⟨material, read, added⟩ := bind_eq_ok.mp chosen
    exact appendEntry_distinct (distinct.recorded material) (tokenFromSource_filled read) added

theorem appendIndexed_distinct {configuration : Configuration} {result : PrincipalStore}
    {index : Nat} (appended : appendIndexed host configuration store index = .ok result) :
    result.Distinct := by
  unfold appendIndexed at appended
  obtain ⟨_, -, named⟩ := bind_eq_ok.mp appended
  obtain ⟨_, -, chosen⟩ := bind_eq_ok.mp named
  dsimp only at chosen
  split at chosen
  · cases chosen
  · obtain ⟨material, read, added⟩ := bind_eq_ok.mp chosen
    exact appendEntry_distinct (distinct.recorded material) (tokenFromSource_filled read) added

omit distinct

theorem built_distinct {configuration : Configuration} {store : PrincipalStore}
    (built : fromManagementConfiguration host configuration = .ok store) : store.Distinct := by
  unfold fromManagementConfiguration at built
  obtain ⟨required, -, begun⟩ := bind_eq_ok.mp built
  obtain ⟨legacy, appended, counted⟩ := bind_eq_ok.mp begun
  obtain ⟨count, -, looped⟩ := bind_eq_ok.mp counted
  have start : legacy.Distinct :=
    appendLegacy_distinct ⟨by simp, List.Pairwise.nil⟩ appended
  split at looped
  · cases looped
  · obtain ⟨last, added, ended⟩ := bind_eq_ok.mp looped
    -- Each round of the loop appends one entry to a store that is fine already.
    have step : ∀ index ∈ List.range count.toNat, ∀ before after,
        appendIndexed host configuration before index = .ok after →
          before.Distinct → after.Distinct := by
      intro index _ before after taken distinct
      exact appendIndexed_distinct distinct taken
    have kept : legacy.Distinct → last.Distinct := by
      refine foldlM_related ?_ ?_ step added
      · exact fun _ distinct => distinct
      · exact fun first second distinct => second (first distinct)
    split at ended
    · cases ended
    · obtain rfl := pure_eq_ok.mp ended
      exact kept start

end Entries

theorem authenticated_eq_some_iff (store : PrincipalStore) (token : Bytes) (principal : Principal) :
    store.authenticateBearerToken token = some principal ↔
      (store.entries.filter fun entry => constantTimeEquals token entry.token).getLast?.map
        Entry.principal = some principal := by
  unfold PrincipalStore.authenticateBearerToken
  -- From the last entry back: it decides unless it does not match.
  induction store.entries using List.reverseRecOn with
  | nil => simp
  | append_singleton rest last ih =>
    rw [List.foldl_append, List.filter_append]
    by_cases hit : constantTimeEquals token last.token = true
    · simp [hit]
    · simpa [hit] using ih

theorem authenticated_isSome_iff (store : PrincipalStore) (token : Bytes) :
    (store.authenticateBearerToken token).isSome = true ↔
      ∃ entry ∈ store.entries, constantTimeEquals token entry.token = true := by
  constructor
  · intro found
    obtain ⟨principal, same⟩ := Option.isSome_iff_exists.mp found
    rw [authenticated_eq_some_iff, Option.map_eq_some_iff] at same
    obtain ⟨entry, last, -⟩ := same
    exact ⟨entry, List.mem_filter.mp (List.mem_of_getLast? last)⟩
  · rintro ⟨entry, listed, hit⟩
    have member : entry ∈ store.entries.filter fun entry =>
        constantTimeEquals token entry.token := List.mem_filter.mpr ⟨listed, hit⟩
    have filled := List.getLast?_isSome.mpr (List.ne_nil_of_mem member)
    obtain ⟨last, final⟩ := Option.isSome_iff_exists.mp filled
    have same : store.authenticateBearerToken token = some last.principal := by
      rw [authenticated_eq_some_iff, final]
      rfl
    rw [same]
    rfl

/-- A token is recognised as that of one entry, exactly when it is that entry's token. -/
structure AuthenticatesExactly (store : PrincipalStore) (token : Bytes) : Prop where
  recognised : (store.authenticateBearerToken token).isSome = true ↔
    ∃ entry ∈ store.entries, entry.token = token
  owner : ∀ entry ∈ store.entries, entry.token = token →
    store.authenticateBearerToken token = some entry.principal ∧
      ∀ other ∈ store.entries, other.token = token → other = entry

theorem PrincipalStore.Distinct.eq_of_passes {store : PrincipalStore} (distinct : store.Distinct)
    {first second : Entry} (one : first ∈ store.entries) (other : second ∈ store.entries)
    (passes : first.token = second.token ∨ NulPadded first.token second.token) :
    first = second := by
  -- Of two entries at different places the later one was compared with the earlier one.
  have forward : store.entries.Pairwise fun earlier later =>
      earlier.token = later.token ∨ NulPadded earlier.token later.token → earlier = later := by
    refine distinct.apart.imp_of_mem fun {earlier later} listed _ refused same => ?_
    rw [(constantTimeEquals_iff _ _).mpr ⟨distinct.filled earlier listed, same⟩] at refused
    cases refused
  have backward : store.entries.Pairwise (flip fun earlier later : Entry =>
      earlier.token = later.token ∨ NulPadded earlier.token later.token → earlier = later) :=
    forward.imp fun same passes => (same (passes.imp Eq.symm NulPadded.symm)).symm
  exact List.Pairwise.forall_of_forall_of_flip (fun _ _ _ => rfl) forward backward one other
    passes

/--
A token is recognised exactly, unless it differs from a stored one in trailing zero bytes only.

The byte that gathers the differences has room for the low eight bits of the sizes alone, and past
the end of a text zeros are compared.
-/
theorem exact_token_iff (host : TokenHost) (configuration : Configuration) (store : PrincipalStore)
    (built : fromManagementConfiguration host configuration = .ok store) :
    (∀ token, AuthenticatesExactly store token ↔
      (token = [] ∨ ∀ entry ∈ store.entries, ¬ NulPadded token entry.token)) ∧
    ∀ supplied expected, ((constantTimeEquals supplied expected = true ↔
        supplied = expected ∧ supplied ≠ []) ↔
      (supplied = [] ∨ ¬ NulPadded supplied expected)) := by
  have distinct := built_distinct built
  constructor
  · intro token
    constructor
    · intro exact
      by_contra reached
      push Not at reached
      obtain ⟨filled, entry, listed, padded⟩ := reached
      -- A padded token is recognised, and so would have to be the token of an entry.
      have hit : constantTimeEquals token entry.token = true :=
        (constantTimeEquals_iff _ _).mpr ⟨filled, .inr padded⟩
      obtain ⟨owner, owned, same⟩ := exact.recognised.mp
        ((authenticated_isSome_iff store token).mpr ⟨entry, listed, hit⟩)
      rw [← same] at padded
      have single := distinct.eq_of_passes owned listed (.inr padded)
      rw [single] at padded
      exact not_eq_of_nulPadded padded rfl
    · intro clean
      -- Without padding only the entry's own token matches.
      have matched : ∀ entry ∈ store.entries, constantTimeEquals token entry.token = true ↔
          entry.token = token := by
        intro entry listed
        rw [constantTimeEquals_iff]
        constructor
        · rintro ⟨filled, same | padded⟩
          · exact same.symm
          · rcases clean with empty | none
            · exact absurd empty filled
            · exact absurd padded (none entry listed)
        · intro same
          exact ⟨same ▸ distinct.filled entry listed, .inl same.symm⟩
      have unique : ∀ entry ∈ store.entries, entry.token = token →
          ∀ other ∈ store.entries, other.token = token → other = entry := by
        intro entry listed same other otherListed otherSame
        exact distinct.eq_of_passes otherListed listed (.inl (otherSame.trans same.symm))
      refine ⟨?_, fun entry listed same => ⟨?_, unique entry listed same⟩⟩
      · rw [authenticated_isSome_iff]
        constructor
        · rintro ⟨entry, listed, hit⟩
          exact ⟨entry, listed, (matched entry listed).mp hit⟩
        · rintro ⟨entry, listed, same⟩
          exact ⟨entry, listed, (matched entry listed).mpr same⟩
      · rw [authenticated_eq_some_iff]
        have hit := (matched entry listed).mpr same
        have member : entry ∈ store.entries.filter fun entry =>
            constantTimeEquals token entry.token := List.mem_filter.mpr ⟨listed, hit⟩
        -- Whatever entry matches last, it is this one.
        have filled := List.getLast?_isSome.mpr (List.ne_nil_of_mem member)
        obtain ⟨last, final⟩ := Option.isSome_iff_exists.mp filled
        obtain ⟨lastListed, lastHit⟩ := List.mem_filter.mp (List.mem_of_getLast? final)
        rw [final, unique entry listed same last lastListed
          ((matched last lastListed).mp lastHit)]
        rfl
  · intro supplied expected
    rw [constantTimeEquals_iff]
    constructor
    · intro exact
      by_contra reached
      push Not at reached
      obtain ⟨filled, padded⟩ := reached
      exact not_eq_of_nulPadded padded (exact.mp ⟨filled, .inr padded⟩).1
    · rintro (empty | clean)
      · simp [empty]
      · constructor
        · rintro ⟨filled, same | padded⟩
          · exact ⟨same, filled⟩
          · exact absurd padded clean
        · rintro ⟨same, filled⟩
          exact ⟨filled, .inl same⟩

/-- One operator whose token is the single letter `a`, taken from a variable. -/
def operatorConfiguration : Configuration where
  getBool := fun _ _ => .ok true
  getInt := fun _ _ => .ok 1
  getString := fun key default => .ok <|
    if key = "pdr.management.authentication.principals.0.id" then bytes "operator"
    else if key = "pdr.management.authentication.principals.0.permissions" then bytes "task.read"
    else if key = "pdr.management.authentication.principals.0.tokenEnvironment" then
      bytes "OPERATOR_TOKEN"
    else default
  expand := .ok

def operatorHost : TokenHost where
  environment := fun name => if name = bytes "OPERATOR_TOKEN" then some [97] else none
  file := fun _ => none

def operatorStore : PrincipalStore where
  required := true
  environmentBackedCount := 1
  entries := [⟨⟨bytes "operator", {bytes "task.read"}⟩, [97]⟩]

theorem operatorStore_built :
    fromManagementConfiguration operatorHost operatorConfiguration = .ok operatorStore := by
  rfl

/-- The operator is recognised by its own token. -/
theorem operator_recognised :
    fromManagementConfiguration operatorHost operatorConfiguration = .ok operatorStore ∧
      AuthenticatesExactly operatorStore [97] := by
  refine ⟨operatorStore_built, ((exact_token_iff _ _ _ operatorStore_built).1 [97]).mpr (.inr ?_)⟩
  intro entry listed padded
  rw [List.mem_singleton.mp listed] at padded
  exact not_eq_of_nulPadded padded rfl

/-- The operator's token followed by 256 zero bytes is recognised as well. -/
theorem padded_token_recognised :
    ¬ ∀ (host : TokenHost) (configuration : Configuration) (store : PrincipalStore),
      fromManagementConfiguration host configuration = .ok store →
        ∀ token, AuthenticatesExactly store token := by
  intro always
  have exact := always _ _ _ operatorStore_built ([97] ++ List.replicate 256 0)
  have hit : constantTimeEquals ([97] ++ List.replicate 256 0) [97] = true :=
    (constantTimeEquals_iff _ _).mpr ⟨List.cons_ne_nil _ _, .inr ⟨1, by decide, .inl rfl⟩⟩
  obtain ⟨entry, listed, same⟩ := exact.recognised.mp
    ((authenticated_isSome_iff _ _).mpr ⟨_, List.mem_singleton_self _, hit⟩)
  rw [List.mem_singleton.mp listed] at same
  have sizes := congrArg List.length same
  rw [List.length_append, List.length_replicate] at sizes
  change 1 = 1 + 256 at sizes
  omega

end PocoDDS.Security
