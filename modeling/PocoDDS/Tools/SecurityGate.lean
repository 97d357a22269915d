import PocoDDS.Lib.Assoc
import PocoDDS.Tools.PythonText

/-! The deploy-time security gate: how it reads a properties file, its rules, and what the runtime
reads from the same file. -/

namespace PocoDDS.Tools.SecurityGate

open AssocList JsonModel TrimLogic

/-- A dictionary of texts: no key twice. -/
structure Properties where
  entries : List (List Char × List Char)
  distinct : (keys entries).Nodup

namespace Properties

def empty : Properties := ⟨[], List.nodup_nil⟩

def set (values : Properties) (key value : List Char) : Properties :=
  ⟨upsert key value (fun _ => value) values.entries, nodup_keys_upsert values.distinct _ _ _⟩

def find (values : Properties) (key : List Char) : Option (List Char) :=
  valueAt values.entries key

/-- `values.get(key, default)` -/
def get (values : Properties) (key default : String) : List Char :=
  (values.find key.toList).getD default.toList

/-- Later keys win. -/
def collect (entries : List (List Char × List Char)) : Properties :=
  entries.foldl (fun values entry => values.set entry.1 entry.2) empty

end Properties

/-- What the gate reads from a line. -/
def assignment (raw : List Char) : Option (List Char × List Char) :=
  let line := stripText raw
  -- Only `#` begins a comment here, and only `=` separates a value.
  if line = [] ∨ line.head? = some '#' then none
  else match partition '=' line with
    | (key, some value) => some (stripText key, stripText value)
    | (_, none) => none

/-- `properties` -/
def properties (text : List Char) : Properties :=
  .collect ((splitLines text).filterMap assignment)

/-- The blanks of the runtime's reader. -/
def isBlank (character : Char) : Bool :=
  (9 ≤ character.toNat && character.toNat ≤ 13) || character = ' '

/-- Where the runtime's reader stands: before a line, in a comment, in a key, in a value, or behind a
backslash, which may have been followed by a carriage return. -/
inductive Mode
  | lineStart
  | comment
  | key (name : List Char)
  | value (name text : List Char)
  | escaped (name text : List Char)
  | continued (name text : List Char)
  deriving DecidableEq, Repr

/-- The property that is complete when the line ends here. -/
def Mode.finish : Mode → List (List Char × List Char)
  | lineStart | comment => []
  | key name => [(strip isBlank name, [])]
  | value name text | escaped name text | continued name text =>
    [(strip isBlank name, strip isBlank text)]

/-- What the character behind a backslash stands for, unless it continues the line. -/
def unescape : Char → Char
  | 't' => '\t'
  | 'r' => '\r'
  | 'n' => '\n'
  | 'f' => Char.ofNat 12
  | character => character

/-- One character of a value; a line feed, a carriage return or a NUL ends it. -/
def Mode.addToValue (name text : List Char) (character : Char) :
    Mode × List (List Char × List Char) :=
  if character = '\\' then (escaped name text, [])
  else if character = '\n' ∨ character = '\r' ∨ character.toNat = 0 then
    (lineStart, (value name text).finish)
  else (value name (text ++ [character]), [])

/-- One character of the runtime's reader. -/
def Mode.step : Mode → Char → Mode × List (List Char × List Char)
  | lineStart, character =>
    if isBlank character then (lineStart, [])
    -- `!` begins a comment too, and `:` separates a value.
    else if character = '#' ∨ character = '!' then (comment, [])
    else if character = '=' ∨ character = ':' then (value [] [], [])
    else (key [character], [])
  | comment, character =>
    if character = '\n' ∨ character = '\r' then (lineStart, []) else (comment, [])
  | key name, character =>
    if character = '=' ∨ character = ':' then (value name [], [])
    else if character = '\n' ∨ character = '\r' then (lineStart, (key name).finish)
    else (key (name ++ [character]), [])
  | value name text, character => addToValue name text character
  | escaped name text, character =>
    if character = '\r' then (continued name text, [])
    else if character = '\n' then (value name text, [])
    -- The file has ended behind the backslash.
    else if character.toNat = 0 then (lineStart, (value name text).finish)
    else (value name (text ++ [unescape character]), [])
  | continued name text, character =>
    if character = '\n' then (value name text, []) else addToValue name text character

/-- The properties that the runtime's reader finds in the rest of a file. -/
def readFrom (mode : Mode) : List Char → List (List Char × List Char)
  | [] => mode.finish
  | character :: rest => (mode.step character).2 ++ readFrom (mode.step character).1 rest

def runtimeProperties (text : List Char) : Properties :=
  .collect (readFrom .lineStart text)

section Validation

/-- The number of digits that `int` accepts. -/
def maxDigits : Nat := 4300

/-- `int` of a text, which may raise. -/
def intOf (text : List Char) : Option Int :=
  let text := stripText text
  let (negative, digits) := match text with
    | '-' :: rest => (true, rest)
    | '+' :: rest => (false, rest)
    | _ => (false, text)
  -- Single underscores may stand between digits.
  let parts := digits.splitOn '_'
  if parts.all (fun part => part ≠ [] && part.all isDigit) && parts.flatten.length ≤ maxDigits then
    some (if negative then -(digitsValue parts.flatten : Int) else digitsValue parts.flatten)
  else none

-- The mapping to lower case, of which nothing is assumed.
variable (lower : List Char → List Char)

def profile (values : Properties) : List Char :=
  lower (values.get "security.profile" "development")

def inProduction (values : Properties) : Bool :=
  profile lower values = "production".toList

def auth (values : Properties) : List Char :=
  values.get "osp.web.authServiceName" ""

/-- A number that defaults to zero, also where it cannot be read. -/
def number (values : Properties) (key : String) : Int :=
  (intOf (values.get key "0")).getD 0

def securePort (values : Properties) : Int :=
  number values "osp.web.server.securePort"

/-- A switch that is off unless it is set to true. -/
def enabled (values : Properties) (key : String) : Bool :=
  lower (values.get key "false") = "true".toList

def loopback (values : Properties) : Bool :=
  ["127.0.0.1".toList, "::1".toList, "localhost".toList].contains
    (lower (values.get "osp.web.server.host" ""))

def hasLegacySource (values : Properties) : Bool :=
  values.get "pdr.management.authentication.tokenEnvironment" "" ≠ [] ||
    values.get "pdr.management.authentication.tokenFile" "" ≠ []

/-- A transport of a family of devices that is set to loopback. -/
def isLoopbackTransport (lead : String) (entry : List Char × List Char) : Bool :=
  lead.toList.isPrefixOf entry.1 && "transport".toList.isSuffixOf entry.1 &&
    lower entry.2 = "loopback".toList

/-- A key that names a secret and no place where one is kept. -/
def namesSecret (key : List Char) : Bool :=
  let lowered := lower key
  ["password", "secret", "token"].any (fun token => token.toList <:+: lowered) &&
    (["file", "path", "environment"].all fun ending => !ending.toList.isSuffixOf lowered)

def flag (condition : Bool) (message : String) : List String :=
  if condition then [message] else []

def unknownProfile (values : Properties) : Bool :=
  profile lower values ≠ "development".toList && !inProduction lower values

def exposedDevelopment (values : Properties) : Bool :=
  profile lower values = "development".toList && !loopback lower values &&
    (auth values = [] || securePort values ≤ 0)

def usesLoopback (values : Properties) (lead : String) : Bool :=
  values.entries.any (isLoopbackTransport lower lead)

def productionErrors (values : Properties) : List String :=
  flag (securePort values ≤ 0) "production requires osp.web.server.securePort" ++
  flag (auth values = []) "production requires osp.web.authServiceName" ++
  flag (enabled lower values "auth.simple.enable") "production prohibits legacy SimpleAuth" ++
  flag (!enabled lower values "pdr.management.authentication.required")
    "production requires management authentication" ++
  flag (number values "pdr.management.authentication.principals.count" ≤ 0 &&
    !hasLegacySource values) "production requires a management identity source" ++
  flag (!enabled lower values "pdr.management.idempotency.requireRequestId")
    "production requires management request IDs" ++
  flag (usesLoopback lower values "pdr.serial.") "production prohibits serial loopback transport" ++
  flag (usesLoopback lower values "pdr.can.") "production prohibits CAN loopback transport" ++
  flag (usesLoopback lower values "pdr.gnss.") "production prohibits GNSS loopback transport" ++
  flag (usesLoopback lower values "pdr.xbee.") "production prohibits XBee loopback transport"

/-- `validate` -/
def validate (values : Properties) : List String :=
  (if unknownProfile lower values then ["security.profile must be development or production"]
    else if exposedDevelopment lower values then
      ["external development binding requires authentication and TLS"]
    else if inProduction lower values then productionErrors lower values
    else []) ++
  (values.entries.filter fun entry => entry.2 ≠ [] && namesSecret lower entry.1).map fun entry =>
    "inline secret is prohibited: " ++ String.ofList entry.1

/-- The gate passes a file, with exit code 0. -/
def accepts (text : List Char) : Bool :=
  (validate lower (properties text)).isEmpty

end Validation

section Rules

variable {values : Properties}

/-- A rule with the keys that it depends on. -/
structure Rule where
  looksAt : List Char → Bool
  broken : Properties → Bool
  depends : ∀ first second : Properties,
    (∀ key, looksAt key = true → first.find key = second.find key) → broken first = broken second

variable {first second : Properties} (lower : List Char → List Char)

theorem get_congr {key : String} (same : first.find key.toList = second.find key.toList)
    (default : String) : first.get key default = second.get key default := by
  rw [Properties.get, Properties.get, same]

/-- A rule about some named keys. -/
def Rule.named (names : List String) (broken : Properties → Bool)
    (depends : ∀ first second : Properties, (∀ name ∈ names, ∀ default,
      first.get name default = second.get name default) → broken first = broken second) : Rule where
  looksAt key := names.any fun name => name.toList = key
  broken
  depends first second agree := depends first second fun name listed default =>
    get_congr (agree _ (List.any_eq_true.mpr ⟨name, listed, by simp⟩)) default

/-- Whether some entry meets a condition depends on the keys that can meet it. -/
theorem any_congr {looksAt : List Char → Bool} {condition : List Char × List Char → Bool}
    (narrow : ∀ entry, condition entry = true → looksAt entry.1 = true)
    (agree : ∀ key, looksAt key = true → first.find key = second.find key) :
    first.entries.any condition = second.entries.any condition := by
  -- By symmetry it is enough to carry an entry from one map to the other.
  have carried : ∀ one two : Properties, (∀ key, looksAt key = true → one.find key = two.find key) →
      one.entries.any condition = true → two.entries.any condition = true := by
    intro one two agree met
    obtain ⟨entry, listed, holds⟩ := List.any_eq_true.mp met
    refine List.any_eq_true.mpr ⟨entry, ?_, holds⟩
    -- The entry is what its key finds, in the one map and in the other.
    have found : one.find entry.1 = some entry.2 := (valueAt_eq_some_iff one.distinct).mpr listed
    rw [agree _ (narrow entry holds)] at found
    exact (valueAt_eq_some_iff two.distinct).mp found
  rw [Bool.eq_iff_iff]
  exact ⟨carried first second agree, carried second first fun key looks => (agree key looks).symm⟩

/-- What production demands of some named keys. -/
def productionRule (names : List String) (broken : Properties → Bool)
    (depends : ∀ first second : Properties, (∀ name ∈ names, ∀ default,
      first.get name default = second.get name default) → broken first = broken second) : Rule :=
  .named ("security.profile" :: names)
    (fun values => inProduction lower values && broken values) (by
      intro first second agree
      have same := agree "security.profile" List.mem_cons_self "development"
      have others := depends first second fun name listed => agree name (List.mem_cons_of_mem _ listed)
      rw [inProduction, inProduction, profile, profile, same, others])

/-- Production prohibits a loopback transport of a family of devices. -/
def transportRule (lead : String) : Rule where
  looksAt key := "security.profile".toList = key ||
    (lead.toList.isPrefixOf key && "transport".toList.isSuffixOf key)
  broken values := inProduction lower values && usesLoopback lower values lead
  depends first second agree := by
    have here := agree "security.profile".toList (Bool.or_eq_true_iff.mpr (.inl (decide_eq_true rfl)))
    have transports : usesLoopback lower first lead = usesLoopback lower second lead := by
      refine any_congr (fun entry holds => ?_) agree
      exact Bool.or_eq_true_iff.mpr (.inr (Bool.and_eq_true_iff.mp holds).1)
    rw [inProduction, inProduction, profile, profile, get_congr here, transports]

def secretRule : Rule where
  looksAt key := namesSecret lower key
  broken values := values.entries.any fun entry => entry.2 ≠ [] && namesSecret lower entry.1
  depends _ _ agree := any_congr (fun _ holds => (Bool.and_eq_true_iff.mp holds).2) agree

theorem exposedDevelopment_congr (agree : ∀ name ∈ ["security.profile", "osp.web.server.host",
    "osp.web.authServiceName", "osp.web.server.securePort"], ∀ default,
      first.get name default = second.get name default) :
    exposedDevelopment lower first = exposedDevelopment lower second := by
  unfold exposedDevelopment profile loopback auth securePort number
  rw [agree "security.profile" (.head _), agree "osp.web.server.host" (.tail _ (.head _)),
    agree "osp.web.authServiceName" (.tail _ (.tail _ (.head _))),
    agree "osp.web.server.securePort" (.tail _ (.tail _ (.tail _ (.head _))))]

/-- Whether a management identity has a source. -/
def lacksIdentity (values : Properties) : Bool :=
  number values "pdr.management.authentication.principals.count" ≤ 0 && !hasLegacySource values

theorem lacksIdentity_congr (agree : ∀ name ∈ ["pdr.management.authentication.principals.count",
    "pdr.management.authentication.tokenEnvironment", "pdr.management.authentication.tokenFile"],
      ∀ default, first.get name default = second.get name default) :
    lacksIdentity first = lacksIdentity second := by
  unfold lacksIdentity hasLegacySource number
  rw [agree "pdr.management.authentication.principals.count" (.head _),
    agree "pdr.management.authentication.tokenEnvironment" (.tail _ (.head _)),
    agree "pdr.management.authentication.tokenFile" (.tail _ (.tail _ (.head _)))]

/-- Production demands that a switch is on, or off. -/
def switchRule (key : String) (wanted : Bool) : Rule :=
  productionRule lower [key] (fun values => enabled lower values key != wanted) (by
    intro first second agree
    rw [enabled, enabled, agree key (.head _)])

/-- The rules of the gate. -/
def rules : List Rule :=
  [.named ["security.profile"] (unknownProfile lower) (by
      intro first second agree
      rw [unknownProfile, unknownProfile, inProduction, inProduction, profile, profile,
        agree "security.profile" (.head _)]),
    .named ["security.profile", "osp.web.server.host", "osp.web.authServiceName",
        "osp.web.server.securePort"] (exposedDevelopment lower)
      (fun _ _ agree => exposedDevelopment_congr lower agree),
    productionRule lower ["osp.web.server.securePort"] (fun values => securePort values ≤ 0) (by
      intro first second agree
      rw [securePort, securePort, number, number, agree "osp.web.server.securePort" (.head _)]),
    productionRule lower ["osp.web.authServiceName"] (fun values => auth values = []) (by
      intro first second agree
      rw [auth, auth, agree "osp.web.authServiceName" (.head _)]),
    switchRule lower "auth.simple.enable" false,
    switchRule lower "pdr.management.authentication.required" true,
    productionRule lower ["pdr.management.authentication.principals.count",
        "pdr.management.authentication.tokenEnvironment",
        "pdr.management.authentication.tokenFile"] lacksIdentity
      (fun _ _ agree => lacksIdentity_congr agree),
    switchRule lower "pdr.management.idempotency.requireRequestId" true,
    transportRule lower "pdr.serial.", transportRule lower "pdr.can.",
    transportRule lower "pdr.gnss.", transportRule lower "pdr.xbee.", secretRule lower]

theorem flag_eq_nil {condition : Bool} {message : String} :
    flag condition message = [] ↔ condition = false := by
  unfold flag
  cases condition <;> simp

theorem productionErrors_eq_nil : productionErrors lower values = [] ↔
      decide (securePort values ≤ 0) = false ∧ decide (auth values = []) = false ∧
      enabled lower values "auth.simple.enable" = false ∧
      (!enabled lower values "pdr.management.authentication.required") = false ∧
      lacksIdentity values = false ∧
      (!enabled lower values "pdr.management.idempotency.requireRequestId") = false ∧
      usesLoopback lower values "pdr.serial." = false ∧
      usesLoopback lower values "pdr.can." = false ∧
      usesLoopback lower values "pdr.gnss." = false ∧
      usesLoopback lower values "pdr.xbee." = false := by
  unfold productionErrors lacksIdentity
  simp only [List.append_eq_nil_iff, flag_eq_nil, and_assoc]

theorem profileErrors_eq_nil :
    (if unknownProfile lower values then ["security.profile must be development or production"]
      else if exposedDevelopment lower values then
        ["external development binding requires authentication and TLS"]
      else if inProduction lower values then productionErrors lower values
      else []) = [] ↔
    unknownProfile lower values = false ∧ exposedDevelopment lower values = false ∧
      (inProduction lower values = true → productionErrors lower values = []) := by
  cases unknownProfile lower values <;> cases exposedDevelopment lower values <;>
    cases inProduction lower values <;> simp

theorem validate_eq_nil :
    validate lower values = [] ↔ ∀ rule ∈ rules lower, rule.broken values = false := by
  -- The last list is a rule of its own; the others are those of the profile.
  have secrets : ((values.entries.filter fun entry => entry.2 ≠ [] && namesSecret lower entry.1).map
      fun entry => "inline secret is prohibited: " ++ String.ofList entry.1) = [] ↔
        (secretRule lower).broken values = false := by
    rw [List.map_eq_nil_iff, List.filter_eq_nil_iff]
    exact List.any_eq_false.symm
  have all : (∀ rule ∈ rules lower, rule.broken values = false) ↔
      unknownProfile lower values = false ∧ exposedDevelopment lower values = false ∧
      (inProduction lower values && decide (securePort values ≤ 0)) = false ∧
      (inProduction lower values && decide (auth values = [])) = false ∧
      (inProduction lower values && (enabled lower values "auth.simple.enable" != false)) = false ∧
      (inProduction lower values &&
        (enabled lower values "pdr.management.authentication.required" != true)) = false ∧
      (inProduction lower values && lacksIdentity values) = false ∧
      (inProduction lower values &&
        (enabled lower values "pdr.management.idempotency.requireRequestId" != true)) = false ∧
      (inProduction lower values && usesLoopback lower values "pdr.serial.") = false ∧
      (inProduction lower values && usesLoopback lower values "pdr.can.") = false ∧
      (inProduction lower values && usesLoopback lower values "pdr.gnss.") = false ∧
      (inProduction lower values && usesLoopback lower values "pdr.xbee.") = false ∧
      (secretRule lower).broken values = false := by
    unfold rules
    simp only [List.forall_mem_cons, List.not_mem_nil, false_imp_iff, implies_true, and_true]
    exact Iff.rfl
  rw [validate, List.append_eq_nil_iff, secrets, profileErrors_eq_nil, productionErrors_eq_nil, all]
  cases inProduction lower values
  · simp only [Bool.false_and, Bool.false_eq_true, false_imp_iff, true_and, and_true, and_assoc]
  · simp only [Bool.true_and, true_imp_iff, Bool.bne_false, Bool.bne_true, and_assoc]

end Rules

end PocoDDS.Tools.SecurityGate
