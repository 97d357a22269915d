import Mathlib.Tactic

/-! What business traces keep of the data they are given. -/

namespace PocoDDS.Observability

/-- The bytes of a text. -/
abbrev Bytes := List UInt8

/-- The bytes of a literal. -/
def bytes (text : String) : Bytes := text.toUTF8.toList

/-- Named values, in the order of their names. -/
abbrev Fields := List (Bytes × Bytes)

/-- Limits and redaction rules for recorded data. -/
structure DataPolicy where
  maximumValueLength : Nat := 4096
  maximumFieldCount : Nat := 64
  redactedKeyFragments : List Bytes :=
    ["password", "passwd", "secret", "token", "authorization", "cookie", "privatekey"].map bytes
  redactedValue : Bytes := bytes "[REDACTED]"

/-- A parsed document; the members of an object are listed as it iterates over them. -/
inductive JsonValue
  | null
  | bool (value : Bool)
  | number (digits : Bytes)
  | string (value : Bytes)
  | array (items : List JsonValue)
  | object (members : List (Bytes × JsonValue))

/-- The JSON library: parsing may fail. -/
structure JsonText where
  parse : Bytes → Option JsonValue
  stringify : JsonValue → Bytes

/-- Upper case letters become lower case ones. -/
def lower (text : Bytes) : Bytes :=
  text.map fun byte => if 65 ≤ byte ∧ byte ≤ 90 then byte + 32 else byte

/-- Whether a text occurs in another. -/
def occursIn (fragment text : Bytes) : Bool :=
  text.tails.any (fragment.isPrefixOf ·)

def isSensitiveKey (policy : DataPolicy) (key : Bytes) : Bool :=
  policy.redactedKeyFragments.any fun fragment => occursIn (lower fragment) (lower key)

/-- A text beyond the limit is cut, and marked. -/
def cut (policy : DataPolicy) (text : Bytes) : Bytes :=
  if text.length > policy.maximumValueLength then
    text.take policy.maximumValueLength ++ bytes "...[TRUNCATED]"
  else text

/-- The depth below which nothing is shown. -/
def maximumDepth : Nat := 16

mutual

def sanitizeJsonValue (policy : DataPolicy) (depth : Nat) (source : JsonValue) : JsonValue :=
  if depth > maximumDepth then .string (bytes "[MAX_DEPTH]")
  else match source with
    | .object members =>
      .object (sanitizeMembers policy depth policy.maximumFieldCount members)
    | .array items => .array (sanitizeItems policy depth policy.maximumFieldCount items)
    | .string value => .string (cut policy value)
    -- Numbers, truth values and null are shown as they are.
    | .number digits => .number digits
    | .bool value => .bool value
    | .null => .null

/-- The members of an object, as many as there is room for. -/
def sanitizeMembers (policy : DataPolicy) (depth : Nat) :
    Nat → List (Bytes × JsonValue) → List (Bytes × JsonValue)
  | room + 1, (name, value) :: rest =>
    (name, if isSensitiveKey policy name then .string policy.redactedValue
      else sanitizeJsonValue policy (depth + 1) value) :: sanitizeMembers policy depth room rest
  | 0, _ => []
  | _, [] => []

/-- The items of an array, as many as there is room for. -/
def sanitizeItems (policy : DataPolicy) (depth : Nat) : Nat → List JsonValue → List JsonValue
  | room + 1, value :: rest =>
    sanitizeJsonValue policy (depth + 1) value :: sanitizeItems policy depth room rest
  | 0, _ => []
  | _, [] => []

end

/-- Whether a document is an object or an array. -/
def JsonValue.composite : JsonValue → Bool
  | .object _ | .array _ => true
  | _ => false

/-- A text is taken for a document when its first byte is a brace or a bracket. -/
def looksLikeJson (value : Bytes) : Bool :=
  value.head? == some 0x7b || value.head? == some 0x5b

def sanitizeValue (json : JsonText) (policy : DataPolicy) (value : Bytes) : Bytes :=
  if looksLikeJson value then
    match json.parse value with
    | some document =>
      let sanitized := sanitizeJsonValue policy 0 document
      -- Anything but an object or an array raises, and the text is kept as it is.
      if sanitized.composite then cut policy (json.stringify sanitized) else cut policy value
    | none => cut policy value
  else cut policy value

def sanitize (json : JsonText) (policy : DataPolicy) (source : Fields) : Fields :=
  (source.take policy.maximumFieldCount).map fun item =>
    (item.1, if isSensitiveKey policy item.1 then policy.redactedValue
      else sanitizeValue json policy item.2)

end PocoDDS.Observability
