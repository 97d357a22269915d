import Mathlib.Tactic

/-!
JSON documents and the library that reads and writes them.

The library is a parameter: only its interface is fixed here, and what a proof needs of it is
stated as a hypothesis about the documents concerned.
-/

namespace JsonModel

/--
A JSON value; the members of an object are looked up by key.

A number written with a fraction or an exponent keeps its value and its literal.
-/
inductive Json
  | null
  | bool (value : Bool)
  | num (value : Int)
  | real (value : ℚ) (literal : String)
  | str (value : String)
  | arr (items : List Json)
  | obj (members : List (String × Json))

/-- The member of an object under a key. -/
def Json.member : Json → String → Option Json
  | .obj members, key => members.lookup key
  | _, _ => none

/-- The items of an array value. -/
def Json.items? : Json → Option (List Json)
  | .arr items => some items
  | _ => none

/-- The members of an object value. -/
def Json.members? : Json → Option (List (String × Json))
  | .obj members => some members
  | _ => none

/-- Whether a value is an object. -/
def Json.isObject : Json → Bool
  | .obj _ => true
  | _ => false

/-- The text format and the value conversions of a JSON library, with a digest beside them. -/
structure JsonLibrary where
  stringify : Json → String
  parse : String → Option Json
  convertString : Json → Option String
  convertInt : Json → Option Int
  convertBool : Json → Option Bool
  sha256 : String → String

/-- A value of a scalar type converts to that type unchanged. -/
structure JsonLibrary.Converts (library : JsonLibrary) : Prop where
  string : ∀ value, library.convertString (.str value) = some value
  int : ∀ value, library.convertInt (.num value) = some value
  bool : ∀ value, library.convertBool (.bool value) = some value

/-- A document that the parser returns as it was written. -/
def JsonLibrary.ReadsBack (library : JsonLibrary) (document : Json) : Prop :=
  library.parse (library.stringify document) = some document

/-- An optional member, with a default for a missing or inconvertible value. -/
def JsonLibrary.optValue {α : Type} (convert : Json → Option α) (object : Json) (key : String)
    (default : α) : α :=
  match object.member key with
  | none => default
  | some .null => default
  | some value => (convert value).getD default

variable {library : JsonLibrary} (converts : library.Converts)
include converts

/-- A string member reads as itself. -/
theorem JsonLibrary.Converts.optString {object : Json} {key value : String}
    (found : object.member key = some (.str value)) (default : String) :
    optValue library.convertString object key default = value := by
  simp [JsonLibrary.optValue, found, converts.string]

/-- An integer member reads as itself. -/
theorem JsonLibrary.Converts.optInt {object : Json} {key : String} {value : Int}
    (found : object.member key = some (.num value)) (default : Int) :
    optValue library.convertInt object key default = value := by
  simp [JsonLibrary.optValue, found, converts.int]

/-- A boolean member reads as itself. -/
theorem JsonLibrary.Converts.optBool {object : Json} {key : String} {value : Bool}
    (found : object.member key = some (.bool value)) (default : Bool) :
    optValue library.convertBool object key default = value := by
  simp [JsonLibrary.optValue, found, converts.bool]

omit converts

/-- An array member, absent when the member is missing or of another type. -/
def Json.getArray (object : Json) (key : String) : Option (List Json) :=
  (object.member key).bind Json.items?

/-- Rendered members joined in the order of their keys. -/
def joinMembers (members : List (String × String)) : String :=
  ",".intercalate ((members.insertionSort fun left right => left.1 ≤ right.1).map
    fun item => "\"" ++ item.1 ++ "\":" ++ item.2)

mutual

/-- The compact text of a value, for strings without characters that need escaping. -/
def Json.render : Json → String
  | .null => "null"
  | .bool value => if value then "true" else "false"
  | .num value => toString value
  | .real _ literal => literal
  | .str value => "\"" ++ value ++ "\""
  | .arr items => "[" ++ ",".intercalate (renderItems items) ++ "]"
  | .obj members => "\x7b" ++ joinMembers (renderMembers members) ++ "\x7d"

/-- The texts of the items of an array. -/
def Json.renderItems : List Json → List String
  | [] => []
  | item :: rest => item.render :: renderItems rest

/-- The keys and texts of the members of an object. -/
def Json.renderMembers : List (String × Json) → List (String × String)
  | [] => []
  | (key, value) :: rest => (key, value.render) :: renderMembers rest

end

/-- SHA-256 of the empty text. -/
def emptyTextDigest : String :=
  "e3b0c44298fc1c149afbf4c8996fb92427ae41e4649b934ca495991b7852b855"

/-- A library that writes compact text and knows the given documents and digests. -/
def tableLibrary (documents : List Json) (digests : List (String × String)) : JsonLibrary where
  stringify := Json.render
  parse := fun text => documents.find? fun document => document.render == text
  convertString := fun value => match value with | .str text => some text | _ => none
  convertInt := fun value => match value with | .num number => some number | _ => none
  convertBool := fun value => match value with | .bool flag => some flag | _ => none
  sha256 := fun text => (digests.lookup text).getD emptyTextDigest

theorem tableLibrary_converts (documents : List Json) (digests : List (String × String)) :
    (tableLibrary documents digests).Converts :=
  ⟨fun _ => rfl, fun _ => rfl, fun _ => rfl⟩

theorem tableLibrary_digests (documents : List Json) (digests : List (String × String))
    (sized : ∀ entry ∈ digests, entry.2.utf8ByteSize = 64) (text : String) :
    ((tableLibrary documents digests).sha256 text).utf8ByteSize = 64 := by
  simp only [tableLibrary]
  cases found : digests.lookup text with
  | none => rfl
  | some digest =>
    obtain ⟨before, after, split, -⟩ := List.lookup_eq_some_iff.mp found
    exact sized (text, digest) (by simp [split])

theorem tableLibrary_readsBack (before after : List Json) (document : Json)
    (digests : List (String × String))
    (distinct : ∀ other ∈ before, (other.render == document.render) = false) :
    (tableLibrary (before ++ document :: after) digests).ReadsBack document := by
  have skipped : before.find? (fun other => other.render == document.render) = none := by
    rw [List.find?_eq_none]
    intro other member
    simpa using distinct other member
  simp [JsonLibrary.ReadsBack, tableLibrary, List.find?_append, skipped]

end JsonModel
