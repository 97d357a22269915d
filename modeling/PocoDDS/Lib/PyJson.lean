import PocoDDS.Lib.Json

/-! What Python programs ask of a parsed JSON document. -/

namespace JsonModel

/-- The truth value of a value; a missing one is false. -/
def Json.truthy : Option Json → Bool
  | some (.bool value) => value
  | some (.num value) => value ≠ 0
  | some (.real value _) => value ≠ 0
  | some (.str value) => !value.isEmpty
  | some (.arr items) => !items.isEmpty
  | some (.obj members) => !members.isEmpty
  | some .null | none => false

/-- `value is True`. -/
def Json.isTrue : Option Json → Bool
  | some (.bool value) => value
  | _ => false

/-- `value is False`. -/
def Json.isFalse : Option Json → Bool
  | some (.bool value) => !value
  | _ => false

/-- The value as an integer; booleans are integers. -/
def Json.int? : Option Json → Option Int
  | some (.num value) => some value
  | some (.bool value) => some (if value then 1 else 0)
  | _ => none

/-- The value as a string. -/
def Json.str? : Option Json → Option String
  | some (.str value) => some value
  | _ => none

theorem Json.str?_eq_some {value : Option Json} {text : String} :
    Json.str? value = some text ↔ value = some (.str text) := by
  constructor
  · intro shown
    cases value with
    | none => cases shown
    | some value =>
      cases value <;> cases shown
      rfl
  · rintro rfl
    rfl

/-- Comparison with a string constant. -/
def Json.isText (value : Option Json) (text : String) : Bool :=
  Json.str? value == some text

/-- Comparison with an integer constant; numbers of either kind compare by value. -/
def Json.isInt (value : Option Json) (number : Int) : Bool :=
  match value with
  | some (.real value _) => value == number
  | _ => Json.int? value == some number

/-- The characters that `str.strip` removes. -/
def isSpace (character : Char) : Bool :=
  let code := character.toNat
  (9 ≤ code && code ≤ 13) || (28 ≤ code && code ≤ 32) || code == 0x85 || code == 0xa0 ||
    code == 0x1680 || (0x2000 ≤ code && code ≤ 0x200a) || code == 0x2028 || code == 0x2029 ||
    code == 0x202f || code == 0x205f || code == 0x3000

/-- A string that is not empty after stripping. -/
def Json.filled (value : Option Json) : Bool :=
  match Json.str? value with
  | some text => text.toList.any fun character => !isSpace character
  | none => false

/-- The name of a value's type. -/
def Json.typeName : Json → String
  | .null => "NoneType"
  | .bool _ => "bool"
  | .num _ => "int"
  | .real _ _ => "float"
  | .str _ => "str"
  | .arr _ => "list"
  | .obj _ => "dict"

/-- `value.get(key)`, which only dictionaries have. -/
def Json.get (value : Json) (key : String) : Except String (Option Json) :=
  if value.isObject then .ok (value.member key)
  else .error ("'" ++ value.typeName ++ "' object has no attribute 'get'")

/-- The values that a loop over a member runs through; a missing one defaults to a list. -/
def Json.iterate : Option Json → Except String (List Json)
  | none => .ok []
  | some (.arr items) => .ok items
  -- Texts and dictionaries can be iterated over too: by character and by key.
  | some (.str text) => .ok (text.toList.map fun character => .str (String.singleton character))
  | some (.obj members) => .ok (members.map fun member => .str member.1)
  | some value => .error ("'" ++ value.typeName ++ "' object is not iterable")

mutual

/-- Equality of values: numbers and booleans compare by value, objects without regard to order. -/
def Json.equal : Json → Json → Bool
  | .null, .null => true
  | .bool left, .bool right => left == right
  | .bool left, .num right => (if left then 1 else 0) == right
  | .num left, .bool right => left == (if right then 1 else 0)
  | .num left, .num right => left == right
  | .real left _, .real right _ => left == right
  | .real left _, .num right => left == right
  | .num left, .real right _ => left == right
  | .real left _, .bool right => left == (if right then 1 else 0)
  | .bool left, .real right _ => (if left then 1 else 0) == right
  | .str left, .str right => left == right
  | .arr left, .arr right => Json.equalItems left right
  | .obj left, .obj right => left.length == right.length && Json.includes left right
  | _, _ => false

/-- Equality item by item. -/
def Json.equalItems : List Json → List Json → Bool
  | [], [] => true
  | left :: lefts, right :: rights => Json.equal left right && Json.equalItems lefts rights
  | _, _ => false

/-- Every member is in the other object with an equal value. -/
def Json.includes : List (String × Json) → List (String × Json) → Bool
  | [], _ => true
  | (key, value) :: rest, others =>
    (match others.lookup key with
    | some other => Json.equal value other
    | none => false) && Json.includes rest others

end

/-- Equality of values that may be missing. -/
def Json.same : Option Json → Option Json → Bool
  | some left, some right => Json.equal left right
  -- A missing member reads as `None`, which is what a null is.
  | none, none | none, some .null | some .null, none => true
  | _, _ => false

end JsonModel
