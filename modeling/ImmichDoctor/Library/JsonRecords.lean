import ImmichDoctor.Library.JsonStrings
import ImmichDoctor.Library.JsonValue
/-!
# Records in JSON

Records that are written as objects and read back field by field.
-/

namespace ImmichDoctor.Library.JsonValue

/-! ## Writing -/

/-- A text, or null. -/
def ofText? (text : Option PyStr) : JsonValue :=
  text.elim .null .str

/-- A number, or null. -/
def ofInt? (value : Option Int) : JsonValue :=
  value.elim .null .int

/-! ## Reading -/

/-- `payload[key]`. -/
def field? (payload : JsonValue) (key : PyStr) : Option JsonValue :=
  match payload with
  | .obj fields => (fields.find? fun field => field.1 = key).map (·.2)
  | _ => none

mutual

/-- `json.loads(json.dumps(value))`. -/
def reread : JsonValue → JsonValue
  | null => null
  | bool value => bool value
  | int value => int value
  | str text => str (Json.reread text)
  | list items => list (rereadItems items)
  | obj fields => obj (rereadFields fields)

def rereadItems : List JsonValue → List JsonValue
  | [] => []
  | item :: items => item.reread :: rereadItems items

def rereadFields : List (PyStr × JsonValue) → List (PyStr × JsonValue)
  | [] => []
  | (key, value) :: fields => (Json.reread key, value.reread) :: rereadFields fields

end

/-- `isinstance(payload, dict)`. -/
def isObject : JsonValue → Bool
  | .obj _ => true
  | _ => false

/-- The string that is read where a text was written. -/
def toStr? : JsonValue → Option JsonStr
  | .str text => some (.read text)
  | _ => none

def toOptionalStr? : JsonValue → Option (Option JsonStr)
  | .null => some none
  | .str text => some (some (.read text))
  | _ => none

def toOptionalInt? : JsonValue → Option (Option Int)
  | .null => some none
  | .int value => some (some value)
  | _ => none

@[simp] theorem toStr?_str (text : PyStr) : toStr? (.str text) = some (.read text) := rfl

@[simp] theorem toOptionalStr?_ofText? (text : Option PyStr) :
    toOptionalStr? (ofText? text) = some (text.map .read) := by
  cases text <;> rfl

@[simp] theorem toOptionalInt?_ofInt? (value : Option Int) :
    toOptionalInt? (ofInt? value) = some value := by
  cases value <;> rfl

/-- `{**payload, key: value}` for a key that the payload has. -/
def withField (payload : JsonValue) (key : PyStr) (value : JsonValue) : JsonValue :=
  match payload with
  | .obj fields => .obj (fields.map fun field => if field.1 = key then (key, value) else field)
  | _ => payload

theorem rereadItems_eq_map (items : List JsonValue) : rereadItems items = items.map reread := by
  induction items with
  | nil => rfl
  | cons item items ih => rw [rereadItems, ih, List.map_cons]

end ImmichDoctor.Library.JsonValue

namespace ImmichDoctor.Library

theorem JsonStr.read_texts (text : Option JsonStr) :
    (text.map JsonStr.text).map JsonStr.read = text := by
  cases text with
  | none => rfl
  | some text => rw [Option.map_some, Option.map_some, JsonStr.read_text]

end ImmichDoctor.Library
