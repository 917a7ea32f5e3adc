/-
Values described by schemas.  A schema says what JSON a type reads: truth
values, integers of a range, doubles, single-precision numbers, strings, free
JSON, sequences, optional values, and records with named fields.  A record is
read from an object, whose unknown members are passed over, or from an array
of its fields in order.
-/
import RegionSnapshot.Typed.Registry

namespace RegionSnapshot

/-- A value of a type that a schema describes. -/
inductive Datum
  | bool (value : Bool)
  | int (value : Int)
  | float (value : Binary64)
  | text (value : String)
  | json (value : Json)
  | list (items : List Datum)
  | option (value : Option Datum)
  | record (fields : List (String × Datum))
  deriving Repr, Inhabited

/-- What JSON a type reads. -/
inductive Schema
  | bool
  | integer (name : String) (low high : Int)
  | float
  | single
  | text
  | json
  | list (item : Schema)
  | option (item : Schema)
  | record (name : String) (fields : List (String × Schema))
  deriving Repr

namespace Schema

def isOption : Schema → Bool
  | .option _ => true
  | _ => false

/-- A double from a JSON number; integers are rounded. -/
def readFloat (expected : String) (ofInt : Int → Binary64)
    (ofFloat : Binary64 → Binary64) : Json → Except DataError Datum
  | .num (.float x _) => .ok (.float (ofFloat x))
  | .num (.int n) => .ok (.float (ofInt n.toInt))
  | .num (.wide n _) => .ok (.float (ofInt n.toNat))
  | other => .error (.wrongKind other expected)

/-- An integer of a range from a JSON number. -/
def readInteger (name : String) (low high : Int) (given : Json) :
    Except DataError Datum :=
  match given with
  | .num number =>
      match number.toInt? with
      | some n =>
          if low ≤ n ∧ n ≤ high then .ok (.int n)
          else .error (.outOfRange n name)
      | none => .error (.wrongKind given name)
  | _ => .error (.wrongKind given name)

/-- The declared fields in order, each found, left out or missing. -/
def collect (fields : List (String × Schema)) (found : List (String × Datum)) :
    Except DataError (List (String × Datum)) :=
  fields.mapM (fun (name, schema) =>
    match found.lookup name with
    | some datum => .ok (name, datum)
    | none =>
        if schema.isOption then .ok (name, .option none)
        else .error (.missingField name))

mutual

/-- The value that a JSON value is by a schema. -/
def read : Schema → Json → Except DataError Datum
  | .bool, .bool value => .ok (.bool value)
  | .bool, other => .error (.wrongKind other "a boolean")
  | .integer name low high, given => readInteger name low high given
  | .float, given => readFloat "f64" Binary64.ofInt id given
  | .single, given =>
      readFloat "f32" Binary64.singleOfInt Binary64.toSingle given
  | .text, .str value => .ok (.text value)
  | .text, other => .error (.wrongKind other "a string")
  | .json, given => .ok (.json given)
  | .list item, .arr items => (items.mapM (read item)).map .list
  | .list _, other => .error (.wrongKind other "a sequence")
  | .option _, .null => .ok (.option none)
  | .option item, given => (read item given).map (fun d => .option (some d))
  | .record _ fields, .obj members => do
      let found ← members.filterMapM (fun (name, value) =>
        match readMember fields name value with
        | some field => field.map some
        | none => .ok none)
      return .record (← collect fields found)
  | .record name fields, .arr items => do
      let (found, rest) ← readPlaces name fields.length 0 fields items
      if rest = 0 then return .record found
      else throw (.tooLong items.length)
  | .record name _, other => .error (.wrongKind other ("struct " ++ name))

/-- The value of one member of an object, where it is a declared field. -/
def readMember : List (String × Schema) → String → Json →
    Option (Except DataError (String × Datum))
  | [], _, _ => none
  | (field, schema) :: rest, name, value =>
      if field = name then some ((read schema value).map (name, ·))
      else readMember rest name value

/-- The values of fields in order from the items of an array, and how many
items are left over. -/
def readPlaces (recordName : String) (fieldCount : Nat) (place : Nat) :
    List (String × Schema) → List Json →
      Except DataError (List (String × Datum) × Nat)
  | [], items => .ok ([], items.length)
  | _ :: _, [] => .error (.tooShort place recordName fieldCount)
  | (field, schema) :: fields, item :: items => do
      let datum ← read schema item
      let (rest, left) ←
        readPlaces recordName fieldCount (place + 1) fields items
      return ((field, datum) :: rest, left)

end

end Schema

namespace Datum

mutual

/-- The JSON form of a value. -/
def toJson : Datum → Json
  | .bool value => .bool value
  | .int value =>
      match Number.ofInt? value with
      | some n => .num n
      | none => .null
  | .float value => .ofFloat value
  | .text value => .str value
  | .json value => value
  | .list items => .arr (itemsToJson items)
  | .option none => .null
  | .option (some value) => value.toJson
  | .record fields => .obj (Entries.ofList (fieldsToJson fields))

def itemsToJson : List Datum → List Json
  | [] => []
  | item :: rest => item.toJson :: itemsToJson rest

def fieldsToJson : List (String × Datum) → List (String × Json)
  | [] => []
  | (name, value) :: rest => (name, value.toJson) :: fieldsToJson rest

end

end Datum

/-- The type of the values that a schema describes. -/
def ObjectType.ofSchema (name : String) (schema : Schema) : ObjectType Datum :=
  ⟨name, schema.read, fun datum => .ok datum.toJson⟩

namespace Registry

/-- The integer type of some width. -/
def integerType (name : String) (low high : Int) : ObjectType Datum :=
  .ofSchema name (.integer name low high)

/-- The types that every snapshot may hold: truth values, integers, doubles,
strings and free JSON. -/
def standardTypes : List (ObjectType Datum) := [
  .ofSchema "bool" .bool,
  integerType "i8" Int8.minValue.toInt Int8.maxValue.toInt,
  integerType "i16" Int16.minValue.toInt Int16.maxValue.toInt,
  integerType "i32" Int32.minValue.toInt Int32.maxValue.toInt,
  integerType "i64" Int64.minValue.toInt Int64.maxValue.toInt,
  integerType "u8" 0 (UInt8.size - 1),
  integerType "u16" 0 (UInt16.size - 1),
  integerType "u32" 0 (UInt32.size - 1),
  integerType "u64" 0 (UInt64.size - 1),
  .ofSchema "f32" .single,
  .ofSchema "f64" .float,
  .ofSchema "alloc::string::String" .text,
  .ofSchema "serde_json::value::Value" .json]

/-- The registry of the standard types. -/
def standard : Registry Datum :=
  standardTypes.foldl register empty

end Registry
end RegionSnapshot
