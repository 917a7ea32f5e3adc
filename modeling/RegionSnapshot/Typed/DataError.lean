/-
Why a JSON value is no value of some type: its kind is wrong, an integer lies
outside the range, a field is missing, or a sequence has the wrong length.
-/
import RegionSnapshot.Json.Basic
import RegionSnapshot.Text.Quoted

namespace RegionSnapshot

/-- Why a JSON value is no value of a type. -/
inductive DataError
  | wrongKind (found : Json) (expected : String)
  | outOfRange (found : Int) (expected : String)
  | missingField (name : String)
  | tooShort (length : Nat) (recordName : String) (fieldCount : Nat)
  | tooLong (length : Nat)
  | noKey
  deriving Repr

namespace DataError

/-- A name or a number between single backward quotes. -/
def ticked (s : String) : String :=
  let tick := String.singleton (Char.ofNat 96)
  tick ++ s ++ tick

/-- A value as an error message names it. -/
def found : Json → String
  | .null => "null"
  | .bool value => "boolean " ++ ticked (if value then "true" else "false")
  | .num (.float x _) => "floating point " ++ ticked x.text
  | .num n => "integer " ++ ticked n.text
  | .str s => "string " ++ Text.quoted s
  | .arr _ => "sequence"
  | .obj _ => "map"

def message : DataError → String
  | .wrongKind json expected =>
      "invalid type: " ++ found json ++ ", expected " ++ expected
  | .outOfRange n expected =>
      "invalid value: integer " ++ ticked (toString n) ++ ", expected " ++
        expected
  | .missingField name => "missing field " ++ ticked name
  | .tooShort length recordName fieldCount =>
      let noun := if fieldCount = 1 then "element" else "elements"
      s!"invalid length {length}, expected struct {recordName} with " ++
        s!"{fieldCount} {noun}"
  | .tooLong length =>
      s!"invalid length {length}, expected fewer elements in array"
  | .noKey => "data did not match any variant of untagged enum CacheKey"

end DataError

end RegionSnapshot
