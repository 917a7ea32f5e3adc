/-
The values of a region: typed objects, and portable instances of which the
type is not at hand.
-/
import RegionSnapshot.Portable.Basic

namespace RegionSnapshot

/-- The value of a region entry. -/
inductive Value (α : Type)
  | object (value : TypedObject α)
  | portable (value : Portable α)

namespace Value

variable {α : Type}

def typeName : Value α → String
  | .object value => value.typeName
  | .portable value => value.className

def isPortable : Value α → Bool
  | .object _ => false
  | .portable _ => true

/-- The typed object that a value is or carries. -/
def object? : Value α → Option (TypedObject α)
  | .object value => some value
  | .portable value => value.object

end Value
end RegionSnapshot
