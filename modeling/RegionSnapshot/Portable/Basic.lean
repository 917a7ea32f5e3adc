/-
Portable instances.  An instance is what is known of a value without its type:
a class name, an identifier and named fields.  It may carry the typed object
that it was taken from, which equality passes over.  An instance without a
class of its own has the reserved name `__GRID_JSON`.
-/
import RegionSnapshot.Key
import RegionSnapshot.Text.Blank
import RegionSnapshot.Typed.Registry

namespace RegionSnapshot

mutual

/-- The value of a field.  A `json` field keeps a tree that the other kinds do
not hold. -/
inductive Field (α : Type)
  | null
  | bool (value : Bool)
  | int (value : Int64)
  | float (value : Binary64)
  | text (value : String)
  | array (items : List (Field α))
  | nested (value : Portable α)
  | json (value : Json)

/-- A value without its type; the fields stand in the order of their
names. -/
inductive Portable (α : Type)
  | mk (className : String) (identifier : Option Key)
      (fields : List (String × Field α)) (object : Option (TypedObject α))

end

/-- The class name of an instance that has no class. -/
def noClassName : String := "__GRID_JSON"

/-- The member of a JSON object that names its type. -/
def typeMember : String := "@type"

/-- The member of a JSON object that holds its key. -/
def identifierMember : String := "@identifier"

/-- The field that makes a key where there is no identifier. -/
def idField : String := "id"

namespace Portable

variable {α : Type}

def className : Portable α → String
  | .mk className _ _ _ => className

def identifier : Portable α → Option Key
  | .mk _ identifier _ _ => identifier

def fields : Portable α → List (String × Field α)
  | .mk _ _ fields _ => fields

def object : Portable α → Option (TypedObject α)
  | .mk _ _ _ object => object

/-- An instance without class, key and fields. -/
def generic : Portable α :=
  .mk noClassName none [] none

/-- The name is not blank and not reserved for instances without class. -/
def namesClass (className : String) : Bool :=
  !Text.isBlank className && className != noClassName

/-- The instance names a class of its own. -/
def hasClass (p : Portable α) : Bool :=
  namesClass p.className

def field? (p : Portable α) (name : String) : Option (Field α) :=
  Entries.get? name p.fields

def hasField (p : Portable α) (name : String) : Bool :=
  Entries.has name p.fields

def fieldNames (p : Portable α) : List String :=
  p.fields.map Prod.fst

def withClass (p : Portable α) (className : String) : Portable α :=
  .mk className p.identifier p.fields p.object

def setIdentifier (p : Portable α) (key : Key) : Portable α :=
  .mk p.className (some key) p.fields p.object

def setField (p : Portable α) (name : String) (value : Field α) : Portable α :=
  .mk p.className p.identifier (Entries.insert name value p.fields) p.object

/-- The key of an instance: its identifier, else an integer or text in the
field `id`. -/
def key? (p : Portable α) : Option Key :=
  match p.identifier with
  | some key => some key
  | none =>
      match p.field? idField with
      | some (.int n) => some (.int n)
      | some (.text s) => some (.str s)
      | _ => none

end Portable

namespace Field

variable {α : Type}

mutual

/-- Equality of fields, with numbers compared as numbers. -/
def same : Field α → Field α → Bool
  | .null, .null => true
  | .bool a, .bool b => a == b
  | .int m, .int n => m == n
  | .float x, .float y => x.same y
  | .text s, .text t => s == t
  | .array xs, .array ys => sameItems xs ys
  | .nested p, .nested q => sameInstances p q
  | .json a, .json b => a.same b
  | _, _ => false

/-- Equality of items, place by place. -/
def sameItems : List (Field α) → List (Field α) → Bool
  | [], [] => true
  | x :: xs, y :: ys => same x y && sameItems xs ys
  | _, _ => false

/-- Equality of fields, name by name. -/
def sameFields : List (String × Field α) → List (String × Field α) → Bool
  | [], [] => true
  | (a, x) :: xs, (b, y) :: ys => a == b && same x y && sameFields xs ys
  | _, _ => false

/-- Equality of class name, identifier and fields; a carried object does not
count. -/
def sameInstances : Portable α → Portable α → Bool
  | .mk a i xs _, .mk b j ys _ => a == b && i == j && sameFields xs ys

end

end Field

namespace Portable

variable {α : Type}

/-- Equality of class name, identifier and fields. -/
def same (p q : Portable α) : Bool :=
  Field.sameInstances p q

end Portable
end RegionSnapshot
