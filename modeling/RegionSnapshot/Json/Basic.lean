/-
JSON values.  A number is a 64-bit integer, signed or beyond the signed range,
or a finite double.  The members of an object stand in the order of their
names and no name occurs twice; `Json.Ordered` states this for a whole value.
-/
import RegionSnapshot.Decimal.Numeral
import RegionSnapshot.Entries

namespace RegionSnapshot

/-- A JSON number: an integer of the signed 64-bit range, one beyond it that is
below `2 ^ 64`, or a finite double. -/
inductive Number
  | int (value : Int64)
  | wide (value : UInt64) (beyond : 9223372036854775808 ≤ value.toNat)
  | float (value : Binary64) (finite : value.isFinite = true)
  deriving DecidableEq, Repr

namespace Number

/-- The number of an integer, if 64 bits hold it. -/
def ofInt? (n : Int) : Option Number :=
  if Int64.minValue.toInt ≤ n ∧ n ≤ Int64.maxValue.toInt then
    some (.int (.ofInt n))
  else if h : 9223372036854775808 ≤ (UInt64.ofNat n.toNat).toNat ∧
      0 ≤ n ∧ n < UInt64.size then
    some (.wide (.ofNat n.toNat) h.1)
  else none

/-- The number of a double, if it is one. -/
def ofFloat? (x : Binary64) : Option Number :=
  if h : x.isFinite = true then some (.float x h) else none

/-- The integer, where the number is written without point and exponent. -/
def toInt? : Number → Option Int
  | .int n => some n.toInt
  | .wide n _ => some n.toNat
  | .float _ _ => none

/-- The signed 64-bit integer, where the number is one. -/
def toInt64? : Number → Option Int64
  | .int n => some n
  | .wide _ _ => none
  | .float _ _ => none

/-- The text of a number. -/
def text : Number → String
  | .int n => toString n.toInt
  | .wide n _ => toString n.toNat
  | .float x _ => x.text

/-- Equality of numbers; an integer equals no double. -/
def same : Number → Number → Bool
  | .int m, .int n => m == n
  | .wide m _, .wide n _ => m == n
  | .float x _, .float y _ => x.same y
  | _, _ => false

end Number

/-- A JSON value. -/
inductive Json
  | null
  | bool (value : Bool)
  | num (value : Number)
  | str (value : String)
  | arr (items : List Json)
  | obj (members : List (String × Json))
  deriving Repr, Inhabited

namespace Json

/-- The kind of a value, in one word. -/
def shape : Json → String
  | .null => "null"
  | .bool _ => "boolean"
  | .num _ => "number"
  | .str _ => "string"
  | .arr _ => "array"
  | .obj _ => "object"

def isObject : Json → Bool
  | .obj _ => true
  | _ => false

def isArray : Json → Bool
  | .arr _ => true
  | _ => false

/-- The text, where the value is one. -/
def text? : Json → Option String
  | .str s => some s
  | _ => none

/-- The number of a double, and null where JSON has no number for it. -/
def ofFloat (x : Binary64) : Json :=
  match Number.ofFloat? x with
  | some n => .num n
  | none => .null

def ofInt64 (n : Int64) : Json :=
  .num (.int n)

def ofNat (n : Nat) : Json :=
  match Number.ofInt? n with
  | some n => .num n
  | none => .null

mutual

/-- Equality of values, with numbers compared as numbers. -/
def same : Json → Json → Bool
  | .null, .null => true
  | .bool a, .bool b => a == b
  | .num m, .num n => m.same n
  | .str s, .str t => s == t
  | .arr xs, .arr ys => sameItems xs ys
  | .obj ms, .obj ns => sameMembers ms ns
  | _, _ => false

/-- Equality of items, place by place. -/
def sameItems : List Json → List Json → Bool
  | [], [] => true
  | x :: xs, y :: ys => same x y && sameItems xs ys
  | _, _ => false

/-- Equality of members, name by name. -/
def sameMembers : List (String × Json) → List (String × Json) → Bool
  | [], [] => true
  | (a, x) :: ms, (b, y) :: ns => a == b && same x y && sameMembers ms ns
  | _, _ => false

end

/-- The member called `name`, where the value is an object. -/
def get? (name : String) : Json → Option Json
  | .obj members => Entries.get? name members
  | _ => none

mutual

/-- Every object in the value has its members in order. -/
def Ordered : Json → Prop
  | .arr items => OrderedItems items
  | .obj members => Entries.Sorted members ∧ OrderedMembers members
  | _ => True

def OrderedItems : List Json → Prop
  | [] => True
  | item :: rest => item.Ordered ∧ OrderedItems rest

def OrderedMembers : List (String × Json) → Prop
  | [] => True
  | (_, value) :: rest => value.Ordered ∧ OrderedMembers rest

end

end Json
end RegionSnapshot
