/-
Typed objects.  A type has a name, reads its values from JSON and writes them
to JSON; a registry finds types by name.  The fields of an object are the
members of its JSON form; a form that is no object is wrapped as the single
field `value`, and so is an object that looks wrapped already, so that a
wrapped payload is never taken for an object with a field of that name.
-/
import RegionSnapshot.Typed.DataError

namespace RegionSnapshot

/-- The field that holds a payload that is no object. -/
def payloadField : String := "value"

/-- Exactly one member, called `value`. -/
def wrappedPayload? : Json → Option Json
  | .obj [(name, payload)] => if name = payloadField then some payload else none
  | _ => none

/-- The field map of a serialized object. -/
def objectFields (json : Json) : List (String × Json) :=
  match json with
  | .obj members =>
      if (wrappedPayload? (.obj members)).isSome then [(payloadField, json)]
      else members
  | json => [(payloadField, json)]

/-- A field map wraps a whole value, or it is an object that does not look
wrapped. -/
theorem objectFields_cases (json : Json) :
    objectFields json = [(payloadField, json)] ∨
      wrappedPayload? json = none ∧ json = .obj (objectFields json) := by
  cases json with
  | obj members =>
      rw [objectFields]
      split
      · exact .inl rfl
      · rename_i hnot
        exact .inr ⟨by simpa using hnot, rfl⟩
  | _ => exact .inl rfl

/-- A type whose values are kept as `α`. -/
structure ObjectType (α : Type) where
  name : String
  read : Json → Except DataError α
  write : α → Except String Json

/-- A value together with its type. -/
structure TypedObject (α : Type) where
  type : ObjectType α
  value : α

namespace TypedObject

variable {α : Type}

def typeName (object : TypedObject α) : String :=
  object.type.name

/-- The JSON form of an object, or why it has none. -/
def toJson (object : TypedObject α) : Except String Json :=
  object.type.write object.value

end TypedObject

namespace ObjectType

variable {α : Type}

/-- The object that a field map holds: a wrapped payload if the type reads it,
else the map itself. -/
def materialize (type : ObjectType α) (json : Json) :
    Except DataError (TypedObject α) :=
  match (wrappedPayload? json).map type.read with
  | some (.ok value) => .ok ⟨type, value⟩
  | _ => (type.read json).map (⟨type, ·⟩)

end ObjectType

/-- Types by the names under which they are registered. -/
structure Registry (α : Type) where
  types : List (String × ObjectType α)

namespace Registry

variable {α : Type}

def empty : Registry α :=
  ⟨[]⟩

/-- Registers a type under another name than its own. -/
def registerAs (registry : Registry α) (name : String) (type : ObjectType α) :
    Registry α :=
  ⟨Entries.insert name type registry.types⟩

/-- Registers a type under its own name. -/
def register (registry : Registry α) (type : ObjectType α) : Registry α :=
  registry.registerAs type.name type

def find? (registry : Registry α) (name : String) : Option (ObjectType α) :=
  Entries.get? name registry.types

def contains (registry : Registry α) (name : String) : Bool :=
  (registry.find? name).isSome

def size (registry : Registry α) : Nat :=
  registry.types.length

theorem find?_registerAs (registry : Registry α) (name other : String)
    (type : ObjectType α) :
    (registry.registerAs name type).find? other =
      if other = name then some type else registry.find? other :=
  Entries.get?_insert name other type registry.types

end Registry
end RegionSnapshot
