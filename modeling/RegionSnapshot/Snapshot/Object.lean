/-
Typed objects as JSON.  An object is written as its field map with the name of
its type as member `@type`; it is read back by looking that name up in a
registry, after both metadata members are taken out.
-/
import RegionSnapshot.Snapshot.ConversionError

namespace RegionSnapshot

namespace TypedObject

variable {α : Type}

/-- The JSON object of a typed object, with the name of its type. -/
def render (object : TypedObject α) : Except ConversionError Json :=
  match object.toJson with
  | .error reason => .error (.failed object.typeName "JSON" (.text reason))
  | .ok json =>
      .ok (.obj (Entries.insert typeMember (.str object.typeName)
        (objectFields json)))

end TypedObject

/-- A type name as it stands in a member `@type`. -/
def typeNameOf? (members : List (String × Json)) : Option String :=
  match Entries.get? typeMember members with
  | some (.str name) => if Text.isBlank name then none else some name
  | _ => none

/-- The members of an object without its metadata. -/
def payloadMembers (members : List (String × Json)) : List (String × Json) :=
  Entries.erase identifierMember (Entries.erase typeMember members)

namespace Registry

variable {α : Type}

/-- The typed object that a JSON object with type metadata is. -/
def readObject (registry : Registry α) : Json →
    Except ConversionError (TypedObject α)
  | .obj members =>
      match typeNameOf? members with
      | none => .error .missingType
      | some name =>
          match registry.find? name with
          | none => .error (.unknownType name)
          | some type =>
              match type.materialize (.obj (payloadMembers members)) with
              | .ok object => .ok object
              | .error e => .error (.failed "JSON" name (.data e))
  | json => .error (.unexpectedShape json.shape)

/-- The typed object that a text writes. -/
def parseObject (registry : Registry α) (text : String) :
    Except ConversionError (TypedObject α) := do
  registry.readObject (← Json.parseFor "Object" text)

end Registry

/-- A node of a tree: JSON, or an object that is bound already. -/
inductive Node (α : Type)
  | json (value : Json)
  | bound (object : TypedObject α)

namespace Registry

variable {α : Type}

/-- The typed object at a node. -/
def objectAt (registry : Registry α) : Node α →
    Except ConversionError (TypedObject α)
  | .json value => registry.readObject value
  | .bound object => .ok object

end Registry
end RegionSnapshot
