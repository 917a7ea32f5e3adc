/-
Portable instances as JSON.  An object is an instance: `@type` gives its class,
`@identifier` its key and every other member a field.  Not every tree has this
form: numbers must fit a signed integer or a double and arrays must not lie in
arrays.  Writing gives the fields back; of the metadata it writes only the
identifiers of nested instances.
-/
import RegionSnapshot.Json.Printer
import RegionSnapshot.Json.Reader
import RegionSnapshot.Portable.Basic

namespace RegionSnapshot

namespace Json

/-- A mark for the fault of a text; the place of the fault is not kept. -/
def ReadError.message : ReadError → String
  | .ended => "<json:eof>"
  | .malformed => "<json:syntax>"

end Json

/-- Why something is no portable instance. -/
inductive FormatError
  | unreadable (cause : Json.ReadError)
  | unwritable (reason : String)
  | notAnObject (shape : String)
  | invalidType
  | invalidIdentifier
  | numberOutOfRange (text : String)
  | nestedArray
  deriving DecidableEq, Repr

namespace FormatError

def message : FormatError → String
  | .unreadable cause => "invalid JSON: " ++ cause.message
  | .unwritable reason => "invalid JSON: " ++ reason
  | .notAnObject shape => "expected a JSON object but found " ++ shape
  | .invalidType => typeMember ++ " must be a non-blank string"
  | .invalidIdentifier =>
      identifierMember ++ " must be a string or integer"
  | .numberOutOfRange text =>
      "number " ++ text ++ " cannot be stored in a portable field"
  | .nestedArray => "nested arrays are not supported"

/-- The texts of the causes, nearest first. -/
def causes : FormatError → List String
  | .unreadable cause => [cause.message]
  | .unwritable reason => [reason]
  | _ => []

end FormatError

namespace Field

variable {α : Type}

/-- The field of a number. -/
def ofNumber : Number → Except FormatError (Field α)
  | .int n => .ok (.int n)
  | .wide n _ => .error (.numberOutOfRange (toString n.toNat))
  | .float x _ => .ok (.float x)

/-- The class that a member `@type` names. -/
def classOfMember : Json → Except FormatError String
  | .str name => if Text.isBlank name then .error .invalidType else .ok name
  | _ => .error .invalidType

/-- The key that a member `@identifier` makes. -/
def keyOfMember (json : Json) : Except FormatError Key :=
  match Key.ofJson? json with
  | some key => .ok key
  | none => .error .invalidIdentifier

mutual

/-- The field of a JSON value. -/
def ofJson : Json → Except FormatError (Field α)
  | .null => .ok .null
  | .bool value => .ok (.bool value)
  | .num n => ofNumber n
  | .str s => .ok (.text s)
  | .arr items =>
      if items.any Json.isArray then .error .nestedArray
      else (itemsOfJson items).map .array
  | .obj members => (instanceOfMembers members).map .nested

/-- The fields of the items of an array. -/
def itemsOfJson : List Json → Except FormatError (List (Field α))
  | [] => .ok []
  | item :: rest => do
      let field ← ofJson item
      let fields ← itemsOfJson rest
      return field :: fields

/-- The instance that the members of an object make. -/
def instanceOfMembers :
    List (String × Json) → Except FormatError (Portable α)
  | [] => .ok .generic
  | (name, value) :: rest =>
      if name = typeMember then do
        let className ← classOfMember value
        let p ← instanceOfMembers rest
        return p.withClass className
      else if name = identifierMember then do
        let key ← keyOfMember value
        let p ← instanceOfMembers rest
        return p.setIdentifier key
      else do
        let field ← ofJson value
        let p ← instanceOfMembers rest
        return .mk p.className p.identifier ((name, field) :: p.fields)
          p.object

end

mutual

/-- The JSON value of a field. -/
def toJson : Field α → Json
  | .null => .null
  | .bool value => .bool value
  | .int n => .ofInt64 n
  | .float x => .ofFloat x
  | .text s => .str s
  | .array items => .arr (itemsToJson items)
  | .nested p => nestedToJson p
  | .json value => value

def itemsToJson : List (Field α) → List Json
  | [] => []
  | item :: rest => item.toJson :: itemsToJson rest

def fieldsToMembers : List (String × Field α) → List (String × Json)
  | [] => []
  | (name, field) :: rest => (name, field.toJson) :: fieldsToMembers rest

/-- The JSON object of a nested instance, with its identifier. -/
def nestedToJson : Portable α → Json
  | .mk _ identifier fields _ =>
      match identifier with
      | none => .obj (fieldsToMembers fields)
      | some key =>
          .obj (Entries.insert identifierMember key.toJson
            (fieldsToMembers fields))

end

end Field

namespace Portable

variable {α : Type}

/-- The instance that a JSON object is. -/
def ofJson : Json → Except FormatError (Portable α)
  | .obj members => Field.instanceOfMembers members
  | json => .error (.notAnObject json.shape)

/-- The instance that a text writes. -/
def parse (text : String) : Except FormatError (Portable α) :=
  match Json.parse text with
  | .ok json => ofJson json
  | .error e => .error (.unreadable e)

/-- The fields of an instance as a JSON object. -/
def toJson (p : Portable α) : Json :=
  .obj (Field.fieldsToMembers p.fields)

/-- The field that keeps a JSON value, as a tree where it has no better
form. -/
def fieldOfMember (json : Json) : Field α :=
  match Field.ofJson json with
  | .ok field => field
  | .error _ => .json json

/-- The instance of a typed object: its class is the name of the type. -/
def ofObject (object : TypedObject α) : Except FormatError (Portable α) :=
  match object.toJson with
  | .error reason => .error (.unwritable reason)
  | .ok json =>
      .ok (.mk object.typeName none
        ((objectFields json).map
          (fun (name, value) => (name, fieldOfMember value)))
        (some object))

end Portable
end RegionSnapshot
