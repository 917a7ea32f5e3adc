/-
Elements of a snapshot as portable instances.  An element is read by stages: a
natively portable tree is taken as it is, and a tree that is not falls back to
the typed object that its metadata name.  A stage that cannot hold a tree hands
it on; any other failure ends the reading.
-/
import RegionSnapshot.Portable.Decorate
import RegionSnapshot.Snapshot.Object

namespace RegionSnapshot

/-- A way to read an element. -/
inductive Stage
  | native
  | object
  deriving DecidableEq, Repr

namespace Stage

/-- The stage takes elements of this kind. -/
def accepts : Stage → Json → Bool
  | .native, json => json.isObject
  | .object, json => ((json.get? typeMember).bind Json.text?).isSome

/-- The key in the metadata of an element, if there is any. -/
def elementKey (json : Json) : Except ConversionError (Option Key) :=
  match json.get? identifierMember with
  | none => .ok none
  | some value =>
      match Key.ofJson? value with
      | some key => .ok (some key)
      | none =>
          .error (.failed "JSON" "PortableInstance"
            (.text FormatError.invalidIdentifier.message))

variable {α : Type}

/-- The instance of a typed element, with the key in its metadata. -/
def readTyped (registry : Registry α) (json : Json) :
    Except ConversionError (Portable α) := do
  let object ← registry.readObject json
  match Portable.ofObject object with
  | .error e =>
      throw (.failed object.typeName "PortableInstance" (.format e))
  | .ok p =>
      match ← elementKey json with
      | none => return p
      | some key => return p.setIdentifier key

/-- The instance that an element is by one stage. -/
def read (registry : Registry α) : Stage → Json →
    Except ConversionError (Portable α)
  | .native, json =>
      match Portable.ofJson json with
      | .ok p => .ok p
      | .error reason => .error (.nativeUnsupported reason)
  | .object, json => readTyped registry json

/-- The stages of a snapshot: native trees first. -/
def standard : List Stage :=
  [.native, .object]

/-- Reads an element by the first stage that can hold it; `last` is the
refusal of the stage before. -/
def readBy (registry : Registry α) (json : Json)
    (last : Option FormatError) : List Stage →
      Except ConversionError (Portable α)
  | [] =>
      match last with
      | some reason => .error (.nativeUnsupported reason)
      | none => .error (.unexpectedShape json.shape)
  | stage :: rest =>
      if stage.accepts json then
        match stage.read registry json with
        | .ok p => .ok p
        | .error (.nativeUnsupported reason) =>
            readBy registry json (some reason) rest
        | .error e => .error e
      else readBy registry json last rest

end Stage

namespace Portable

variable {α : Type}

/-- The instance that an element of a snapshot is. -/
def ofElement (registry : Registry α) (stages : List Stage) (json : Json) :
    Except ConversionError (Portable α) :=
  Stage.readBy registry json none stages

/-- The instances of a snapshot: an array of elements or a single one. -/
def ofElements (registry : Registry α) (stages : List Stage) : Json →
    Except ConversionError (List (Portable α))
  | .arr items => items.mapM (ofElement registry stages)
  | .obj members => do
      return [← ofElement registry stages (.obj members)]
  | json => .error (.unexpectedShape json.shape)

/-- The instance that a text writes. -/
def parseElement (registry : Registry α) (stages : List Stage)
    (text : String) : Except ConversionError (Portable α) := do
  ofElement registry stages (← Json.parseFor "PortableInstance" text)

/-- The instances that a text writes. -/
def parseElements (registry : Registry α) (stages : List Stage)
    (text : String) : Except ConversionError (List (Portable α)) := do
  ofElements registry stages (← Json.parseFor "PortableInstance[]" text)

/-- The typed object of an instance that names no class of its own. -/
def untypedObject? (p : Portable α) : Option (TypedObject α) :=
  if p.hasClass then none else p.object

/-- The JSON object of an instance, with its class names. -/
def render (p : Portable α) : Except ConversionError Json :=
  match p.untypedObject? with
  | some object => object.render
  | none => .ok (p.decorate p.toJson).1

/-- Puts the class names of an instance into a text; a text that has them all
is left as it is. -/
def decorateText (p : Portable α) (text : String) :
    Except ConversionError String := do
  let (decorated, changed) := p.decorate (← Json.parseFor "JSON" text)
  return if changed then decorated.pretty else text

/-- The text of an instance, with its class names. -/
def renderText (p : Portable α) : Except ConversionError String :=
  match p.untypedObject? with
  | some object => object.render.map Json.pretty
  | none => p.decorateText p.toJson.pretty

end Portable
end RegionSnapshot
