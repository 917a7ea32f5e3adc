/-
Type names in a rendered tree.  Rendering an instance loses the names of its
classes; decorating puts each one back, as the member `@type` of the object at
the same place, unless a member of that name stands there already.  Besides
the tree it says whether anything was put in.
-/
import RegionSnapshot.Portable.Format

namespace RegionSnapshot
namespace Portable

variable {α : Type}

/-- The class name as a member `@type`, where there is none. -/
def nameMembers (className : String) (members : List (String × Json)) :
    List (String × Json) × Bool :=
  if namesClass className && !Entries.has typeMember members then
    (Entries.insert typeMember (.str className) members, true)
  else (members, false)

mutual

/-- Puts the class names of an instance into the tree beside it. -/
def decorate : Portable α → Json → Json × Bool
  | .mk className _ fields _, .obj members =>
      let (named, isNew) := nameMembers className members
      let (decorated, changed) := decorateFields fields named
      (.obj decorated, isNew || changed)
  | _, json => (json, false)

/-- Puts the class names below a field into the tree beside it. -/
def decorateField : Field α → Json → Json × Bool
  | .nested p, json => decorate p json
  | .array items, .arr values =>
      let (decorated, changed) := decorateItems items values
      (.arr decorated, changed)
  | _, json => (json, false)

/-- Puts the class names below items into the values at the same places. -/
def decorateItems : List (Field α) → List Json → List Json × Bool
  | item :: items, value :: values =>
      let (first, changed) := decorateField item value
      let (rest, more) := decorateItems items values
      (first :: rest, changed || more)
  | _, values => (values, false)

/-- Puts the class names below fields into the members of the same names. -/
def decorateFields : List (String × Field α) → List (String × Json) →
    List (String × Json) × Bool
  | [], members => (members, false)
  | (name, field) :: rest, members =>
      match Entries.get? name members with
      | none => decorateFields rest members
      | some value =>
          let (decorated, changed) := decorateField field value
          let (members, more) :=
            decorateFields rest (Entries.insert name decorated members)
          (members, changed || more)

end

end Portable
end RegionSnapshot
