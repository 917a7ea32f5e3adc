/-
Renderings of one value.  A typed object is rendered the same whether it is live
or wrapped in an instance, and an instance is rendered the same as a tree and as
a text.  The first follows from one description of a rendered instance by its
look-ups, the second from this: what is read back with its type names put in is
read back without them.
-/
import RegionSnapshot.Proofs.Snapshot.TypeNames

namespace RegionSnapshot

open Json

variable {α : Type}

namespace Json

theorem reread?_arr_eq_self_iff {items : List Json} {room : Nat} :
    reread? room (.arr items) = some (.arr items) ↔
      room ≠ 0 ∧ ∀ item ∈ items, reread? (room - 1) item = some item := by
  rw [reread?]
  split
  · rename_i hroom
    simp [hroom]
  · rename_i hroom
    simp [hroom, rereadItems?_eq_some_iff]

theorem reread?_obj_eq_self_iff {members : List (String × Json)} {room : Nat} :
    reread? room (.obj members) = some (.obj members) ↔
      room ≠ 0 ∧ ∀ name value, (name, value) ∈ members →
        reread? (room - 1) value = some value := by
  rw [reread?]
  split
  · rename_i hroom
    simp [hroom]
  · rename_i hroom
    simp [hroom, rereadMembers?_eq_some_iff]

/-- Names of types make no value harder to read back. -/
theorem GainsTypes.reread?_eq_self {old new : Json} (h : old.GainsTypes new)
    (hordered : old.Ordered) {room : Nat}
    (hnew : reread? room new = some new) : reread? room old = some old := by
  induction h generalizing room with
  | same json => exact hnew
  | arr items grown hlength _ ih =>
      rw [Ordered, orderedItems_iff] at hordered
      rw [reread?_arr_eq_self_iff] at hnew ⊢
      refine ⟨hnew.1, fun item hitem => ?_⟩
      obtain ⟨index, hindex, rfl⟩ := List.getElem_of_mem hitem
      have hgrown : index < grown.length := hlength ▸ hindex
      exact ih index items[index] grown[index]
        (List.getElem?_eq_getElem hindex) (List.getElem?_eq_getElem hgrown)
        (hordered _ hitem) (hnew.2 _ (List.getElem_mem hgrown))
  | obj members grown hkept _ _ ih =>
      rw [Ordered, orderedMembers_iff] at hordered
      rw [reread?_obj_eq_self_iff] at hnew ⊢
      refine ⟨hnew.1, fun name value hmember => ?_⟩
      have hold := hordered.1.get?_of_mem hmember
      have hhas : Entries.has name grown = true := by
        apply hkept
        rw [Entries.has, hold]
        rfl
      obtain ⟨after, hafter⟩ := Option.isSome_iff_exists.1 hhas
      exact ih name value after hold hafter (hordered.2 name value hmember)
        (hnew.2 name after (Entries.mem_of_get? hafter))

end Json

namespace Portable

/-- A field as it is rendered, with the names of its classes. -/
def rendered (field : Field α) : Json :=
  (decorateField field field.toJson).1

/-- An instance that is no typed object without a class is rendered with its
fields, and with the name of its class unless a field stands in its place. -/
theorem exists_render_of_sorted {p : Portable α}
    (huntyped : p.untypedObject? = none) (hsorted : Entries.Sorted p.fields) :
    ∃ members, p.render = .ok (.obj members) ∧ Entries.Sorted members ∧
      ∀ name, Entries.get? name members = ((p.field? name).map rendered).or
        (if name = typeMember ∧ p.hasClass = true then some (.str p.className)
        else none) := by
  have hmembers := Field.sorted_fieldsToMembers hsorted
  refine ⟨_, ?_, sorted_decorateFields p.fields
    (sorted_nameMembers hmembers p.className), fun name => ?_⟩
  · rw [render_of_untypedObject?_none huntyped]
    exact congrArg Except.ok (decorate_obj p _)
  · rw [get?_decorateFields hsorted, get?_nameMembers_eq_or,
      Field.get?_fieldsToMembers, field?]
    cases Entries.get? name p.fields <;> rfl

/-- An instance is rendered as a text just where it is rendered as a tree, and
its text is that tree, printed, if the tree nests no deeper than the reader
follows and its numbers are read back. -/
theorem renderText_eq_map_render {p : Portable α} (hp : p.Ordered)
    (hfits : ∀ json, p.render = .ok json →
      json.depth ≤ depthLimit ∧ json.NumbersReadBack) :
    p.renderText = p.render.map Json.pretty := by
  cases huntyped : p.untypedObject? with
  | some object => rw [renderText, render, huntyped]
  | none =>
      have hrender := render_of_untypedObject?_none huntyped
      obtain ⟨hdepth, hnumbers⟩ := hfits _ hrender
      -- the text is made from the fields as they are read back, which is as
      -- they are, since the decorated fields are read back so
      have hnested : (Field.nested p).Ordered := hp
      have hgains : p.toJson.GainsTypes (p.decorate p.toJson).1 :=
        gainsTypes_decorateField hnested p.toJson
      have hback : p.toJson.reread? depthLimit = some p.toJson :=
        hgains.reread?_eq_self hp.toJson (reread?_eq_some hdepth hnumbers)
      rw [renderText_of_untypedObject? hp huntyped, hback, hrender]
      refine congrArg Except.ok ?_
      split
      · rfl
      · rename_i hflag
        have hsame : (p.decorate p.toJson).1 = p.toJson :=
          decorateField_of_unchanged (.nested p) hp.toJson
            (Bool.eq_false_iff.2 hflag)
        rw [hsame]

/-- An instance with a tree, a double that JSON has no number for, and two
nested instances, one with a class and a key of its own and one with neither. -/
def parcelInstance : Portable Unit :=
  .mk "app::Parcel" none
    [("parts", .array [
        .nested (.mk "app::Line" (some (.int 7)) [("count", .int 3)] none),
        .nested .generic, .float ⟨0x7FF0000000000000⟩]),
      ("rows", .json (.arr [.arr []]))] none

theorem renderText_eq_map_render_parcel :
    parcelInstance.Ordered ∧
    parcelInstance.renderText = parcelInstance.render.map Json.pretty := by
  have hordered : parcelInstance.Ordered := by
    have hlt : "parts" < "rows" := by decide
    refine ⟨List.pairwise_pair.2 hlt, ?_⟩
    simp [generic, Field.OrderedInstance, Field.OrderedFields,
      Field.OrderedItems, Field.Ordered, Json.Ordered, OrderedItems,
      Entries.Sorted]
  refine ⟨hordered, renderText_eq_map_render hordered ?_⟩
  intro json hrender
  have hparcel : parcelInstance.render = .ok (.obj [
      ("@type", .str "app::Parcel"),
      ("parts", .arr [
        .obj [("@identifier", .ofInt64 7), ("@type", .str "app::Line"),
          ("count", .ofInt64 3)],
        .obj [], .null]),
      ("rows", .arr [.arr []])]) := by
    rfl
  rw [hparcel] at hrender
  cases hrender
  exact ⟨by decide, by simp [NumbersReadBack, NumbersReadBackItems,
    NumbersReadBackMembers, ofInt64, Number.reread?_int]⟩

/-- An instance of a class that still has the fields that it was taken with is
rendered as the object itself. -/
theorem Captures.render_eq {p : Portable α} {object : TypedObject α}
    {form : Json} (hcaptures : p.Captures object form)
    (hordered : form.Ordered) (hname : form.get? typeMember = none)
    (hunreserved : form.hasReserved = false) (hclass : p.hasClass = true) :
    p.render = .ok (.obj (Entries.insert typeMember (.str object.typeName)
      (objectFields form))) := by
  have hfields := ordered_objectFields hordered
  rw [Json.Ordered, orderedMembers_iff] at hfields
  have hnone := get?_objectFields_eq_none (by decide) hname
  have hunnamed := unreserved_objectFields hunreserved
  obtain ⟨members, hrender, hsorted, hget⟩ :=
    exists_render_of_sorted (untypedObject?_of_hasClass hclass)
      (hcaptures.ordered hordered).sorted
  rw [hrender]
  congr 2
  apply hsorted.ext (hfields.1.insert _ _)
  intro name
  rw [hget, Entries.get?_insert, hcaptures.field?_eq]
  cases hvalue : Entries.get? name (objectFields form) with
  | none => simp [hclass, hcaptures.className]
  | some value =>
      have hmember := Entries.mem_of_get? hvalue
      have hne : name ≠ typeMember := by
        rintro rfl
        rw [hnone] at hvalue
        cases hvalue
      have hkept := decorateField_fieldOfMember (α := α)
        (hfields.2 name value hmember) (hasReserved_of_mem hunnamed hmember)
      rw [if_neg hne, Option.map_some, Option.map_some, Option.some_or,
        rendered, hkept]

end Portable

namespace Snapshot

/-- A typed object without a member `@type` of its own, which names nowhere the
class of instances without one, is rendered the same whether it is live or
wrapped in an instance. -/
theorem renderValue_ofObject {object : TypedObject α} {form : Json}
    (hform : object.toJson = .ok form) (hordered : form.Ordered)
    (hname : form.get? typeMember = none)
    (hunreserved : form.hasReserved = false) :
    ∃ p json, Portable.ofObject object = .ok p ∧
      renderValue (.object object) = .ok json ∧
      renderValue (.portable p) = .ok json := by
  obtain ⟨p, hp, hcaptures⟩ := Portable.exists_captures hform
  have hlive := TypedObject.render_eq_ok hform
  refine ⟨p, _, hp, hlive, ?_⟩
  rw [renderValue]
  cases hclass : p.hasClass with
  | true => exact hcaptures.render_eq hordered hname hunreserved hclass
  | false =>
      have huntyped : p.untypedObject? = some object := by
        rw [hcaptures.untypedObject?_eq, hclass]
        rfl
      exact Portable.render_of_untypedObject?_some huntyped hform

/-- An object with an array in an array, which no field but a tree holds, and
with an object in it that names its own class. -/
theorem renderValue_ofObject_rows :
    let object := treeObject (.obj [
      ("node", .obj [("@type", .str "app::Leaf")]), ("rows", .arr [.arr []])])
    ∃ p json, Portable.ofObject object = .ok p ∧
      renderValue (.object object) = .ok json ∧
      renderValue (.portable p) = .ok json := by
  have hlt : "node" < "rows" := by decide
  refine renderValue_ofObject rfl ⟨List.pairwise_pair.2 hlt, ?_⟩ rfl rfl
  simp [OrderedMembers, OrderedItems, Json.Ordered, Entries.Sorted]

end Snapshot
end RegionSnapshot
