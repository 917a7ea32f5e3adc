/-
What is written of an instance that was read.  An instance that holds its
element is written as an element that it holds too.  An instance that captures
a typed object is written as an element that it keeps, and may or may not come
back from it; it does so if the object is read back from its form.
-/
import RegionSnapshot.Proofs.Snapshot.Native
import RegionSnapshot.Proofs.Typed.Order

namespace RegionSnapshot

open Json

variable {α : Type}

namespace Registry

/-- A typed object that is read from an ordered element is written as ordered
JSON. -/
theorem KeepsOrder.form {registry : Registry α} (h : registry.KeepsOrder)
    {members : List (String × Json)} (hordered : (Json.obj members).Ordered)
    {object : TypedObject α} {form : Json}
    (hread : registry.readObject (.obj members) = .ok object)
    (hform : object.toJson = .ok form) : form.Ordered := by
  obtain ⟨name, type, -, hfind, hmade⟩ := readObject_eq_ok_iff.1 hread
  obtain ⟨rfl, given, hgiven, hvalue⟩ :=
    ObjectType.exists_read_of_materialize hmade
  have hpayload : (Json.obj (payloadMembers members)).Ordered := by
    rw [Ordered] at hordered
    exact ⟨sorted_payloadMembers hordered.1,
      orderedMembers_erase (orderedMembers_erase hordered.2 _) _⟩
  have horderedGiven : given.Ordered := by
    rcases hgiven with heq | heq
    · rw [heq] at hpayload
      exact hpayload.2.1
    · rwa [heq] at hpayload
  exact h name _ hfind given object.value form horderedGiven hvalue hform

end Registry

namespace Portable

/-- What instances are compared by: class name, key and fields. -/
def content (p : Portable α) : String × Option Key × List (String × Field α) :=
  (p.className, p.identifier, p.fields)

theorem Captures.ordered {p : Portable α} {object : TypedObject α} {form : Json}
    (h : p.Captures object form) (hform : form.Ordered) : p.Ordered := by
  have hfields := ordered_objectFields hform
  rw [Json.Ordered, Json.orderedMembers_iff] at hfields
  apply Ordered.mk
  · refine hfields.1.of_keys_eq ?_
    rw [h.fields, List.map_map]
    rfl
  · intro name field hfield
    rw [h.fields] at hfield
    obtain ⟨⟨other, value⟩, hmember, heq⟩ := List.mem_map.1 hfield
    cases heq
    exact ordered_fieldOfMember (hfields.2 other value hmember)

/-- What is written of an instance that captures an object is kept by the
instance, if no field is named like metadata. -/
theorem Captures.exists_keeps {p : Portable α} {object : TypedObject α}
    {form : Json} (h : p.Captures object form) (hform : form.Ordered)
    (hplain : ∀ name, isMetadata name = true → p.field? name = none) :
    ∃ members, Snapshot.renderInstance p = .ok (.obj members) ∧
      Entries.Sorted members ∧ p.Keeps members := by
  have hordered := ordered_objectFields hform
  rw [Json.Ordered] at hordered
  have hsorted := (h.ordered hform).sorted
  by_cases hclass : p.hasClass = true
  · have huntyped : p.untypedObject? = none := by
      rw [untypedObject?, if_pos hclass]
    obtain ⟨members, hrender, hrendered⟩ :=
      exists_renderInstance huntyped ⟨hsorted, hplain⟩
    refine ⟨members, hrender, hrendered.sorted, hsorted, hplain, ?_,
      hrendered.identifier, ?_⟩
    · rw [hrendered.type, if_pos hclass]
    · intro name hname
      rw [hrendered.field name hname, h.field?_eq]
      cases hget : Entries.get? name (objectFields form) with
      | none => rfl
      | some value =>
          have hvalue := Json.Ordered.of_get? hordered.2 hget
          simp only [Option.map_some, fieldOfMember_decorateField hvalue]
  · have huntyped : p.untypedObject? = some object := by
      rw [h.untypedObject?_eq, if_neg hclass]
    have hrender := render_of_untypedObject?_some huntyped h.written
    have hnone : Entries.get? identifierMember (Entries.insert typeMember
        (.str object.typeName) (objectFields form)) = none := by
      have hfield := hplain identifierMember rfl
      rw [h.field?_eq, Option.map_eq_none_iff] at hfield
      rw [Entries.get?_insert, if_neg (by decide), hfield]
    have hget := p.get?_keyed hnone
    refine ⟨_, renderInstance_of_render hrender,
      p.sorted_keyed (hordered.1.insert _ _), hsorted, hplain, ?_, ?_, ?_⟩
    · rw [hget, if_neg (by decide), Entries.get?_insert, if_pos rfl,
        h.className]
    · rw [hget, if_pos rfl]
    · intro name hname
      obtain ⟨htype, hid⟩ := isMetadata_eq_false_iff.1 hname
      rw [hget, if_neg hid, Entries.get?_insert, if_neg htype, h.field?_eq]

/-- Whatever is in order and can be written is written as an ordered object. -/
theorem exists_ordered_renderInstance {p : Portable α}
    (hordered : (Value.portable p).Ordered)
    (hwritten : ∀ object, p.object = some object →
      ∃ form, object.toJson = .ok form) :
    ∃ members, Snapshot.renderInstance p = .ok (.obj members) ∧
      (Json.obj members).Ordered := by
  obtain ⟨json, hrender⟩ : ∃ json, p.render = .ok json := by
    rw [Portable.render]
    split
    · rename_i object huntyped
      obtain ⟨form, hform⟩ :=
        hwritten object (object_of_untypedObject? huntyped)
      exact ⟨_, TypedObject.render_eq_ok hform⟩
    · exact ⟨_, rfl⟩
  obtain ⟨members, rfl, hmembers⟩ :=
    Snapshot.exists_renderValue hordered hrender
  exact ⟨_, renderInstance_of_render hrender, p.ordered_keyed hmembers⟩

/-- What an instance with a typed object needs to come back from the members
that are written of it.  None of its fields is named like metadata, and where no
instance can hold the members, the object is read back from its form. -/
structure Returns (registry : Registry α) (p : Portable α)
    (members : List (String × Json)) : Prop where
  plain : ∀ name, isMetadata name = true → p.field? name = none
  readBack : areNativeMembers members = false →
    ∃ object, p.object = some object ∧ object.Faithful registry

/-- What is written of an instance with a typed object is read without the
object where an instance can hold it. -/
theorem Captures.ofElement_of_native {registry : Registry α} {p : Portable α}
    {object : TypedObject α} {form : Json} (h : p.Captures object form)
    (hform : form.Ordered)
    (hplain : ∀ name, isMetadata name = true → p.field? name = none)
    {members : List (String × Json)}
    (hrender : Snapshot.renderInstance p = .ok (.obj members))
    (hnative : areNativeMembers members = true) :
    ofElement registry Stage.standard (.obj members) =
      .ok p.withoutObject := by
  obtain ⟨_, hrender', hsorted, hkeeps⟩ := h.exists_keeps hform hplain
  rw [hrender] at hrender'
  cases hrender'
  exact (Stage.ofElement_obj_of_native hnative).2
    ((instanceOfMembers_eq_ok_iff hsorted).2 (hkeeps.holds hnative))

/-- A kept member that names no class anywhere is written as it was. -/
theorem decorateField_fieldOfMember {json : Json} (hjson : json.Ordered)
    (hunreserved : json.hasReserved = false) :
    (decorateField (fieldOfMember json : Field α)
      (fieldOfMember json : Field α).toJson).1 = json := by
  cases h : (Field.ofJson json : Except FormatError (Field α)) with
  | ok field =>
      rw [fieldOfMember_of_ofJson h, decorateField_ofJson hjson h,
        withoutReserved_eq_self hunreserved]
  | error reason =>
      rw [fieldOfMember, h]
      rfl

end Portable

namespace TypedObject.WrittenAs

variable {registry : Registry α} {object : TypedObject α} {form : Json}
  {p : Portable α} {members : List (String × Json)}

theorem hasClass (h : object.WrittenAs registry form)
    (hcaptures : p.Captures object form) : p.hasClass = true := by
  rw [Portable.hasClass, hcaptures.className]
  exact h.named

/-- What is written of an instance that captures an object is read as this
object. -/
theorem readObject_rendered (h : object.WrittenAs registry form)
    (hcaptures : p.Captures object form) (hrendered : p.Rendered members) :
    registry.readObject (.obj members) = .ok object := by
  have hfields := ordered_objectFields h.ordered
  rw [Ordered] at hfields
  apply h.readObject_of_payload
  · apply h.typeNameOf?_eq
    rw [hrendered.type, if_pos (h.hasClass hcaptures), hcaptures.className]
  · apply h.payloadMembers_eq hrendered.sorted
    intro name hname
    rw [hrendered.field name hname, hcaptures.field?_eq]
    cases hget : Entries.get? name (objectFields form) with
    | none => rfl
    | some value =>
        have hmember := Entries.mem_of_get? hget
        simp only [Option.map_some, Portable.decorateField_fieldOfMember
          (orderedMembers_iff.1 hfields.2 name value hmember)
          (hasReserved_of_mem (unreserved_objectFields h.unreserved) hmember)]

/-- An instance of an object that is read back from its form comes back from
what is written of it, where no instance can hold that. -/
theorem ofElement_of_notNative (h : object.WrittenAs registry form)
    (hcaptures : p.Captures object form)
    (hrender : Snapshot.renderInstance p = .ok (.obj members))
    (hnative : areNativeMembers members = false) :
    Portable.ofElement registry Stage.standard (.obj members) = .ok p := by
  have hplain : ∀ name, isMetadata name = true → p.field? name = none := by
    intro name hname
    rw [hcaptures.field?_eq, h.get?_objectFields hname]
    rfl
  have huntyped : p.untypedObject? = none := by
    rw [Portable.untypedObject?, if_pos (h.hasClass hcaptures)]
  obtain ⟨rendered, hrender', hrendered⟩ := Portable.exists_renderInstance
    huntyped ⟨(hcaptures.ordered h.ordered).sorted, hplain⟩
  rw [hrender, Except.ok.injEq, Json.obj.injEq] at hrender'
  subst hrender'
  rw [Stage.ofElement_obj_of_notNative hnative, Stage.readTyped_obj_eq_ok_iff]
  exact ⟨object, form, h.readObject_rendered hcaptures hrendered, hcaptures,
    hrendered.identifier⟩

end TypedObject.WrittenAs

namespace Stage

/-- Only objects are elements. -/
theorem exists_members_of_ofElement {registry : Registry α} {element : Json}
    {p : Portable α}
    (h : Portable.ofElement registry standard element = .ok p) :
    ∃ members, element = .obj members := by
  cases element with
  | obj members => exact ⟨members, rfl⟩
  | _ => cases h

/-- An instance that was read holds its element, or captures the typed object
that the element names. -/
theorem holds_or_captures {registry : Registry α}
    (hregistry : registry.KeepsOrder) {element : Json}
    (hordered : element.Ordered) {p : Portable α}
    (h : Portable.ofElement registry standard element = .ok p) :
    (∃ members, (Json.obj members).Ordered ∧ p.Holds members) ∨
      ∃ object form, form.Ordered ∧ p.Captures object form := by
  obtain ⟨members, rfl⟩ := exists_members_of_ofElement h
  rcases ofElement_obj_eq_ok_iff.1 h with hread | ⟨-, hread⟩
  · exact .inl ⟨members, hordered,
      Portable.holds_of_instanceOfMembers hordered.1 hread⟩
  · obtain ⟨object, form, hobject, hcaptures, -⟩ :=
      readTyped_obj_eq_ok_iff.1 hread
    exact .inr ⟨object, form,
      hregistry.form hordered hobject hcaptures.written, hcaptures⟩

end Stage

namespace Snapshot

/-- What is written of an instance that returns is read as an instance with the
same content. -/
theorem exists_ofElement_of_returns {registry : Registry α} {p : Portable α}
    {object : TypedObject α} {form : Json} (hcaptures : p.Captures object form)
    (hform : form.Ordered) {members : List (String × Json)}
    (hrender : renderInstance p = .ok (.obj members))
    (h : p.Returns registry members) :
    ∃ q, Portable.ofElement registry Stage.standard (.obj members) = .ok q ∧
      q.content = p.content := by
  cases hnative : areNativeMembers members with
  | true =>
      exact ⟨p.withoutObject,
        hcaptures.ofElement_of_native hform h.plain hrender hnative, rfl⟩
  | false =>
      obtain ⟨other, hother, written, hwritten⟩ := h.readBack hnative
      rw [hcaptures.carried, Option.some.injEq] at hother
      subst hother
      have hsame := hwritten.written
      rw [hcaptures.written, Except.ok.injEq] at hsame
      subst hsame
      exact ⟨p, hwritten.ofElement_of_notNative hcaptures hrender hnative, rfl⟩

/-- An element that was read is written again.  What is written of it is read
as an instance with the same content, if the instance returns where it has a
typed object. -/
theorem exists_written {registry : Registry α}
    (hregistry : registry.KeepsOrder) {element : Json}
    (hordered : element.Ordered) {p : Portable α}
    (h : Portable.ofElement registry Stage.standard element = .ok p) :
    ∃ members, renderInstance p = .ok (.obj members) ∧
      (Json.obj members).Ordered ∧
      ((p.object.isSome = true → p.Returns registry members) →
        ∃ q, Portable.ofElement registry Stage.standard (.obj members) =
            .ok q ∧ q.content = p.content) := by
  rcases Stage.holds_or_captures hregistry hordered h with
    ⟨given, hgiven, hholds⟩ | ⟨object, form, hform, hcaptures⟩
  · have hnone : ∀ object, p.object ≠ some object := by
      intro object hobject
      rw [hholds.object] at hobject
      cases hobject
    obtain ⟨members, hrender, hmembers⟩ :=
      Portable.exists_ordered_renderInstance
        ⟨hholds.ordered hgiven,
          fun object hobject => absurd hobject (hnone object)⟩
        (fun object hobject => absurd hobject (hnone object))
    have hsame : members = membersWithoutReserved given := by
      rw [hholds.renderInstance hgiven, Json.withoutReserved] at hrender
      cases hrender
      rfl
    have hread : Portable.ofElement registry Stage.standard (.obj members) =
        .ok p := by
      rw [Stage.ofElement_obj_eq_ok_iff, Portable.ofJson,
        Portable.instanceOfMembers_eq_ok_iff hmembers.1, hsame]
      exact .inl (hholds.withoutReserved hgiven)
    exact ⟨members, hrender, hmembers, fun _ => ⟨p, hread, rfl⟩⟩
  · have hcarried : ∀ other, p.object = some other → other = object := by
      intro other hother
      rw [hcaptures.carried] at hother
      exact (Option.some.inj hother).symm
    have hvalue : (Value.portable p).Ordered := by
      refine ⟨hcaptures.ordered hform, ?_⟩
      intro other hother json hjson
      rw [hcarried other hother, hcaptures.written] at hjson
      cases hjson
      exact hform
    obtain ⟨members, hrender, hmembers⟩ :=
      Portable.exists_ordered_renderInstance hvalue
        (fun other hother => ⟨form, hcarried other hother ▸ hcaptures.written⟩)
    have hsome : p.object.isSome = true := by
      rw [hcaptures.carried]
      rfl
    exact ⟨members, hrender, hmembers, fun hreturns =>
      exists_ofElement_of_returns hcaptures hform hrender (hreturns hsome)⟩

end Snapshot
end RegionSnapshot
