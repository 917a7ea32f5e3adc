/-
Trees that are kept as fields.  A member of a typed object is kept as a field
of the instance, as a bare tree where no better field holds it.  Either way the
field is written as a tree that is kept as the same field again, although
members that name no class are gone from it.
-/
import RegionSnapshot.Proofs.Portable.Plain

namespace RegionSnapshot

open Json

namespace Field

variable {α : Type}

theorem itemsOfJson_eq_mapM (items : List Json) :
    (itemsOfJson items : Except FormatError (List (Field α))) =
      items.mapM ofJson := by
  induction items with
  | nil => rfl
  | cons item rest ih => rw [itemsOfJson, List.mapM_cons, ih]

end Field

namespace Portable

variable {α : Type}

theorem Ordered.mk {p : Portable α} (hsorted : Entries.Sorted p.fields)
    (h : ∀ name field, (name, field) ∈ p.fields → field.Ordered) :
    p.Ordered := by
  obtain ⟨className, identifier, fields, object⟩ := p
  exact ⟨hsorted, Field.orderedFields_iff.2 h⟩

/-- Each field of what holds an object is read from the member of its name. -/
theorem Holds.exists_value {p : Portable α} {members : List (String × Json)}
    (h : p.Holds members) {name : String} {field : Field α}
    (hfield : (name, field) ∈ p.fields) :
    ∃ value, (name, value) ∈ members ∧ Field.ofJson value = .ok field := by
  have hget : p.field? name = some field := h.sorted.get?_of_mem hfield
  cases hname : isMetadata name with
  | true =>
      rw [h.plain name hname] at hget
      cases hget
  | false =>
      have hread := h.field name hname
      rw [hget, Option.map_some, Option.map_eq_some_iff] at hread
      obtain ⟨value, hvalue, heq⟩ := hread
      exact ⟨value, Entries.mem_of_get? hvalue, heq⟩

theorem Holds.ordered_of_values {p : Portable α}
    {members : List (String × Json)} (hp : p.Holds members)
    (h : ∀ name value, (name, value) ∈ members → ∀ field : Field α,
      Field.ofJson value = .ok field → field.Ordered) : p.Ordered := by
  apply Ordered.mk hp.sorted
  intro name field hfield
  obtain ⟨value, hvalue, hread⟩ := hp.exists_value hfield
  exact h name value hvalue field hread

/-- A field that is read from an ordered value is ordered. -/
theorem ordered_ofJson {json : Json} (hjson : json.Ordered) {field : Field α}
    (h : Field.ofJson json = .ok field) : field.Ordered := by
  induction json using Json.induct generalizing field with
  | null | bool | str =>
      cases h
      trivial
  | num n =>
      cases n with
      | wide value beyond => cases h
      | _ =>
          cases h
          trivial
  | arr items ih =>
      rw [Json.Ordered, Json.orderedItems_iff] at hjson
      rw [Field.ofJson] at h
      split at h
      · cases h
      · obtain ⟨fields, hfields, rfl⟩ := Outcome.map_eq_ok_iff.1 h
        rw [Field.itemsOfJson_eq_mapM] at hfields
        rw [Field.Ordered, Field.orderedItems_iff]
        intro inner hinner
        obtain ⟨item, hitem, heq⟩ := Outcome.mem_of_mapM hfields hinner
        exact ih item hitem (hjson item hitem) heq
  | obj members ih =>
      rw [Json.Ordered, Json.orderedMembers_iff] at hjson
      obtain ⟨p, hp, rfl⟩ := Outcome.map_eq_ok_iff.1 h
      have hholds := holds_of_instanceOfMembers hjson.1 hp
      exact hholds.ordered_of_values (fun name value hmember inner =>
        ih name value hmember (hjson.2 name value hmember))

theorem Holds.ordered {p : Portable α} {members : List (String × Json)}
    (hordered : (Json.obj members).Ordered) (h : p.Holds members) :
    p.Ordered := by
  rw [Json.Ordered, Json.orderedMembers_iff] at hordered
  apply h.ordered_of_values
  intro name value hmember field hread
  exact ordered_ofJson (hordered.2 name value hmember) hread

theorem Holds.notBlank {p : Portable α} {members : List (String × Json)}
    (h : p.Holds members) : Text.isBlank p.className = false := by
  have hclass := h.className
  cases hget : Entries.get? typeMember members with
  | none =>
      rw [hget] at hclass
      rw [← Except.ok.inj hclass]
      decide
  | some value =>
      rw [hget] at hclass
      exact (Field.classOfMember_eq_ok_iff.1 hclass).2

/-- What holds an object holds it also without the members that name no class,
if this makes no difference to the fields. -/
theorem Holds.withoutReserved_of_values {p : Portable α}
    {members : List (String × Json)} (hsorted : Entries.Sorted members)
    (hp : p.Holds members)
    (h : ∀ name value, (name, value) ∈ members → ∀ field : Field α,
      Field.ofJson value = .ok field →
        Field.ofJson value.withoutReserved = .ok field) :
    p.Holds (membersWithoutReserved members) := by
  refine ⟨hp.object, hp.sorted, hp.plain, ?_, ?_, ?_⟩
  · rw [get?_membersWithoutReserved hsorted, ← hp.classMember_eq]
    exact classOfMember_classMember hp.notBlank
  · rw [get?_membersWithoutReserved hsorted, hp.identifier]
    cases p.identifier with
    | none => rfl
    | some key =>
        have hne : namesReserved identifierMember key.toJson = false := by
          simp [namesReserved, identifierMember, typeMember]
        simp [hne, withoutReserved_toJson]
  · intro name hname
    have hne : ∀ value, namesReserved name value = false := by
      intro value
      simp [namesReserved, (isMetadata_eq_false_iff.1 hname).1]
    have hread := hp.field name hname
    rw [get?_membersWithoutReserved hsorted]
    cases hget : Entries.get? name members with
    | none =>
        rw [hget] at hread
        exact hread
    | some value =>
        rw [hget, Option.map_some, eq_comm, Option.map_eq_some_iff] at hread
        obtain ⟨field, hfield, heq⟩ := hread
        have hvalue := h name value (Entries.mem_of_get? hget) field heq.symm
        simp [hfield, hne, hvalue]

theorem isArray_withoutReserved (json : Json) :
    json.withoutReserved.isArray = json.isArray := by
  cases json <;> rfl

theorem itemsWithoutReserved_eq_map (items : List Json) :
    itemsWithoutReserved items = items.map Json.withoutReserved := by
  induction items with
  | nil => rfl
  | cons item rest ih => rw [itemsWithoutReserved, ih, List.map_cons]

/-- The members that name no class make no difference to a field. -/
theorem ofJson_withoutReserved {json : Json} (hjson : json.Ordered)
    {field : Field α} (h : Field.ofJson json = .ok field) :
    Field.ofJson json.withoutReserved = .ok field := by
  induction json using Json.induct generalizing field with
  | null | bool | num | str => exact h
  | arr items ih =>
      rw [Json.Ordered, Json.orderedItems_iff] at hjson
      rw [Field.ofJson] at h
      split at h
      · cases h
      · rename_i hflat
        obtain ⟨fields, hfields, rfl⟩ := Outcome.map_eq_ok_iff.1 h
        rw [Field.itemsOfJson_eq_mapM, Outcome.mapM_eq_ok_iff] at hfields
        have hitems : ∀ item ∈ items, (Field.ofJson item.withoutReserved :
            Except FormatError (Field α)) = Field.ofJson item := by
          intro item hitem
          obtain ⟨inner, -, heq⟩ := List.mem_map.1
            (hfields ▸ List.mem_map.2 ⟨item, hitem, rfl⟩)
          rw [← heq]
          exact ih item hitem (hjson item hitem) heq.symm
        have hsame : (items.map Json.withoutReserved).any Json.isArray =
            items.any Json.isArray := by
          simp [List.any_map, Function.comp_def, isArray_withoutReserved]
        have hread : Field.itemsOfJson (items.map Json.withoutReserved) =
            .ok fields := by
          rw [Field.itemsOfJson_eq_mapM, Outcome.mapM_eq_ok_iff, List.map_map,
            ← hfields]
          exact List.map_congr_left hitems
        rw [Json.withoutReserved, itemsWithoutReserved_eq_map, Field.ofJson,
          hsame, if_neg hflat, hread]
        rfl
  | obj members ih =>
      rw [Json.Ordered, Json.orderedMembers_iff] at hjson
      obtain ⟨p, hp, rfl⟩ := Outcome.map_eq_ok_iff.1 h
      have hholds := holds_of_instanceOfMembers hjson.1 hp
      have hstripped := hholds.withoutReserved_of_values hjson.1
        (fun name value hmember field =>
          ih name value hmember (hjson.2 name value hmember))
      rw [Json.withoutReserved, Field.ofJson, (instanceOfMembers_eq_ok_iff
        (sorted_membersWithoutReserved hjson.1)).2 hstripped]
      rfl

/-- What holds an object holds it also without the members that name no
class. -/
theorem Holds.withoutReserved {p : Portable α}
    {members : List (String × Json)} (hordered : (Json.obj members).Ordered)
    (h : p.Holds members) : p.Holds (membersWithoutReserved members) := by
  rw [Json.Ordered, Json.orderedMembers_iff] at hordered
  apply h.withoutReserved_of_values hordered.1
  intro name value hmember field hread
  exact ofJson_withoutReserved (hordered.2 name value hmember) hread

theorem fieldOfMember_of_ofJson {json : Json} {field : Field α}
    (h : Field.ofJson json = .ok field) : fieldOfMember json = field := by
  rw [fieldOfMember, h]

theorem ordered_fieldOfMember {json : Json} (hjson : json.Ordered) :
    (fieldOfMember json : Field α).Ordered := by
  rw [fieldOfMember]
  split
  · rename_i field hfield
    exact ordered_ofJson hjson hfield
  · exact hjson

/-- What is written of a kept member is kept as the same field. -/
theorem fieldOfMember_decorateField {json : Json} (hjson : json.Ordered) :
    fieldOfMember (decorateField (fieldOfMember json : Field α)
      (fieldOfMember json : Field α).toJson).1 =
        (fieldOfMember json : Field α) := by
  cases h : (Field.ofJson json : Except FormatError (Field α)) with
  | ok field =>
      rw [fieldOfMember_of_ofJson h, decorateField_ofJson hjson h]
      exact fieldOfMember_of_ofJson (ofJson_withoutReserved hjson h)
  | error reason =>
      have hkept : fieldOfMember json = (.json json : Field α) := by
        rw [fieldOfMember, h]
      rw [hkept]
      exact hkept

/-- The instance keeps an object: class and key are its metadata, and each
other member is kept as a field, whether or not a field can hold it. -/
structure Keeps (members : List (String × Json)) (p : Portable α) : Prop where
  sorted : Entries.Sorted p.fields
  plain : ∀ name, isMetadata name = true → p.field? name = none
  type : Entries.get? typeMember members = some (.str p.className)
  identifier : Entries.get? identifierMember members =
    p.identifier.map Key.toJson
  field : ∀ name, isMetadata name = false →
    (Entries.get? name members).map fieldOfMember = p.field? name

/-- An instance without the object that it carries. -/
def withoutObject (p : Portable α) : Portable α :=
  .mk p.className p.identifier p.fields none

/-- A native object that an instance keeps is held by it. -/
theorem Keeps.holds {p : Portable α} {members : List (String × Json)}
    (h : p.Keeps members) (hnative : areNativeMembers members = true) :
    p.withoutObject.Holds members := by
  rw [areNativeMembers_iff] at hnative
  refine ⟨rfl, h.sorted, h.plain, ?_, h.identifier, ?_⟩
  · have hnamed := hnative _ _ (Entries.mem_of_get? h.type)
    rw [if_pos rfl, text?, Option.any_some, Bool.not_eq_true'] at hnamed
    rw [h.type]
    exact Field.classOfMember_eq_ok_iff.2 ⟨rfl, hnamed⟩
  · intro name hname
    have hkept := h.field name hname
    obtain ⟨htype, hid⟩ := isMetadata_eq_false_iff.1 hname
    cases hget : Entries.get? name members with
    | none =>
        rw [hget] at hkept
        exact congrArg (Option.map Except.ok) hkept
    | some value =>
        have hvalue := hnative name value (Entries.mem_of_get? hget)
        rw [if_neg htype, if_neg hid] at hvalue
        obtain ⟨field, hfield⟩ := (Field.ofJson_isOk_iff (α := α) value).2 hvalue
        rw [hget, Option.map_some, fieldOfMember_of_ofJson hfield] at hkept
        rw [Option.map_some, hfield]
        exact congrArg (Option.map Except.ok) hkept

end Portable
end RegionSnapshot
