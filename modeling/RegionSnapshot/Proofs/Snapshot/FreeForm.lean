/-
Free JSON as a typed object.  Its members stand beside the metadata in one JSON
object, so that free JSON is read back as it was exactly if it has no metadata
of its own.  The name of its type takes the place of a member `@type`, and a
member `@identifier` is dropped; within the members everything is kept.
-/
import RegionSnapshot.Proofs.Snapshot.TypeNames

namespace RegionSnapshot

open Json

variable {α : Type}

theorem payloadMembers_eq_self_iff {members : List (String × Json)} :
    payloadMembers members = members ↔
      ∀ name, isMetadata name = true → Entries.get? name members = none := by
  constructor
  · intro h name hname
    rw [← h, get?_payloadMembers, if_pos hname]
  · intro h
    have htype := Entries.erase_eq_self (h typeMember rfl)
    rw [payloadMembers, htype, Entries.erase_eq_self (h identifierMember rfl)]

/-- The name of the type does not change what is left without metadata. -/
theorem payloadMembers_insert_typeMember (value : Json)
    (members : List (String × Json)) :
    payloadMembers (Entries.insert typeMember value members) =
      payloadMembers members := by
  rw [payloadMembers, Entries.erase_insert, payloadMembers]

/-- No object is a member of itself. -/
theorem Json.not_mem_self (name : String) (members : List (String × Json)) :
    (name, Json.obj members) ∉ members := by
  intro h
  have hsize := List.sizeOf_lt_of_mem h
  simp only [Prod.mk.sizeOf_spec, Json.obj.sizeOf_spec] at hsize
  omega

namespace TypedObject

/-- An object whose type is registered under its own name is read back from its
rendering as what the type makes of its fields without metadata. -/
theorem readObject_render_eq_ok_iff {registry : Registry α}
    {object back : TypedObject α} {form : Json}
    (hform : object.toJson = .ok form)
    (hname : Text.isBlank object.typeName = false)
    (hregistered : registry.find? object.typeName = some object.type) :
    object.render >>= registry.readObject = .ok back ↔
      object.type.materialize (.obj (payloadMembers (objectFields form))) =
        .ok back := by
  have htype : typeNameOf? (Entries.insert typeMember (.str object.typeName)
      (objectFields form)) = some object.typeName := by
    rw [typeNameOf?_eq_some_iff, Entries.get?_insert, if_pos rfl]
    exact ⟨rfl, hname⟩
  have hread : object.render >>= registry.readObject =
      registry.readObject (.obj (Entries.insert typeMember
        (.str object.typeName) (objectFields form))) := by
    rw [render_eq_ok hform]
    rfl
  rw [hread, Registry.readObject_eq_ok_iff, payloadMembers_insert_typeMember]
  constructor
  · rintro ⟨name, type, hother, hfind, hmade⟩
    rw [htype, Option.some.injEq] at hother
    rw [← hother, hregistered, Option.some.injEq] at hfind
    exact hfind ▸ hmade
  · intro hmade
    exact ⟨_, _, htype, hregistered, hmade⟩

theorem free_inj {json other : Json} :
    free json = free other ↔ json = other := by
  simp [free]

/-- The type of free JSON makes the wrapped payload of an object, or else the
object. -/
theorem materialize_free (json : Json) (members : List (String × Json)) :
    (free json).type.materialize (.obj members) =
      .ok (free ((wrappedPayload? (.obj members)).getD (.obj members))) := by
  rw [ObjectType.materialize]
  cases wrappedPayload? (.obj members) <;> rfl

theorem readObject_render_free {registry : Registry Datum} {json : Json}
    (hregistered : registry.find? (free json).typeName =
      some (free json).type) :
    (free json).render >>= registry.readObject =
      .ok (free ((wrappedPayload?
        (.obj (payloadMembers (objectFields json)))).getD
          (.obj (payloadMembers (objectFields json))))) := by
  have hform : (free json).toJson = .ok json := rfl
  have hname : Text.isBlank (free json).typeName = false := by
    change Text.isBlank "serde_json::value::Value" = false
    decide
  rw [readObject_render_eq_ok_iff hform hname hregistered, materialize_free]

/-- A wrapped value is unwrapped. -/
theorem readObject_render_free_of_wrapped {registry : Registry Datum}
    {json : Json} (hregistered : registry.find? (free json).typeName =
      some (free json).type)
    (hfields : objectFields json = [(payloadField, json)]) :
    (free json).render >>= registry.readObject = .ok (free json) := by
  rw [readObject_render_free hregistered, hfields]
  rfl

/-- An object that does not look wrapped is made again of what is left without
metadata exactly if nothing is lost. -/
theorem unwrapped_eq_self_iff {members : List (String × Json)}
    (hplain : wrappedPayload? (.obj members) = none) :
    (wrappedPayload? (.obj (payloadMembers members))).getD
        (.obj (payloadMembers members)) = .obj members ↔
      payloadMembers members = members := by
  cases hleft : wrappedPayload? (.obj (payloadMembers members)) with
  | none => simp
  | some payload =>
      have hsingle := wrappedPayload?_eq_some_iff.1 hleft
      rw [Json.obj.injEq] at hsingle
      constructor
      · intro h
        -- the payload would be an object that is a member of itself
        have hmember : (payloadField, payload) ∈ payloadMembers members := by
          simp [hsingle]
        have hmember : (payloadField, payload) ∈ members :=
          (List.mem_filter.1 (List.mem_filter.1 hmember).1).1
        rw [Option.getD_some] at h
        exact absurd (h ▸ hmember) (not_mem_self _ _)
      · intro h
        rw [h, hplain] at hleft
        cases hleft

/-- Free JSON is always read back from its rendering: as itself exactly if it
is no object with metadata, and else without the metadata, unless what is left
looks like a wrapped payload. -/
theorem exists_readObject_render_free {registry : Registry Datum} {json : Json}
    (hregistered : registry.find? (free json).typeName =
      some (free json).type) :
    ∃ back, (free json).render >>= registry.readObject = .ok (free back) ∧
      (back = json ↔
        ∀ name, isMetadata name = true → json.get? name = none) ∧
      ∀ members, json = .obj members →
        wrappedPayload? (.obj (payloadMembers members)) = none →
          back = .obj (payloadMembers members) := by
  cases json with
  | obj members =>
      cases hwrapped : wrappedPayload? (.obj members) with
      | some payload =>
          cases wrappedPayload?_eq_some_iff.1 hwrapped
          refine ⟨_, readObject_render_free_of_wrapped hregistered rfl, ?_, ?_⟩
          · refine iff_of_true rfl (fun name hname => ?_)
            rcases isMetadata_iff.1 hname with rfl | rfl <;> rfl
          · intro others heq hnone
            cases heq
            cases hnone
      | none =>
          have hfields : objectFields (.obj members) = members := by
            rw [objectFields, hwrapped]
            rfl
          have hread := readObject_render_free hregistered
          rw [hfields] at hread
          refine ⟨_, hread, ?_, ?_⟩
          · rw [unwrapped_eq_self_iff hwrapped, payloadMembers_eq_self_iff]
            rfl
          · intro others heq hnone
            cases heq
            rw [hnone]
            rfl
  | _ =>
      refine ⟨_, readObject_render_free_of_wrapped hregistered rfl, ?_, ?_⟩
      · exact iff_of_true rfl (fun _ _ => rfl)
      · intro members heq
        cases heq

/-- Names that are metadata at the top may stand further down. -/
theorem readObject_render_free_nested :
    let json := Json.obj [("inner", .obj [("@identifier", .ofInt64 1),
      ("@type", .str "x")])]
    Registry.standard.find? (free json).typeName = some (free json).type ∧
    (free json).render >>= Registry.standard.readObject = .ok (free json) := by
  intro json
  have hregistered : Registry.standard.find? (free json).typeName =
      some (free json).type := by
    rfl
  obtain ⟨back, hread, hsame, -⟩ := exists_readObject_render_free hregistered
  have hback : back = json := by
    apply hsame.2
    intro name hname
    rcases isMetadata_iff.1 hname with rfl | rfl <;> rfl
  rw [hback] at hread
  exact ⟨hregistered, hread⟩

/-- An identifier of the object's own is dropped as if it were the key of an
entry. -/
theorem readObject_render_free_ne :
    let json := Json.obj [("@identifier", .ofInt64 1), ("a", .ofInt64 2)]
    Registry.standard.find? (free json).typeName = some (free json).type ∧
    (free json).render >>= Registry.standard.readObject =
      .ok (free (.obj [("a", .ofInt64 2)])) ∧
    (free json).render >>= Registry.standard.readObject ≠ .ok (free json) := by
  intro json
  have hregistered : Registry.standard.find? (free json).typeName =
      some (free json).type := by
    rfl
  have hread : (free json).render >>= Registry.standard.readObject =
      .ok (free (.obj [("a", .ofInt64 2)])) :=
    readObject_render_free hregistered
  refine ⟨hregistered, hread, fun h => ?_⟩
  rw [hread, Except.ok.injEq, free_inj] at h
  simp [json] at h

end TypedObject
end RegionSnapshot
