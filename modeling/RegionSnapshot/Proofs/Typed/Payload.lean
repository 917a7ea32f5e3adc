/-
Wrapped payloads.  A field map is unwrapped to the value that it was made of,
so that different values have different field maps.  A type reads the field map
of a value as it reads the value, and as an object of its own only where it
does not read the value.
-/
import RegionSnapshot.Proofs.Outcome
import RegionSnapshot.Typed.Schema

namespace RegionSnapshot

open Json

variable {α : Type}

theorem wrappedPayload?_eq_some_iff {json payload : Json} :
    wrappedPayload? json = some payload ↔
      json = .obj [(payloadField, payload)] := by
  rw [wrappedPayload?.eq_def]
  split
  · simp [and_comm]
  · rename_i hnot
    simp only [reduceCtorEq, false_iff]
    rintro rfl
    exact hnot _ _ rfl

/-- A field map is unwrapped to the value that it was made of. -/
theorem unwrapped_objectFields (json : Json) :
    (wrappedPayload? (.obj (objectFields json))).getD
      (.obj (objectFields json)) = json := by
  rcases objectFields_cases json with hwrapped | ⟨hnone, hplain⟩
  · rw [hwrapped, wrappedPayload?_eq_some_iff.2 rfl, Option.getD_some]
  · rw [← hplain, hnone, Option.getD_none]

theorem objectFields_injective : Function.Injective objectFields := by
  intro left right h
  have hleft := unwrapped_objectFields left
  rw [h, unwrapped_objectFields right] at hleft
  exact hleft.symm

/-- Field maps that compare equal are unwrapped to values that do. -/
theorem Json.same_unwrapped {members others : List (String × Json)}
    (h : sameMembers members others = true) :
    ((wrappedPayload? (.obj members)).getD (.obj members)).same
      ((wrappedPayload? (.obj others)).getD (.obj others)) = true := by
  match members, others with
  | [], [] => rfl
  | [(name, value)], [(other, payload)] =>
      simp only [sameMembers, Bool.and_eq_true, beq_iff_eq] at h
      obtain ⟨⟨rfl, hvalue⟩, -⟩ := h
      by_cases hname : name = payloadField
      · simp [wrappedPayload?, hname, hvalue]
      · simp [wrappedPayload?, hname, hvalue, same, sameMembers]
  | _ :: _ :: _, _ :: _ :: _ => exact h
  | [], _ :: _ => cases h
  | _ :: _, [] => cases h
  | [_], _ :: _ :: _ => simp [sameMembers] at h
  | _ :: _ :: _, [_] => simp [sameMembers] at h

namespace ObjectType

/-- A type reads the members of an object, or the payload wrapped in them. -/
theorem exists_read_of_materialize {type : ObjectType α} {json : Json}
    {object : TypedObject α} (h : type.materialize json = .ok object) :
    object.type = type ∧ ∃ given,
      (json = .obj [(payloadField, given)] ∨ json = given) ∧
      type.read given = .ok object.value := by
  rw [materialize] at h
  split at h
  · rename_i value hvalue
    cases h
    obtain ⟨payload, hpayload, hread⟩ := Option.map_eq_some_iff.1 hvalue
    exact ⟨rfl, payload, .inl (wrappedPayload?_eq_some_iff.1 hpayload), hread⟩
  · obtain ⟨value, hread, rfl⟩ := Outcome.map_eq_ok_iff.1 h
    exact ⟨rfl, json, .inr rfl, hread⟩

/-- A field map holds what the type reads from the value.  Only a value that
the type does not read leaves the map to be read itself: a number is no record
with a single field `value`, but its field map is one. -/
theorem materialize_objectFields_eq (type : ObjectType α) (json : Json) :
    type.materialize (.obj (objectFields json)) =
      match type.read json with
      | .ok value => .ok ⟨type, value⟩
      | .error _ => (type.read (.obj (objectFields json))).map (⟨type, ·⟩) := by
  rcases objectFields_cases json with hwrapped | ⟨hnone, hplain⟩
  · have hpayload : wrappedPayload? (.obj [(payloadField, json)]) = some json :=
      wrappedPayload?_eq_some_iff.2 rfl
    rw [hwrapped, materialize, hpayload, Option.map_some]
    cases type.read json with
    | ok value => rfl
    | error reason => rfl
  · rw [← hplain, materialize, hnone, Option.map_none]
    cases type.read json with
    | ok value => rfl
    | error reason => rfl

/-- A wrapped payload is unwrapped, and an object that only looks wrapped is
not. -/
theorem materialize_objectFields {type : ObjectType α} {json : Json} {value : α}
    (h : type.read json = .ok value) :
    type.materialize (.obj (objectFields json)) = .ok ⟨type, value⟩ := by
  rw [materialize_objectFields_eq, h]

end ObjectType

/-- Wrapping is unambiguous.  Values with the same field map are the same, also
where their numbers only compare equal.  Under whichever name a type is
registered, the field map of a value that it reads is made exactly what it
reads from the value, whatever else it would read from the map. -/
theorem objectFields_unambiguous :
    Function.Injective objectFields ∧
    (∀ left right : Json,
      sameMembers (objectFields left) (objectFields right) = true →
        left.same right = true) ∧
    ∀ {α : Type} (registry : Registry α) (name : String) (type : ObjectType α)
      (json : Json) (value : α),
      registry.find? name = some type → type.read json = .ok value →
        (registry.find? name).map
            (fun found => found.materialize (.obj (objectFields json))) =
          some (.ok ⟨type, value⟩) := by
  refine ⟨objectFields_injective, ?_, ?_⟩
  · intro left right h
    have hsame := same_unwrapped h
    rwa [unwrapped_objectFields, unwrapped_objectFields] at hsame
  · intro α registry name type json value hregistered hread
    rw [hregistered, Option.map_some, ObjectType.materialize_objectFields hread]

/-- A record whose one field is called like the payload and holds free JSON
reads both the object `{"value": 5}` and its field map, as different values. -/
theorem objectFields_unambiguous_cell :
    let type := ObjectType.ofSchema "app::types::Cell"
      (.record "Cell" [("value", .json)])
    let registry := Registry.standard.registerAs "cell" type
    let json := Json.obj [("value", .ofInt64 5)]
    registry.find? "cell" = some type ∧
    type.read json = .ok (.record [("value", .json (.ofInt64 5))]) ∧
    type.read (.obj (objectFields json)) =
      .ok (.record [("value", .json json)]) ∧
    (registry.find? "cell").map
        (fun found => found.materialize (.obj (objectFields json))) =
      some (.ok ⟨type, .record [("value", .json (.ofInt64 5))]⟩) := by
  intro type registry json
  have hregistered : registry.find? "cell" = some type := by
    rw [Registry.find?_registerAs, if_pos rfl]
  have hread : type.read json =
      .ok (.record [("value", .json (.ofInt64 5))]) := by
    rfl
  have hother : type.read (.obj (objectFields json)) =
      .ok (.record [("value", .json json)]) := by
    rfl
  exact ⟨hregistered, hread, hother,
    objectFields_unambiguous.2.2 registry "cell" type json _ hregistered hread⟩

end RegionSnapshot
