/-
Types that keep JSON in order.  What a schema reads from ordered JSON is
written as ordered JSON, by induction on the schema; so every registry of types
that schemas describe keeps JSON in order.
-/
import RegionSnapshot.Proofs.Portable.Plain
import RegionSnapshot.Typed.Schema

namespace RegionSnapshot

open Json

namespace Datum

/-- The value is written as ordered JSON. -/
def Ordered (datum : Datum) : Prop :=
  datum.toJson.Ordered

theorem itemsToJson_eq_map (items : List Datum) :
    itemsToJson items = items.map toJson := by
  induction items with
  | nil => rfl
  | cons item rest ih => rw [itemsToJson, ih, List.map_cons]

theorem fieldsToJson_eq_map (fields : List (String × Datum)) :
    fieldsToJson fields =
      fields.map (fun field => (field.1, field.2.toJson)) := by
  induction fields with
  | nil => rfl
  | cons first rest ih =>
      obtain ⟨name, value⟩ := first
      rw [fieldsToJson, ih]
      rfl

theorem ordered_list {items : List Datum}
    (h : ∀ item ∈ items, item.Ordered) : (Datum.list items).Ordered := by
  rw [Ordered, toJson, itemsToJson_eq_map, Json.Ordered, orderedItems_iff]
  intro value hvalue
  obtain ⟨item, hitem, rfl⟩ := List.mem_map.1 hvalue
  exact h item hitem

theorem ordered_record {fields : List (String × Datum)}
    (h : ∀ field ∈ fields, field.2.Ordered) :
    (Datum.record fields).Ordered := by
  have hmembers : OrderedMembers (fieldsToJson fields) := by
    rw [fieldsToJson_eq_map, orderedMembers_iff]
    intro name value hmember
    obtain ⟨field, hfield, heq⟩ := List.mem_map.1 hmember
    cases heq
    exact h field hfield
  exact ⟨Entries.sorted_nil.insertAll _,
    OrderedMembers.insertAll trivial hmembers⟩

end Datum

namespace Schema

theorem ordered_readInteger {name : String} {low high : Int} {json : Json}
    {datum : Datum} (h : readInteger name low high json = .ok datum) :
    datum.Ordered := by
  rw [readInteger.eq_def] at h
  split at h
  · split at h
    · split at h
      · cases h
        rw [Datum.Ordered, Datum.toJson]
        split <;> trivial
      · cases h
    · cases h
  · cases h

theorem ordered_readFloat {expected : String} {ofInt : Int → Binary64}
    {ofFloat : Binary64 → Binary64} {json : Json} {datum : Datum}
    (h : readFloat expected ofInt ofFloat json = .ok datum) :
    datum.Ordered := by
  rw [readFloat.eq_def] at h
  split at h
  all_goals
    cases h
    try exact Portable.ordered_ofFloat _

theorem ordered_collect {fields : List (String × Schema)}
    {found collected : List (String × Datum)}
    (h : collect fields found = .ok collected)
    (hfound : ∀ field ∈ found, field.2.Ordered) :
    ∀ field ∈ collected, field.2.Ordered := by
  intro field hfield
  obtain ⟨⟨name, schema⟩, -, hread⟩ := Outcome.mem_of_mapM h hfield
  dsimp only at hread
  split at hread
  · rename_i datum hlookup
    cases hread
    obtain ⟨before, after, rfl, -⟩ := List.lookup_eq_some_iff.1 hlookup
    exact hfound (name, datum) (by simp)
  · split at hread
    · cases hread
      trivial
    · cases hread

mutual

/-- What a schema reads from ordered JSON is written as ordered JSON. -/
theorem ordered_read (schema : Schema) {json : Json} (hjson : json.Ordered)
    {datum : Datum} (h : schema.read json = .ok datum) : datum.Ordered := by
  match schema with
  | .bool =>
      cases json <;> cases h
      trivial
  | .integer name low high => exact ordered_readInteger h
  | .float => exact ordered_readFloat h
  | .single => exact ordered_readFloat h
  | .text =>
      cases json <;> cases h
      trivial
  | .json =>
      cases h
      exact hjson
  | .list item =>
      cases json with
      | arr items =>
          rw [Json.Ordered, orderedItems_iff] at hjson
          obtain ⟨data, hdata, rfl⟩ := Outcome.map_eq_ok_iff.1 h
          apply Datum.ordered_list
          intro inner hinner
          obtain ⟨given, hgiven, hread⟩ := Outcome.mem_of_mapM hdata hinner
          exact ordered_read item (hjson given hgiven) hread
      | _ => cases h
  | .option item =>
      by_cases hnull : json = .null
      · subst hnull
        cases h
        trivial
      · rw [read] at h
        · obtain ⟨inner, hinner, rfl⟩ := Outcome.map_eq_ok_iff.1 h
          have hordered : inner.Ordered := ordered_read item hjson hinner
          exact hordered
        · exact hnull
  | .record name fields =>
      cases json with
      | obj members =>
          rw [Json.Ordered, orderedMembers_iff] at hjson
          obtain ⟨found, hfound, h⟩ := Outcome.bind_eq_ok_iff.1 h
          obtain ⟨collected, hcollected, h⟩ := Outcome.bind_eq_ok_iff.1 h
          cases h
          apply Datum.ordered_record
          apply ordered_collect hcollected
          intro field hfield
          obtain ⟨⟨member, value⟩, hmember, hread⟩ :=
            Outcome.mem_of_filterMapM hfound hfield
          dsimp only at hread
          split at hread
          · rename_i result hresult
            obtain ⟨read, hread, heq⟩ := Outcome.map_eq_ok_iff.1 hread
            cases heq
            subst hread
            exact ordered_readMember fields (hjson.2 member value hmember)
              hresult
          · cases hread
      | arr items =>
          rw [Json.Ordered] at hjson
          obtain ⟨⟨found, left⟩, hfound, h⟩ := Outcome.bind_eq_ok_iff.1 h
          have hread : Datum.record found = datum := by
            dsimp only at h
            split at h
            · cases h
              rfl
            · cases h
          subst hread
          apply Datum.ordered_record
          exact ordered_readPlaces fields hjson hfound
      | _ => cases h

theorem ordered_readMember (fields : List (String × Schema)) {name : String}
    {value : Json} (hvalue : value.Ordered) {field : String × Datum}
    (h : readMember fields name value = some (.ok field)) :
    field.2.Ordered := by
  match fields with
  | [] => cases h
  | (other, schema) :: rest =>
      rw [readMember] at h
      split at h
      · rw [Option.some.injEq] at h
        obtain ⟨datum, hread, rfl⟩ := Outcome.map_eq_ok_iff.1 h
        exact ordered_read schema hvalue hread
      · exact ordered_readMember rest hvalue h

theorem ordered_readPlaces (fields : List (String × Schema))
    {recordName : String} {fieldCount place left : Nat} {items : List Json}
    (hitems : OrderedItems items) {found : List (String × Datum)}
    (h : readPlaces recordName fieldCount place fields items =
      .ok (found, left)) :
    ∀ field ∈ found, field.2.Ordered := by
  match fields, items with
  | [], items =>
      cases h
      intro field hfield
      cases hfield
  | _ :: _, [] => cases h
  | (name, schema) :: rest, item :: items =>
      rw [OrderedItems] at hitems
      obtain ⟨datum, hdatum, h⟩ := Outcome.bind_eq_ok_iff.1 h
      obtain ⟨⟨others, count⟩, hothers, h⟩ := Outcome.bind_eq_ok_iff.1 h
      cases h
      rw [List.forall_mem_cons]
      exact ⟨ordered_read schema hitems.1 hdatum,
        ordered_readPlaces rest hitems.2 hothers⟩

end

end Schema

/-- What the type reads from ordered JSON it writes as ordered JSON. -/
def ObjectType.KeepsOrder {α : Type} (type : ObjectType α) : Prop :=
  ∀ json value form, json.Ordered → type.read json = .ok value →
    type.write value = .ok form → form.Ordered

theorem ObjectType.keepsOrder_ofSchema (name : String) (schema : Schema) :
    (ObjectType.ofSchema name schema).KeepsOrder := by
  intro json datum form hjson hread hwrite
  cases hwrite
  exact schema.ordered_read hjson hread

namespace Registry

variable {α : Type}

/-- The types of the registry keep JSON in order. -/
def KeepsOrder (registry : Registry α) : Prop :=
  ∀ name type, registry.find? name = some type → type.KeepsOrder

theorem keepsOrder_empty : (empty : Registry α).KeepsOrder := by
  intro name type hfind
  cases hfind

theorem KeepsOrder.registerAs {registry : Registry α}
    (h : registry.KeepsOrder) {type : ObjectType α} (htype : type.KeepsOrder)
    (name : String) : (registry.registerAs name type).KeepsOrder := by
  intro other found hfind
  rw [find?_registerAs] at hfind
  split at hfind
  · cases hfind
    exact htype
  · exact h other found hfind

theorem KeepsOrder.foldl_register {registry : Registry α}
    (h : registry.KeepsOrder) {types : List (ObjectType α)}
    (htypes : ∀ type ∈ types, type.KeepsOrder) :
    (types.foldl register registry).KeepsOrder := by
  induction types generalizing registry with
  | nil => exact h
  | cons type rest ih =>
      rw [List.forall_mem_cons] at htypes
      exact ih (h.registerAs htypes.1 type.name) htypes.2

/-- The types that every snapshot may hold keep JSON in order. -/
theorem keepsOrder_standard : standard.KeepsOrder := by
  apply keepsOrder_empty.foldl_register
  intro type htype
  simp only [standardTypes, integerType, List.mem_cons, List.not_mem_nil,
    or_false] at htype
  rcases htype with rfl | rfl | rfl | rfl | rfl | rfl | rfl | rfl | rfl | rfl |
    rfl | rfl | rfl
  all_goals exact ObjectType.keepsOrder_ofSchema _ _

end Registry
end RegionSnapshot
