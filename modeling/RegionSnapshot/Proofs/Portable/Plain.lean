/-
Instances that JSON expresses.  Their fields stand in order, are named apart
from metadata, and are neither infinite nor an array in an array nor a tree of
their own.  Such an instance is read back from its rendering, without the
objects that it carried.
-/
import RegionSnapshot.Proofs.Portable.Rendered

namespace RegionSnapshot

namespace Field

variable {α : Type}

def isArray : Field α → Bool
  | .array _ => true
  | _ => false

mutual

/-- Every instance in the field has its fields in order, and so has every
tree. -/
def Ordered : Field α → Prop
  | .array items => OrderedItems items
  | .nested p => OrderedInstance p
  | .json value => value.Ordered
  | _ => True

def OrderedItems : List (Field α) → Prop
  | [] => True
  | item :: rest => item.Ordered ∧ OrderedItems rest

def OrderedFields : List (String × Field α) → Prop
  | [] => True
  | (_, field) :: rest => field.Ordered ∧ OrderedFields rest

def OrderedInstance : Portable α → Prop
  | .mk _ _ fields _ => Entries.Sorted fields ∧ OrderedFields fields

end

mutual

/-- JSON expresses the field: its doubles are finite, no array lies in an
array, no tree is kept, and each instance in it names a class that is not blank
and no field like metadata. -/
def Plain : Field α → Prop
  | .float x => x.isFinite = true
  | .array items => PlainItems items
  | .nested p => PlainInstance p
  | .json _ => False
  | _ => True

def PlainItems : List (Field α) → Prop
  | [] => True
  | item :: rest => item.isArray = false ∧ item.Plain ∧ PlainItems rest

def PlainFields : List (String × Field α) → Prop
  | [] => True
  | (name, field) :: rest =>
      Json.isMetadata name = false ∧ field.Plain ∧ PlainFields rest

def PlainInstance : Portable α → Prop
  | .mk className _ fields _ =>
      Text.isBlank className = false ∧ PlainFields fields

end

mutual

/-- The field without the objects that instances in it carry. -/
def bare : Field α → Field α
  | .array items => .array (bareItems items)
  | .nested p => .nested (bareInstance p)
  | field => field

def bareItems : List (Field α) → List (Field α)
  | [] => []
  | item :: rest => item.bare :: bareItems rest

def bareFields : List (String × Field α) → List (String × Field α)
  | [] => []
  | (name, field) :: rest => (name, field.bare) :: bareFields rest

def bareInstance : Portable α → Portable α
  | .mk className identifier fields _ =>
      .mk className identifier (bareFields fields) none

end

/-- Induction over a field and the fields in it. -/
@[elab_as_elim]
theorem induct {motive : Field α → Prop} (null : motive .null)
    (bool : ∀ value, motive (.bool value)) (int : ∀ n, motive (.int n))
    (float : ∀ x, motive (.float x)) (text : ∀ s, motive (.text s))
    (array : ∀ items, (∀ item ∈ items, motive item) → motive (.array items))
    (nested : ∀ p : Portable α,
      (∀ name field, (name, field) ∈ p.fields → motive field) →
        motive (.nested p))
    (json : ∀ value, motive (.json value)) (field : Field α) :
    motive field := by
  match field with
  | .null => exact null
  | .bool value => exact bool value
  | .int n => exact int n
  | .float x => exact float x
  | .text s => exact text s
  | .json value => exact json value
  | .array items =>
      apply array
      intro item hitem
      exact induct null bool int float text array nested json item
  | .nested (.mk className identifier fields object) =>
      apply nested
      intro name inner hfield
      have hsize := List.sizeOf_lt_of_mem hfield
      exact induct null bool int float text array nested json inner
termination_by field
decreasing_by
  · have hsize := List.sizeOf_lt_of_mem hitem
    simp only [Field.array.sizeOf_spec]
    omega
  · simp only [Portable.fields, Prod.mk.sizeOf_spec, Portable.mk.sizeOf_spec,
      Field.nested.sizeOf_spec] at hsize ⊢
    omega

theorem orderedItems_iff {items : List (Field α)} :
    OrderedItems items ↔ ∀ item ∈ items, item.Ordered := by
  induction items with
  | nil => simp [OrderedItems]
  | cons item rest ih => simp [OrderedItems, ih]

theorem orderedFields_iff {fields : List (String × Field α)} :
    OrderedFields fields ↔
      ∀ name field, (name, field) ∈ fields → field.Ordered := by
  induction fields with
  | nil => simp [OrderedFields]
  | cons first rest ih =>
      obtain ⟨name, field⟩ := first
      rw [OrderedFields, ih]
      simp only [List.mem_cons, Prod.mk.injEq]
      constructor
      · rintro ⟨hfirst, hrest⟩ other inner (⟨-, rfl⟩ | hold)
        · exact hfirst
        · exact hrest other inner hold
      · intro h
        exact ⟨h name field (.inl ⟨rfl, rfl⟩),
          fun other inner hold => h other inner (.inr hold)⟩

theorem plainItems_iff {items : List (Field α)} :
    PlainItems items ↔
      ∀ item ∈ items, item.isArray = false ∧ item.Plain := by
  induction items with
  | nil => simp [PlainItems]
  | cons item rest ih => simp [PlainItems, ih, and_assoc]

theorem plainFields_iff {fields : List (String × Field α)} :
    PlainFields fields ↔
      ∀ name field, (name, field) ∈ fields →
        Json.isMetadata name = false ∧ field.Plain := by
  induction fields with
  | nil => simp [PlainFields]
  | cons first rest ih =>
      obtain ⟨name, field⟩ := first
      rw [PlainFields, ih]
      simp only [List.mem_cons, Prod.mk.injEq]
      constructor
      · rintro ⟨hname, hfirst, hrest⟩ other inner (⟨rfl, rfl⟩ | hold)
        · exact ⟨hname, hfirst⟩
        · exact hrest other inner hold
      · intro h
        have hfirst := h name field (.inl ⟨rfl, rfl⟩)
        exact ⟨hfirst.1, hfirst.2,
          fun other inner hold => h other inner (.inr hold)⟩

theorem bareFields_eq_map (fields : List (String × Field α)) :
    bareFields fields = fields.map (fun entry => (entry.1, entry.2.bare)) := by
  induction fields with
  | nil => rfl
  | cons first rest ih =>
      obtain ⟨name, field⟩ := first
      rw [bareFields, ih]
      rfl

theorem get?_bareFields (name : String) (fields : List (String × Field α)) :
    Entries.get? name (bareFields fields) =
      (Entries.get? name fields).map bare := by
  rw [bareFields_eq_map]
  exact Entries.get?_mapValues (fun _ field => field.bare) name fields

theorem sorted_bareFields {fields : List (String × Field α)}
    (h : Entries.Sorted fields) : Entries.Sorted (bareFields fields) := by
  refine h.of_keys_eq ?_
  rw [bareFields_eq_map, List.map_map]
  rfl

end Field

namespace Portable

open Json

variable {α : Type}

/-- The fields of the instance and of all instances in it stand in order. -/
def Ordered (p : Portable α) : Prop :=
  Field.OrderedInstance p

/-- JSON expresses the instance. -/
def Plain (p : Portable α) : Prop :=
  Field.PlainInstance p

/-- The instance without carried objects, also those deeper in it. -/
def bare (p : Portable α) : Portable α :=
  Field.bareInstance p

theorem Ordered.sorted {p : Portable α} (h : p.Ordered) :
    Entries.Sorted p.fields := by
  obtain ⟨className, identifier, fields, object⟩ := p
  exact h.1

theorem Ordered.field {p : Portable α} (h : p.Ordered) {name : String}
    {field : Field α} (hfield : (name, field) ∈ p.fields) : field.Ordered := by
  obtain ⟨className, identifier, fields, object⟩ := p
  exact Field.orderedFields_iff.1 h.2 name field hfield

theorem Plain.notBlank {p : Portable α} (h : p.Plain) :
    Text.isBlank p.className = false := by
  obtain ⟨className, identifier, fields, object⟩ := p
  exact h.1

theorem Plain.field {p : Portable α} (h : p.Plain) {name : String}
    {field : Field α} (hfield : (name, field) ∈ p.fields) :
    isMetadata name = false ∧ field.Plain := by
  obtain ⟨className, identifier, fields, object⟩ := p
  exact Field.plainFields_iff.1 h.2 name field hfield

theorem Ordered.setIdentifier {p : Portable α} (h : p.Ordered) {key : Key} :
    (p.setIdentifier key).Ordered := by
  obtain ⟨className, identifier, fields, object⟩ := p
  exact h

theorem Plain.setIdentifier {p : Portable α} (h : p.Plain) {key : Key} :
    (p.setIdentifier key).Plain := by
  obtain ⟨className, identifier, fields, object⟩ := p
  exact h

theorem Plain.hasPlainFields {p : Portable α} (h : p.Plain)
    (hordered : p.Ordered) : p.HasPlainFields := by
  refine ⟨hordered.sorted, fun name hname => ?_⟩
  cases hfield : p.field? name with
  | none => rfl
  | some field =>
      have hplain := h.field (Entries.mem_of_get? hfield)
      rw [hname] at hplain
      exact absurd hplain.1 (by decide)

theorem field?_bare (p : Portable α) (name : String) :
    p.bare.field? name = (p.field? name).map Field.bare := by
  obtain ⟨className, identifier, fields, object⟩ := p
  exact Field.get?_bareFields name fields

theorem sorted_bare {p : Portable α} (h : Entries.Sorted p.fields) :
    Entries.Sorted p.bare.fields := by
  obtain ⟨className, identifier, fields, object⟩ := p
  exact Field.sorted_bareFields h

theorem className_bare (p : Portable α) : p.bare.className = p.className := by
  obtain ⟨className, identifier, fields, object⟩ := p
  rfl

theorem identifier_bare (p : Portable α) :
    p.bare.identifier = p.identifier := by
  obtain ⟨className, identifier, fields, object⟩ := p
  rfl

theorem object_bare (p : Portable α) : p.bare.object = none := by
  obtain ⟨className, identifier, fields, object⟩ := p
  rfl

/-- The class that is rendered of an instance is read back. -/
theorem classOfMember_classMember {p : Portable α}
    (h : Text.isBlank p.className = false) :
    ((if p.hasClass then some (Json.str p.className) else none).map
      Field.classOfMember).getD (.ok noClassName) = .ok p.className := by
  by_cases hclass : p.hasClass = true
  · rw [if_pos hclass, Option.map_some, Option.getD_some]
    exact Field.classOfMember_eq_ok_iff.2 ⟨rfl, h⟩
  · have hname : p.className = noClassName := by
      simpa [hasClass, namesClass, h] using hclass
    rw [if_neg hclass, hname]
    rfl

/-- What renders an instance is held by it, if its fields are read back. -/
theorem Rendered.holds {p : Portable α} {members : List (String × Json)}
    (hrendered : p.Rendered members) (hplain : p.Plain)
    (hordered : p.Ordered)
    (h : ∀ name field, (name, field) ∈ p.fields →
      Field.ofJson (decorateField field field.toJson).1 = .ok field.bare) :
    p.bare.Holds members := by
  have hfields := hplain.hasPlainFields hordered
  refine ⟨object_bare p, sorted_bare hordered.sorted, ?_, ?_, ?_, ?_⟩
  · intro name hname
    rw [field?_bare, hfields.plain name hname]
    rfl
  · rw [hrendered.type, className_bare]
    exact classOfMember_classMember hplain.notBlank
  · rw [hrendered.identifier, identifier_bare]
  · intro name hname
    rw [hrendered.field name hname, field?_bare]
    cases hfield : p.field? name with
    | none => rfl
    | some field =>
        simp only [Option.map_some]
        rw [h name field (Entries.mem_of_get? hfield)]

theorem itemsOfJson_map {items : List (Field α)}
    (h : ∀ item ∈ items,
      Field.ofJson (decorateField item item.toJson).1 = .ok item.bare) :
    Field.itemsOfJson
        (items.map (fun item => (decorateField item item.toJson).1)) =
      .ok (Field.bareItems items) := by
  induction items with
  | nil => rfl
  | cons item rest ih =>
      rw [List.map_cons, Field.itemsOfJson, h item List.mem_cons_self,
        ih (fun other hother => h other (List.mem_cons_of_mem _ hother))]
      rfl

theorem isArray_decorateField {field : Field α} (hplain : field.Plain) :
    (decorateField field field.toJson).1.isArray = field.isArray := by
  match field with
  | .null | .bool _ | .int _ | .text _ | .array _ => rfl
  | .json _ => exact absurd hplain id
  | .float x =>
      rw [Field.Plain] at hplain
      simp only [decorateField, Field.toJson, Json.ofFloat, Number.ofFloat?,
        hplain, ↓reduceDIte]
      rfl
  | .nested (.mk className none fields object) => rfl
  | .nested (.mk className (some key) fields object) => rfl

/-- A field that JSON expresses is read back from its rendering. -/
theorem ofJson_decorateField {field : Field α} (hplain : field.Plain)
    (hordered : field.Ordered) :
    Field.ofJson (decorateField field field.toJson).1 = .ok field.bare := by
  induction field using Field.induct with
  | null | bool | int | text => rfl
  | json value => exact absurd hplain id
  | float x =>
      rw [Field.Plain] at hplain
      simp only [decorateField, Field.toJson, Json.ofFloat, Number.ofFloat?,
        hplain, ↓reduceDIte]
      rfl
  | nested p ih =>
      have hp : p.Plain := hplain
      have hpOrdered : p.Ordered := hordered
      obtain ⟨members, heq, hrendered⟩ :=
        exists_rendered p (hp.hasPlainFields hpOrdered)
      have hholds := hrendered.holds hp hpOrdered
        (fun name inner hinner => ih name inner hinner
          (hp.field hinner).2 (hpOrdered.field hinner))
      rw [heq, Field.ofJson,
        (instanceOfMembers_eq_ok_iff hrendered.sorted).2 hholds]
      rfl
  | array items ih =>
      rw [Field.Plain, Field.plainItems_iff] at hplain
      rw [Field.Ordered, Field.orderedItems_iff] at hordered
      simp only [Field.toJson, decorateField]
      rw [decorateItems_itemsToJson, Field.ofJson, if_neg]
      · rw [itemsOfJson_map (fun item hitem =>
          ih item hitem (hplain item hitem).2 (hordered item hitem))]
        rfl
      · rw [List.any_eq_true]
        rintro ⟨value, hvalue, harray⟩
        obtain ⟨item, hitem, rfl⟩ := List.mem_map.1 hvalue
        have hflat := isArray_decorateField (hplain item hitem).2
        rw [hflat, (hplain item hitem).1] at harray
        cases harray

theorem orderedMembers_decorateFields {fields : List (String × Field α)}
    (h : ∀ name field, (name, field) ∈ fields →
      ∀ json : Json, json.Ordered → (decorateField field json).1.Ordered)
    {members : List (String × Json)} (hmembers : OrderedMembers members) :
    OrderedMembers (decorateFields fields members).1 := by
  induction fields generalizing members with
  | nil => exact hmembers
  | cons first rest ih =>
      obtain ⟨name, field⟩ := first
      have hrest := fun other inner hinner =>
        h other inner (List.mem_cons_of_mem (name, field) hinner)
      cases hget : Entries.get? name members with
      | none =>
          simp only [decorateFields, hget]
          exact ih hrest hmembers
      | some value =>
          simp only [decorateFields, hget]
          apply ih hrest
          apply hmembers.insert
          exact h name field List.mem_cons_self value
            (Json.Ordered.of_get? hmembers hget)

theorem orderedItems_decorateItems {items : List (Field α)}
    (h : ∀ item ∈ items,
      ∀ json : Json, json.Ordered → (decorateField item json).1.Ordered)
    {values : List Json} (hvalues : Json.OrderedItems values) :
    Json.OrderedItems (decorateItems items values).1 := by
  induction items generalizing values with
  | nil => exact hvalues
  | cons item rest ih =>
      cases values with
      | nil => exact hvalues
      | cons value values =>
          rw [Json.OrderedItems] at hvalues
          simp only [decorateItems, Json.OrderedItems]
          exact ⟨h item List.mem_cons_self value hvalues.1,
            ih (fun other hother => h other (List.mem_cons_of_mem _ hother))
              hvalues.2⟩

theorem orderedMembers_nameMembers {members : List (String × Json)}
    (h : OrderedMembers members) (className : String) :
    OrderedMembers (nameMembers className members).1 := by
  have hname : (Json.str className).Ordered := trivial
  rw [nameMembers]
  split
  · exact h.insert hname typeMember
  · exact h

theorem ordered_decorate {p : Portable α}
    (h : ∀ name field, (name, field) ∈ p.fields →
      ∀ json : Json, json.Ordered → (decorateField field json).1.Ordered)
    {json : Json} (hjson : json.Ordered) : (p.decorate json).1.Ordered := by
  cases json with
  | obj members =>
      rw [Json.Ordered] at hjson
      rw [decorate_obj]
      refine ⟨sorted_decorateFields p.fields
        (sorted_nameMembers hjson.1 p.className), ?_⟩
      exact orderedMembers_decorateFields h
        (orderedMembers_nameMembers hjson.2 p.className)
  | _ =>
      obtain ⟨className, identifier, fields, object⟩ := p
      exact hjson

/-- Class names keep a tree in order. -/
theorem ordered_decorateField (field : Field α) {json : Json}
    (hjson : json.Ordered) : (decorateField field json).1.Ordered := by
  induction field using Field.induct generalizing json with
  | null | bool | int | float | text | json => exact hjson
  | nested p ih => exact ordered_decorate (fun name field hfield _ =>
      ih name field hfield) hjson
  | array items ih =>
      cases json with
      | arr values =>
          rw [Json.Ordered] at hjson
          exact orderedItems_decorateItems (fun item hitem _ => ih item hitem)
            hjson
      | _ => exact hjson

theorem orderedMembers_fieldsToMembers {fields : List (String × Field α)}
    (h : ∀ name field, (name, field) ∈ fields → field.toJson.Ordered) :
    OrderedMembers (Field.fieldsToMembers fields) := by
  rw [Field.fieldsToMembers_eq_map, orderedMembers_iff]
  intro name value hmember
  obtain ⟨⟨other, field⟩, hfield, heq⟩ := List.mem_map.1 hmember
  cases heq
  exact h other field hfield

theorem itemsToJson_eq_map (items : List (Field α)) :
    Field.itemsToJson items = items.map Field.toJson := by
  induction items with
  | nil => rfl
  | cons item rest ih => rw [Field.itemsToJson, ih, List.map_cons]

theorem ordered_ofFloat (x : Binary64) : (Json.ofFloat x).Ordered := by
  rw [Json.ofFloat]
  split <;> trivial

theorem ordered_key (key : Key) : key.toJson.Ordered := by
  cases key <;> trivial

/-- An ordered field has an ordered form. -/
theorem ordered_toJson {field : Field α} (h : field.Ordered) :
    field.toJson.Ordered := by
  induction field using Field.induct with
  | null | bool | int | text => trivial
  | float x => exact ordered_ofFloat x
  | json value => exact h
  | array items ih =>
      rw [Field.Ordered, Field.orderedItems_iff] at h
      rw [Field.toJson, itemsToJson_eq_map, Json.Ordered,
        Json.orderedItems_iff]
      intro value hvalue
      obtain ⟨item, hitem, rfl⟩ := List.mem_map.1 hvalue
      exact ih item hitem (h item hitem)
  | nested p ih =>
      have hp : p.Ordered := h
      obtain ⟨className, identifier, fields, object⟩ := p
      have hsorted := Field.sorted_fieldsToMembers hp.sorted
      have hmembers := orderedMembers_fieldsToMembers
        (fun name field hfield => ih name field hfield (hp.field hfield))
      cases identifier with
      | none => exact ⟨hsorted, hmembers⟩
      | some key => exact ⟨hsorted.insert _ _, hmembers.insert (ordered_key key) _⟩

theorem Ordered.toJson {p : Portable α} (h : p.Ordered) : p.toJson.Ordered :=
  ⟨Field.sorted_fieldsToMembers h.sorted,
    orderedMembers_fieldsToMembers
      (fun _ _ hfield => ordered_toJson (h.field hfield))⟩

end Portable
end RegionSnapshot
