/-
Snapshots as documents.  A document is read element by element, and so comes
back as the elements that it was written from if it nests no deeper than the
reader follows and its numbers are read back.  Every element of a region is an
object in order with the key of its entry.
-/
import RegionSnapshot.Proofs.Json.Ordered
import RegionSnapshot.Proofs.Snapshot.Elements
import RegionSnapshot.Proofs.Utf8

namespace RegionSnapshot

open Json

variable {α : Type}

/-- The elements of a document: the items of an array, or a single object. -/
def Json.elements? : Json → Option (List Json)
  | .arr items => some items
  | .obj members => some [.obj members]
  | _ => none

theorem Json.Ordered.elements? {json : Json} {elements : List Json}
    (h : json.Ordered) (helements : json.elements? = some elements) :
    OrderedItems elements := by
  cases json with
  | arr items =>
      cases helements
      exact h
  | obj members =>
      cases helements
      exact ⟨h, trivial⟩
  | _ => cases helements

/-- A document is read if each of its elements is. -/
theorem Portable.ofElements_eq_ok_iff {registry : Registry α}
    {stages : List Stage} {json : Json} {instances : List (Portable α)} :
    Portable.ofElements registry stages json = .ok instances ↔
      ∃ elements, json.elements? = some elements ∧
        elements.mapM (Portable.ofElement registry stages) = .ok instances := by
  cases json with
  | arr items => simp [ofElements, elements?]
  | obj members => simp [ofElements, elements?]
  | _ => simp [ofElements, elements?]

/-- The data of an entry stand in order: what a typed object is written as, and
the fields of an instance. -/
def Value.Ordered : Value α → Prop
  | .object typed => ∀ json, typed.toJson = .ok json → json.Ordered
  | .portable p => p.Ordered ∧
      ∀ typed, p.object = some typed →
        ∀ json, typed.toJson = .ok json → json.Ordered

theorem ordered_objectFields {json : Json} (h : json.Ordered) :
    (Json.obj (objectFields json)).Ordered := by
  rcases objectFields_cases json with hwrapped | ⟨-, hplain⟩
  · rw [hwrapped]
    simp [Json.Ordered, OrderedMembers, Entries.Sorted, h]
  · exact hplain ▸ h

/-- A field map has no member that the value itself has not, but for the
payload. -/
theorem get?_objectFields_eq_none {json : Json} {name : String}
    (hne : payloadField ≠ name) (h : json.get? name = none) :
    Entries.get? name (objectFields json) = none := by
  rcases objectFields_cases json with hwrapped | ⟨-, hplain⟩
  · simp [hwrapped, Entries.get?, hne]
  · rwa [hplain, Json.get?] at h

/-- A value that names no class has a field map that names none. -/
theorem unreserved_objectFields {json : Json} (h : json.hasReserved = false) :
    membersHaveReserved (objectFields json) = false := by
  have hpayload : namesReserved payloadField json = false := by
    simp [namesReserved, payloadField, typeMember]
  rcases objectFields_cases json with hwrapped | ⟨-, hplain⟩
  · simp [hwrapped, membersHaveReserved, hpayload, h]
  · rwa [hplain, hasReserved] at h

/-- A typed object is written as an ordered object. -/
theorem TypedObject.exists_render {object : TypedObject α} {json : Json}
    (hordered : ∀ form, object.toJson = .ok form → form.Ordered)
    (h : object.render = .ok json) :
    ∃ members, json = .obj members ∧ (Json.obj members).Ordered := by
  rw [render] at h
  cases hform : object.toJson with
  | error reason =>
      rw [hform] at h
      cases h
  | ok form =>
      rw [hform] at h
      cases h
      have hfields := ordered_objectFields (hordered form hform)
      rw [Ordered] at hfields
      have hname : (Json.str object.typeName).Ordered := trivial
      exact ⟨_, rfl, hfields.1.insert _ _, hfields.2.insert hname _⟩

theorem Portable.object_of_untypedObject? {p : Portable α}
    {object : TypedObject α} (h : p.untypedObject? = some object) :
    p.object = some object := by
  rw [untypedObject?] at h
  split at h
  · cases h
  · exact h

namespace Snapshot

theorem exists_renderValue {value : Value α} {json : Json}
    (hordered : value.Ordered) (h : renderValue value = .ok json) :
    ∃ members, json = .obj members ∧ (Json.obj members).Ordered := by
  cases value with
  | object object => exact TypedObject.exists_render hordered h
  | portable p =>
      rw [renderValue, Portable.render] at h
      split at h
      · rename_i object huntyped
        have hobject := Portable.object_of_untypedObject? huntyped
        exact TypedObject.exists_render (hordered.2 object hobject) h
      · cases h
        refine ⟨_, Portable.decorate_obj p _, ?_⟩
        rw [← Portable.decorate_obj p]
        exact Portable.ordered_decorate
          (fun _ field _ _ => Portable.ordered_decorateField field)
          hordered.1.toJson

/-- The element of an entry is an ordered object with the key of the entry. -/
theorem exists_renderEntry {entry : Key × Value α} {element : Json}
    (hordered : entry.2.Ordered) (h : renderEntry entry = .ok element) :
    ∃ members, element = .obj members ∧ (Json.obj members).Ordered ∧
      Entries.get? identifierMember members = some entry.1.toJson := by
  obtain ⟨json, hjson, hkey⟩ := Outcome.map_eq_ok_iff.1 h
  obtain ⟨members, rfl, hmembers⟩ := exists_renderValue hordered hjson
  rw [Ordered] at hmembers
  refine ⟨_, hkey.symm, ⟨hmembers.1.insert _ _,
    hmembers.2.insert (Portable.ordered_key entry.1) _⟩, ?_⟩
  rw [Entries.get?_insert, if_pos rfl]

/-- What the elements of a document are read as, in the room that the array
around them leaves. -/
def rereadElements? (elements : List Json) : Option (List Json) :=
  rereadItems? (depthLimit - 1) elements

theorem parse_arr {elements : List Json} (h : OrderedItems elements) :
    Json.parse (Json.arr elements).pretty =
      match rereadElements? elements with
      | some read => .ok (.arr read)
      | none => .error .malformed := by
  have hordered : (Json.arr elements).Ordered := h
  rw [parse_pretty hordered (fun _ => Json.noConfusion), reread?,
    if_neg (by decide), rereadElements?]
  cases rereadItems? (depthLimit - 1) elements <;> rfl

/-- A document is read element by element, as its elements are read back. -/
theorem decode_document (registry : Registry α) {elements : List Json}
    (h : OrderedItems elements) :
    decode registry (document (.arr elements)) =
      match rereadElements? elements with
      | some read => read.mapM (Portable.ofElement registry Stage.standard)
      | none => .error (.failed "JSON" "PortableInstance[]"
          (.syntaxFault .malformed)) := by
  rw [decode, document, Utf8.decode_encode]
  dsimp only
  rw [Portable.parseElements, Json.parseFor, parse_arr h]
  cases rereadElements? elements <;> rfl

/-- What is written of each item and read back as an instance makes a list of
elements and a list of instances. -/
theorem exists_elements {ι β : Type} (registry : Registry α) {items : List ι}
    (render : ι → Except ConversionError Json)
    (given : ι → β) (found : Portable α → β)
    (h : ∀ item ∈ items, ∃ element p, element.Ordered ∧
      render item = .ok element ∧
      Portable.ofElement registry Stage.standard element = .ok p ∧
      found p = given item) :
    ∃ elements instances, OrderedItems elements ∧
      items.mapM render = .ok elements ∧
      elements.mapM (Portable.ofElement registry Stage.standard) =
        .ok instances ∧
      instances.map found = items.map given := by
  induction items with
  | nil => exact ⟨[], [], trivial, rfl, rfl, rfl⟩
  | cons item rest ih =>
      rw [List.forall_mem_cons] at h
      obtain ⟨element, p, hordered, hrender, hread, hfound⟩ := h.1
      obtain ⟨elements, instances, hmore, hrenders, hreads, hfounds⟩ := ih h.2
      refine ⟨element :: elements, p :: instances, ⟨hordered, hmore⟩, ?_, ?_,
        ?_⟩
      · rw [List.mapM_cons, hrender, hrenders]
        rfl
      · rw [List.mapM_cons, hread, hreads]
        rfl
      · rw [List.map_cons, List.map_cons, hfound, hfounds]

/-- The bytes are a text that is read as the value. -/
def Spells (bytes : Bytes) (json : Json) : Prop :=
  ∃ text, Utf8.decode bytes = .ok text ∧ Json.parse text = .ok json

theorem Spells.ordered {bytes : Bytes} {json : Json} (h : Spells bytes json) :
    json.Ordered := by
  obtain ⟨text, -, hparse⟩ := h
  exact ordered_parse hparse

/-- Bytes write one value only. -/
theorem Spells.unique {bytes : Bytes} {json other : Json}
    (h : Spells bytes json) (hother : Spells bytes other) : json = other := by
  obtain ⟨text, hdecode, hparse⟩ := h
  obtain ⟨_, hdecode', hparse'⟩ := hother
  obtain rfl := Except.ok.inj (hdecode.symm.trans hdecode')
  exact Except.ok.inj (hparse.symm.trans hparse')

/-- The document of an object or an array is read as what its text is read
back as. -/
theorem spells_document {json read : Json} (hjson : json.Ordered)
    (hnumber : ∀ n, json ≠ .num n)
    (hread : reread? depthLimit json = some read) :
    Spells (document json) read := by
  refine ⟨json.pretty, Utf8.decode_encode _, ?_⟩
  rw [parse_pretty hjson hnumber, hread]

/-- The document of elements spells them if they nest no deeper than the reader
follows and their numbers are read back. -/
theorem spells_elements {elements : List Json}
    (hdepth : (Json.arr elements).depth ≤ depthLimit)
    (hordered : OrderedItems elements)
    (hnumbers : NumbersReadBackItems elements) :
    Spells (document (.arr elements)) (.arr elements) :=
  spells_document hordered (fun _ => Json.noConfusion)
    (reread?_eq_some hdepth hnumbers)

theorem decode_eq_ok_iff {registry : Registry α} {bytes : Bytes}
    {instances : List (Portable α)} :
    decode registry bytes = .ok instances ↔
      ∃ json, Spells bytes json ∧
        Portable.ofElements registry Stage.standard json = .ok instances := by
  rw [decode]
  constructor
  · intro h
    split at h
    · cases h
    · rename_i text htext
      rw [Portable.parseElements] at h
      obtain ⟨json, hjson, hread⟩ := Outcome.bind_eq_ok_iff.1 h
      rw [Json.parseFor] at hjson
      split at hjson
      · rename_i hparse
        cases hjson
        exact ⟨json, ⟨text, htext, hparse⟩, hread⟩
      · cases hjson
  · rintro ⟨json, ⟨text, htext, hparse⟩, hread⟩
    rw [htext]
    dsimp only
    rw [Portable.parseElements, Json.parseFor, hparse]
    exact hread

/-- A document whose value is known is decoded element by element. -/
theorem Spells.decode_eq_ok_iff {registry : Registry α} {bytes : Bytes}
    {json : Json} {elements : List Json} (hbytes : Spells bytes json)
    (helements : json.elements? = some elements)
    {instances : List (Portable α)} :
    decode registry bytes = .ok instances ↔
      elements.mapM (Portable.ofElement registry Stage.standard) =
        .ok instances := by
  rw [Snapshot.decode_eq_ok_iff]
  constructor
  · rintro ⟨other, hother, hread⟩
    obtain rfl := hbytes.unique hother
    obtain ⟨others, hothers, hread⟩ :=
      Portable.ofElements_eq_ok_iff.1 hread
    obtain rfl := Option.some.inj (helements.symm.trans hothers)
    exact hread
  · intro hread
    exact ⟨json, hbytes,
      Portable.ofElements_eq_ok_iff.2 ⟨elements, helements, hread⟩⟩

end Snapshot
end RegionSnapshot
