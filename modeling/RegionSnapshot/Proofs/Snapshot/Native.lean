/-
Native documents.  An element that an instance can hold is written as it was
read, with the members that name no class taken out at every depth and nothing
else changed.  The typed object that such an instance makes, or the failure to
make one, is the one of the element itself.
-/
import RegionSnapshot.Proofs.Snapshot.RoundTrip

namespace RegionSnapshot

open Json

variable {α : Type}

theorem membersWithoutReserved_erase (name : String)
    (members : List (String × Json)) :
    membersWithoutReserved (Entries.erase name members) =
      Entries.erase name (membersWithoutReserved members) := by
  induction members with
  | nil => rfl
  | cons member rest ih =>
      obtain ⟨other, value⟩ := member
      by_cases hname : other = name
      · subst hname
        by_cases hreserved : namesReserved other value = true <;>
          simp [Entries.erase_cons, membersWithoutReserved, hreserved, ih]
      · by_cases hreserved : namesReserved other value = true <;>
          simp [Entries.erase_cons, membersWithoutReserved, hname, hreserved, ih]

/-- The key of an element plays no part in its typed object. -/
theorem Registry.readObject_erase (registry : Registry α)
    (members : List (String × Json)) :
    registry.readObject (.obj (Entries.erase identifierMember members)) =
      registry.readObject (.obj members) := by
  have hne : typeMember ≠ identifierMember := by decide
  have hname : typeNameOf? (Entries.erase identifierMember members) =
      typeNameOf? members := by
    rw [typeNameOf?, typeNameOf?, Entries.get?_erase, if_neg hne]
  have hpayload : payloadMembers (Entries.erase identifierMember members) =
      payloadMembers members := by
    simp only [payloadMembers, Entries.erase, List.filter_filter]
    grind
  rw [readObject, readObject, hname, hpayload]

namespace Portable

/-- The members of an object with the key of an instance, if it has one. -/
def keyed (p : Portable α) (members : List (String × Json)) :
    List (String × Json) :=
  match p.identifier with
  | some key => Entries.insert identifierMember key.toJson members
  | none => members

theorem sorted_keyed (p : Portable α) {members : List (String × Json)}
    (h : Entries.Sorted members) : Entries.Sorted (p.keyed members) := by
  rw [keyed]
  split
  · exact h.insert _ _
  · exact h

theorem ordered_keyed (p : Portable α) {members : List (String × Json)}
    (h : (Json.obj members).Ordered) : (Json.obj (p.keyed members)).Ordered := by
  rw [keyed]
  split
  · exact h.insert (ordered_key _) identifierMember
  · exact h

theorem get?_keyed (p : Portable α) {members : List (String × Json)}
    (hnone : Entries.get? identifierMember members = none) (name : String) :
    Entries.get? name (p.keyed members) =
      if name = identifierMember then p.identifier.map Key.toJson
      else Entries.get? name members := by
  rw [keyed]
  cases p.identifier with
  | none =>
      by_cases hname : name = identifierMember
      · rw [if_pos hname, hname, hnone]
        rfl
      · rw [if_neg hname]
  | some key => exact Entries.get?_insert _ _ _ _

theorem renderInstance_of_render {p : Portable α}
    {members : List (String × Json)} (h : p.render = .ok (.obj members)) :
    Snapshot.renderInstance p = .ok (.obj (p.keyed members)) := by
  rw [Snapshot.renderInstance, h, keyed]
  cases p.identifier <;> rfl

/-- An instance is rendered for a document with its class, its key and its
fields. -/
theorem exists_renderInstance {p : Portable α}
    (huntyped : p.untypedObject? = none) (h : p.HasPlainFields) :
    ∃ members, Snapshot.renderInstance p = .ok (.obj members) ∧
      p.Rendered members := by
  obtain ⟨members, hrender, hrendered⟩ := exists_render huntyped h
  have hget := p.get?_keyed hrendered.identifier
  refine ⟨_, renderInstance_of_render hrender,
    p.sorted_keyed hrendered.sorted, ?_, ?_, ?_⟩
  · rw [hget, if_neg (by decide)]
    exact hrendered.type
  · rw [hget, if_pos rfl]
  · intro name hname
    rw [hget, if_neg (isMetadata_eq_false_iff.1 hname).2]
    exact hrendered.field name hname

/-- What an instance holds is rendered again, without the members that name no
class. -/
theorem Holds.renderInstance {p : Portable α}
    {members : List (String × Json)} (hordered : (Json.obj members).Ordered)
    (h : p.Holds members) :
    Snapshot.renderInstance p = .ok (Json.obj members).withoutReserved := by
  rw [Json.Ordered, orderedMembers_iff] at hordered
  obtain ⟨rendered, hrender, hrendered⟩ :=
    exists_renderInstance (untypedObject?_of_object h.object) h.hasPlainFields
  rw [hrender, Json.withoutReserved,
    hrendered.eq_membersWithoutReserved hordered.1 h
      (fun name value hmember field hread =>
        decorateField_ofJson (hordered.2 name value hmember) hread)]

/-- Only objects are read as instances, and these hold them. -/
theorem exists_holds_of_ofJson {json : Json} (hordered : json.Ordered)
    {p : Portable α} (h : Portable.ofJson json = .ok p) :
    ∃ members, json = .obj members ∧ p.Holds members := by
  cases json with
  | obj members => exact ⟨members, rfl, holds_of_instanceOfMembers hordered.1 h⟩
  | _ => cases h

end Portable

namespace Snapshot

/-- Native elements are read, and their instances are rendered as the elements
without the members that name no class. -/
theorem exists_renderInstances (registry : Registry α) {elements : List Json}
    (hordered : OrderedItems elements)
    (hnative : ∀ element ∈ elements,
      ∃ p : Portable α, Portable.ofJson element = .ok p) :
    ∃ instances : List (Portable α),
      elements.mapM (Portable.ofElement registry Stage.standard) =
        .ok instances ∧
      renderInstances instances =
        .ok (.arr (elements.map withoutReserved)) := by
  induction elements with
  | nil => exact ⟨[], rfl, rfl⟩
  | cons element rest ih =>
      rw [OrderedItems] at hordered
      rw [List.forall_mem_cons] at hnative
      obtain ⟨instances, hread, hrender⟩ := ih hordered.2 hnative.2
      obtain ⟨p, hp⟩ := hnative.1
      obtain ⟨members, rfl, hholds⟩ :=
        Portable.exists_holds_of_ofJson hordered.1 hp
      have hfirst : Portable.ofElement registry Stage.standard (.obj members) =
          .ok p := Stage.ofElement_obj_eq_ok_iff.2 (.inl hp)
      obtain ⟨rendered, hrendered, heq⟩ := Outcome.map_eq_ok_iff.1 hrender
      cases heq
      refine ⟨p :: instances, ?_, ?_⟩
      · rw [List.mapM_cons, hfirst, hread]
        rfl
      · rw [renderInstances, List.mapM_cons, hholds.renderInstance hordered.1,
          hrendered]
        rfl

/-- Writing undoes reading on native documents: each element comes out in its
place as it was, with the members that name no class taken out at every depth
and nothing else changed. -/
theorem renderInstances_of_native (registry : Registry α) {bytes : Bytes}
    {json : Json} {elements : List Json} (hbytes : Spells bytes json)
    (helements : json.elements? = some elements)
    (hnative : ∀ element ∈ elements,
      ∃ p : Portable α, Portable.ofJson element = .ok p) :
    ∃ instances, decode registry bytes = .ok instances ∧
      renderInstances instances =
        .ok (.arr (elements.map withoutReserved)) ∧
      encodeInstances instances =
        .ok (document (.arr (elements.map withoutReserved))) := by
  have hordered := hbytes.ordered.elements? helements
  obtain ⟨instances, hread, hrender⟩ :=
    exists_renderInstances registry hordered hnative
  have hdecode : decode registry bytes = .ok instances :=
    decode_eq_ok_iff.2 ⟨json, hbytes,
      Portable.ofElements_eq_ok_iff.2 ⟨elements, helements, hread⟩⟩
  refine ⟨instances, hdecode, hrender, ?_⟩
  rw [encodeInstances, hrender]
  rfl

/-- An order without a class of its own, which says so, and a line with a class
and a key. -/
def orderDocument : Json :=
  .arr [.obj [("@identifier", .ofInt64 4), ("@type", .str noClassName),
    ("lines", .arr [.obj [("@identifier", .str "first"),
      ("@type", .str "app::Line"), ("count", .ofInt64 3)]])]]

theorem spells_orderDocument :
    Spells (document orderDocument) orderDocument := by
  have hordered : orderDocument.Ordered := by
    simp only [orderDocument, Json.Ordered, OrderedItems, OrderedMembers,
      Entries.Sorted, ofInt64, and_true, true_and]
    decide
  have hnumbers : orderDocument.NumbersReadBack := by
    simp [orderDocument, NumbersReadBack, NumbersReadBackItems,
      NumbersReadBackMembers, ofInt64, Number.reread?_int]
  exact spells_elements (by decide) hordered hnumbers

theorem renderInstances_of_native_order :
    Spells (document orderDocument) orderDocument ∧
    ∃ elements, orderDocument.elements? = some elements ∧
      (∀ element ∈ elements,
        ∃ p : Portable Datum, Portable.ofJson element = .ok p) ∧
      ∃ instances, decode treeRegistry (document orderDocument) =
          .ok instances ∧
        renderInstances instances = .ok (.arr [.obj [
          ("@identifier", .ofInt64 4),
          ("lines", .arr [.obj [("@identifier", .str "first"),
            ("@type", .str "app::Line"), ("count", .ofInt64 3)]])]]) := by
  have hnative : ∀ element ∈ [Json.obj [("@identifier", .ofInt64 4),
      ("@type", .str noClassName),
      ("lines", .arr [.obj [("@identifier", .str "first"),
        ("@type", .str "app::Line"), ("count", .ofInt64 3)]])]],
      ∃ p : Portable Datum, Portable.ofJson element = .ok p := by
    intro element helement
    rw [List.mem_singleton.1 helement]
    exact ⟨_, by rfl⟩
  obtain ⟨instances, hread, hrender, -⟩ :=
    renderInstances_of_native treeRegistry spells_orderDocument rfl hnative
  exact ⟨spells_orderDocument, _, rfl, hnative, instances, hread, hrender⟩

/-- A native element makes the typed object that it makes without the members
that name no class, or fails in the same way. -/
theorem toObject_of_native (registry : Registry α) {json : Json}
    (hordered : json.Ordered) {p : Portable α}
    (h : Portable.ofJson json = .ok p) :
    toObject registry p = registry.readObject json.withoutReserved := by
  obtain ⟨members, rfl, hholds⟩ := Portable.exists_holds_of_ofJson hordered h
  rw [toObject_of_holds registry hordered hholds, membersWithoutReserved_erase,
    registry.readObject_erase, withoutReserved]

/-- The object of a native instance is the object of the element that it was
read from, and so is the failure to make one. -/
theorem toObject_eq_readObject (registry : Registry α) {json : Json}
    (hordered : json.Ordered) (hunreserved : json.hasReserved = false)
    {p : Portable α} (h : Portable.ofJson json = .ok p) :
    toObject registry p = registry.readObject json := by
  rw [toObject_of_native registry hordered h,
    withoutReserved_eq_self hunreserved]

theorem toObject_eq_readObject_tree :
    ∃ element, element.Ordered ∧ element.hasReserved = false ∧
      ∃ p, Portable.ofJson element = .ok p ∧
        toObject treeRegistry p = treeRegistry.readObject element ∧
        toObject treeRegistry p =
          .ok (treeObject (.obj [("id", .str "own")])) := by
  have hordered : (Json.obj [("@identifier", .ofInt64 4),
      ("@type", .str "app::Tree"), ("id", .str "own")]).Ordered := by
    simp only [Json.Ordered, OrderedMembers, Entries.Sorted, ofInt64, and_true]
    decide
  have hobject := toObject_eq_readObject treeRegistry hordered rfl (by rfl)
  exact ⟨_, hordered, rfl, _, by rfl, hobject, hobject⟩

end Snapshot
end RegionSnapshot
