/-
Instances with fields set anew.  An instance that was taken from a typed object
has its value twice, as the object and as fields.  Setting fields changes the
second one only: the rendering has each field as it was set last, while the
object is found as it was.
-/
import RegionSnapshot.Proofs.Snapshot.Renderings

namespace RegionSnapshot

open Json

variable {α : Type}

namespace Portable

/-- The instance with the fields set one after the other. -/
def setFields (p : Portable α) (edits : List (String × Field α)) : Portable α :=
  edits.foldl (fun q edit => q.setField edit.1 edit.2) p

theorem setFields_cons (p : Portable α) (name : String) (value : Field α)
    (rest : List (String × Field α)) :
    p.setFields ((name, value) :: rest) =
      (p.setField name value).setFields rest :=
  rfl

/-- Setting fields changes fields and nothing else. -/
theorem setFields_eq (p : Portable α) (edits : List (String × Field α)) :
    p.setFields edits = .mk p.className p.identifier
      (Entries.insertAll p.fields edits) p.object := by
  induction edits generalizing p with
  | nil => cases p; rfl
  | cons edit rest ih =>
      obtain ⟨name, value⟩ := edit
      rw [setFields_cons, ih]
      rfl

@[simp] theorem className_setFields (p : Portable α)
    (edits : List (String × Field α)) :
    (p.setFields edits).className = p.className := by
  rw [setFields_eq]
  rfl

@[simp] theorem object_setFields (p : Portable α)
    (edits : List (String × Field α)) :
    (p.setFields edits).object = p.object := by
  rw [setFields_eq]
  rfl

@[simp] theorem hasClass_setFields (p : Portable α)
    (edits : List (String × Field α)) :
    (p.setFields edits).hasClass = p.hasClass := by
  simp [hasClass]

theorem untypedObject?_setFields (p : Portable α)
    (edits : List (String × Field α)) :
    (p.setFields edits).untypedObject? = p.untypedObject? := by
  simp [untypedObject?]

/-- Of several values that a field is set to the last one stays. -/
theorem field?_setFields (p : Portable α) (edits : List (String × Field α))
    (name : String) :
    (p.setFields edits).field? name =
      (Entries.get? name edits.reverse).or (p.field? name) := by
  rw [setFields_eq]
  exact Entries.get?_insertAll name p.fields edits

theorem sorted_setFields {p : Portable α} (h : Entries.Sorted p.fields)
    (edits : List (String × Field α)) :
    Entries.Sorted (p.setFields edits).fields := by
  rw [setFields_eq]
  exact h.insertAll edits

/-- An instance of a class is rendered with its fields as they were set last,
and with the name of its class unless a field stands in its place. -/
theorem exists_render_setFields {p : Portable α} (hclass : p.hasClass = true)
    (hsorted : Entries.Sorted p.fields) (edits : List (String × Field α)) :
    ∃ members, (p.setFields edits).render = .ok (.obj members) ∧
      ∀ name, Entries.get? name members =
        (((Entries.get? name edits.reverse).or (p.field? name)).map rendered).or
          (if name = typeMember then some (.str p.className) else none) := by
  have huntyped : (p.setFields edits).untypedObject? = none := by
    rw [untypedObject?_setFields, untypedObject?_of_hasClass hclass]
  obtain ⟨members, hrender, -, hget⟩ :=
    exists_render_of_sorted huntyped (sorted_setFields hsorted edits)
  refine ⟨members, hrender, fun name => ?_⟩
  rw [hget, field?_setFields]
  simp [hclass]

/-- An instance of a typed object without a class is rendered by way of the
object, whatever its fields are set to. -/
theorem Captures.render_setFields {p : Portable α} {object : TypedObject α}
    {form : Json} (h : p.Captures object form) (hclass : p.hasClass = false)
    (edits : List (String × Field α)) :
    (p.setFields edits).render = .ok (.obj (Entries.insert typeMember
      (.str object.typeName) (objectFields form))) := by
  have huntyped : (p.setFields edits).untypedObject? = some object := by
    rw [untypedObject?_setFields, h.untypedObject?_eq, hclass]
    rfl
  exact render_of_untypedObject?_some huntyped h.written

end Portable

namespace Snapshot

/-- The instance of a typed object makes the object as it was, whatever fields
are set, while its rendering has the fields as they were set last.  So the
instance makes what its rendering is read as exactly if the registry makes the
object of the fields that are set; only an object whose type names no class is
rendered as it was. -/
theorem toObject_setFields_iff (registry : Registry α) {object : TypedObject α}
    {form : Json} (hform : object.toJson = .ok form)
    (hordered : form.Ordered) :
    ∃ p, Portable.ofObject object = .ok p ∧
      ∀ edits : List (String × Field α),
        toObject registry (p.setFields edits) = .ok object ∧
        ∃ members, (p.setFields edits).render = .ok (.obj members) ∧
          (Portable.namesClass object.typeName = true →
            ∀ name, Entries.get? name members =
              (((Entries.get? name edits.reverse).or (p.field? name)).map
                Portable.rendered).or
                  (if name = typeMember then some (.str object.typeName)
                  else none)) ∧
          (Portable.namesClass object.typeName = false →
            members = Entries.insert typeMember (.str object.typeName)
              (objectFields form)) ∧
          (toObject registry (p.setFields edits) =
              registry.readObject (.obj members) ↔
            ∃ name type, typeNameOf? members = some name ∧
              registry.find? name = some type ∧
              type.materialize (.obj (payloadMembers members)) =
                .ok object) := by
  obtain ⟨p, hp, hcaptures⟩ := Portable.exists_captures hform
  refine ⟨p, hp, fun edits => ?_⟩
  have hcarried : (p.setFields edits).object = some object := by
    rw [Portable.object_setFields, hcaptures.carried]
  have hobject : toObject registry (p.setFields edits) = .ok object :=
    toObject_of_object hcarried
  have hagree : ∀ members, toObject registry (p.setFields edits) =
      registry.readObject (.obj members) ↔
        ∃ name type, typeNameOf? members = some name ∧
          registry.find? name = some type ∧
          type.materialize (.obj (payloadMembers members)) = .ok object := by
    intro members
    rw [hobject, eq_comm, Registry.readObject_eq_ok_iff]
  have hclass : p.hasClass = Portable.namesClass object.typeName := by
    rw [Portable.hasClass, hcaptures.className]
  refine ⟨hobject, ?_⟩
  cases hnamed : Portable.namesClass object.typeName with
  | true =>
      obtain ⟨members, hrender, hget⟩ := Portable.exists_render_setFields
        (hclass.trans hnamed) (hcaptures.ordered hordered).sorted edits
      rw [hcaptures.className] at hget
      exact ⟨members, hrender, fun _ => hget, Bool.noConfusion, hagree members⟩
  | false =>
      have hrender := hcaptures.render_setFields (hclass.trans hnamed) edits
      exact ⟨_, hrender, Bool.noConfusion, fun _ => rfl, hagree _⟩

/-- An object with one field, and its instance. -/
def ownTree : TypedObject Datum :=
  treeObject (.obj [("id", .str "own")])

def ownInstance : Portable Datum :=
  .mk "app::Tree" none [("id", .text "own")] (some ownTree)

/-- What an object like it is rendered as. -/
def renderedTree (id : String) : Json :=
  .obj [("@type", .str "app::Tree"), ("id", .str id)]

/-- A field that is set to another text is rendered so and missing in the
object; a field that is set back is not. -/
theorem toObject_setFields_iff_tree :
    let changed := ownInstance.setFields [("id", .text "new")]
    let restored := ownInstance.setFields
      [("id", .text "new"), ("id", .text "own")]
    ownTree.render >>= treeRegistry.readObject = .ok ownTree ∧
    Portable.ofObject ownTree = .ok ownInstance ∧
    (changed.render = .ok (renderedTree "new") ∧
      toObject treeRegistry changed ≠
        treeRegistry.readObject (renderedTree "new")) ∧
    restored.render = .ok (renderedTree "own") ∧
      toObject treeRegistry restored =
        treeRegistry.readObject (renderedTree "own") := by
  have hordered : (Json.obj [("id", .str "own")]).Ordered := by
    simp [Ordered, OrderedMembers, Entries.Sorted]
  have hform : ownTree.toJson = .ok (.obj [("id", .str "own")]) := rfl
  have hmade : Portable.ofObject ownTree = .ok ownInstance := by rfl
  have hread : ∀ id, treeRegistry.readObject (renderedTree id) =
      .ok (treeObject (.obj [("id", .str id)])) := fun _ => rfl
  obtain ⟨p, hp, hedits⟩ :=
    toObject_setFields_iff treeRegistry hform hordered
  rw [hmade, Except.ok.injEq] at hp
  subst hp
  refine ⟨by rfl, hmade, ⟨by rfl, ?_⟩, by rfl, ?_⟩
  · rw [(hedits _).1, hread]
    intro h
    simp [ownTree, treeObject] at h
  · rw [(hedits _).1, hread]
    rfl

end Snapshot
end RegionSnapshot
