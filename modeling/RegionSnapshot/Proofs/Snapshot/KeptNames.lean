/-
Type names of normalized documents.  An element that an instance can hold is
written under the type name that it was read with.  An element that falls back
to a typed object loses that name: it is written under a member `@type` that
the object has of its own, or else under the name of the type, which need not
be the name under which the registry found it.
-/
import RegionSnapshot.Proofs.Snapshot.Acceptance
import RegionSnapshot.Proofs.Snapshot.TypeNames

namespace RegionSnapshot

open Json

variable {α : Type}

/-- The object that the registry makes of an element bears the type name of
the element: as its own member `@type`, or as the name of its type where it has
no such member. -/
def Registry.KeepsName (registry : Registry α) (element : Json) : Prop :=
  ∃ object form, registry.readObject element = .ok object ∧
    object.toJson = .ok form ∧
    Portable.namesClass object.typeName = true ∧
    element.get? typeMember =
      some ((Entries.get? typeMember (objectFields form)).getD
        (.str object.typeName))

theorem Registry.keepsName_iff {registry : Registry α} {element form : Json}
    {object : TypedObject α} (hobject : registry.readObject element = .ok object)
    (hform : object.toJson = .ok form) :
    registry.KeepsName element ↔
      Portable.namesClass object.typeName = true ∧
        element.get? typeMember =
          some ((Entries.get? typeMember (objectFields form)).getD
            (.str object.typeName)) := by
  constructor
  · rintro ⟨other, written, hother, hwritten, hclass, hname⟩
    obtain rfl := Except.ok.inj (hobject.symm.trans hother)
    obtain rfl := Except.ok.inj (hform.symm.trans hwritten)
    exact ⟨hclass, hname⟩
  · rintro ⟨hclass, hname⟩
    exact ⟨object, form, hobject, hform, hclass, hname⟩

/-- The same claim gives the same name where a name stands in for a missing
member. -/
theorem SameClaim.getD_eq_iff {left right : List (String × Json)}
    (h : SameClaim left right) (default name : String) :
    (Entries.get? typeMember left).getD (.str default) = .str name ↔
      (Entries.get? typeMember right).getD (.str default) = .str name := by
  have hclaim : ∀ members : List (String × Json),
      (Entries.get? typeMember members).getD (.str default) = .str name ↔
        ((Entries.get? typeMember members).map text?).getD (some default) =
          some name := by
    intro members
    cases Entries.get? typeMember members with
    | none => simp
    | some own => simp [text?_eq_some_iff]
  rw [hclaim, hclaim, h]

namespace Portable

/-- Decorating the members below an object changes no text among them. -/
theorem sameClaim_decorateFields (fields : List (String × Field α))
    (members : List (String × Json)) :
    SameClaim (decorateFields fields members).1 members := by
  induction fields generalizing members with
  | nil => rfl
  | cons first rest ih =>
      obtain ⟨name, field⟩ := first
      rw [decorateFields]
      split
      · exact ih members
      · rename_i value hvalue
        refine (ih _).trans ?_
        by_cases hname : typeMember = name
        · simp [← hname, Entries.get?_insert, text?_decorateField,
            hname ▸ hvalue]
        · simp [Entries.get?_insert, hname]

/-- Decorating an object under a class of its own names it by its member
`@type`, or by the class where there is none. -/
theorem decorated_eq_iff {p : Portable α} (hclass : p.hasClass = true)
    (members : List (String × Json)) (name : String) :
    Entries.get? typeMember
        (decorateFields p.fields (nameMembers p.className members).1).1 =
          some (.str name) ↔
      (Entries.get? typeMember members).getD (.str p.className) =
        .str name := by
  have hnamed : Entries.get? typeMember (nameMembers p.className members).1 =
      some ((Entries.get? typeMember members).getD (.str p.className)) := by
    rw [get?_nameMembers_eq_or, if_pos ⟨rfl, hclass⟩]
    cases Entries.get? typeMember members <;> rfl
  rw [(sameClaim_decorateFields _ _).named_iff, hnamed, Option.some.injEq]

/-- The key of an instance is put beside the other members. -/
theorem get?_keyed_of_ne (p : Portable α) (members : List (String × Json))
    {name : String} (hname : name ≠ identifierMember) :
    Entries.get? name (p.keyed members) = Entries.get? name members := by
  rw [keyed]
  cases p.identifier with
  | none => rfl
  | some key => exact (Entries.get?_insert _ _ _ _).trans (if_neg hname)

/-- The instance of a typed object is written under the own name of the object
or the name of its type; under a type that names no class the latter prevails. -/
theorem Captures.exists_named {p : Portable α} {object : TypedObject α}
    {form : Json} (h : p.Captures object form) :
    ∃ members, Snapshot.renderInstance p = .ok (.obj members) ∧
      ∀ name, Entries.get? typeMember members = some (.str name) ↔
        if namesClass object.typeName = true then
          (Entries.get? typeMember (objectFields form)).getD
            (.str object.typeName) = .str name
        else object.typeName = name := by
  have hne : typeMember ≠ identifierMember := by decide
  have hclass : p.hasClass = namesClass object.typeName := by
    rw [hasClass, h.className]
  by_cases hnamed : namesClass object.typeName = true
  · have huntyped := untypedObject?_of_hasClass (hclass.trans hnamed)
    have hrender : p.render = .ok (.obj (decorateFields p.fields
        (nameMembers p.className (Field.fieldsToMembers p.fields)).1).1) := by
      rw [render_of_untypedObject?_none huntyped]
      exact congrArg Except.ok (decorate_obj p _)
    refine ⟨_, renderInstance_of_render hrender, fun name => ?_⟩
    rw [get?_keyed_of_ne p _ hne, if_pos hnamed,
      decorated_eq_iff (hclass.trans hnamed), h.sameClaim.getD_eq_iff,
      h.className]
  · have huntyped : p.untypedObject? = some object := by
      rw [h.untypedObject?_eq, hclass, if_neg hnamed]
    have hrender := render_of_untypedObject?_some huntyped h.written
    refine ⟨_, renderInstance_of_render hrender, fun name => ?_⟩
    rw [get?_keyed_of_ne p _ hne, Entries.get?_insert, if_pos rfl,
      if_neg hnamed]
    simp

end Portable

/-- The member `@type` of an object that an instance holds is its class. -/
theorem Portable.Holds.eq_className {p : Portable α}
    {members : List (String × Json)} (h : p.Holds members) {value : Json}
    (hvalue : Entries.get? typeMember members = some value) :
    value = .str p.className := by
  have hclass := h.className
  rw [hvalue] at hclass
  exact (Field.classOfMember_eq_ok_iff.1 hclass).1

namespace Stage

/-- An element is read as the instance that holds it if it is native, and else
as the instance that captures the object that the registry makes of it. -/
theorem ofElement_cases {registry : Registry α} {element : Json}
    {p : Portable α} (hordered : element.Ordered)
    (hread : Portable.ofElement registry standard element = .ok p) :
    ∃ members, element = .obj members ∧
      ((element.Native ∧ p.Holds members) ∨
        (¬element.Native ∧ ∃ object form,
          registry.readObject element = .ok object ∧
            p.Captures object form)) := by
  obtain ⟨members, rfl⟩ := exists_members_of_ofElement hread
  refine ⟨members, rfl, ?_⟩
  rw [← isNative_iff, isNative]
  rcases ofElement_obj_eq_ok_iff.1 hread with hheld | ⟨hnot, htyped⟩
  · have hnative : areNativeMembers members = true :=
      (Field.instanceOfMembers_isOk_iff
        (fun _ value _ => Field.ofJson_isOk_iff value)).1 ⟨p, hheld⟩
    obtain ⟨_, heq, hholds⟩ := Portable.exists_holds_of_ofJson hordered hheld
    rw [Json.obj.injEq] at heq
    exact .inl ⟨hnative, heq ▸ hholds⟩
  · obtain ⟨object, form, hobject, hcaptures, -⟩ :=
      readTyped_obj_eq_ok_iff.1 htyped
    exact .inr ⟨Bool.eq_false_iff.1 hnot, object, form, hobject, hcaptures⟩

/-- An element with a type name is written under it if it is native, and else
exactly if the object that it makes bears the name. -/
theorem exists_named {registry : Registry α} {element : Json} {p : Portable α}
    (hordered : element.Ordered)
    (hread : Portable.ofElement registry standard element = .ok p)
    (hnamed : ∃ value, element.get? typeMember = some value ∧
      value ≠ .str noClassName) :
    ∃ output, Snapshot.renderInstance p = .ok output ∧
      (output.get? typeMember = element.get? typeMember ↔
        element.Native ∨ registry.KeepsName element) := by
  obtain ⟨value, hvalue, hreserved⟩ := hnamed
  obtain ⟨members, rfl, ⟨hnative, hholds⟩ | ⟨hnot, object, form, hobject,
    hcaptures⟩⟩ := ofElement_cases hordered hread
  · refine ⟨_, hholds.renderInstance hordered, iff_of_true ?_ (.inl hnative)⟩
    change Entries.get? typeMember (membersWithoutReserved members) =
      Entries.get? typeMember members
    change Entries.get? typeMember members = some value at hvalue
    obtain rfl := hholds.eq_className hvalue
    have hclass : p.className ≠ noClassName := fun h => hreserved (h ▸ rfl)
    simp [get?_membersWithoutReserved hordered.1, hvalue, namesReserved, text?,
      hclass, Json.withoutReserved]
  · obtain ⟨output, hrender, hget⟩ := hcaptures.exists_named
    obtain ⟨name, type, hname, -, -⟩ :=
      Registry.readObject_eq_ok_iff.1 hobject
    obtain ⟨hmember, hblank⟩ := typeNameOf?_eq_some_iff.1 hname
    refine ⟨_, hrender, ?_⟩
    change Entries.get? typeMember members = some value at hvalue
    have hother : name ≠ noClassName := by
      rintro rfl
      exact hreserved (Option.some.inj (hvalue.symm.trans hmember))
    have hclass : Portable.namesClass name = true := by
      simp [Portable.namesClass, hblank, hother]
    rw [or_iff_right hnot, Registry.keepsName_iff hobject hcaptures.written]
    change Entries.get? typeMember output = Entries.get? typeMember members ↔
      _ ∧ Entries.get? typeMember members = _
    rw [hmember, hget, Option.some.injEq, eq_comm (a := Json.str name)]
    by_cases hnamed : Portable.namesClass object.typeName = true
    · rw [if_pos hnamed, and_iff_right hnamed]
    · rw [if_neg hnamed]
      refine iff_of_false ?_ (fun h => hnamed h.1)
      rintro rfl
      exact hnamed hclass

end Stage

namespace Snapshot

/-- Normalizing keeps the type name of every native element, and that of an
element which falls back to a typed object exactly if the object bears the
name.  Whatever was decoded is encoded, each element in its place. -/
theorem renderInstances_named_iff (registry : Registry α) {bytes : Bytes}
    {json : Json} {elements : List Json} {instances : List (Portable α)}
    (hbytes : Spells bytes json) (helements : json.elements? = some elements)
    (hdecode : decode registry bytes = .ok instances)
    (hnamed : ∀ element ∈ elements, ∃ value,
      element.get? typeMember = some value ∧ value ≠ .str noClassName) :
    ∃ rendered, renderInstances instances = .ok (.arr rendered) ∧
      encodeInstances instances = .ok (document (.arr rendered)) ∧
      rendered.length = elements.length ∧
      ∀ (place : Nat) (element : Json), elements[place]? = some element →
        ∃ output, rendered[place]? = some output ∧
          (output.get? typeMember = element.get? typeMember ↔
            element.Native ∨ registry.KeepsName element) := by
  have hordered := hbytes.ordered.elements? helements
  rw [orderedItems_iff] at hordered
  have hread := (hbytes.decode_eq_ok_iff helements).1 hdecode
  obtain ⟨rendered, hrendered, -⟩ :
      ∃ rendered, instances.mapM renderInstance = .ok rendered ∧
        ∀ output ∈ rendered, True := by
    apply Outcome.exists_mapM
    intro p hp
    obtain ⟨element, helement, hp⟩ := Outcome.mem_of_mapM hread hp
    obtain ⟨output, houtput, -⟩ := Stage.exists_named
      (hordered element helement) hp (hnamed element helement)
    exact ⟨output, houtput, trivial⟩
  have hrender : renderInstances instances = .ok (.arr rendered) := by
    rw [renderInstances, hrendered]
    rfl
  obtain ⟨hlength, hinstances⟩ := Outcome.mapM_in_place hread
  obtain ⟨hlength', houtputs⟩ := Outcome.mapM_in_place hrendered
  refine ⟨rendered, hrender, congrArg (Except.map document) hrender,
    hlength'.trans hlength, ?_⟩
  intro place element helement
  have hmem := List.mem_of_getElem? helement
  obtain ⟨p, hp, hmade⟩ := hinstances place element helement
  obtain ⟨output, houtput, hwritten⟩ := houtputs place p hp
  obtain ⟨_, hsame, hname⟩ :=
    Stage.exists_named (hordered element hmem) hmade (hnamed element hmem)
  obtain rfl := Except.ok.inj (hwritten.symm.trans hsame)
  exact ⟨output, houtput, hname⟩

/-- A type that reads any JSON, found under an older name only. -/
def legacyRegistry : Registry Datum :=
  Registry.empty.registerAs "legacy::Grid" (.ofSchema "app::Grid" .json)

/-- The same type, found under its own name too. -/
def gridRegistry : Registry Datum :=
  legacyRegistry.register (.ofSchema "app::Grid" .json)

def gridElement (key : Int64) (typeName : String) (rows : List Json) : Json :=
  .obj [("@identifier", .ofInt64 key), ("@type", .str typeName),
    ("rows", .arr rows)]

/-- A grid without rows, which is native, and two with a row, which are not. -/
def gridElements : List Json :=
  [gridElement 1 "legacy::Grid" [], gridElement 2 "legacy::Grid" [.arr []],
    gridElement 3 "app::Grid" [.arr []]]

theorem spells_gridElements :
    Spells (document (.arr gridElements)) (.arr gridElements) := by
  apply spells_elements (by decide)
  · simp only [gridElements, gridElement, OrderedItems, Json.Ordered,
      OrderedMembers, Entries.Sorted, ofInt64, and_true]
    decide
  · simp [gridElements, gridElement, NumbersReadBackItems, NumbersReadBack,
      NumbersReadBackMembers, ofInt64, Number.reread?_int]

/-- The object of a grid with a row bears the name of the type. -/
theorem gridElement_keepsName_iff (key : Int64) {typeName : String}
    (hname : typeName = "legacy::Grid" ∨ typeName = "app::Grid") :
    gridRegistry.KeepsName (gridElement key typeName [.arr []]) ↔
      typeName = "app::Grid" := by
  have hobject : gridRegistry.readObject (gridElement key typeName [.arr []]) =
      .ok ⟨.ofSchema "app::Grid" .json,
        .json (.obj [("rows", .arr [.arr []])])⟩ := by
    rcases hname with rfl | rfl <;> rfl
  have hclass : Portable.namesClass "app::Grid" = true := by decide
  rw [Registry.keepsName_iff hobject rfl]
  refine (and_iff_right hclass).trans ?_
  change some (Json.str typeName) = some (.str "app::Grid") ↔ _
  simp

/-- A grid without rows keeps its older name.  A grid with a row loses it, but
keeps the name of the type. -/
theorem renderInstances_named_iff_grids :
    Spells (document (.arr gridElements)) (.arr gridElements) ∧
    (∀ element ∈ gridElements, ∃ value,
      element.get? typeMember = some value ∧ value ≠ .str noClassName) ∧
    ∃ instances rendered first second third,
      decode gridRegistry (document (.arr gridElements)) = .ok instances ∧
      renderInstances instances = .ok (.arr rendered) ∧
      (rendered[0]? = some first ∧
        first.get? typeMember = some (.str "legacy::Grid")) ∧
      (rendered[1]? = some second ∧
        second.get? typeMember ≠ some (.str "legacy::Grid")) ∧
      (rendered[2]? = some third ∧
        third.get? typeMember = some (.str "app::Grid")) := by
  have hnamed : ∀ element ∈ gridElements, ∃ value,
      element.get? typeMember = some value ∧ value ≠ .str noClassName := by
    simp [gridElements, gridElement, Json.get?, Entries.get?, typeMember,
      noClassName]
  obtain ⟨instances, hdecode⟩ : ∃ instances,
      decode gridRegistry (document (.arr gridElements)) = .ok instances :=
    ⟨_, (spells_gridElements.decode_eq_ok_iff rfl).2 (by rfl)⟩
  obtain ⟨rendered, hrender, -, -, hkept⟩ :=
    renderInstances_named_iff gridRegistry spells_gridElements rfl hdecode
      hnamed
  obtain ⟨first, hfirst, hlegacy⟩ := hkept 0 _ rfl
  obtain ⟨second, hsecond, hlost⟩ := hkept 1 _ rfl
  obtain ⟨third, hthird, hown⟩ := hkept 2 _ rfl
  have hnative : (gridElement 1 "legacy::Grid" []).Native := by
    rw [← isNative_iff]
    rfl
  have hnested : ¬(gridElement 2 "legacy::Grid" [.arr []]).Native := by
    rw [← isNative_iff]
    exact Bool.false_ne_true
  refine ⟨spells_gridElements, hnamed, instances, rendered, first, second,
    third, hdecode, hrender, ⟨hfirst, hlegacy.2 (.inl hnative)⟩,
    ⟨hsecond, fun hname => ?_⟩, ⟨hthird, hown.2 (.inr ?_)⟩⟩
  · have hkeeps := (hlost.1 hname).resolve_left hnested
    exact absurd ((gridElement_keepsName_iff 2 (.inl rfl)).1 hkeeps) (by decide)
  · exact (gridElement_keepsName_iff 3 (.inr rfl)).2 rfl

end Snapshot
end RegionSnapshot
