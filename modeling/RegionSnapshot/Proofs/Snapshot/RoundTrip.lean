/-
Snapshots are read back.  A typed object that its type reads back, without
metadata of its own, comes back under its key whichever way its element is
read; an instance that JSON expresses comes back as it is.
-/
import RegionSnapshot.Proofs.Snapshot.Document
import RegionSnapshot.Proofs.Typed.Payload

namespace RegionSnapshot

open Json

variable {α : Type}

namespace TypedObject

/-- The type of the object is registered under its own name, which is the name
of a class, and reads the object back from its form; the form names no metadata
of its own and nowhere the class of instances without one. -/
structure WrittenAs (registry : Registry α) (object : TypedObject α)
    (json : Json) : Prop where
  registered : registry.find? object.typeName = some object.type
  named : Portable.namesClass object.typeName = true
  written : object.toJson = .ok json
  readBack : object.type.read json = .ok object.value
  ordered : json.Ordered
  plain : ∀ name, isMetadata name = true → json.get? name = none
  unreserved : json.hasReserved = false

/-- The object is read back from what it is written as. -/
def Faithful (registry : Registry α) (object : TypedObject α) : Prop :=
  ∃ json, object.WrittenAs registry json

theorem Faithful.ordered {registry : Registry α} {object : TypedObject α}
    (h : object.Faithful registry) : (Value.object object).Ordered := by
  obtain ⟨form, hform⟩ := h
  intro json hjson
  rw [hform.written, Except.ok.injEq] at hjson
  exact hjson ▸ hform.ordered

theorem Faithful.contains {registry : Registry α} {object : TypedObject α}
    (h : object.Faithful registry) :
    registry.contains object.typeName = true := by
  obtain ⟨json, hjson⟩ := h
  rw [Registry.contains, hjson.registered]
  rfl

/-- The members of the element of an object that is written as `json`. -/
def elementMembers (key : Key) (object : TypedObject α) (json : Json) :
    List (String × Json) :=
  Entries.insert identifierMember key.toJson
    (Entries.insert typeMember (.str object.typeName) (objectFields json))

namespace WrittenAs

variable {registry : Registry α} {object : TypedObject α} {json : Json}

theorem renderEntry (h : object.WrittenAs registry json) (key : Key) :
    Snapshot.renderEntry (key, .object object) =
      .ok (.obj (object.elementMembers key json)) := by
  rw [Snapshot.renderEntry, Snapshot.renderValue, render_eq_ok h.written]
  rfl

theorem get?_objectFields (h : object.WrittenAs registry json) {name : String}
    (hname : isMetadata name = true) :
    Entries.get? name (objectFields json) = none := by
  apply get?_objectFields_eq_none _ (h.plain name hname)
  rintro rfl
  exact absurd hname (by decide)

theorem ordered_elementMembers (h : object.WrittenAs registry json)
    (key : Key) : (Json.obj (object.elementMembers key json)).Ordered := by
  have hfields := ordered_objectFields h.ordered
  rw [Ordered] at hfields
  have hname : (Json.str object.typeName).Ordered := trivial
  exact ⟨(hfields.1.insert _ _).insert _ _,
    (hfields.2.insert hname _).insert (Portable.ordered_key key) _⟩

/-- The object is read back from members that name its type and hold what it is
written as. -/
theorem readObject_of_payload (h : object.WrittenAs registry json)
    {members : List (String × Json)}
    (htype : typeNameOf? members = some object.typeName)
    (hpayload : payloadMembers members = objectFields json) :
    registry.readObject (.obj members) = .ok object := by
  rw [Registry.readObject_eq_ok_iff]
  refine ⟨object.typeName, object.type, htype, h.registered, ?_⟩
  rw [hpayload]
  exact ObjectType.materialize_objectFields h.readBack

theorem typeNameOf?_eq (h : object.WrittenAs registry json)
    {members : List (String × Json)}
    (htype : Entries.get? typeMember members = some (.str object.typeName)) :
    typeNameOf? members = some object.typeName := by
  have hnamed := h.named
  rw [Portable.namesClass, Bool.and_eq_true, Bool.not_eq_true'] at hnamed
  rw [typeNameOf?_eq_some_iff]
  exact ⟨htype, hnamed.1⟩

/-- Members hold what the object is written as if they do so name by name,
metadata aside. -/
theorem payloadMembers_eq (h : object.WrittenAs registry json)
    {members : List (String × Json)} (hsorted : Entries.Sorted members)
    (hget : ∀ name, isMetadata name = false →
      Entries.get? name members = Entries.get? name (objectFields json)) :
    payloadMembers members = objectFields json := by
  have hfields := ordered_objectFields h.ordered
  rw [Ordered] at hfields
  apply (sorted_payloadMembers hsorted).ext hfields.1
  intro name
  rw [get?_payloadMembers]
  cases hname : isMetadata name with
  | true => rw [if_pos rfl, h.get?_objectFields hname]
  | false => rw [if_neg Bool.false_ne_true, hget name hname]

theorem typeNameOf?_elementMembers (h : object.WrittenAs registry json)
    (key : Key) :
    typeNameOf? (object.elementMembers key json) = some object.typeName := by
  apply h.typeNameOf?_eq
  rw [elementMembers, Entries.get?_insert, if_neg (by decide),
    Entries.get?_insert, if_pos rfl]

theorem payloadMembers_elementMembers (h : object.WrittenAs registry json)
    (key : Key) :
    payloadMembers (object.elementMembers key json) = objectFields json := by
  have hmembers := h.ordered_elementMembers key
  rw [Ordered] at hmembers
  apply h.payloadMembers_eq hmembers.1
  intro name hname
  obtain ⟨htype, hid⟩ := isMetadata_eq_false_iff.1 hname
  rw [elementMembers, Entries.get?_insert, if_neg hid, Entries.get?_insert,
    if_neg htype]

theorem get?_identifierMember (key : Key) :
    Entries.get? identifierMember (object.elementMembers key json) =
      some key.toJson := by
  rw [elementMembers, Entries.get?_insert, if_pos rfl]

theorem readObject (h : object.WrittenAs registry json) (key : Key) :
    registry.readObject (.obj (object.elementMembers key json)) =
      .ok object :=
  h.readObject_of_payload (h.typeNameOf?_elementMembers key)
    (h.payloadMembers_elementMembers key)

/-- An instance that holds the element of an object makes that object. -/
theorem toObject (h : object.WrittenAs registry json) {key : Key}
    {p : Portable α} (hp : p.Holds (object.elementMembers key json)) :
    Snapshot.toObject registry p = .ok object := by
  have hnamed := h.named
  rw [Portable.namesClass, Bool.and_eq_true, bne_iff_ne] at hnamed
  rw [Snapshot.toObject_eq_ok_iff (h.ordered_elementMembers key) hp]
  refine ⟨object.typeName, object.type, h.typeNameOf?_elementMembers key,
    hnamed.2, h.registered, ?_⟩
  rw [h.payloadMembers_elementMembers key,
    membersWithoutReserved_eq_self (unreserved_objectFields h.unreserved)]
  exact ObjectType.materialize_objectFields h.readBack

end WrittenAs
end TypedObject

namespace Portable

theorem Holds.identifier_eq_some {p : Portable α}
    {members : List (String × Json)} (h : p.Holds members) {key : Key}
    (hget : Entries.get? identifierMember members = some key.toJson) :
    p.identifier = some key := by
  have hkey := h.identifier
  rw [hget, eq_comm, Option.map_eq_some_iff] at hkey
  obtain ⟨other, hother, heq⟩ := hkey
  rw [hother, Key.toJson_injective heq]

theorem key?_of_identifier {p : Portable α} {key : Key}
    (h : p.identifier = some key) : p.key? = some key := by
  rw [key?, h]

theorem Holds.className_eq {p : Portable α} {members : List (String × Json)}
    (h : p.Holds members) {name : String}
    (hname : typeNameOf? members = some name) : p.className = name := by
  obtain ⟨hget, hblank⟩ := typeNameOf?_eq_some_iff.1 hname
  have hclass := h.className
  rw [hget, Option.map_some, Option.getD_some,
    Field.classOfMember_eq_ok_iff] at hclass
  exact (Json.str.inj hclass.1).symm

/-- A typed object has an instance exactly if it can be written. -/
theorem ofObject_isOk_iff {object : TypedObject α} :
    (∃ p, ofObject object = .ok p) ↔ ∃ json, object.toJson = .ok json := by
  rw [ofObject]
  cases object.toJson <;> simp

/-- The instance of a typed object carries the object. -/
theorem ofObject_eq_ok {object : TypedObject α} {p : Portable α}
    (h : ofObject object = .ok p) :
    p.className = object.typeName ∧ p.object = some object := by
  obtain ⟨form, hcaptures, -⟩ := ofObject_eq_ok_iff.1 h
  exact ⟨hcaptures.className, hcaptures.carried⟩

end Portable

namespace Snapshot

/-- A typed object that is read back makes an element that is read as an
instance of its class, under its key, from which the object is made again. -/
theorem exists_instance {registry : Registry α} {object : TypedObject α}
    (h : object.Faithful registry) (key : Key) :
    ∃ element p, renderEntry (key, .object object) = .ok element ∧
      Portable.ofElement registry Stage.standard element = .ok p ∧
      p.className = object.typeName ∧ p.key? = some key ∧
      toObject registry p = .ok object := by
  obtain ⟨json, hjson⟩ := h
  have hget : Entries.get? identifierMember
      (object.elementMembers key json) = some key.toJson :=
    TypedObject.WrittenAs.get?_identifierMember key
  cases hnative : areNativeMembers (object.elementMembers key json) with
  | true =>
      have hordered := hjson.ordered_elementMembers key
      rw [Ordered] at hordered
      obtain ⟨p, hread, hholds⟩ :=
        Stage.exists_ofElement_of_native registry hordered.1 hnative
      exact ⟨_, p, hjson.renderEntry key, hread,
        hholds.className_eq (hjson.typeNameOf?_elementMembers key),
        Portable.key?_of_identifier (hholds.identifier_eq_some hget),
        hjson.toObject hholds⟩
  | false =>
      obtain ⟨q, hq⟩ := Portable.ofObject_isOk_iff.2 ⟨json, hjson.written⟩
      have hread := (Stage.readTyped_eq_ok_iff hget).2
        ⟨object, q, hjson.readObject key, hq, rfl⟩
      obtain ⟨hclass, hobject⟩ := Portable.ofObject_eq_ok hq
      refine ⟨_, q.setIdentifier key, hjson.renderEntry key,
        Stage.ofElement_obj_eq_ok_iff.2 (.inr ⟨hnative, hread⟩), hclass, rfl,
        toObject_of_object hobject⟩

theorem setIdentifier_bare (p : Portable α) (key : Key) :
    (p.setIdentifier key).bare = p.bare.setIdentifier key := by
  obtain ⟨className, identifier, fields, object⟩ := p
  rfl

/-- An instance that JSON expresses makes an element that is read as the
instance, under its key. -/
theorem exists_plainInstance (registry : Registry α) {p : Portable α}
    (hordered : p.Ordered) (hplain : p.Plain) (hobject : p.object = none)
    (key : Key) :
    ∃ element q, element.Ordered ∧
      renderEntry (key, .portable p) = .ok element ∧
      Portable.ofElement registry Stage.standard element = .ok q ∧
      q = p.bare.setIdentifier key := by
  obtain ⟨members, hrender, hrendered⟩ :=
    Portable.exists_render (Portable.untypedObject?_of_object hobject)
      (hplain.hasPlainFields hordered)
  have hentry : renderEntry (key, .portable p) =
      .ok (.obj (Entries.insert identifierMember key.toJson members)) := by
    rw [renderEntry, renderValue, hrender]
    rfl
  have hvalue : (Value.portable p).Ordered :=
    ⟨hordered, fun typed htyped => by rw [hobject] at htyped; cases htyped⟩
  obtain ⟨_, heq, hmembers, -⟩ := exists_renderEntry hvalue hentry
  have hkeyed : (p.setIdentifier key).Rendered
      (Entries.insert identifierMember key.toJson members) :=
    hrendered.withKey key
  have hholds := hkeyed.holds hplain.setIdentifier hordered.setIdentifier
    (fun name field hfield => Portable.ofJson_decorateField
      (hplain.field hfield).2 (hordered.field hfield))
  have hread := (Portable.instanceOfMembers_eq_ok_iff hkeyed.sorted).2 hholds
  exact ⟨_, _, heq ▸ hmembers, hentry,
    Stage.ofElement_obj_eq_ok_iff.2 (.inl hread), setIdentifier_bare p key⟩

/-- The document of the entries nests no deeper than the reader follows, and
its numbers are read back from their texts. -/
def FitsReader (entries : List (Key × Value α)) : Prop :=
  ∀ elements, renderEntries entries = .ok elements →
    elements.depth ≤ depthLimit ∧ elements.NumbersReadBack

theorem FitsReader.rereadElements? {entries : List (Key × Value α)}
    (hfits : FitsReader entries) {elements : List Json}
    (h : renderEntries entries = .ok (.arr elements)) :
    Snapshot.rereadElements? elements = some elements := by
  obtain ⟨hdepth, hnumbers⟩ := hfits _ h
  rw [depth] at hdepth
  have hroom : depthItems elements ≤ depthLimit - 1 := by omega
  exact rereadItems?_eq_some hroom hnumbers

/-- Entries of which each element is read as an instance are read back from
their document one by one. -/
theorem exists_decode {ι β : Type} (registry : Registry α) {items : List ι}
    (entry : ι → Key × Value α) (hfits : FitsReader (items.map entry))
    (given : ι → β) (found : Portable α → β)
    (h : ∀ item ∈ items, ∃ element p, element.Ordered ∧
      renderEntry (entry item) = .ok element ∧
      Portable.ofElement registry Stage.standard element = .ok p ∧
      found p = given item) :
    ∃ bytes instances, encodeEntries (items.map entry) = .ok bytes ∧
      decode registry bytes = .ok instances ∧
      instances.map found = items.map given := by
  obtain ⟨elements, instances, hordered, hrender, hread, hfound⟩ :=
    exists_elements registry (fun item => renderEntry (entry item)) given found h
  have hentries : renderEntries (items.map entry) = .ok (.arr elements) := by
    rw [renderEntries, List.mapM_map]
    exact congrArg (Except.map Json.arr) hrender
  refine ⟨document (.arr elements), instances, ?_, ?_, hfound⟩
  · rw [encodeEntries, hentries]
    rfl
  · rw [decode_document registry hordered, hfits.rereadElements? hentries]
    exact hread

/-- Typed objects that are read back come back from their document in order,
each under its key and as an object of its type, whether or not instances can
hold their elements. -/
theorem decode_encodeEntries_objects (registry : Registry α)
    (entries : List (Key × TypedObject α))
    (hfaithful : ∀ entry ∈ entries, entry.2.Faithful registry)
    (hfits : FitsReader
      (entries.map (fun entry => (entry.1, Value.object entry.2)))) :
    ∃ bytes instances,
      encodeEntries
          (entries.map (fun entry => (entry.1, Value.object entry.2))) =
        .ok bytes ∧
      decode registry bytes = .ok instances ∧
      instances.map (fun p => (p.key?, toObject registry p)) =
        entries.map (fun entry => (some entry.1, .ok entry.2)) := by
  apply exists_decode registry _ hfits
  intro entry hentry
  obtain ⟨element, p, hrender, hread, -, hkey, hobject⟩ :=
    exists_instance (hfaithful entry hentry) entry.1
  have hordered : element.Ordered := by
    have hvalue := (hfaithful entry hentry).ordered
    obtain ⟨members, rfl, hmembers, -⟩ := exists_renderEntry hvalue hrender
    exact hmembers
  exact ⟨element, p, hordered, hrender, hread, by rw [hkey, hobject]⟩

/-- A registry with one type, which reads any JSON. -/
def treeRegistry : Registry Datum :=
  Registry.empty.register (.ofSchema "app::Tree" .json)

/-- An object of that type. -/
def treeObject (json : Json) : TypedObject Datum :=
  ⟨.ofSchema "app::Tree" .json, Datum.json json⟩

/-- Two objects with a field `id` of their own; no instance can hold the second
one, with its array in an array. -/
def treeEntries : List (Key × TypedObject Datum) := [
  (.int 4, treeObject (.obj [("id", .str "own")])),
  (.str "rows", treeObject (.obj [("id", .ofInt64 9), ("rows", .arr [.arr []])]))]

theorem treeObject_writtenAs {json : Json} (hordered : json.Ordered)
    (hplain : ∀ name, isMetadata name = true → json.get? name = none)
    (hunreserved : json.hasReserved = false) :
    (treeObject json).WrittenAs treeRegistry json := by
  have hnamed : Portable.namesClass "app::Tree" = true := by decide
  exact ⟨rfl, hnamed, rfl, rfl, hordered, hplain, hunreserved⟩

theorem treeEntries_fit : FitsReader
    (treeEntries.map (fun entry => (entry.1, Value.object entry.2))) := by
  intro elements h
  have hrender : renderEntries
      (treeEntries.map (fun entry => (entry.1, Value.object entry.2))) =
        .ok (.arr [
          .obj [("@identifier", .ofInt64 4), ("@type", .str "app::Tree"),
            ("id", .str "own")],
          .obj [("@identifier", .str "rows"), ("@type", .str "app::Tree"),
            ("id", .ofInt64 9), ("rows", .arr [.arr []])]]) := by
    rfl
  rw [hrender] at h
  cases h
  exact ⟨by decide, by simp [NumbersReadBack, NumbersReadBackItems,
    NumbersReadBackMembers, ofInt64, Number.reread?_int]⟩

theorem treeEntries_faithful :
    ∀ entry ∈ treeEntries, entry.2.Faithful treeRegistry := by
  intro entry hentry
  have hlt : "id" < "rows" := by decide
  simp only [treeEntries, List.mem_cons, List.not_mem_nil, or_false] at hentry
  rcases hentry with rfl | rfl
  · refine ⟨_, treeObject_writtenAs ?_ ?_ ?_⟩
    · simp [Ordered, OrderedMembers, Entries.Sorted]
    · intro name hname
      rcases isMetadata_iff.1 hname with rfl | rfl <;> rfl
    · rfl
  · refine ⟨_, treeObject_writtenAs ?_ ?_ ?_⟩
    · exact ⟨List.pairwise_pair.2 hlt,
        by simp [Ordered, OrderedMembers, OrderedItems, ofInt64]⟩
    · intro name hname
      rcases isMetadata_iff.1 hname with rfl | rfl <;> rfl
    · rfl

theorem decode_encodeEntries_trees :
    (∀ entry ∈ treeEntries, entry.2.Faithful treeRegistry) ∧
    ∃ bytes instances,
      encodeEntries
          (treeEntries.map (fun entry => (entry.1, Value.object entry.2))) =
        .ok bytes ∧
      decode treeRegistry bytes = .ok instances ∧
      instances.map (fun p => (p.key?, toObject treeRegistry p)) =
        treeEntries.map (fun entry => (some entry.1, .ok entry.2)) :=
  ⟨treeEntries_faithful, decode_encodeEntries_objects treeRegistry treeEntries
    treeEntries_faithful treeEntries_fit⟩

/-- Instances that JSON expresses come back from their document in order, each
with its class and its fields and under its key. -/
theorem decode_encodeEntries_instances (registry : Registry α)
    (entries : List (Key × Portable α))
    (hordered : ∀ entry ∈ entries, entry.2.Ordered)
    (hplain : ∀ entry ∈ entries, entry.2.Plain)
    (hobject : ∀ entry ∈ entries, entry.2.object = none)
    (hfits : FitsReader
      (entries.map (fun entry => (entry.1, Value.portable entry.2)))) :
    ∃ bytes,
      encodeEntries
          (entries.map (fun entry => (entry.1, Value.portable entry.2))) =
        .ok bytes ∧
      decode registry bytes =
        .ok (entries.map (fun entry => entry.2.bare.setIdentifier entry.1)) := by
  obtain ⟨bytes, instances, hbytes, hdecode, hfound⟩ :=
    exists_decode registry (fun entry => (entry.1, Value.portable entry.2))
      hfits (fun entry : Key × Portable α =>
        entry.2.bare.setIdentifier entry.1) id (by
      intro entry hentry
      exact exists_plainInstance registry (hordered entry hentry)
        (hplain entry hentry) (hobject entry hentry) entry.1)
  rw [List.map_id] at hfound
  exact ⟨bytes, hbytes, hfound ▸ hdecode⟩

/-- An instance with an array of instances, one with a class and a key of its
own and one with neither. -/
def orderInstance : Portable Datum :=
  .mk "app::Order" (some (.str "old"))
    [("lines", .array [
      .nested (.mk "app::Line" (some (.int 7)) [("count", .int 3)] none),
      .nested .generic])] none

theorem orderInstance_ordered : orderInstance.Ordered := by
  simp [orderInstance, Portable.Ordered, Portable.generic,
    Field.OrderedInstance, Field.OrderedFields, Field.OrderedItems,
    Field.Ordered, Entries.Sorted]

theorem orderInstance_plain : orderInstance.Plain := by
  have horder : Text.isBlank "app::Order" = false := by decide
  have hline : Text.isBlank "app::Line" = false := by decide
  have hnone : Text.isBlank noClassName = false := by decide
  have hlines : isMetadata "lines" = false := by decide
  have hcount : isMetadata "count" = false := by decide
  simp [orderInstance, Portable.Plain, Portable.generic, Field.PlainInstance,
    Field.PlainFields, Field.PlainItems, Field.Plain, Field.isArray, horder,
    hline, hnone, hlines, hcount]

theorem orderEntry_fits :
    FitsReader [(Key.int 4, Value.portable orderInstance)] := by
  intro elements h
  have hrender : renderEntries [(Key.int 4, Value.portable orderInstance)] =
      .ok (.arr [.obj [("@identifier", .ofInt64 4),
        ("@type", .str "app::Order"),
        ("lines", .arr [
          .obj [("@identifier", .ofInt64 7), ("@type", .str "app::Line"),
            ("count", .ofInt64 3)],
          .obj []])]]) := by
    rfl
  rw [hrender] at h
  cases h
  exact ⟨by decide, by simp [NumbersReadBack, NumbersReadBackItems,
    NumbersReadBackMembers, ofInt64, Number.reread?_int]⟩

theorem decode_encodeEntries_order :
    (orderInstance.Ordered ∧ orderInstance.Plain ∧
      orderInstance.object = none) ∧
    ∃ bytes,
      encodeEntries [(Key.int 4, Value.portable orderInstance)] = .ok bytes ∧
      decode treeRegistry bytes =
        .ok [orderInstance.bare.setIdentifier (.int 4)] := by
  refine ⟨⟨orderInstance_ordered, orderInstance_plain, rfl⟩, ?_⟩
  apply decode_encodeEntries_instances treeRegistry [(.int 4, orderInstance)]
  · intro entry hentry
    rw [List.mem_singleton.1 hentry]
    exact orderInstance_ordered
  · intro entry hentry
    rw [List.mem_singleton.1 hentry]
    exact orderInstance_plain
  · intro entry hentry
    rw [List.mem_singleton.1 hentry]
    rfl
  · exact orderEntry_fits

end Snapshot
end RegionSnapshot
