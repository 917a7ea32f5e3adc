/-
Elements of a snapshot.  An element is read as an instance that holds it, or,
where no instance can, by the typed object that its metadata name; which of the
two happens is settled by the element alone.  The typed object of an instance
that holds an element is the one that the element itself names, once the
members that name no class are gone from it.
-/
import RegionSnapshot.Proofs.Portable.Captured
import RegionSnapshot.Snapshot.Document

namespace RegionSnapshot

open Json

variable {α : Type}

/-- A typed object is rendered as its fields, with the name of its type. -/
theorem TypedObject.render_eq_ok {object : TypedObject α} {form : Json}
    (hform : object.toJson = .ok form) :
    object.render = .ok (.obj (Entries.insert typeMember
      (.str object.typeName) (objectFields form))) := by
  rw [render, hform]

namespace Portable

theorem Holds.withoutIdentifier {p : Portable α}
    {members : List (String × Json)} (h : p.Holds members) :
    p.withoutIdentifier.Holds (Entries.erase identifierMember members) := by
  refine ⟨h.object, h.sorted, h.plain, ?_, ?_, ?_⟩
  · rw [Entries.get?_erase, if_neg (by decide)]
    exact h.className
  · rw [Entries.get?_erase, if_pos rfl]
    rfl
  · intro name hname
    have hne := (isMetadata_eq_false_iff.1 hname).2
    rw [Entries.get?_erase, if_neg hne]
    exact h.field name hname

theorem Rendered.withKey {p : Portable α} {members : List (String × Json)}
    (h : p.Rendered members) (key : Key) :
    (p.setIdentifier key).Rendered
      (Entries.insert identifierMember key.toJson members) := by
  refine ⟨h.sorted.insert _ _, ?_, ?_, ?_⟩
  · rw [Entries.get?_insert, if_neg (by decide)]
    exact h.type
  · rw [Entries.get?_insert, if_pos rfl]
    rfl
  · intro name hname
    have hne := (isMetadata_eq_false_iff.1 hname).2
    rw [Entries.get?_insert, if_neg hne]
    exact h.field name hname

theorem hasPlainFields_withoutIdentifier {p : Portable α}
    (h : p.HasPlainFields) : p.withoutIdentifier.HasPlainFields :=
  ⟨h.sorted, h.plain⟩

theorem untypedObject?_of_object {p : Portable α} (h : p.object = none) :
    p.untypedObject? = none := by
  simp [untypedObject?, h]

theorem render_of_untypedObject?_none {p : Portable α}
    (huntyped : p.untypedObject? = none) :
    p.render = .ok (p.decorate p.toJson).1 := by
  rw [render, huntyped]

theorem render_of_untypedObject?_some {p : Portable α} {object : TypedObject α}
    {form : Json} (huntyped : p.untypedObject? = some object)
    (hform : object.toJson = .ok form) :
    p.render = .ok (.obj (Entries.insert typeMember (.str object.typeName)
      (objectFields form))) := by
  rw [render, huntyped]
  exact TypedObject.render_eq_ok hform

/-- An instance that is no typed object without a class is rendered with its
class and its fields, but without its key. -/
theorem exists_render {p : Portable α} (huntyped : p.untypedObject? = none)
    (h : p.HasPlainFields) :
    ∃ members, p.render = .ok (.obj members) ∧
      p.withoutIdentifier.Rendered members := by
  obtain ⟨members, hrender, hrendered⟩ :=
    exists_rendered p.withoutIdentifier (hasPlainFields_withoutIdentifier h)
  refine ⟨members, ?_, hrendered⟩
  rw [render_of_untypedObject?_none huntyped]
  obtain ⟨className, identifier, fields, object⟩ := p
  exact congrArg Except.ok hrender

end Portable

theorem get?_payloadMembers (name : String) (members : List (String × Json)) :
    Entries.get? name (payloadMembers members) =
      if isMetadata name then none else Entries.get? name members := by
  rw [payloadMembers, Entries.get?_erase, Entries.get?_erase]
  by_cases hid : name = identifierMember
  · simp [hid, isMetadata]
  · by_cases htype : name = typeMember
    · simp [htype, isMetadata]
    · simp [hid, htype, isMetadata]

theorem sorted_payloadMembers {members : List (String × Json)}
    (h : Entries.Sorted members) : Entries.Sorted (payloadMembers members) :=
  (h.erase _).erase _

theorem orderedMembers_erase {members : List (String × Json)}
    (h : OrderedMembers members) (name : String) :
    OrderedMembers (Entries.erase name members) := by
  rw [orderedMembers_iff] at h ⊢
  intro other value hmember
  exact h other value (List.mem_filter.1 hmember).1

/-- Members that name no class are not among the payload, so it does not matter
what is taken out first. -/
theorem payloadMembers_membersWithoutReserved {members : List (String × Json)}
    (h : Entries.Sorted members) :
    payloadMembers (membersWithoutReserved
        (Entries.erase identifierMember members)) =
      membersWithoutReserved (payloadMembers members) := by
  have herase : Entries.Sorted (Entries.erase identifierMember members) :=
    h.erase _
  apply (sorted_payloadMembers (sorted_membersWithoutReserved herase)).ext
    (sorted_membersWithoutReserved (sorted_payloadMembers h))
  intro name
  rw [get?_payloadMembers, get?_membersWithoutReserved herase,
    get?_membersWithoutReserved (sorted_payloadMembers h),
    get?_payloadMembers, Entries.get?_erase]
  cases hname : isMetadata name with
  | true => rfl
  | false =>
      have hne := (isMetadata_eq_false_iff.1 hname).2
      simp [hne]

/-- An instance that holds an object is rendered as the object without its key
and without the members that name no class. -/
theorem Portable.Holds.render {p : Portable α}
    {members : List (String × Json)} (hordered : (Json.obj members).Ordered)
    (h : p.Holds members) :
    p.render = .ok (.obj (membersWithoutReserved
      (Entries.erase identifierMember members))) := by
  rw [Json.Ordered] at hordered
  obtain ⟨rendered, hrender, hrendered⟩ :=
    exists_render (untypedObject?_of_object h.object) h.hasPlainFields
  have herase := orderedMembers_erase hordered.2 identifierMember
  rw [hrender, hrendered.eq_membersWithoutReserved (hordered.1.erase _)
    h.withoutIdentifier (fun name value hmember field hread =>
      decorateField_ofJson (orderedMembers_iff.1 herase name value hmember)
        hread)]

theorem typeNameOf?_eq_some_iff {members : List (String × Json)}
    {name : String} :
    typeNameOf? members = some name ↔
      Entries.get? typeMember members = some (.str name) ∧
        Text.isBlank name = false := by
  rw [typeNameOf?]
  cases hget : Entries.get? typeMember members with
  | none => simp
  | some value =>
      cases value with
      | str other =>
          by_cases hblank : Text.isBlank other = true
          · simp only [hblank, ↓reduceIte, reduceCtorEq, Option.some.injEq,
              str.injEq, false_iff]
            rintro ⟨rfl, hnot⟩
            rw [hblank] at hnot
            cases hnot
          · simp only [hblank, Bool.false_eq_true, ↓reduceIte,
              Option.some.injEq, str.injEq, iff_self_and]
            rintro rfl
            simpa using hblank
      | _ => simp

theorem typeNameOf?_membersWithoutReserved {members : List (String × Json)}
    (h : Entries.Sorted members) {name : String} :
    typeNameOf? (membersWithoutReserved
        (Entries.erase identifierMember members)) = some name ↔
      typeNameOf? members = some name ∧ name ≠ noClassName := by
  have hne : typeMember ≠ identifierMember := by decide
  rw [typeNameOf?_eq_some_iff, typeNameOf?_eq_some_iff,
    get?_membersWithoutReserved (h.erase _), Entries.get?_erase, if_neg hne,
    Option.bind_eq_some_iff]
  constructor
  · rintro ⟨⟨value, hget, hvalue⟩, hblank⟩
    split at hvalue
    · cases hvalue
    · rename_i hreserved
      cases value with
      | str other =>
          cases hvalue
          refine ⟨⟨hget, hblank⟩, ?_⟩
          rintro rfl
          exact hreserved (by simp [namesReserved, text?])
      | _ => cases hvalue
  · rintro ⟨⟨hget, hblank⟩, hname⟩
    refine ⟨⟨_, hget, ?_⟩, hblank⟩
    simp [namesReserved, text?, hname, withoutReserved]

namespace Registry

theorem readObject_eq_ok_iff {registry : Registry α}
    {members : List (String × Json)} {object : TypedObject α} :
    registry.readObject (.obj members) = .ok object ↔
      ∃ name type, typeNameOf? members = some name ∧
        registry.find? name = some type ∧
        type.materialize (.obj (payloadMembers members)) = .ok object := by
  rw [readObject]
  cases typeNameOf? members with
  | none => simp
  | some name =>
      simp only [Option.some.injEq]
      cases hfind : registry.find? name with
      | none => simp [hfind]
      | some type =>
          cases hread : type.materialize (.obj (payloadMembers members)) with
          | error e => simp [hfind, hread]
          | ok found => simp [hfind, hread]

end Registry

namespace Portable

/-- The instance is made of an object that is written as `form`: it carries the
object, and keeps its members as fields. -/
structure Captures (p : Portable α) (object : TypedObject α) (form : Json) :
    Prop where
  carried : p.object = some object
  className : p.className = object.typeName
  written : object.toJson = .ok form
  fields : p.fields = (objectFields form).map
    (fun member => (member.1, fieldOfMember member.2))

namespace Captures

variable {p : Portable α} {object : TypedObject α} {form : Json}

theorem setIdentifier (h : p.Captures object form) (key : Key) :
    (p.setIdentifier key).Captures object form :=
  ⟨h.carried, h.className, h.written, h.fields⟩

theorem withoutIdentifier (h : p.Captures object form) :
    p.withoutIdentifier.Captures object form :=
  ⟨h.carried, h.className, h.written, h.fields⟩

theorem field?_eq (h : p.Captures object form) (name : String) :
    p.field? name =
      (Entries.get? name (objectFields form)).map fieldOfMember := by
  rw [field?, h.fields]
  exact Entries.get?_mapValues (fun _ value => fieldOfMember value) name _

theorem untypedObject?_eq (h : p.Captures object form) :
    p.untypedObject? = if p.hasClass then none else some object := by
  rw [untypedObject?, h.carried]

end Captures

/-- A typed object that can be written has the instance that captures it. -/
theorem ofObject_eq_ok_iff {object : TypedObject α} {p : Portable α} :
    ofObject object = .ok p ↔
      ∃ form, p.Captures object form ∧ p.identifier = none := by
  obtain ⟨className, identifier, fields, carried⟩ := p
  rw [ofObject]
  constructor
  · intro h
    split at h
    · cases h
    · rename_i form hform
      cases h
      exact ⟨form, ⟨rfl, rfl, hform, rfl⟩, rfl⟩
  · rintro ⟨form, ⟨hobject, hclass, hwritten, hfields⟩, hidentifier⟩
    simp only [Portable.object, Portable.className, Portable.fields,
      Portable.identifier] at hobject hclass hfields hidentifier
    rw [hwritten, hobject, hclass, hfields, hidentifier]

theorem exists_captures {object : TypedObject α} {form : Json}
    (hform : object.toJson = .ok form) :
    ∃ p, ofObject object = .ok p ∧ p.Captures object form := by
  let p : Portable α := .mk object.typeName none
    ((objectFields form).map (fun member => (member.1, fieldOfMember member.2)))
    (some object)
  have hcaptures : p.Captures object form := ⟨rfl, rfl, hform, rfl⟩
  exact ⟨p, ofObject_eq_ok_iff.2 ⟨form, hcaptures, rfl⟩, hcaptures⟩

end Portable

namespace Stage

theorem accepts_object_of_typeName {members : List (String × Json)}
    {name : String} (h : typeNameOf? members = some name) :
    accepts .object (.obj members) = true := by
  rw [typeNameOf?] at h
  split at h
  · rename_i other hget
    simp [accepts, Json.get?, hget, text?]
  · cases h

theorem exists_typeName_of_readTyped {registry : Registry α}
    {members : List (String × Json)} {p : Portable α}
    (h : readTyped registry (.obj members) = .ok p) :
    ∃ name, typeNameOf? members = some name := by
  obtain ⟨object, hobject, -⟩ := Outcome.bind_eq_ok_iff.1 h
  obtain ⟨name, type, hname, -⟩ := Registry.readObject_eq_ok_iff.1 hobject
  exact ⟨name, hname⟩

/-- The last stage reads a typed object or fails. -/
theorem readBy_object_eq_ok_iff {registry : Registry α}
    {members : List (String × Json)} {last : FormatError} {p : Portable α} :
    readBy registry (.obj members) (some last) [.object] = .ok p ↔
      readTyped registry (.obj members) = .ok p := by
  by_cases haccept : accepts .object (.obj members) = true
  · simp only [readBy, haccept, ↓reduceIte, read]
    cases readTyped registry (.obj members) with
    | ok q => rfl
    | error e => cases e <;> simp
  · simp only [readBy, haccept, Bool.false_eq_true, ↓reduceIte, reduceCtorEq,
      false_iff]
    intro hread
    obtain ⟨name, hname⟩ := exists_typeName_of_readTyped hread
    exact haccept (accepts_object_of_typeName hname)

/-- An object that an instance can hold is read as that instance, and any other
by the typed object that it names. -/
theorem ofElement_obj_eq_ok_iff {registry : Registry α}
    {members : List (String × Json)} {p : Portable α} :
    Portable.ofElement registry standard (.obj members) = .ok p ↔
      Portable.ofJson (.obj members) = .ok p ∨
        areNativeMembers members = false ∧
          readTyped registry (.obj members) = .ok p := by
  have haccept : accepts .native (.obj members) = true := rfl
  have hnative : (∃ q : Portable α,
      Field.instanceOfMembers members = .ok q) ↔ _ :=
    Field.instanceOfMembers_isOk_iff
      (fun _ value _ => Field.ofJson_isOk_iff value)
  rw [Portable.ofElement, standard, readBy, if_pos haccept, Portable.ofJson]
  cases hread : Field.instanceOfMembers members with
  | ok q =>
      have hstage : read registry .native (.obj members) = .ok q := by
        simp only [read, Portable.ofJson, hread]
      have hall : areNativeMembers members = true := hnative.1 ⟨q, hread⟩
      rw [hstage]
      simp [hall]
  | error reason =>
      have hstage : read registry .native (.obj members) =
          .error (.nativeUnsupported reason) := by
        simp only [read, Portable.ofJson, hread]
      have hnot : areNativeMembers members = false := by
        rw [← Bool.not_eq_true, ← hnative]
        rintro ⟨q, hq⟩
        rw [hread] at hq
        cases hq
      rw [hstage]
      dsimp only
      rw [readBy_object_eq_ok_iff]
      simp [hnot]

theorem ofElement_obj_of_native {registry : Registry α}
    {members : List (String × Json)} (h : areNativeMembers members = true)
    {p : Portable α} :
    Portable.ofElement registry standard (.obj members) = .ok p ↔
      Portable.ofJson (.obj members) = .ok p := by
  rw [ofElement_obj_eq_ok_iff, h]
  simp

theorem ofElement_obj_of_notNative {registry : Registry α}
    {members : List (String × Json)} (h : areNativeMembers members = false)
    {p : Portable α} :
    Portable.ofElement registry standard (.obj members) = .ok p ↔
      readTyped registry (.obj members) = .ok p := by
  rw [ofElement_obj_eq_ok_iff, and_iff_right h, or_iff_right]
  intro hread
  have hnative : areNativeMembers members = true :=
    (Field.instanceOfMembers_isOk_iff
      (fun _ value _ => Field.ofJson_isOk_iff value)).1 ⟨p, hread⟩
  rw [h] at hnative
  cases hnative

/-- An object in native form is read as an instance that holds it. -/
theorem exists_ofElement_of_native (registry : Registry α)
    {members : List (String × Json)} (hsorted : Entries.Sorted members)
    (h : areNativeMembers members = true) :
    ∃ p, Portable.ofElement registry standard (.obj members) = .ok p ∧
      p.Holds members := by
  obtain ⟨p, hp⟩ := Field.exists_instanceOfMembers h
  exact ⟨p, ofElement_obj_eq_ok_iff.2 (.inl hp),
    Portable.holds_of_instanceOfMembers hsorted hp⟩

theorem elementKey_eq_ok_iff {members : List (String × Json)}
    {key? : Option Key} :
    elementKey (.obj members) = .ok key? ↔
      Entries.get? identifierMember members = key?.map Key.toJson := by
  simp only [elementKey, Json.get?]
  cases Entries.get? identifierMember members with
  | none => cases key? <;> simp
  | some value =>
      dsimp only
      cases hkey : Key.ofJson? value with
      | none =>
          cases key? with
          | none => simp
          | some key =>
              have hne : value ≠ key.toJson := by
                rintro rfl
                rw [Key.ofJson?_toJson] at hkey
                cases hkey
              simp [hne]
      | some found =>
          rw [Key.ofJson?_eq_some_iff] at hkey
          subst hkey
          cases key? with
          | none => simp
          | some key =>
              rw [Option.map_some, Option.some.injEq, ← Key.ofJson?_eq_some_iff,
                Key.ofJson?_toJson]
              simp

/-- A typed element is read as the instance that captures its object, under
its key. -/
theorem readTyped_obj_eq_ok_iff {registry : Registry α}
    {members : List (String × Json)} {p : Portable α} :
    readTyped registry (.obj members) = .ok p ↔
      ∃ object form, registry.readObject (.obj members) = .ok object ∧
        p.Captures object form ∧
        Entries.get? identifierMember members =
          p.identifier.map Key.toJson := by
  rw [readTyped, Outcome.bind_eq_ok_iff]
  constructor
  · rintro ⟨object, hobject, hread⟩
    split at hread
    · cases hread
    · rename_i q hof
      obtain ⟨form, hcaptures, hidentifier⟩ :=
        Portable.ofObject_eq_ok_iff.1 hof
      obtain ⟨key?, hkey, hread⟩ := Outcome.bind_eq_ok_iff.1 hread
      rw [elementKey_eq_ok_iff] at hkey
      cases key? with
      | none =>
          cases hread
          exact ⟨object, form, hobject, hcaptures, by rw [hkey, hidentifier]⟩
      | some key =>
          cases hread
          exact ⟨object, form, hobject, hcaptures.setIdentifier key, hkey⟩
  · rintro ⟨object, form, hobject, hcaptures, hkey⟩
    refine ⟨object, hobject, ?_⟩
    have hof : Portable.ofObject object = .ok p.withoutIdentifier :=
      Portable.ofObject_eq_ok_iff.2 ⟨form, hcaptures.withoutIdentifier, rfl⟩
    rw [hof]
    dsimp only
    rw [elementKey_eq_ok_iff.2 hkey]
    obtain ⟨className, identifier, fields, carried⟩ := p
    cases identifier <;> rfl

/-- A typed element with a key is read as its object under that key. -/
theorem readTyped_eq_ok_iff {registry : Registry α}
    {members : List (String × Json)} {key : Key}
    (h : Entries.get? identifierMember members = some key.toJson)
    {p : Portable α} :
    readTyped registry (.obj members) = .ok p ↔
      ∃ object q, registry.readObject (.obj members) = .ok object ∧
        Portable.ofObject object = .ok q ∧ q.setIdentifier key = p := by
  rw [readTyped_obj_eq_ok_iff]
  constructor
  · rintro ⟨object, form, hobject, hcaptures, hkey⟩
    have hidentifier : p.identifier = some key := by
      rw [h, eq_comm, Option.map_eq_some_iff] at hkey
      obtain ⟨other, hother, heq⟩ := hkey
      rw [hother, Key.toJson_injective heq]
    refine ⟨object, p.withoutIdentifier, hobject,
      Portable.ofObject_eq_ok_iff.2
        ⟨form, hcaptures.withoutIdentifier, rfl⟩, ?_⟩
    obtain ⟨className, identifier, fields, carried⟩ := p
    exact congrArg (Portable.mk className · fields carried) hidentifier.symm
  · rintro ⟨object, q, hobject, hof, rfl⟩
    obtain ⟨form, hcaptures, -⟩ := Portable.ofObject_eq_ok_iff.1 hof
    exact ⟨object, form, hobject, hcaptures.setIdentifier key, h⟩

end Stage

namespace Snapshot

theorem toObject_of_object {registry : Registry α} {p : Portable α}
    {object : TypedObject α} (h : p.object = some object) :
    toObject registry p = .ok object := by
  rw [toObject, h]

/-- An instance that holds an element makes the typed object that the element
names, without the members that name no class. -/
theorem toObject_of_holds (registry : Registry α) {p : Portable α}
    {members : List (String × Json)} (hordered : (Json.obj members).Ordered)
    (h : p.Holds members) :
    toObject registry p = registry.readObject
      (.obj (membersWithoutReserved
        (Entries.erase identifierMember members))) := by
  rw [toObject, h.object]
  dsimp only
  rw [h.render hordered]
  rfl

theorem toObject_eq_ok_iff {registry : Registry α} {p : Portable α}
    {members : List (String × Json)} (hordered : (Json.obj members).Ordered)
    (h : p.Holds members) {object : TypedObject α} :
    toObject registry p = .ok object ↔
      ∃ name type, typeNameOf? members = some name ∧ name ≠ noClassName ∧
        registry.find? name = some type ∧
        type.materialize
          (.obj (membersWithoutReserved (payloadMembers members))) =
            .ok object := by
  rw [toObject_of_holds registry hordered h, Registry.readObject_eq_ok_iff,
    payloadMembers_membersWithoutReserved hordered.1]
  simp only [typeNameOf?_membersWithoutReserved hordered.1, and_assoc]

end Snapshot
end RegionSnapshot
