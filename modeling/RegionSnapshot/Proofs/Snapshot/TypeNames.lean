/-
The type names of rendered objects.  The instance of a typed object is rendered
under the name of its type unless the object has a member `@type` of its own,
which is kept as a field and then stands for the name.  Whether a member is a
text, and which one, is not changed by keeping, writing, reading back or
decorating it, so that all of these can be followed at one member.
-/
import RegionSnapshot.Proofs.Portable.Decorated
import RegionSnapshot.Proofs.Snapshot.Written

namespace RegionSnapshot

open Json

namespace Json

theorem text?_eq_some_iff {json : Json} {s : String} :
    json.text? = some s ↔ json = .str s := by
  cases json <;> simp [text?]

/-- What is no text is not read back as one, and a text is read back as
itself. -/
theorem text?_reread? {json read : Json} {room : Nat}
    (h : reread? room json = some read) : read.text? = json.text? := by
  cases json with
  | null | bool | str =>
      cases h
      rfl
  | num n =>
      obtain ⟨m, -, rfl⟩ := Option.map_eq_some_iff.1 h
      rfl
  | arr items =>
      rw [reread?] at h
      split at h
      · cases h
      · obtain ⟨values, -, rfl⟩ := Option.map_eq_some_iff.1 h
        rfl
  | obj members =>
      rw [reread?] at h
      split at h
      · cases h
      · obtain ⟨values, -, rfl⟩ := Option.map_eq_some_iff.1 h
        rfl

end Json

/-- No member `@type` names anything but the type. -/
def Undisputed (typeName : String) (members : List (String × Json)) : Prop :=
  ∀ own, Entries.get? typeMember members = some own → own = .str typeName

/-- Both objects have a member `@type` or neither has one, and both members are
the same text or both no text. -/
def SameClaim (left right : List (String × Json)) : Prop :=
  (Entries.get? typeMember left).map text? =
    (Entries.get? typeMember right).map text?

namespace SameClaim

variable {left right : List (String × Json)}

theorem named_iff (h : SameClaim left right) (typeName : String) :
    Entries.get? typeMember left = some (.str typeName) ↔
      Entries.get? typeMember right = some (.str typeName) := by
  have hnamed : ∀ members : List (String × Json),
      Entries.get? typeMember members = some (.str typeName) ↔
        (Entries.get? typeMember members).map text? = some (some typeName) := by
    intro members
    simp [Option.map_eq_some_iff, text?_eq_some_iff]
  rw [hnamed, hnamed, h]

theorem undisputed_iff (h : SameClaim left right) (typeName : String) :
    Undisputed typeName left ↔ Undisputed typeName right := by
  have hclaim : ∀ members : List (String × Json),
      Undisputed typeName members ↔ ∀ claim,
        (Entries.get? typeMember members).map text? = some claim →
          claim = some typeName := by
    intro members
    simp [Undisputed, Option.map_eq_some_iff, ← text?_eq_some_iff]
  rw [hclaim, hclaim, h]

end SameClaim

namespace Portable

variable {α : Type}

theorem text?_decorateField (field : Field α) (json : Json) :
    (decorateField field json).1.text? = json.text? := by
  cases field with
  | nested p =>
      rw [decorateField]
      cases json with
      | obj members =>
          rw [decorate_obj]
          rfl
      | _ => rw [decorate_eq_self p rfl]
  | array items => cases json <;> rfl
  | _ => rfl

theorem text?_toJson_of_ofJson {json : Json} {field : Field α}
    (h : Field.ofJson json = .ok field) : field.toJson.text? = json.text? := by
  cases json with
  | null | bool | str =>
      cases h
      rfl
  | num n =>
      cases n with
      | int value =>
          cases h
          rfl
      | wide value beyond => cases h
      | float x finite =>
          cases h
          rw [Field.toJson, Json.ofFloat]
          split <;> rfl
  | arr items =>
      rw [Field.ofJson] at h
      split at h
      · cases h
      · obtain ⟨fields, -, rfl⟩ := Outcome.map_eq_ok_iff.1 h
        rfl
  | obj members =>
      rw [Field.ofJson] at h
      obtain ⟨⟨className, identifier, fields, object⟩, -, rfl⟩ :=
        Outcome.map_eq_ok_iff.1 h
      cases identifier <;> rfl

/-- A member is kept as a field that is written as the same text, or as no text
either. -/
theorem text?_fieldOfMember (json : Json) :
    (fieldOfMember json : Field α).toJson.text? = json.text? := by
  rw [fieldOfMember]
  split
  · rename_i field h
    exact text?_toJson_of_ofJson h
  · rfl

theorem Captures.sameClaim {p : Portable α} {object : TypedObject α}
    {form : Json} (h : p.Captures object form) :
    SameClaim (Field.fieldsToMembers p.fields) (objectFields form) := by
  have hfield := h.field?_eq typeMember
  rw [field?] at hfield
  rw [SameClaim, Field.get?_fieldsToMembers, hfield]
  simp only [Option.map_map, Function.comp_def, text?_fieldOfMember]

theorem sameClaim_rereadMembers? {room : Nat}
    {members read : List (String × Json)}
    (h : rereadMembers? room members = some read) :
    SameClaim read members := by
  have hget := get?_rereadMembers? h typeMember
  rw [SameClaim]
  cases hold : Entries.get? typeMember members with
  | none =>
      rw [hold, Option.map_none, eq_comm, Option.map_eq_none_iff] at hget
      rw [hget]
  | some old =>
      rw [hold, Option.map_some, eq_comm, Option.map_eq_some_iff] at hget
      obtain ⟨new, hnew, heq⟩ := hget
      rw [hnew, Option.map_some, Option.map_some, text?_reread? heq.symm]

/-- Decorating an object under a class of its own makes the class its name just
where no other name disputes it. -/
theorem decorated_named_iff {p : Portable α} (hclass : p.hasClass = true)
    (hsorted : Entries.Sorted p.fields) (members : List (String × Json)) :
    Entries.get? typeMember
        (decorateFields p.fields (nameMembers p.className members).1).1 =
          some (.str p.className) ↔
      Undisputed p.className members := by
  have hclaim : SameClaim
      (decorateFields p.fields (nameMembers p.className members).1).1
      (nameMembers p.className members).1 := by
    rw [SameClaim, get?_decorateFields hsorted]
    split
    · simp only [Option.map_map, Function.comp_def, text?_decorateField]
    · rfl
  rw [hclaim.named_iff, Undisputed]
  cases hget : Entries.get? typeMember members with
  | none =>
      rw [get?_nameMembers hget, if_pos ⟨rfl, hclass⟩]
      simp
  | some own =>
      have hhas : Entries.has typeMember members = true := by
        rw [Entries.has, hget]
        rfl
      rw [get?_nameMembers_of_has hhas, hget]
      simp

theorem untypedObject?_of_hasClass {p : Portable α} (h : p.hasClass = true) :
    p.untypedObject? = none := by
  rw [untypedObject?, if_pos h]

/-- The text of an instance that is no typed object without a class is made by
decorating its fields as they are read back. -/
theorem renderText_of_untypedObject? {p : Portable α} (hp : p.Ordered)
    (huntyped : p.untypedObject? = none) :
    p.renderText =
      match reread? depthLimit p.toJson with
      | some json =>
          .ok (if (p.decorate json).2 then (p.decorate json).1.pretty
            else p.toJson.pretty)
      | none => .error (.failed "JSON" "JSON" (.syntaxFault .malformed)) := by
  have hparse := parse_pretty hp.toJson (fun n => by simp [toJson])
  rw [renderText, huntyped]
  dsimp only
  rw [decorateText, Json.parseFor, hparse]
  cases reread? depthLimit p.toJson <;> rfl

theorem renderText_eq {p : Portable α} (hp : p.Ordered)
    (hclass : p.hasClass = true) :
    p.renderText =
      match reread? depthLimit p.toJson with
      | some json =>
          .ok (if (p.decorate json).2 then (p.decorate json).1.pretty
            else p.toJson.pretty)
      | none => .error (.failed "JSON" "JSON" (.syntaxFault .malformed)) :=
  renderText_of_untypedObject? hp (untypedObject?_of_hasClass hclass)

/-- The text of an instance of a class is that of an object which has the name
of the class just where no field disputes it. -/
theorem exists_renderText {p : Portable α} (hp : p.Ordered)
    (hclass : p.hasClass = true) {text : String}
    (h : p.renderText = .ok text) :
    ∃ members, text = (Json.obj members).pretty ∧
      (Entries.get? typeMember members = some (.str p.className) ↔
        Undisputed p.className (Field.fieldsToMembers p.fields)) := by
  rw [renderText_eq hp hclass] at h
  split at h
  · rename_i json hjson
    have hordered := hp.toJson.reread? hjson
    obtain ⟨read, hread, rfl⟩ := Option.map_eq_some_iff.1 hjson
    have hclaim := sameClaim_rereadMembers? hread
    have hnamed := decorated_named_iff hclass hp.sorted read
    rw [hclaim.undisputed_iff] at hnamed
    split at h
    · cases h
      rw [decorate_obj]
      exact ⟨_, rfl, hnamed⟩
    · rename_i hflag
      cases h
      have hsame := decorateField_of_unchanged (.nested p) hordered
        (Bool.eq_false_iff.2 hflag)
      rw [decorateField, decorate_obj, Json.obj.injEq] at hsame
      rw [hsame, hclaim.named_iff] at hnamed
      exact ⟨_, rfl, hnamed⟩
  · cases h

end Portable

namespace TypedObject

variable {α : Type}

/-- The instance of a typed object whose type names a class is rendered, as a
value and as a text, to an object with that name just where the object has no
other member `@type` of its own.  There is no text where the fields nest too
deep to be read back or hold a number that is not read back. -/
theorem ofObject_named_iff {object : TypedObject α} {form : Json}
    (hform : object.toJson = .ok form) (hordered : form.Ordered)
    (hnamed : Portable.namesClass object.typeName = true) :
    ∃ p, Portable.ofObject object = .ok p ∧
      (∃ members, p.render = .ok (.obj members) ∧
        (Entries.get? typeMember members = some (.str object.typeName) ↔
          Undisputed object.typeName (objectFields form))) ∧
      ((∃ text, p.renderText = .ok text) ↔
        (p.toJson.reread? depthLimit).isSome = true) ∧
      ∀ text, p.renderText = .ok text →
        ∃ members, text = (Json.obj members).pretty ∧
          (Entries.get? typeMember members = some (.str object.typeName) ↔
            Undisputed object.typeName (objectFields form)) := by
  let p : Portable α := .mk object.typeName none
    ((objectFields form).map
      (fun member => (member.1, Portable.fieldOfMember member.2)))
    (some object)
  have hcaptures : p.Captures object form := ⟨rfl, rfl, hform, rfl⟩
  have hp := hcaptures.ordered hordered
  have hclass : p.hasClass = true := hnamed
  have hfields := hcaptures.sameClaim.undisputed_iff object.typeName
  refine ⟨p, Portable.ofObject_eq_ok_iff.2 ⟨form, hcaptures, rfl⟩, ?_, ?_, ?_⟩
  · refine ⟨_, ?_, (Portable.decorated_named_iff hclass hp.sorted
      (Field.fieldsToMembers p.fields)).trans hfields⟩
    have huntyped := Portable.untypedObject?_of_hasClass hclass
    rw [Portable.render_of_untypedObject?_none huntyped]
    exact congrArg Except.ok (Portable.decorate_obj p _)
  · rw [Portable.renderText_eq hp hclass]
    cases p.toJson.reread? depthLimit <;> simp
  · intro text htext
    obtain ⟨members, rfl, hmembers⟩ :=
      Portable.exists_renderText hp hclass htext
    exact ⟨members, rfl, hmembers.trans hfields⟩

/-- An object of the standard type that reads any JSON. -/
def free (json : Json) : TypedObject Datum :=
  ⟨.ofSchema "serde_json::value::Value" .json, .json json⟩

/-- Free JSON without a member `@type` is rendered under the name of its type,
and free JSON with such a member is not. -/
theorem ofObject_named_iff_free :
    (∃ p members, Portable.ofObject (free (.obj [("a", .null)])) = .ok p ∧
      p.render = .ok (.obj members) ∧ Entries.get? typeMember members =
        some (.str "serde_json::value::Value")) ∧
    ∃ p members, Portable.ofObject (free (.obj [("@type", .str "x")])) = .ok p ∧
      p.render = .ok (.obj members) ∧ Entries.get? typeMember members ≠
        some (.str "serde_json::value::Value") := by
  have hnamed : Portable.namesClass "serde_json::value::Value" = true := by
    decide
  have hplain : (Json.obj [("a", .null)]).Ordered := by
    simp [Ordered, OrderedMembers, Entries.Sorted]
  have hown : (Json.obj [("@type", .str "x")]).Ordered := by
    simp [Ordered, OrderedMembers, Entries.Sorted]
  have hform : ∀ json, (free json).toJson = .ok json := fun _ => rfl
  constructor
  · obtain ⟨p, hp, ⟨members, hrender, hiff⟩, -⟩ :=
      ofObject_named_iff (hform _) hplain hnamed
    refine ⟨p, members, hp, hrender, hiff.2 ?_⟩
    intro own hget
    cases hget
  · obtain ⟨p, hp, ⟨members, hrender, hiff⟩, -⟩ :=
      ofObject_named_iff (hform _) hown hnamed
    refine ⟨p, members, hp, hrender, fun hname => ?_⟩
    have hsame := hiff.1 hname (.str "x") rfl
    rw [Json.str.injEq] at hsame
    exact absurd hsame (by decide)

end TypedObject
end RegionSnapshot
