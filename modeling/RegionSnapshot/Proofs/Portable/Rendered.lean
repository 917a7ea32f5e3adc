/-
The tree of an instance with its class names.  Writing the fields and putting
the names in come together in one description of the rendered object, member
by member.  An object that was read as an instance is rendered as it was, less
the members that name no class.
-/
import RegionSnapshot.Portable.Decorate
import RegionSnapshot.Proofs.Portable.Native

namespace RegionSnapshot

namespace Json

/-- A member that names the class of instances without one. -/
def namesReserved (name : String) (value : Json) : Bool :=
  name == typeMember && value.text? == some noClassName

mutual

/-- The value without the members that name no class. -/
def withoutReserved : Json → Json
  | .arr items => .arr (itemsWithoutReserved items)
  | .obj members => .obj (membersWithoutReserved members)
  | json => json

def itemsWithoutReserved : List Json → List Json
  | [] => []
  | item :: rest => item.withoutReserved :: itemsWithoutReserved rest

def membersWithoutReserved : List (String × Json) → List (String × Json)
  | [] => []
  | (name, value) :: rest =>
      if namesReserved name value then membersWithoutReserved rest
      else (name, value.withoutReserved) :: membersWithoutReserved rest

end

theorem mem_membersWithoutReserved {members : List (String × Json)}
    {name : String} {value : Json}
    (h : (name, value) ∈ membersWithoutReserved members) :
    ∃ old, (name, old) ∈ members := by
  induction members with
  | nil => simp [membersWithoutReserved] at h
  | cons member rest ih =>
      obtain ⟨other, old⟩ := member
      rw [membersWithoutReserved] at h
      split at h
      · obtain ⟨json, hold⟩ := ih h
        exact ⟨json, List.mem_cons_of_mem _ hold⟩
      · rcases List.mem_cons.1 h with heq | hrest
        · cases heq
          exact ⟨old, List.mem_cons_self⟩
        · obtain ⟨json, hold⟩ := ih hrest
          exact ⟨json, List.mem_cons_of_mem _ hold⟩

theorem sorted_membersWithoutReserved {members : List (String × Json)}
    (h : Entries.Sorted members) :
    Entries.Sorted (membersWithoutReserved members) := by
  induction members with
  | nil => exact Entries.sorted_nil
  | cons member rest ih =>
      obtain ⟨name, value⟩ := member
      rw [Entries.Sorted, List.pairwise_cons] at h
      rw [membersWithoutReserved]
      split
      · exact ih h.2
      · refine List.pairwise_cons.2 ⟨?_, ih h.2⟩
        rintro ⟨other, json⟩ hentry
        obtain ⟨old, hold⟩ := mem_membersWithoutReserved hentry
        exact h.1 (other, old) hold

theorem get?_membersWithoutReserved {members : List (String × Json)}
    (h : Entries.Sorted members) (name : String) :
    Entries.get? name (membersWithoutReserved members) =
      (Entries.get? name members).bind (fun value =>
        if namesReserved name value then none
        else some value.withoutReserved) := by
  induction members with
  | nil => rfl
  | cons member rest ih =>
      obtain ⟨other, value⟩ := member
      rw [Entries.Sorted, List.pairwise_cons] at h
      rw [membersWithoutReserved]
      by_cases hname : other = name
      · subst hname
        have hnone : Entries.get? other rest = none :=
          Entries.get?_eq_none_of_lt h.1
        by_cases hreserved : namesReserved other value = true
        · simp [hreserved, ih h.2, hnone, Entries.get?]
        · simp [hreserved, Entries.get?]
      · by_cases hreserved : namesReserved other value = true
        · simp [hreserved, ih h.2, hname, Entries.get?]
        · simp [hreserved, ih h.2, hname, Entries.get?]

mutual

/-- Some member in the value names no class. -/
def hasReserved : Json → Bool
  | .arr items => itemsHaveReserved items
  | .obj members => membersHaveReserved members
  | _ => false

def itemsHaveReserved : List Json → Bool
  | [] => false
  | item :: rest => item.hasReserved || itemsHaveReserved rest

def membersHaveReserved : List (String × Json) → Bool
  | [] => false
  | (name, value) :: rest =>
      namesReserved name value || value.hasReserved || membersHaveReserved rest

end

mutual

theorem withoutReserved_eq_self {json : Json} (h : json.hasReserved = false) :
    json.withoutReserved = json := by
  match json with
  | .null | .bool _ | .num _ | .str _ => rfl
  | .arr items =>
      rw [hasReserved] at h
      rw [withoutReserved, itemsWithoutReserved_eq_self h]
  | .obj members =>
      rw [hasReserved] at h
      rw [withoutReserved, membersWithoutReserved_eq_self h]

theorem itemsWithoutReserved_eq_self {items : List Json}
    (h : itemsHaveReserved items = false) :
    itemsWithoutReserved items = items := by
  match items with
  | [] => rfl
  | item :: rest =>
      rw [itemsHaveReserved, Bool.or_eq_false_iff] at h
      rw [itemsWithoutReserved, withoutReserved_eq_self h.1,
        itemsWithoutReserved_eq_self h.2]

theorem membersWithoutReserved_eq_self {members : List (String × Json)}
    (h : membersHaveReserved members = false) :
    membersWithoutReserved members = members := by
  match members with
  | [] => rfl
  | (name, value) :: rest =>
      rw [membersHaveReserved, Bool.or_eq_false_iff, Bool.or_eq_false_iff] at h
      rw [membersWithoutReserved, h.1.1, if_neg (by decide),
        withoutReserved_eq_self h.1.2, membersWithoutReserved_eq_self h.2]

end

theorem hasReserved_of_mem {members : List (String × Json)}
    (h : membersHaveReserved members = false) {name : String} {value : Json}
    (hmember : (name, value) ∈ members) : value.hasReserved = false := by
  induction members with
  | nil => cases hmember
  | cons member rest ih =>
      obtain ⟨other, json⟩ := member
      rw [membersHaveReserved, Bool.or_eq_false_iff,
        Bool.or_eq_false_iff] at h
      rcases List.mem_cons.1 hmember with heq | hold
      · cases heq
        exact h.1.2
      · exact ih h.2 hold

theorem withoutReserved_toJson (key : Key) :
    key.toJson.withoutReserved = key.toJson := by
  cases key <;> rfl

end Json

namespace Field

variable {α : Type}

theorem fieldsToMembers_eq_map (fields : List (String × Field α)) :
    fieldsToMembers fields =
      fields.map (fun entry => (entry.1, entry.2.toJson)) := by
  induction fields with
  | nil => rfl
  | cons first rest ih =>
      obtain ⟨name, field⟩ := first
      rw [fieldsToMembers, ih]
      rfl

theorem sorted_fieldsToMembers {fields : List (String × Field α)}
    (h : Entries.Sorted fields) : Entries.Sorted (fieldsToMembers fields) := by
  refine h.of_keys_eq ?_
  rw [fieldsToMembers_eq_map, List.map_map]
  rfl

theorem get?_fieldsToMembers (name : String)
    (fields : List (String × Field α)) :
    Entries.get? name (fieldsToMembers fields) =
      (Entries.get? name fields).map toJson := by
  rw [fieldsToMembers_eq_map]
  exact Entries.get?_mapValues (fun _ field => field.toJson) name fields

end Field

namespace Portable

open Json

variable {α : Type}

theorem sorted_nameMembers {members : List (String × Json)}
    (h : Entries.Sorted members) (className : String) :
    Entries.Sorted (nameMembers className members).1 := by
  rw [nameMembers]
  split
  · exact h.insert _ _
  · exact h

/-- The name of a class is found where no member stands in its way. -/
theorem get?_nameMembers_eq_or (className : String)
    (members : List (String × Json)) (name : String) :
    Entries.get? name (nameMembers className members).1 =
      (Entries.get? name members).or
        (if name = typeMember ∧ namesClass className = true then
          some (.str className)
        else none) := by
  rw [nameMembers]
  split
  · rename_i hnew
    rw [Bool.and_eq_true, Bool.not_eq_true', Entries.has,
      Option.isSome_eq_false_iff, Option.isNone_iff_eq_none] at hnew
    rw [Entries.get?_insert]
    by_cases hname : name = typeMember
    · simp [hname, hnew]
    · simp [hname]
  · rename_i hold
    rw [Bool.and_eq_true, not_and, Bool.not_eq_true', Bool.not_eq_false,
      Entries.has, Option.isSome_iff_exists] at hold
    split
    · rename_i hclass
      obtain ⟨value, hvalue⟩ := hold hclass.2
      rw [hclass.1, hvalue]
      rfl
    · rw [Option.or_none]

theorem get?_nameMembers {members : List (String × Json)}
    (h : Entries.get? typeMember members = none) (className name : String) :
    Entries.get? name (nameMembers className members).1 =
      if name = typeMember ∧ namesClass className = true then
        some (.str className)
      else Entries.get? name members := by
  rw [get?_nameMembers_eq_or]
  split
  · rename_i hclass
    rw [hclass.1, h]
    rfl
  · rw [Option.or_none]

theorem sorted_decorateFields (fields : List (String × Field α))
    {members : List (String × Json)} (h : Entries.Sorted members) :
    Entries.Sorted (decorateFields fields members).1 := by
  induction fields generalizing members with
  | nil => exact h
  | cons first rest ih =>
      obtain ⟨name, field⟩ := first
      cases hget : Entries.get? name members with
      | none =>
          simp only [decorateFields, hget]
          exact ih h
      | some value =>
          simp only [decorateFields, hget]
          exact ih (h.insert _ _)

/-- Each field is decorated in the member of its name, and no other member is
touched. -/
theorem get?_decorateFields {fields : List (String × Field α)}
    (h : Entries.Sorted fields) (members : List (String × Json))
    (name : String) :
    Entries.get? name (decorateFields fields members).1 =
      match Entries.get? name fields with
      | some field =>
          (Entries.get? name members).map
            (fun value => (decorateField field value).1)
      | none => Entries.get? name members := by
  induction fields generalizing members with
  | nil => rfl
  | cons first rest ih =>
      obtain ⟨other, field⟩ := first
      rw [Entries.Sorted, List.pairwise_cons] at h
      have hlater : Entries.get? other rest = none :=
        Entries.get?_eq_none_of_lt h.1
      cases hget : Entries.get? other members with
      | none =>
          simp only [decorateFields, hget, ih h.2, Entries.get?]
          by_cases hname : other = name
          · subst hname
            simp [hlater, hget]
          · simp [hname]
      | some value =>
          simp only [decorateFields, hget, ih h.2, Entries.get?,
            Entries.get?_insert]
          by_cases hname : other = name
          · subst hname
            simp [hlater, hget]
          · simp [hname, Ne.symm hname]

theorem decorate_obj (p : Portable α) (members : List (String × Json)) :
    (p.decorate (.obj members)).1 =
      .obj (decorateFields p.fields (nameMembers p.className members).1).1 := by
  obtain ⟨className, identifier, fields, object⟩ := p
  rfl

/-- The members that an instance is rendered with: its class and key, and its
fields with the class names in them. -/
structure Rendered (p : Portable α) (members : List (String × Json)) :
    Prop where
  sorted : Entries.Sorted members
  type : Entries.get? typeMember members =
    if p.hasClass then some (.str p.className) else none
  identifier : Entries.get? identifierMember members =
    p.identifier.map Key.toJson
  field : ∀ name, isMetadata name = false →
    Entries.get? name members = (p.field? name).map
      (fun field => (decorateField field field.toJson).1)

/-- The fields of an instance stand in order and none has the name of
metadata. -/
structure HasPlainFields (p : Portable α) : Prop where
  sorted : Entries.Sorted p.fields
  plain : ∀ name, isMetadata name = true → p.field? name = none

theorem Holds.hasPlainFields {members : List (String × Json)} {p : Portable α}
    (h : p.Holds members) : p.HasPlainFields :=
  ⟨h.sorted, h.plain⟩

/-- An instance without its identifier. -/
def withoutIdentifier (p : Portable α) : Portable α :=
  .mk p.className none p.fields p.object

theorem exists_nestedToJson (p : Portable α) (h : p.HasPlainFields) :
    ∃ written, (Field.nested p).toJson = .obj written ∧
      Entries.Sorted written ∧
      ∀ name, Entries.get? name written =
        if name = identifierMember then p.identifier.map Key.toJson
        else (p.field? name).map Field.toJson := by
  obtain ⟨className, identifier, fields, object⟩ := p
  have hsorted := Field.sorted_fieldsToMembers h.sorted
  cases identifier with
  | none =>
      refine ⟨_, rfl, hsorted, fun name => ?_⟩
      rw [Field.get?_fieldsToMembers]
      by_cases hname : name = identifierMember
      · subst hname
        have hfield : Entries.get? identifierMember fields = none :=
          h.plain _ rfl
        rw [if_pos rfl]
        exact congrArg (Option.map Field.toJson) hfield
      · rw [if_neg hname]
        rfl
  | some key =>
      refine ⟨_, rfl, hsorted.insert _ _, fun name => ?_⟩
      rw [Entries.get?_insert, Field.get?_fieldsToMembers]
      rfl

/-- A nested instance is rendered with its class, its key and its fields. -/
theorem exists_rendered (p : Portable α) (h : p.HasPlainFields) :
    ∃ members, (decorateField (.nested p) (Field.nested p).toJson).1 =
      .obj members ∧ p.Rendered members := by
  obtain ⟨written, hwritten, hsorted, hget⟩ := exists_nestedToJson p h
  have htype : p.field? typeMember = none := h.plain _ rfl
  have hid : p.field? identifierMember = none := h.plain _ rfl
  have hnone : Entries.get? typeMember written = none := by
    rw [hget, if_neg (by decide), htype]
    rfl
  refine ⟨_, by rw [hwritten]; exact decorate_obj p written,
    sorted_decorateFields p.fields (sorted_nameMembers hsorted p.className),
    ?_, ?_, ?_⟩
  · rw [get?_decorateFields h.sorted, get?_nameMembers hnone, hnone]
    simp only [field?] at htype
    simp only [htype, true_and]
    rfl
  · rw [get?_decorateFields h.sorted, get?_nameMembers hnone, hget]
    simp only [field?] at hid
    simp only [hid]
    rfl
  · intro name hname
    obtain ⟨hne, hneId⟩ := isMetadata_eq_false_iff.1 hname
    rw [get?_decorateFields h.sorted, get?_nameMembers hnone, hget,
      if_neg (fun h => hne h.1), if_neg hneId]
    simp only [field?]
    cases Entries.get? name p.fields <;> rfl

/-- The class that is rendered of what holds an object is the one that the
object names, unless it is reserved. -/
theorem Holds.classMember_eq {p : Portable α} {members : List (String × Json)}
    (h : p.Holds members) :
    (if p.hasClass then some (Json.str p.className) else none) =
      (Entries.get? typeMember members).bind (fun value =>
        if namesReserved typeMember value then none
        else some value.withoutReserved) := by
  have hclass := h.className
  cases hget : Entries.get? typeMember members with
  | none =>
      rw [hget] at hclass
      have hname : p.className = noClassName := (Except.ok.inj hclass).symm
      simp [hasClass, namesClass, hname]
  | some value =>
      rw [hget] at hclass
      obtain ⟨hvalue, hblank⟩ := Field.classOfMember_eq_ok_iff.1 hclass
      subst hvalue
      by_cases hreserved : p.className = noClassName
      · simp [hasClass, namesClass, namesReserved, text?, hreserved]
      · simp [hasClass, namesClass, namesReserved, text?, hreserved, hblank,
          withoutReserved]

/-- What holds an object is rendered as the object. -/
theorem Rendered.eq_membersWithoutReserved {p : Portable α}
    {members rendered : List (String × Json)} (hsorted : Entries.Sorted members)
    (hp : p.Holds members) (hrendered : p.Rendered rendered)
    (h : ∀ name value, (name, value) ∈ members → ∀ field : Field α,
      Field.ofJson value = .ok field →
        (decorateField field field.toJson).1 = value.withoutReserved) :
    rendered = membersWithoutReserved members := by
  apply hrendered.sorted.ext (sorted_membersWithoutReserved hsorted)
  intro name
  rw [get?_membersWithoutReserved hsorted]
  by_cases htype : name = typeMember
  · subst htype
    rw [hrendered.type, hp.classMember_eq]
  · by_cases hid : name = identifierMember
    · subst hid
      rw [hrendered.identifier, hp.identifier]
      cases p.identifier with
      | none => rfl
      | some key => simp [namesReserved, htype, withoutReserved_toJson]
    · have hname := isMetadata_eq_false_iff.2 ⟨htype, hid⟩
      have hread := hp.field name hname
      rw [hrendered.field name hname]
      cases hget : Entries.get? name members with
      | none =>
          rw [hget, Option.map_none, eq_comm, Option.map_eq_none_iff] at hread
          rw [hread]
          rfl
      | some value =>
          rw [hget, Option.map_some, eq_comm, Option.map_eq_some_iff] at hread
          obtain ⟨field, hfield, hvalue⟩ := hread
          have heq := h name value (Entries.mem_of_get? hget) field hvalue.symm
          simp [hfield, namesReserved, htype, heq]

theorem decorateItems_itemsToJson (items : List (Field α)) :
    (decorateItems items (Field.itemsToJson items)).1 =
      items.map (fun item => (decorateField item item.toJson).1) := by
  induction items with
  | nil => rfl
  | cons item rest ih =>
      simp only [Field.itemsToJson, decorateItems, ih, List.map_cons]

theorem decorateItems_ofJson {items : List Json} {fields : List (Field α)}
    (hread : Field.itemsOfJson items = .ok fields)
    (h : ∀ item ∈ items, ∀ field : Field α, Field.ofJson item = .ok field →
      (decorateField field field.toJson).1 = item.withoutReserved) :
    (decorateItems fields (Field.itemsToJson fields)).1 =
      itemsWithoutReserved items := by
  rw [decorateItems_itemsToJson]
  induction items generalizing fields with
  | nil =>
      cases hread
      rfl
  | cons item rest ih =>
      obtain ⟨field, hfield, hread⟩ := Outcome.bind_eq_ok_iff.1 hread
      obtain ⟨others, hothers, hread⟩ := Outcome.bind_eq_ok_iff.1 hread
      cases hread
      have hitem := h item List.mem_cons_self field hfield
      have hrest := ih hothers
        (fun other hother => h other (List.mem_cons_of_mem _ hother))
      rw [List.map_cons, hitem, hrest, itemsWithoutReserved]

/-- A field is rendered as the value that it was read from. -/
theorem decorateField_ofJson {json : Json} (hjson : json.Ordered)
    {field : Field α} (h : Field.ofJson json = .ok field) :
    (decorateField field field.toJson).1 = json.withoutReserved := by
  induction json using Json.induct generalizing field with
  | null | bool | str =>
      cases h
      rfl
  | num n =>
      cases n with
      | int value =>
          cases h
          rfl
      | wide value beyond => cases h
      | float value finite =>
          cases h
          simp only [Field.toJson, Json.ofFloat, Number.ofFloat?, finite,
            ↓reduceDIte]
          rfl
  | arr items ih =>
      rw [Ordered, orderedItems_iff] at hjson
      rw [Field.ofJson] at h
      split at h
      · cases h
      · obtain ⟨fields, hfields, rfl⟩ := Outcome.map_eq_ok_iff.1 h
        simp only [Field.toJson, decorateField, withoutReserved]
        rw [decorateItems_ofJson hfields
          (fun item hitem field => ih item hitem (hjson item hitem))]
  | obj members ih =>
      rw [Ordered, orderedMembers_iff] at hjson
      rw [Field.ofJson] at h
      obtain ⟨p, hp, rfl⟩ := Outcome.map_eq_ok_iff.1 h
      have hholds := holds_of_instanceOfMembers hjson.1 hp
      obtain ⟨rendered, heq, hrendered⟩ :=
        exists_rendered p hholds.hasPlainFields
      rw [heq, withoutReserved, hrendered.eq_membersWithoutReserved hjson.1
        hholds (fun name value hmember field =>
          ih name value hmember (hjson.2 name value hmember))]

end Portable
end RegionSnapshot
