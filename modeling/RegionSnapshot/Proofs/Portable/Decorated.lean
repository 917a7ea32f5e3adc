/-
What decorating a value does.  It puts members `@type` into objects that have
none and leaves all else as it was; where an instance that names a class stands
beside an object, the object has such a member afterwards.  The flag says
whether the value changed, so a second time nothing is put in.
-/
import RegionSnapshot.Proofs.Portable.Plain

namespace RegionSnapshot

namespace Json

/-- The second value is the first one with members `@type` put into objects
that had none. -/
inductive GainsTypes : Json → Json → Prop
  | same (json : Json) : GainsTypes json json
  | arr (items grown : List Json) (hlength : items.length = grown.length)
      (hitem : ∀ (index : Nat) (old new : Json), items[index]? = some old →
        grown[index]? = some new → GainsTypes old new) :
      GainsTypes (.arr items) (.arr grown)
  | obj (members grown : List (String × Json))
      (hkept : ∀ name, Entries.has name members = true →
        Entries.has name grown = true)
      (hmember : ∀ (name : String) (old new : Json),
        Entries.get? name members = some old →
        Entries.get? name grown = some new → GainsTypes old new)
      (hnew : ∀ (name : String) (new : Json),
        Entries.has name members = false →
        Entries.get? name grown = some new →
          name = typeMember ∧ ∃ className, new = .str className) :
      GainsTypes (.obj members) (.obj grown)

end Json

namespace Portable

open Json

variable {α : Type}

/-- The instance stands beside the object, where fields and items of a field
are followed together with the members and items of a value. -/
inductive Beside (q : Portable α) (members : List (String × Json)) :
    Field α → Json → Prop
  | here : Beside q members (.nested q) (.obj members)
  | item {items : List (Field α)} {values : List Json} (index : Nat)
      {field : Field α} {value : Json} (hfield : items[index]? = some field)
      (hvalue : values[index]? = some value)
      (h : Beside q members field value) :
      Beside q members (.array items) (.arr values)
  | field {p : Portable α} {outer : List (String × Json)} (name : String)
      {field : Field α} {value : Json} (hfield : p.field? name = some field)
      (hvalue : Entries.get? name outer = some value)
      (h : Beside q members field value) :
      Beside q members (.nested p) (.obj outer)

/-- Each object beside an instance that names a class has a member `@type`. -/
def Typed (field : Field α) (json : Json) : Prop :=
  ∀ q members, Beside q members field json → q.hasClass = true →
    Entries.has typeMember members = true

theorem Typed.item {items : List (Field α)} {values : List Json}
    (h : Typed (.array items) (.arr values)) {index : Nat} {field : Field α}
    {value : Json} (hfield : items[index]? = some field)
    (hvalue : values[index]? = some value) : Typed field value :=
  fun q members hbeside => h q members (.item index hfield hvalue hbeside)

theorem Typed.field {p : Portable α} {members : List (String × Json)}
    (h : Typed (.nested p) (.obj members)) {name : String} {field : Field α}
    {value : Json} (hfield : p.field? name = some field)
    (hvalue : Entries.get? name members = some value) : Typed field value :=
  fun q inner hbeside => h q inner (.field name hfield hvalue hbeside)

theorem Typed.named {p : Portable α} {members : List (String × Json)}
    (h : Typed (.nested p) (.obj members)) (hclass : p.hasClass = true) :
    Entries.has typeMember members = true :=
  h p members .here hclass

/-! One object: its own name, then its members. -/

/-- Only objects are changed by an instance. -/
theorem decorate_eq_self (p : Portable α) {json : Json}
    (h : json.isObject = false) : p.decorate json = (json, false) := by
  obtain ⟨className, identifier, fields, object⟩ := p
  cases json with
  | obj members => cases h
  | _ => rfl

/-- A text is left alone, also under a field called `@type`. -/
theorem decorateField_str (field : Field α) (s : String) :
    decorateField field (.str s) = (.str s, false) := by
  cases field with
  | nested p => exact decorate_eq_self p rfl
  | _ => rfl

theorem decorate_obj_snd (p : Portable α) (members : List (String × Json)) :
    (p.decorate (.obj members)).2 =
      ((nameMembers p.className members).2 ||
        (decorateFields p.fields (nameMembers p.className members).1).2) := by
  obtain ⟨className, identifier, fields, object⟩ := p
  rfl

theorem has_nameMembers {className : String} (members : List (String × Json))
    (h : namesClass className = true) :
    Entries.has typeMember (nameMembers className members).1 = true := by
  rw [nameMembers]
  split
  · simp [Entries.has, Entries.get?_insert]
  · rename_i hold
    simpa [h] using hold

theorem nameMembers_eq_self {className : String}
    {members : List (String × Json)}
    (h : namesClass className = true → Entries.has typeMember members = true) :
    nameMembers className members = (members, false) := by
  rw [nameMembers, if_neg]
  intro hnew
  rw [Bool.and_eq_true, Bool.not_eq_true'] at hnew
  rw [h hnew.1] at hnew
  cases hnew.2

theorem nameMembers_of_unchanged {className : String}
    {members : List (String × Json)}
    (h : (nameMembers className members).2 = false) :
    (nameMembers className members).1 = members := by
  rw [nameMembers] at h ⊢
  split at h
  · cases h
  · rename_i hold
    rw [if_neg hold]

/-- The only member that naming adds to an object is its name. -/
theorem eq_of_get?_nameMembers {className : String}
    {members : List (String × Json)} {name : String} {value : Json}
    (hnone : Entries.has name members = false)
    (h : Entries.get? name (nameMembers className members).1 = some value) :
    name = typeMember ∧ value = .str className := by
  have habsent : Entries.get? name members = none := by
    simpa [Entries.has] using hnone
  rw [get?_nameMembers_eq_or, habsent, Option.none_or] at h
  split at h
  · rename_i hclass
    cases h
    exact ⟨hclass.1, rfl⟩
  · cases h

theorem get?_nameMembers_of_has {className : String}
    {members : List (String × Json)} {name : String}
    (h : Entries.has name members = true) :
    Entries.get? name (nameMembers className members).1 =
      Entries.get? name members := by
  rw [get?_nameMembers_eq_or, Option.or_of_isSome h]

theorem has_decorateFields {fields : List (String × Field α)}
    (h : Entries.Sorted fields) (members : List (String × Json))
    (name : String) :
    Entries.has name (decorateFields fields members).1 =
      Entries.has name members := by
  rw [Entries.has, get?_decorateFields h]
  split
  · rw [Option.isSome_map]
    rfl
  · rfl

theorem getElem?_decorateItems (items : List (Field α)) (values : List Json)
    (index : Nat) :
    (decorateItems items values).1[index]? =
      match items[index]? with
      | some field => values[index]?.map
          (fun value => (decorateField field value).1)
      | none => values[index]? := by
  induction items generalizing values index with
  | nil => rfl
  | cons item rest ih =>
      cases values with
      | nil =>
          simp only [decorateItems, List.getElem?_nil, Option.map_none]
          split <;> rfl
      | cons value others =>
          cases index with
          | zero => rfl
          | succ index => exact ih others index

theorem length_decorateItems (items : List (Field α)) (values : List Json) :
    (decorateItems items values).1.length = values.length := by
  induction items generalizing values with
  | nil => rfl
  | cons item rest ih =>
      cases values with
      | nil => rfl
      | cons value others => exact congrArg (· + 1) (ih others)

/-! Afterwards no class name is missing. -/

/-- After decorating, the objects beside instances are named. -/
theorem typed_decorateField {field : Field α} (hordered : field.Ordered)
    (json : Json) : Typed field (decorateField field json).1 := by
  induction field using Field.induct generalizing json with
  | null | bool | int | float | text | json =>
      intro q members hbeside
      cases hbeside
  | array items ih =>
      rw [Field.Ordered, Field.orderedItems_iff] at hordered
      cases json with
      | arr values =>
          intro q members hbeside hclass
          obtain - | ⟨index, hfield, hvalue, hinner⟩ := hbeside
          rw [getElem?_decorateItems, hfield, Option.map_eq_some_iff] at hvalue
          obtain ⟨old, -, rfl⟩ := hvalue
          have hitem := List.mem_of_getElem? hfield
          exact ih _ hitem (hordered _ hitem) old q members hinner hclass
      | _ =>
          intro q members hbeside
          cases hbeside
  | nested p ih =>
      have hp : p.Ordered := hordered
      cases json with
      | obj outer =>
          rw [decorateField, decorate_obj]
          intro q members hbeside hclass
          cases hbeside with
          | here =>
              -- decorating the members neither adds nor drops one
              rw [has_decorateFields hp.sorted]
              exact has_nameMembers outer hclass
          | field name hfield hvalue hinner =>
              have hget : Entries.get? name p.fields = some _ := hfield
              rw [get?_decorateFields hp.sorted, hget,
                Option.map_eq_some_iff] at hvalue
              obtain ⟨old, -, rfl⟩ := hvalue
              have hmem := Entries.mem_of_get? hget
              exact ih name _ hmem (hp.field hmem) old q members hinner hclass
      | _ =>
          rw [decorateField, decorate_eq_self p rfl]
          intro q members hbeside
          cases hbeside

theorem decorateFields_eq_self {fields : List (String × Field α)}
    {members : List (String × Json)} (hsorted : Entries.Sorted members)
    (h : ∀ name field value, (name, field) ∈ fields →
      Entries.get? name members = some value →
        decorateField field value = (value, false)) :
    decorateFields fields members = (members, false) := by
  induction fields with
  | nil => rfl
  | cons first rest ih =>
      obtain ⟨name, field⟩ := first
      have hrest := ih (fun other inner value hinner =>
        h other inner value (List.mem_cons_of_mem _ hinner))
      cases hget : Entries.get? name members with
      | none => simp only [decorateFields, hget, hrest]
      | some value =>
          have hvalue := h name field value List.mem_cons_self hget
          simp only [decorateFields, hget, hvalue, hsorted.insert_eq_self hget,
            hrest, Bool.or_self]

theorem decorateItems_eq_self {items : List (Field α)} {values : List Json}
    (h : ∀ (index : Nat) (field : Field α) (value : Json),
      items[index]? = some field → values[index]? = some value →
        decorateField field value = (value, false)) :
    decorateItems items values = (values, false) := by
  induction items generalizing values with
  | nil => rfl
  | cons item rest ih =>
      cases values with
      | nil => rfl
      | cons value others =>
          have hfirst := h 0 item value rfl rfl
          have hrest := ih (fun index => h (index + 1))
          simp only [decorateItems, hfirst, hrest, Bool.or_self]

/-- Where no class name is missing nothing is put in. -/
theorem decorateField_of_typed {field : Field α} (hordered : field.Ordered)
    {json : Json} (hjson : json.Ordered) (h : Typed field json) :
    decorateField field json = (json, false) := by
  induction field using Field.induct generalizing json with
  | null | bool | int | float | text | json => rfl
  | array items ih =>
      rw [Field.Ordered, Field.orderedItems_iff] at hordered
      cases json with
      | arr values =>
          rw [Json.Ordered, orderedItems_iff] at hjson
          have hitems : decorateItems items values = (values, false) := by
            apply decorateItems_eq_self
            intro index field value hfield hvalue
            have hitem := List.mem_of_getElem? hfield
            exact ih field hitem (hordered field hitem)
              (hjson value (List.mem_of_getElem? hvalue))
              (h.item hfield hvalue)
          simp only [decorateField, hitems]
      | _ => rfl
  | nested p ih =>
      have hp : p.Ordered := hordered
      rw [decorateField]
      cases json with
      | obj members =>
          rw [Json.Ordered] at hjson
          have hname : nameMembers p.className members = (members, false) :=
            nameMembers_eq_self h.named
          have hfields : decorateFields p.fields members = (members, false) := by
            apply decorateFields_eq_self hjson.1
            intro name field value hfield hvalue
            exact ih name field hfield (hp.field hfield)
              (Json.Ordered.of_get? hjson.2 hvalue)
              (h.field (hp.sorted.get?_of_mem hfield) hvalue)
          have hvalue := decorate_obj p members
          have hflag := decorate_obj_snd p members
          rw [hname, hfields] at hvalue hflag
          exact Prod.ext hvalue hflag
      | _ => exact decorate_eq_self p rfl

/-! The flag tells the truth. -/

theorem decorateFields_of_unchanged {fields : List (String × Field α)}
    (h : ∀ name field, (name, field) ∈ fields → ∀ {value : Json},
      value.Ordered → (decorateField field value).2 = false →
        (decorateField field value).1 = value)
    {members : List (String × Json)} (hmembers : (Json.obj members).Ordered)
    (hflag : (decorateFields fields members).2 = false) :
    (decorateFields fields members).1 = members := by
  rw [Json.Ordered] at hmembers
  induction fields with
  | nil => rfl
  | cons first rest ih =>
      obtain ⟨name, field⟩ := first
      have hrest := ih (fun other inner hinner =>
        h other inner (List.mem_cons_of_mem _ hinner))
      cases hget : Entries.get? name members with
      | none =>
          simp only [decorateFields, hget] at hflag ⊢
          exact hrest hflag
      | some value =>
          simp only [decorateFields, hget, Bool.or_eq_false_iff] at hflag ⊢
          -- the member is put back as it was, so the rest meets the same members
          have hvalue := h name field List.mem_cons_self
            (Json.Ordered.of_get? hmembers.2 hget) hflag.1
          rw [hvalue, hmembers.1.insert_eq_self hget] at hflag ⊢
          exact hrest hflag.2

theorem decorateItems_of_unchanged {items : List (Field α)}
    (h : ∀ item ∈ items, ∀ {value : Json}, value.Ordered →
      (decorateField item value).2 = false →
        (decorateField item value).1 = value)
    {values : List Json} (hvalues : ∀ value ∈ values, value.Ordered)
    (hflag : (decorateItems items values).2 = false) :
    (decorateItems items values).1 = values := by
  induction items generalizing values with
  | nil => rfl
  | cons item rest ih =>
      cases values with
      | nil => rfl
      | cons value others =>
          simp only [decorateItems, Bool.or_eq_false_iff] at hflag ⊢
          rw [List.forall_mem_cons] at hvalues
          rw [h item List.mem_cons_self hvalues.1 hflag.1,
            ih (fun other hother => h other (List.mem_cons_of_mem _ hother))
              hvalues.2 hflag.2]

/-- A value that is reported as unchanged is unchanged. -/
theorem decorateField_of_unchanged (field : Field α) {json : Json}
    (hjson : json.Ordered) (h : (decorateField field json).2 = false) :
    (decorateField field json).1 = json := by
  induction field using Field.induct generalizing json with
  | null | bool | int | float | text | json => rfl
  | array items ih =>
      cases json with
      | arr values =>
          rw [Json.Ordered, orderedItems_iff] at hjson
          exact congrArg Json.arr
            (decorateItems_of_unchanged (fun item hitem _ => ih item hitem)
              hjson h)
      | _ => rfl
  | nested p ih =>
      rw [decorateField] at h ⊢
      cases json with
      | obj members =>
          rw [decorate_obj_snd, Bool.or_eq_false_iff] at h
          have hname := nameMembers_of_unchanged h.1
          rw [hname] at h
          rw [decorate_obj, hname, decorateFields_of_unchanged
            (fun name field hfield _ => ih name field hfield) hjson h.2]
      | _ => rw [decorate_eq_self p rfl]

/-! Nothing but names is put in. -/

/-- Decorating puts in members `@type` and nothing else. -/
theorem gainsTypes_decorateField {field : Field α} (hordered : field.Ordered)
    (json : Json) : json.GainsTypes (decorateField field json).1 := by
  induction field using Field.induct generalizing json with
  | null | bool | int | float | text | json => exact .same json
  | array items ih =>
      rw [Field.Ordered, Field.orderedItems_iff] at hordered
      cases json with
      | arr values =>
          refine .arr values _ (length_decorateItems items values).symm ?_
          intro index old new hold hnew
          rw [getElem?_decorateItems, hold] at hnew
          split at hnew
          · rename_i field hfield
            have hitem := List.mem_of_getElem? hfield
            cases hnew
            exact ih field hitem (hordered field hitem) old
          · cases hnew
            exact .same old
      | _ => exact .same _
  | nested p ih =>
      have hp : p.Ordered := hordered
      rw [decorateField]
      cases json with
      | obj members =>
          rw [decorate_obj]
          refine .obj members _ ?_ ?_ ?_
          · intro name hhas
            rw [has_decorateFields hp.sorted, Entries.has,
              get?_nameMembers_of_has hhas]
            exact hhas
          · intro name old new hold hnew
            have hhas : Entries.has name members = true := by
              rw [Entries.has, hold]
              rfl
            rw [get?_decorateFields hp.sorted, get?_nameMembers_of_has hhas,
              hold] at hnew
            split at hnew
            · rename_i field hfield
              have hmem := Entries.mem_of_get? hfield
              cases hnew
              exact ih name field hmem (hp.field hmem) old
            · cases hnew
              exact .same old
          · intro name new hnone hnew
            rw [get?_decorateFields hp.sorted] at hnew
            split at hnew
            · rename_i field hfield
              obtain ⟨old, hold, rfl⟩ := Option.map_eq_some_iff.1 hnew
              obtain ⟨rfl, rfl⟩ := eq_of_get?_nameMembers hnone hold
              rw [decorateField_str]
              exact ⟨rfl, _, rfl⟩
            · obtain ⟨rfl, rfl⟩ := eq_of_get?_nameMembers hnone hnew
              exact ⟨rfl, _, rfl⟩
      | _ =>
          rw [decorate_eq_self p rfl]
          exact .same _

/-- Decorating only puts in members `@type` where there are none, says whether
it did, leaves no class name missing and does nothing when done again. -/
theorem decorate_exact {p : Portable α} (hp : p.Ordered) {json : Json}
    (hjson : json.Ordered) :
    (p.decorate json).1.Ordered ∧
      json.GainsTypes (p.decorate json).1 ∧
      ((p.decorate json).2 = true ↔ (p.decorate json).1 ≠ json) ∧
      p.decorate (p.decorate json).1 = ((p.decorate json).1, false) ∧
      ∀ q members, Beside q members (.nested p) (p.decorate json).1 →
        q.hasClass = true → Entries.has typeMember members = true := by
  have hfield : (Field.nested p).Ordered := hp
  have hafter : (p.decorate json).1.Ordered :=
    ordered_decorateField (.nested p) hjson
  have htyped : Typed (.nested p) (p.decorate json).1 :=
    typed_decorateField hfield json
  have hagain : p.decorate (p.decorate json).1 =
      ((p.decorate json).1, false) :=
    decorateField_of_typed hfield hafter htyped
  refine ⟨hafter, gainsTypes_decorateField hfield json, ?_, hagain, htyped⟩
  constructor
  · intro hflag hsame
    rw [hsame] at hagain
    rw [hagain] at hflag
    cases hflag
  · intro hne
    rw [← Bool.not_eq_false]
    exact fun hflag =>
      hne (decorateField_of_unchanged (.nested p) hjson hflag)

/-- A forest beside a value whose second tree has lost its class, and whose
third entry is no tree. -/
theorem decorate_exact_forest :
    let tree : Portable Unit := .mk "Tree" none [("height", .int 3)] none
    let forest : Portable Unit := .mk "Forest" none
      [("trees", .array [.nested tree, .nested tree, .nested tree])] none
    let named := Json.obj [("@type", .str "Oak")]
    let value := Json.obj
      [("trees", .arr [named, .obj [("height", .null)], .null])]
    forest.decorate value =
      (.obj [("@type", .str "Forest"), ("trees", .arr [named,
        .obj [("@type", .str "Tree"), ("height", .null)], .null])], true) ∧
      ((forest.decorate value).2 = true ↔ (forest.decorate value).1 ≠ value) ∧
      forest.decorate (forest.decorate value).1 =
        ((forest.decorate value).1, false) := by
  intro tree forest named value
  have hforest : forest.Ordered := by
    simp [forest, tree, Ordered, Field.OrderedInstance, Field.OrderedFields,
      Field.Ordered, Field.OrderedItems, Entries.Sorted]
  have hvalue : value.Ordered := by
    simp [value, named, Json.Ordered, Json.OrderedMembers, Json.OrderedItems,
      Entries.Sorted]
  obtain ⟨-, -, hchanged, hagain, -⟩ := decorate_exact hforest hvalue
  exact ⟨rfl, hchanged, hagain⟩

end Portable
end RegionSnapshot
