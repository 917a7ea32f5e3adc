/-
What portable instances hold.  A value is native if it can be read as a field:
its integers are signed, no array lies in an array, and metadata are the name
of a class and a key.  An instance that was read holds its object: the object's
metadata, and for each other member a field.  Both directions are one
equivalence, `instanceOfMembers_eq_ok_iff`.
-/
import RegionSnapshot.Portable.Format
import RegionSnapshot.Proofs.Json.Members
import RegionSnapshot.Proofs.Outcome

namespace RegionSnapshot

theorem Key.toJson_injective : Function.Injective Key.toJson := by
  intro a b h
  have hread := congrArg Key.ofJson? h
  rw [Key.ofJson?_toJson, Key.ofJson?_toJson] at hread
  exact Option.some.inj hread

namespace Json

/-- A member that portable instances do not keep as a field. -/
def isMetadata (name : String) : Bool :=
  name == typeMember || name == identifierMember

theorem isMetadata_iff {name : String} :
    isMetadata name = true ↔ name = typeMember ∨ name = identifierMember := by
  simp [isMetadata]

theorem isMetadata_eq_false_iff {name : String} :
    isMetadata name = false ↔ name ≠ typeMember ∧ name ≠ identifierMember := by
  simp [isMetadata]

mutual

/-- The value can be read as a field. -/
def isNative : Json → Bool
  | .num (.wide _ _) => false
  | .arr items => areNativeItems items
  | .obj members => areNativeMembers members
  | _ => true

def areNativeItems : List Json → Bool
  | [] => true
  | item :: rest => !item.isArray && item.isNative && areNativeItems rest

def areNativeMembers : List (String × Json) → Bool
  | [] => true
  | (name, value) :: rest =>
      (if name = typeMember then
        value.text?.any (fun className => !Text.isBlank className)
      else if name = identifierMember then (Key.ofJson? value).isSome
      else value.isNative) && areNativeMembers rest

end

end Json

namespace Field

open Json

variable {α : Type}

theorem classOfMember_eq_ok_iff {value : Json} {className : String} :
    classOfMember value = .ok className ↔
      value = .str className ∧ Text.isBlank className = false := by
  cases value with
  | str s =>
      by_cases hblank : Text.isBlank s = true
      · simp only [classOfMember, hblank, ↓reduceIte, reduceCtorEq, false_iff]
        rintro ⟨heq, hnot⟩
        cases heq
        rw [hblank] at hnot
        cases hnot
      · simp only [classOfMember, hblank, Bool.false_eq_true, ↓reduceIte,
          Except.ok.injEq, str.injEq, iff_self_and]
        rintro rfl
        simpa using hblank
  | _ => simp [classOfMember]

theorem classOfMember_isOk_iff {value : Json} :
    (∃ className, classOfMember value = .ok className) ↔
      value.text?.any (fun className => !Text.isBlank className) = true := by
  simp only [classOfMember_eq_ok_iff]
  cases value <;> simp [text?]

theorem keyOfMember_eq_ok_iff {value : Json} {key : Key} :
    keyOfMember value = .ok key ↔ value = key.toJson := by
  rw [← Key.ofJson?_eq_some_iff, keyOfMember]
  cases Key.ofJson? value <;> simp

theorem keyOfMember_isOk_iff {value : Json} :
    (∃ key, keyOfMember value = .ok key) ↔ (Key.ofJson? value).isSome := by
  rw [keyOfMember]
  cases Key.ofJson? value <;> simp

theorem itemsOfJson_isOk_iff {items : List Json}
    (h : ∀ item ∈ items,
      (∃ field : Field α, ofJson item = .ok field) ↔ item.isNative = true) :
    ((¬ items.any isArray = true) ∧
        ∃ fields : List (Field α), itemsOfJson items = .ok fields) ↔
      areNativeItems items = true := by
  induction items with
  | nil => simp [itemsOfJson, areNativeItems]
  | cons item rest ih =>
      have hitem := h item List.mem_cons_self
      have hrest := ih (fun other hother => h other (List.mem_cons_of_mem _ hother))
      simp only [areNativeItems, Bool.and_eq_true, ← hitem, ← hrest,
        List.any_cons, Bool.or_eq_true, not_or, Bool.not_eq_true',
        Bool.not_eq_true]
      rw [itemsOfJson, Outcome.both_isOk_iff]
      exact and_and_and_comm

theorem instanceOfMembers_isOk_iff {members : List (String × Json)}
    (h : ∀ name value, (name, value) ∈ members →
      ((∃ field : Field α, ofJson value = .ok field) ↔
        value.isNative = true)) :
    (∃ p : Portable α, instanceOfMembers members = .ok p) ↔
      areNativeMembers members = true := by
  induction members with
  | nil => simp [instanceOfMembers, areNativeMembers]
  | cons member rest ih =>
      obtain ⟨name, value⟩ := member
      have hvalue := h name value List.mem_cons_self
      have hrest := ih
        (fun other json hold => h other json (List.mem_cons_of_mem _ hold))
      simp only [areNativeMembers, Bool.and_eq_true, ← hrest]
      by_cases htype : name = typeMember
      · simp only [instanceOfMembers, htype, ↓reduceIte,
          ← classOfMember_isOk_iff]
        exact Outcome.both_isOk_iff
      · by_cases hid : name = identifierMember
        · subst hid
          simp only [instanceOfMembers, htype, ↓reduceIte,
            ← keyOfMember_isOk_iff]
          exact Outcome.both_isOk_iff
        · simp only [instanceOfMembers, htype, hid, ↓reduceIte, ← hvalue]
          exact Outcome.both_isOk_iff

/-- A value can be read as a field exactly if it is native. -/
theorem ofJson_isOk_iff (json : Json) :
    (∃ field : Field α, ofJson json = .ok field) ↔ json.isNative = true := by
  induction json using Json.induct with
  | null => simp [ofJson, isNative]
  | bool value => simp [ofJson, isNative]
  | num n => cases n <;> simp [ofJson, ofNumber, isNative]
  | str s => simp [ofJson, isNative]
  | arr items ih =>
      rw [isNative, ← itemsOfJson_isOk_iff ih, ofJson]
      by_cases hnested : items.any isArray = true
      · simp [hnested]
      · simp [hnested, Outcome.map_isOk_iff]
  | obj members ih =>
      rw [isNative, ← instanceOfMembers_isOk_iff ih, ofJson,
        Outcome.map_isOk_iff]

theorem exists_instanceOfMembers {members : List (String × Json)}
    (h : areNativeMembers members = true) :
    ∃ p : Portable α, instanceOfMembers members = .ok p :=
  (instanceOfMembers_isOk_iff (fun _ value _ => ofJson_isOk_iff value)).2 h

end Field

namespace Json

theorem reread?_key (room : Nat) (key : Key) :
    reread? room key.toJson = some key.toJson := by
  cases key with
  | str s => rfl
  | int n => simp [Key.toJson, ofInt64, reread?, Number.reread?_int]

theorem areNativeMembers_iff {members : List (String × Json)} :
    areNativeMembers members = true ↔
      ∀ name value, (name, value) ∈ members →
        (if name = typeMember then
          value.text?.any (fun className => !Text.isBlank className)
        else if name = identifierMember then (Key.ofJson? value).isSome
        else value.isNative) = true := by
  induction members with
  | nil => simp [areNativeMembers]
  | cons member rest ih =>
      obtain ⟨first, json⟩ := member
      rw [areNativeMembers, Bool.and_eq_true, ih]
      constructor
      · rintro ⟨hfirst, hrest⟩ name value hmember
        rcases List.mem_cons.1 hmember with heq | hold
        · cases heq
          exact hfirst
        · exact hrest name value hold
      · intro h
        exact ⟨h first json List.mem_cons_self,
          fun name value hold => h name value (List.mem_cons_of_mem _ hold)⟩

end Json

namespace Portable

open Json RegionSnapshot.Field

variable {α : Type}

/-- The instance holds an object: class and key are its metadata, and each
other member is a field. -/
structure Holds (members : List (String × Json)) (p : Portable α) : Prop where
  object : p.object = none
  sorted : Entries.Sorted p.fields
  plain : ∀ name, isMetadata name = true → p.field? name = none
  className : ((Entries.get? typeMember members).map classOfMember).getD
    (.ok noClassName) = .ok p.className
  identifier : Entries.get? identifierMember members =
    p.identifier.map Key.toJson
  field : ∀ name, isMetadata name = false →
    (Entries.get? name members).map Field.ofJson = (p.field? name).map .ok

namespace Holds

/-- An object is held by one instance only. -/
theorem unique {members : List (String × Json)} {p q : Portable α}
    (hp : p.Holds members) (hq : q.Holds members) : p = q := by
  have hclass := hp.className.symm.trans hq.className
  have hidentifier := hp.identifier.symm.trans hq.identifier
  have hfields : p.fields = q.fields := by
    apply hp.sorted.ext hq.sorted
    intro name
    cases hname : isMetadata name with
    | true => exact (hp.plain name hname).trans (hq.plain name hname).symm
    | false =>
        have hread := (hp.field name hname).symm.trans (hq.field name hname)
        exact Option.map_injective (fun _ _ h => Except.ok.inj h) hread
  obtain ⟨className, identifier, fields, object⟩ := p
  obtain ⟨className', identifier', fields', object'⟩ := q
  have hobject := hp.object.trans hq.object.symm
  simp only [Portable.className, Portable.identifier, Portable.fields,
    Portable.object] at hclass hidentifier hfields hobject
  rw [Except.ok.inj hclass, Option.map_injective Key.toJson_injective hidentifier, hfields,
    hobject]

/-- The object held is native in all its members. -/
theorem areNative {members : List (String × Json)} {p : Portable α}
    (hsorted : Entries.Sorted members) (h : p.Holds members) :
    areNativeMembers members = true := by
  rw [areNativeMembers_iff]
  intro name value hmember
  have hget := hsorted.get?_of_mem hmember
  by_cases htype : name = typeMember
  · subst htype
    have hclass := h.className
    rw [hget] at hclass
    rw [if_pos rfl]
    exact classOfMember_isOk_iff.1 ⟨_, hclass⟩
  · rw [if_neg htype]
    by_cases hid : name = identifierMember
    · subst hid
      have hkey := h.identifier
      rw [hget, eq_comm, Option.map_eq_some_iff] at hkey
      obtain ⟨key, -, rfl⟩ := hkey
      rw [if_pos rfl, Key.ofJson?_toJson]
      rfl
    · have hname := isMetadata_eq_false_iff.2 ⟨htype, hid⟩
      have hfield := h.field name hname
      rw [hget, Option.map_some, eq_comm, Option.map_eq_some_iff] at hfield
      obtain ⟨field, -, hread⟩ := hfield
      rw [if_neg hid]
      exact (ofJson_isOk_iff value).1 ⟨field, hread.symm⟩

theorem nil : (generic : Portable α).Holds [] :=
  ⟨rfl, Entries.sorted_nil, fun _ _ => rfl, rfl, rfl, fun _ _ => rfl⟩

variable {members : List (String × Json)} {p : Portable α}

theorem withClass (h : p.Holds members) {value : Json} {className : String}
    (hvalue : classOfMember value = .ok className) :
    (p.withClass className).Holds ((typeMember, value) :: members) := by
  refine ⟨h.object, h.sorted, h.plain, ?_, ?_, ?_⟩
  · rw [Entries.get?, if_pos rfl]
    exact hvalue
  · rw [Entries.get?, if_neg (by decide)]
    exact h.identifier
  · intro name hname
    have hne := (isMetadata_eq_false_iff.1 hname).1.symm
    rw [Entries.get?, if_neg hne]
    exact h.field name hname

theorem setIdentifier (h : p.Holds members) (key : Key) :
    (p.setIdentifier key).Holds ((identifierMember, key.toJson) :: members) := by
  refine ⟨h.object, h.sorted, h.plain, ?_, ?_, ?_⟩
  · rw [Entries.get?, if_neg (by decide)]
    exact h.className
  · simp [Entries.get?, Portable.setIdentifier, Portable.identifier]
  · intro name hname
    have hne := (isMetadata_eq_false_iff.1 hname).2.symm
    rw [Entries.get?, if_neg hne]
    exact h.field name hname

/-- Only members of an object are fields of what holds it. -/
theorem mem_of_field? (h : p.Holds members) {name : String} {field : Field α}
    (hfield : p.field? name = some field) :
    ∃ value, (name, value) ∈ members := by
  cases hname : isMetadata name with
  | true =>
      rw [h.plain name hname] at hfield
      cases hfield
  | false =>
      have hread := h.field name hname
      rw [hfield, Option.map_some, Option.map_eq_some_iff] at hread
      obtain ⟨value, hget, -⟩ := hread
      exact ⟨value, Entries.mem_of_get? hget⟩

theorem cons (h : p.Holds members) {name : String} {value : Json}
    {field : Field α} (hsorted : Entries.Sorted ((name, value) :: members))
    (hname : isMetadata name = false) (hvalue : Field.ofJson value = .ok field) :
    (Portable.mk p.className p.identifier ((name, field) :: p.fields)
      p.object).Holds ((name, value) :: members) := by
  rw [Entries.Sorted, List.pairwise_cons] at hsorted
  have hbefore : ∀ entry ∈ p.fields, name < entry.1 := by
    intro entry hentry
    obtain ⟨json, hmember⟩ :=
      h.mem_of_field? (h.sorted.get?_of_mem hentry)
    exact hsorted.1 _ hmember
  have hne : ∀ other, isMetadata other = true → name ≠ other := by
    rintro other hother rfl
    rw [hname] at hother
    cases hother
  refine ⟨h.object, ?_, ?_, ?_, ?_, ?_⟩
  · exact List.pairwise_cons.2 ⟨hbefore, h.sorted⟩
  · intro other hother
    simp only [field?, Portable.fields, Entries.get?, hne other hother,
      ↓reduceIte]
    exact h.plain other hother
  · rw [Entries.get?, if_neg (hne typeMember rfl)]
    exact h.className
  · rw [Entries.get?, if_neg (hne identifierMember rfl)]
    exact h.identifier
  · intro other hother
    by_cases hother' : name = other
    · subst hother'
      simp [field?, Portable.fields, Entries.get?, hvalue]
    · simp only [field?, Portable.fields, Entries.get?, hother', ↓reduceIte]
      exact h.field other hother

end Holds

/-- The instance that was read from an object holds it. -/
theorem holds_of_instanceOfMembers {members : List (String × Json)}
    (hsorted : Entries.Sorted members) {p : Portable α}
    (h : instanceOfMembers members = .ok p) : p.Holds members := by
  induction members generalizing p with
  | nil =>
      cases h
      exact Holds.nil
  | cons member rest ih =>
      obtain ⟨name, value⟩ := member
      have hrest : Entries.Sorted rest := (List.pairwise_cons.1 hsorted).2
      by_cases htype : name = typeMember
      · subst htype
        rw [instanceOfMembers, if_pos rfl] at h
        obtain ⟨className, hclass, h⟩ := Outcome.bind_eq_ok_iff.1 h
        obtain ⟨q, hq, h⟩ := Outcome.bind_eq_ok_iff.1 h
        cases h
        exact (ih hrest hq).withClass hclass
      · rw [instanceOfMembers, if_neg htype] at h
        by_cases hid : name = identifierMember
        · subst hid
          rw [if_pos rfl] at h
          obtain ⟨key, hkey, h⟩ := Outcome.bind_eq_ok_iff.1 h
          obtain ⟨q, hq, h⟩ := Outcome.bind_eq_ok_iff.1 h
          cases h
          rw [keyOfMember_eq_ok_iff] at hkey
          subst hkey
          exact (ih hrest hq).setIdentifier key
        · rw [if_neg hid] at h
          obtain ⟨field, hfield, h⟩ := Outcome.bind_eq_ok_iff.1 h
          obtain ⟨q, hq, h⟩ := Outcome.bind_eq_ok_iff.1 h
          cases h
          exact (ih hrest hq).cons hsorted (isMetadata_eq_false_iff.2 ⟨htype, hid⟩)
            hfield

/-- An object is read as the instance that holds it. -/
theorem instanceOfMembers_eq_ok_iff {members : List (String × Json)}
    (hsorted : Entries.Sorted members) {p : Portable α} :
    instanceOfMembers members = .ok p ↔ p.Holds members := by
  refine ⟨holds_of_instanceOfMembers hsorted, fun h => ?_⟩
  have hnative := h.areNative hsorted
  obtain ⟨q, hq⟩ := exists_instanceOfMembers hnative
  rw [hq, h.unique (holds_of_instanceOfMembers hsorted hq)]

end Portable
end RegionSnapshot
