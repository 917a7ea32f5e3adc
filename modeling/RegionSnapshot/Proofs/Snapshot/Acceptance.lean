/-
Which trees are snapshots.  A tree is native if its metadata are proper, its
arrays are flat and its integers are signed, at every depth.  A snapshot is an
object or an array of objects, each of them native or the form of a typed
object that the registry restores; of the latter only the metadata at the top
have to be proper.  Main statement: exactly these trees are read, element by
element.
-/
import RegionSnapshot.Proofs.Snapshot.Written

namespace RegionSnapshot

variable {α : Type}

/-- The number is no integer, or one of the signed range. -/
def Number.Fits (n : Number) : Prop :=
  ∀ i, n.toInt? = some i →
    Int64.minValue.toInt ≤ i ∧ i ≤ Int64.maxValue.toInt

namespace Json

/-- `inner` stands in the value at some depth, or is the value. -/
inductive Within (inner : Json) : Json → Prop
  | here : Within inner inner
  | item {items : List Json} {item : Json} (hitem : item ∈ items)
      (h : Within inner item) : Within inner (.arr items)
  | member {members : List (String × Json)} {name : String} {value : Json}
      (hmember : (name, value) ∈ members) (h : Within inner value) :
      Within inner (.obj members)

/-- A string that is not blank. -/
def IsClassName (json : Json) : Prop :=
  ∃ name, json = .str name ∧ Text.isBlank name = false

/-- A string or a signed integer. -/
def IsKey (json : Json) : Prop :=
  (∃ s, json = .str s) ∨ ∃ n, json = .num (.int n)

/-- At every depth a type is a class name, an identifier is a key, no array
lies in an array and every integer is signed. -/
structure Native (json : Json) : Prop where
  type : ∀ members, Within (.obj members) json →
    ∀ value, (typeMember, value) ∈ members → value.IsClassName
  identifier : ∀ members, Within (.obj members) json →
    ∀ value, (identifierMember, value) ∈ members → value.IsKey
  flat : ∀ items, Within (.arr items) json →
    ∀ item ∈ items, item.isArray = false
  fits : ∀ n, Within (.num n) json → n.Fits

theorem isKey_iff {json : Json} :
    json.IsKey ↔ (Key.ofJson? json).isSome = true := by
  rw [Option.isSome_iff_exists]
  constructor
  · rintro (⟨s, rfl⟩ | ⟨n, rfl⟩)
    · exact ⟨.str s, rfl⟩
    · exact ⟨.int n, rfl⟩
  · rintro ⟨key, hkey⟩
    rw [Key.ofJson?_eq_some_iff] at hkey
    cases key with
    | int n => exact .inr ⟨n, hkey⟩
    | str s => exact .inl ⟨s, hkey⟩

theorem isClassName_iff {json : Json} :
    json.IsClassName ↔
      json.text?.any (fun name => !Text.isBlank name) = true := by
  rw [← Field.classOfMember_isOk_iff]
  simp only [Field.classOfMember_eq_ok_iff]
  rfl

/-- Exactly the integers beyond the signed range do not fit. -/
theorem fits_iff {n : Number} : n.Fits ↔ (Json.num n).isNative = true := by
  cases n with
  | int value =>
      have hfits : (Number.int value).Fits := by
        rintro i hi
        cases hi
        exact ⟨Int64.le_toInt value, Int64.toInt_le value⟩
      exact iff_of_true hfits rfl
  | wide value beyond =>
      have hwide : ¬ (Number.wide value beyond).Fits := by
        intro hfits
        have hle := (hfits value.toNat rfl).2
        have hmax : Int64.maxValue.toInt = 9223372036854775807 := by decide
        omega
      exact iff_of_false hwide Bool.false_ne_true
  | float x finite =>
      have hfits : (Number.float x finite).Fits := by
        intro i hi
        cases hi
      exact iff_of_true hfits rfl

/-- A value without values in it is native if its number fits. -/
theorem native_leaf {json : Json} (harr : json.isArray = false)
    (hobj : json.isObject = false) :
    json.Native ↔ ∀ n, json = .num n → n.Fits := by
  have hself : ∀ inner, Within inner json → inner = json := by
    intro inner h
    cases h with
    | here => rfl
    | item => cases harr
    | member => cases hobj
  constructor
  · rintro h n rfl
    exact h.fits n .here
  · intro h
    refine ⟨?_, ?_, ?_, ?_⟩
    · intro members hwithin
      rw [← hself _ hwithin] at hobj
      cases hobj
    · intro members hwithin
      rw [← hself _ hwithin] at hobj
      cases hobj
    · intro items hwithin
      rw [← hself _ hwithin] at harr
      cases harr
    · intro n hwithin
      exact h n (hself _ hwithin).symm

theorem native_str (s : String) : (str s).Native :=
  (native_leaf rfl rfl).2 (fun _ => Json.noConfusion)

theorem native_num {n : Number} : (num n).Native ↔ n.Fits := by
  rw [native_leaf rfl rfl]
  exact ⟨fun h => h n rfl, fun h m hm => Json.num.inj hm ▸ h⟩

theorem native_arr {items : List Json} :
    (arr items).Native ↔ ∀ item ∈ items, item.isArray = false ∧ item.Native := by
  constructor
  · intro h item hitem
    refine ⟨h.flat items .here item hitem, ?_, ?_, ?_, ?_⟩
    · exact fun members hwithin => h.type members (.item hitem hwithin)
    · exact fun members hwithin => h.identifier members (.item hitem hwithin)
    · exact fun inner hwithin => h.flat inner (.item hitem hwithin)
    · exact fun n hwithin => h.fits n (.item hitem hwithin)
  · intro h
    refine ⟨?_, ?_, ?_, ?_⟩
    · rintro members (_ | ⟨hitem, hwithin⟩)
      exact (h _ hitem).2.type members hwithin
    · rintro members (_ | ⟨hitem, hwithin⟩)
      exact (h _ hitem).2.identifier members hwithin
    · rintro inner (_ | ⟨hitem, hwithin⟩)
      · exact fun item hitem => (h item hitem).1
      · exact (h _ hitem).2.flat inner hwithin
    · rintro n (_ | ⟨hitem, hwithin⟩)
      exact (h _ hitem).2.fits n hwithin

theorem native_obj {members : List (String × Json)} :
    (obj members).Native ↔ ∀ name value, (name, value) ∈ members →
      (name = typeMember → value.IsClassName) ∧
      (name = identifierMember → value.IsKey) ∧ value.Native := by
  constructor
  · intro h name value hmember
    refine ⟨?_, ?_, ?_, ?_, ?_, ?_⟩
    · rintro rfl
      exact h.type members .here value hmember
    · rintro rfl
      exact h.identifier members .here value hmember
    · exact fun inner hwithin => h.type inner (.member hmember hwithin)
    · exact fun inner hwithin => h.identifier inner (.member hmember hwithin)
    · exact fun items hwithin => h.flat items (.member hmember hwithin)
    · exact fun n hwithin => h.fits n (.member hmember hwithin)
  · intro h
    refine ⟨?_, ?_, ?_, ?_⟩
    · rintro inner (_ | _ | ⟨hmember, hwithin⟩)
      · exact fun value hvalue => (h _ value hvalue).1 rfl
      · exact (h _ _ hmember).2.2.type inner hwithin
    · rintro inner (_ | _ | ⟨hmember, hwithin⟩)
      · exact fun value hvalue => (h _ value hvalue).2.1 rfl
      · exact (h _ _ hmember).2.2.identifier inner hwithin
    · rintro items (_ | _ | ⟨hmember, hwithin⟩)
      exact (h _ _ hmember).2.2.flat items hwithin
    · rintro n (_ | _ | ⟨hmember, hwithin⟩)
      exact (h _ _ hmember).2.2.fits n hwithin

theorem IsClassName.native {json : Json} (h : json.IsClassName) :
    json.Native := by
  obtain ⟨name, rfl, -⟩ := h
  exact native_str name

theorem IsKey.native {json : Json} (h : json.IsKey) : json.Native := by
  rcases h with ⟨s, rfl⟩ | ⟨n, rfl⟩
  · exact native_str s
  · exact native_num.2 (fits_iff.2 rfl)

theorem areNativeItems_iff {items : List Json} :
    areNativeItems items = true ↔
      ∀ item ∈ items, item.isArray = false ∧ item.isNative = true := by
  induction items with
  | nil => simp [areNativeItems]
  | cons item rest ih => simp [areNativeItems, ih, and_assoc]

/-- What the reader of fields takes are the native values. -/
theorem isNative_iff (json : Json) : json.isNative = true ↔ json.Native := by
  induction json using Json.induct with
  | null | bool =>
      exact iff_of_true rfl
        ((native_leaf rfl rfl).2 (fun _ => Json.noConfusion))
  | str s => exact iff_of_true rfl (native_str s)
  | num n => rw [← fits_iff, native_num]
  | arr items ih =>
      rw [isNative, areNativeItems_iff, native_arr]
      exact forall₂_congr (fun item hitem => and_congr_right' (ih item hitem))
  | obj members ih =>
      rw [isNative, areNativeMembers_iff, native_obj]
      refine forall₃_congr (fun name value hmember => ?_)
      by_cases htype : name = typeMember
      · have hother : name ≠ identifierMember := by
          rw [htype]
          decide
        rw [if_pos htype, ← isClassName_iff]
        exact ⟨fun h => ⟨fun _ => h, fun heq => absurd heq hother, h.native⟩,
          fun h => h.1 htype⟩
      · rw [if_neg htype]
        by_cases hid : name = identifierMember
        · rw [if_pos hid, ← isKey_iff]
          exact ⟨fun h => ⟨fun heq => absurd heq htype, fun _ => h, h.native⟩,
            fun h => h.2.1 hid⟩
        · rw [if_neg hid, ih name value hmember]
          exact ⟨fun h => ⟨fun heq => absurd heq htype,
            fun heq => absurd heq hid, h⟩, fun h => h.2.2⟩

end Json

open Json

/-- The registry restores a typed object from the members: they name a
registered type, which reads what they hold besides metadata and can write
what it read, and their key is one, if there is any. -/
def Registry.Restores (registry : Registry α)
    (members : List (String × Json)) : Prop :=
  ∃ name type object form,
    Entries.get? typeMember members = some (.str name) ∧
    Text.isBlank name = false ∧ registry.find? name = some type ∧
    type.materialize (.obj (payloadMembers members)) = .ok object ∧
    object.toJson = .ok form ∧
    ∀ value, Entries.get? identifierMember members = some value → value.IsKey

namespace Stage

/-- The key of an element can be read if it is one or there is none. -/
theorem exists_key_iff {members : List (String × Json)} :
    (∃ key? : Option Key,
      Entries.get? identifierMember members = key?.map Key.toJson) ↔
      ∀ value, Entries.get? identifierMember members = some value →
        value.IsKey := by
  constructor
  · rintro ⟨key?, hkey⟩ value hvalue
    rw [hvalue, eq_comm, Option.map_eq_some_iff] at hkey
    obtain ⟨key, -, rfl⟩ := hkey
    rw [isKey_iff, Key.ofJson?_toJson]
    rfl
  · intro h
    cases hget : Entries.get? identifierMember members with
    | none => exact ⟨none, rfl⟩
    | some value =>
        obtain ⟨key, hkey⟩ := Option.isSome_iff_exists.1
          (isKey_iff.1 (h value hget))
        rw [Key.ofJson?_eq_some_iff] at hkey
        exact ⟨some key, congrArg some hkey⟩

/-- A typed element is read exactly if the registry restores its object. -/
theorem readTyped_isOk_iff {registry : Registry α}
    {members : List (String × Json)} :
    (∃ p, readTyped registry (.obj members) = .ok p) ↔
      registry.Restores members := by
  constructor
  · rintro ⟨p, hread⟩
    obtain ⟨object, form, hobject, hcaptures, hkey⟩ :=
      readTyped_obj_eq_ok_iff.1 hread
    obtain ⟨name, type, hname, hfind, hmade⟩ :=
      Registry.readObject_eq_ok_iff.1 hobject
    obtain ⟨hget, hblank⟩ := typeNameOf?_eq_some_iff.1 hname
    exact ⟨name, type, object, form, hget, hblank, hfind, hmade,
      hcaptures.written, exists_key_iff.1 ⟨_, hkey⟩⟩
  · rintro ⟨name, type, object, form, hget, hblank, hfind, hmade, hform, hkey⟩
    obtain ⟨key?, hkey⟩ := exists_key_iff.2 hkey
    have hname := typeNameOf?_eq_some_iff.2 ⟨hget, hblank⟩
    have hobject := Registry.readObject_eq_ok_iff.2
      ⟨name, type, hname, hfind, hmade⟩
    refine ⟨.mk object.typeName key? ((objectFields form).map
      (fun member => (member.1, Portable.fieldOfMember member.2)))
      (some object), ?_⟩
    exact readTyped_obj_eq_ok_iff.2
      ⟨object, form, hobject, ⟨rfl, rfl, hform, rfl⟩, hkey⟩

/-- An element is read exactly if it is an object that is native or that the
registry restores. -/
theorem ofElement_isOk_iff {registry : Registry α} {element : Json} :
    (∃ p, Portable.ofElement registry standard element = .ok p) ↔
      ∃ members, element = .obj members ∧
        ((Json.obj members).Native ∨ registry.Restores members) := by
  constructor
  · rintro ⟨p, hread⟩
    obtain ⟨members, rfl⟩ := exists_members_of_ofElement hread
    refine ⟨members, rfl, ?_⟩
    rcases ofElement_obj_eq_ok_iff.1 hread with hnative | ⟨-, htyped⟩
    · left
      rw [← isNative_iff, isNative]
      exact (Field.instanceOfMembers_isOk_iff
        (fun _ value _ => Field.ofJson_isOk_iff value)).1 ⟨p, hnative⟩
    · exact .inr (readTyped_isOk_iff.1 ⟨p, htyped⟩)
  · rintro ⟨members, rfl, haccepted⟩
    -- a native element is taken by the first stage, restorable or not
    by_cases hnative : areNativeMembers members = true
    · obtain ⟨p, hp⟩ := Field.exists_instanceOfMembers (α := α) hnative
      exact ⟨p, ofElement_obj_eq_ok_iff.2 (.inl hp)⟩
    · have hrestores : registry.Restores members := by
        refine haccepted.resolve_left (fun h => hnative ?_)
        rwa [← isNative_iff, isNative] at h
      obtain ⟨p, hp⟩ := readTyped_isOk_iff.2 hrestores
      exact ⟨p, ofElement_obj_eq_ok_iff.2
        (.inr ⟨Bool.eq_false_iff.2 hnative, hp⟩)⟩

end Stage

namespace Snapshot

/-- Each instance is read from the element at its place. -/
theorem instances_in_place {registry : Registry α} {elements : List Json}
    {instances : List (Portable α)}
    (h : elements.mapM (Portable.ofElement registry Stage.standard) =
      .ok instances) :
    instances.length = elements.length ∧
      ∀ (place : Nat) (element : Json), elements[place]? = some element →
        ∃ p, instances[place]? = some p ∧
          Portable.ofElement registry Stage.standard element = .ok p :=
  Outcome.mapM_in_place h

/-- The trees that are read are the objects and arrays of objects of which each
is native or restored by the registry; each element gives one instance, in the
order of the elements. -/
theorem ofElements_exact (registry : Registry α) (json : Json) :
    ((∃ instances,
        Portable.ofElements registry Stage.standard json = .ok instances) ↔
      ∃ elements, json.elements? = some elements ∧
        ∀ element ∈ elements, ∃ members, element = .obj members ∧
          ((Json.obj members).Native ∨ registry.Restores members)) ∧
    ∀ instances,
      Portable.ofElements registry Stage.standard json = .ok instances →
      ∃ elements, json.elements? = some elements ∧
        instances.length = elements.length ∧
        ∀ (place : Nat) (element : Json), elements[place]? = some element →
          ∃ p, instances[place]? = some p ∧
            Portable.ofElement registry Stage.standard element = .ok p := by
  refine ⟨⟨?_, ?_⟩, ?_⟩
  · rintro ⟨instances, hinstances⟩
    obtain ⟨elements, helements, hread⟩ :=
      Portable.ofElements_eq_ok_iff.1 hinstances
    refine ⟨elements, helements, fun element helement => ?_⟩
    obtain ⟨p, -, hp⟩ := Outcome.exists_of_mem_mapM hread helement
    exact Stage.ofElement_isOk_iff.1 ⟨p, hp⟩
  · rintro ⟨elements, helements, haccepted⟩
    obtain ⟨instances, hread, -⟩ :=
      Outcome.exists_mapM (P := fun _ => True) (fun element helement => by
        obtain ⟨p, hp⟩ :=
          Stage.ofElement_isOk_iff.2 (haccepted element helement)
        exact ⟨p, hp, trivial⟩)
    exact ⟨instances,
      Portable.ofElements_eq_ok_iff.2 ⟨elements, helements, hread⟩⟩
  · intro instances hinstances
    obtain ⟨elements, helements, hread⟩ :=
      Portable.ofElements_eq_ok_iff.1 hinstances
    exact ⟨elements, helements, instances_in_place hread⟩

end Snapshot
end RegionSnapshot
