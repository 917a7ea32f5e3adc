/-
Look-ups in ordered entries.  An entry of an ordered list is found under its
key, entries put in their order stay as they stand, and changing the values
only leaves the keys alone.
-/
import RegionSnapshot.Entries

namespace RegionSnapshot
namespace Entries

universe u v w

variable {κ : Type u} {β : Type v} {γ : Type w}
variable [LT κ] [DecidableLT κ] [DecidableEq κ]

omit [LT κ] [DecidableLT κ] in
theorem mem_of_get? {key : κ} {value : β} {entries : List (κ × β)}
    (h : get? key entries = some value) : (key, value) ∈ entries := by
  induction entries with
  | nil => simp [get?] at h
  | cons first rest ih =>
      obtain ⟨other, old⟩ := first
      by_cases hkey : other = key
      · subst hkey
        simp only [get?, ↓reduceIte, Option.some.injEq] at h
        subst h
        exact List.mem_cons_self
      · simp only [get?, hkey, ↓reduceIte] at h
        exact List.mem_cons_of_mem _ (ih h)

omit [DecidableLT κ] in
theorem Sorted.get?_of_mem [KeyOrder κ] {key : κ} {value : β}
    {entries : List (κ × β)} (hsorted : Sorted entries)
    (h : (key, value) ∈ entries) : get? key entries = some value := by
  induction entries with
  | nil => simp at h
  | cons first rest ih =>
      obtain ⟨other, old⟩ := first
      simp only [Sorted, List.pairwise_cons] at hsorted
      rcases List.mem_cons.1 h with heq | hrest
      · cases heq
        simp [get?]
      · have hne : other ≠ key := by
          rintro rfl
          exact KeyOrder.irrefl other (hsorted.1 _ hrest)
        simp only [get?, hne, ↓reduceIte]
        exact ih hsorted.2 hrest

omit [LT κ] [DecidableLT κ] in
theorem has_iff_mem {key : κ} {entries : List (κ × β)} :
    has key entries = true ↔ key ∈ entries.map Prod.fst := by
  induction entries with
  | nil => simp [has, get?]
  | cons first rest ih =>
      obtain ⟨other, old⟩ := first
      by_cases hkey : other = key
      · subst hkey
        simp [has, get?]
      · simp only [has, get?, hkey, ↓reduceIte] at ih ⊢
        simp only [ih, List.map_cons, List.mem_cons, Ne.symm hkey, false_or]

/-- An entry behind all those before it is put at their end. -/
theorem insert_eq_append [KeyOrder κ] {done : List (κ × β)} {key : κ}
    (h : ∀ entry ∈ done, entry.1 < key) (value : β) :
    insert key value done = done ++ [(key, value)] := by
  induction done with
  | nil => rfl
  | cons first rest ih =>
      obtain ⟨other, old⟩ := first
      have hother : other < key := h (other, old) List.mem_cons_self
      have hnot : ¬key < other :=
        fun hlt => KeyOrder.irrefl key (KeyOrder.trans _ _ _ hlt hother)
      have hne : key ≠ other := by
        rintro rfl
        exact KeyOrder.irrefl key hother
      simp only [insert, hnot, hne, ↓reduceIte, List.cons_append]
      rw [ih (fun entry hentry => h entry (List.mem_cons_of_mem _ hentry))]

/-- Ordered entries behind all those before them are put at their end. -/
theorem Sorted.insertAll_eq_append [KeyOrder κ] {more : List (κ × β)}
    (hmore : Sorted more) {done : List (κ × β)}
    (h : ∀ entry ∈ done, ∀ other ∈ more, entry.1 < other.1) :
    Entries.insertAll done more = done ++ more := by
  induction more generalizing done with
  | nil => simp [Entries.insertAll]
  | cons first rest ih =>
      obtain ⟨key, value⟩ := first
      simp only [Sorted, List.pairwise_cons] at hmore
      have hinsert := insert_eq_append
        (fun entry hentry => h entry hentry (key, value) List.mem_cons_self)
        value
      have hlater : ∀ entry ∈ done ++ [(key, value)], ∀ other ∈ rest,
          entry.1 < other.1 := by
        intro entry hentry other hother
        rcases List.mem_append.1 hentry with hold | hnew
        · exact h entry hold other (List.mem_cons_of_mem _ hother)
        · rw [List.mem_singleton] at hnew
          subst hnew
          exact hmore.1 other hother
      have hrest := ih hmore.2 hlater
      simp only [Entries.insertAll, List.foldl_cons] at hrest ⊢
      rw [hinsert, hrest, List.append_assoc]
      rfl

/-- Ordered entries are the mapping that they make. -/
theorem Sorted.insertAll_nil [KeyOrder κ] {entries : List (κ × β)}
    (h : Sorted entries) : Entries.insertAll [] entries = entries :=
  h.insertAll_eq_append (fun _ hentry => absurd hentry List.not_mem_nil)

theorem has_insertAll (key : κ) (entries more : List (κ × β)) :
    has key (insertAll entries more) =
      (has key entries || has key more) := by
  induction more generalizing entries with
  | nil => simp [insertAll, has, get?]
  | cons first rest ih =>
      obtain ⟨other, value⟩ := first
      simp only [insertAll, List.foldl_cons] at ih ⊢
      rw [ih]
      simp only [has, get?_insert, get?, eq_comm (a := other)]
      by_cases hkey : key = other <;> simp [hkey]

omit [LT κ] [DecidableLT κ] in
theorem get?_append (key : κ) (first second : List (κ × β)) :
    get? key (first ++ second) = (get? key first).or (get? key second) := by
  induction first with
  | nil => rfl
  | cons entry rest ih =>
      obtain ⟨other, value⟩ := entry
      by_cases hkey : other = key
      · simp [get?, hkey]
      · simp [get?, hkey, ih]

/-- Of several entries with one key the last one is found. -/
theorem get?_insertAll (key : κ) (entries more : List (κ × β)) :
    get? key (insertAll entries more) =
      (get? key more.reverse).or (get? key entries) := by
  induction more generalizing entries with
  | nil => rfl
  | cons first rest ih =>
      obtain ⟨other, value⟩ := first
      rw [insertAll, List.foldl_cons, ← insertAll, ih, List.reverse_cons,
        get?_append, Option.or_assoc, get?_insert]
      by_cases hkey : key = other
      · simp [get?, hkey]
      · simp [get?, hkey, Ne.symm hkey]

omit [LT κ] [DecidableLT κ] in
/-- A change of each value is a change of what is found. -/
theorem get?_mapValues (f : κ → β → γ) (key : κ) (entries : List (κ × β)) :
    get? key (entries.map (fun entry => (entry.1, f entry.1 entry.2))) =
      (get? key entries).map (f key) := by
  induction entries with
  | nil => rfl
  | cons first rest ih =>
      obtain ⟨other, old⟩ := first
      by_cases hkey : other = key
      · subst hkey
        simp [get?]
      · simp [get?, hkey, ih]

omit [LT κ] [DecidableLT κ] in
theorem erase_cons (key : κ) (first : κ × β) (rest : List (κ × β)) :
    erase key (first :: rest) =
      if first.1 = key then erase key rest else first :: erase key rest := by
  by_cases hkey : first.1 = key <;> simp [erase, hkey]

omit [DecidableEq κ] [DecidableLT κ] in
theorem Sorted.of_keys_eq {left : List (κ × β)} {right : List (κ × γ)}
    (h : left.map Prod.fst = right.map Prod.fst) (hleft : Sorted left) :
    Sorted right := by
  have hkeys : (left.map Prod.fst).Pairwise (· < ·) :=
    List.pairwise_map.2 hleft
  rw [h] at hkeys
  exact List.pairwise_map.1 hkeys

/-- Of two values that are set one after the other the second one stays. -/
theorem insert_insert [KeyOrder κ] (key : κ) (old new : β)
    (entries : List (κ × β)) :
    insert key new (insert key old entries) = insert key new entries := by
  have hself : ¬ key < key := KeyOrder.irrefl key
  induction entries with
  | nil => simp [insert, hself]
  | cons first rest ih =>
      rw [insert]
      split
      · rename_i hlt
        simp [insert, hself, hlt]
      · rename_i hnot
        split
        · rename_i heq
          simp [insert, hself, ← heq]
        · rename_i hne
          simp [insert, hnot, hne, ih]

/-- A value that is set and dropped again leaves nothing. -/
theorem erase_insert (key : κ) (value : β) (entries : List (κ × β)) :
    erase key (insert key value entries) = erase key entries := by
  induction entries with
  | nil => simp [insert, erase]
  | cons first rest ih =>
      rw [insert]
      split
      · simp [erase_cons]
      · split
        · rename_i heq
          simp [erase_cons, heq]
        · simp [erase_cons, ih]

omit [LT κ] [DecidableLT κ] in
theorem erase_eq_self {key : κ} {entries : List (κ × β)}
    (h : get? key entries = none) : erase key entries = entries := by
  induction entries with
  | nil => rfl
  | cons first rest ih =>
      rw [get?] at h
      split at h
      · cases h
      · rename_i hne
        rw [erase_cons, if_neg hne, ih h]

/-- A value that is there can be set again. -/
theorem Sorted.insert_eq_self [KeyOrder κ] {key : κ} {value : β}
    {entries : List (κ × β)} (hsorted : Sorted entries)
    (h : get? key entries = some value) :
    Entries.insert key value entries = entries := by
  apply (hsorted.insert key value).ext hsorted
  intro other
  rw [get?_insert]
  split
  · rename_i heq
    rw [heq, h]
  · rfl

end Entries
end RegionSnapshot
