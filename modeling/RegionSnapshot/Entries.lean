/-
Entries in the order of their keys, each key once: a finite mapping with one
list for each content.  Main statements: setting and dropping an entry keep
the order, what they do to each look-up, and that two ordered lists with the
same look-ups are the same list.
-/
namespace RegionSnapshot

universe u v

/-- Keys of which any two compare. -/
class KeyOrder (κ : Type u) [LT κ] : Prop where
  irrefl : ∀ a : κ, ¬a < a
  trans : ∀ a b c : κ, a < b → b < c → a < c
  connex : ∀ a b : κ, ¬a < b → a ≠ b → b < a

instance : KeyOrder String where
  irrefl := String.lt_irrefl
  trans := fun _ _ _ => String.lt_trans
  connex := fun a b hnot hne => by
    by_cases h : b < a
    · exact h
    · exact absurd (String.le_antisymm (String.not_lt.1 h)
        (String.not_lt.1 hnot)) hne

namespace Entries

variable {κ : Type u} {β : Type v} [LT κ] [DecidableLT κ] [DecidableEq κ]

/-- The entry of `key`. -/
def get? (key : κ) : List (κ × β) → Option β
  | [] => none
  | (other, value) :: rest => if other = key then some value else get? key rest

def has (key : κ) (entries : List (κ × β)) : Bool :=
  (get? key entries).isSome

/-- Sets the entry of `key`, at its place in the order. -/
def insert (key : κ) (value : β) : List (κ × β) → List (κ × β)
  | [] => [(key, value)]
  | (other, old) :: rest =>
      if key < other then (key, value) :: (other, old) :: rest
      else if key = other then (key, value) :: rest
      else (other, old) :: insert key value rest

/-- Drops the entry of `key`. -/
def erase (key : κ) (entries : List (κ × β)) : List (κ × β) :=
  entries.filter (fun entry => entry.1 ≠ key)

/-- Sets the entries one after the other; of several with one key the last
one stays. -/
def insertAll (entries : List (κ × β)) (more : List (κ × β)) : List (κ × β) :=
  more.foldl (fun entries entry => insert entry.1 entry.2 entries) entries

/-- Entries of any order and number, as a mapping. -/
def ofList (entries : List (κ × β)) : List (κ × β) :=
  insertAll [] entries

/-- The keys stand in strictly rising order. -/
def Sorted (entries : List (κ × β)) : Prop :=
  entries.Pairwise (fun a b => a.1 < b.1)

omit [DecidableEq κ] [LT κ] [DecidableLT κ] in
theorem sorted_nil [LT κ] : Sorted ([] : List (κ × β)) :=
  List.Pairwise.nil

theorem mem_insert {key : κ} {value : β} {entries : List (κ × β)}
    {entry : κ × β} (h : entry ∈ insert key value entries) :
    entry = (key, value) ∨ entry ∈ entries := by
  induction entries with
  | nil => simpa [insert] using h
  | cons first rest ih =>
      obtain ⟨other, old⟩ := first
      simp only [insert] at h
      split at h
      · simpa using h
      · split at h
        · simp only [List.mem_cons] at h ⊢
          rcases h with h | h
          · exact .inl h
          · exact .inr (.inr h)
        · simp only [List.mem_cons] at h ⊢
          rcases h with h | h
          · exact .inr (.inl h)
          · rcases ih h with h | h
            · exact .inl h
            · exact .inr (.inr h)

/-- Setting an entry keeps the order. -/
theorem Sorted.insert [KeyOrder κ] {entries : List (κ × β)}
    (h : Sorted entries) (key : κ) (value : β) :
    Sorted (Entries.insert key value entries) := by
  induction entries with
  | nil => simp [Sorted, Entries.insert]
  | cons first rest ih =>
      obtain ⟨other, old⟩ := first
      simp only [Sorted, List.pairwise_cons] at h
      simp only [Entries.insert]
      split
      · rename_i hlt
        simp only [Sorted, List.pairwise_cons, List.mem_cons]
        refine ⟨?_, h.1, h.2⟩
        rintro entry (rfl | hentry)
        · exact hlt
        · exact KeyOrder.trans _ _ _ hlt (h.1 entry hentry)
      · split
        · rename_i heq
          subst heq
          simp only [Sorted, List.pairwise_cons]
          exact ⟨fun entry hentry => h.1 entry hentry, h.2⟩
        · rename_i hnot hne
          simp only [Sorted, List.pairwise_cons]
          refine ⟨?_, ih h.2⟩
          intro entry hentry
          rcases mem_insert hentry with rfl | hold
          · exact KeyOrder.connex _ _ hnot hne
          · exact h.1 entry hold

omit [DecidableLT κ] in
/-- Dropping an entry keeps the order. -/
theorem Sorted.erase {entries : List (κ × β)} (h : Sorted entries) (key : κ) :
    Sorted (Entries.erase key entries) :=
  List.Pairwise.filter _ h

theorem Sorted.insertAll [KeyOrder κ] {entries : List (κ × β)}
    (h : Sorted entries) (more : List (κ × β)) :
    Sorted (Entries.insertAll entries more) := by
  induction more generalizing entries with
  | nil => exact h
  | cons entry rest ih => exact ih (h.insert entry.1 entry.2)

theorem get?_insert (key other : κ) (value : β) (entries : List (κ × β)) :
    get? other (insert key value entries) =
      if other = key then some value else get? other entries := by
  induction entries with
  | nil => simp [get?, insert, eq_comm]
  | cons first rest ih =>
      obtain ⟨name, old⟩ := first
      by_cases hkey : other = key
      · subst hkey
        simp only [insert]
        split
        · simp [get?]
        · split
          · simp [get?]
          · rename_i hne
            simp [get?, Ne.symm hne, ih]
      · simp only [insert]
        split
        · simp [get?, Ne.symm hkey]
        · split
          · rename_i heq
            subst heq
            simp [get?, Ne.symm hkey]
          · simp [get?, hkey, ih]

omit [DecidableLT κ] [LT κ] in
theorem get?_erase (key other : κ) (entries : List (κ × β)) :
    get? other (erase key entries) =
      if other = key then none else get? other entries := by
  induction entries with
  | nil => simp [get?, erase]
  | cons first rest ih =>
      obtain ⟨name, old⟩ := first
      simp only [erase] at ih
      by_cases hname : name = key
      · subst hname
        by_cases hother : other = name
        · simp_all [erase]
        · simp_all [get?, erase, Ne.symm hother]
      · by_cases hother : other = key
        · subst hother
          simp_all [get?, erase]
        · simp_all [get?, erase]

omit [DecidableLT κ] in
theorem get?_eq_none_of_lt [KeyOrder κ] {key : κ} {entries : List (κ × β)}
    (h : ∀ entry ∈ entries, key < entry.1) : get? key entries = none := by
  induction entries with
  | nil => rfl
  | cons first rest ih =>
      have hfirst := h first List.mem_cons_self
      have hne : first.1 ≠ key := by
        intro heq
        exact KeyOrder.irrefl key (heq ▸ hfirst)
      simp only [get?, hne, ↓reduceIte]
      exact ih (fun entry hentry => h entry (List.mem_cons_of_mem first hentry))

omit [DecidableLT κ] in
/-- Ordered entries are determined by their look-ups. -/
theorem Sorted.ext [KeyOrder κ] {left right : List (κ × β)}
    (hleft : Sorted left) (hright : Sorted right)
    (h : ∀ key, get? key left = get? key right) : left = right := by
  induction left generalizing right with
  | nil =>
      cases right with
      | nil => rfl
      | cons first rest => simpa [get?] using h first.1
  | cons first rest ih =>
      cases right with
      | nil => simpa [get?] using h first.1
      | cons other others =>
          obtain ⟨key, value⟩ := first
          obtain ⟨key', value'⟩ := other
          simp only [Sorted, List.pairwise_cons] at hleft hright
          have hkey : key = key' := by
            by_cases heq : key = key'
            · exact heq
            · exfalso
              by_cases hlt : key < key'
              · have hnone : get? key ((key', value') :: others) = none := by
                  apply get?_eq_none_of_lt
                  intro entry hentry
                  rcases List.mem_cons.1 hentry with rfl | hentry
                  · exact hlt
                  · exact KeyOrder.trans _ _ _ hlt (hright.1 entry hentry)
                have := h key
                simp [get?, Ne.symm heq] at this hnone
                rw [hnone] at this
                simp at this
              · have hgt := KeyOrder.connex _ _ hlt heq
                have hnone : get? key' ((key, value) :: rest) = none := by
                  apply get?_eq_none_of_lt
                  intro entry hentry
                  rcases List.mem_cons.1 hentry with rfl | hentry
                  · exact hgt
                  · exact KeyOrder.trans _ _ _ hgt (hleft.1 entry hentry)
                have := h key'
                simp [get?, heq] at this hnone
                rw [hnone] at this
                simp at this
          subst hkey
          have hvalue := h key
          simp only [get?, ↓reduceIte, Option.some.injEq] at hvalue
          subst hvalue
          have hrest : rest = others := by
            apply ih hleft.2 hright.2
            intro name
            by_cases hname : name = key
            · subst hname
              rw [get?_eq_none_of_lt hleft.1, get?_eq_none_of_lt hright.1]
            · have := h name
              simpa [get?, Ne.symm hname] using this
          rw [hrest]

end Entries
end RegionSnapshot
