/-
The regions of a cache as its operations leave them.  A region that is put into
the cache is found under its name and leaves the others alone; taken out again,
it leaves nothing behind.  What a listener makes of a region that stands in the
cache stands there when the next one is told.
-/
import RegionSnapshot.Cache
import RegionSnapshot.Proofs.Entries

namespace RegionSnapshot

theorem Region.name_of_root {α : Type} {region : Region α} {name : String}
    (h : region.id = .root name) : region.name = name := by
  rw [Region.name, h]
  rfl

namespace Cache

variable {α σ : Type} {name : String}

theorem mem_names_iff (cache : Cache α σ) (name : String) :
    name ∈ cache.names ↔ (cache.region? name).isSome = true := by
  rw [names, ← Entries.has_iff_mem]
  rfl

theorem not_mem_names_iff (cache : Cache α σ) (name : String) :
    name ∉ cache.names ↔ cache.region? name = none := by
  rw [mem_names_iff, Bool.not_eq_true, Option.isSome_eq_false_iff,
    Option.isNone_iff_eq_none]

theorem region?_setRegion (cache : Cache α σ) (region : Region α)
    (name : String) :
    (cache.setRegion region).region? name =
      if name = region.name then some region else cache.region? name :=
  Entries.get?_insert region.name name region cache.regions

theorem region?_setRegion_self (cache : Cache α σ) {region : Region α}
    (h : region.name = name) :
    (cache.setRegion region).region? name = some region := by
  rw [region?_setRegion, if_pos h.symm]

theorem setRegion_setRegion (cache : Cache α σ) {old new : Region α}
    (h : new.name = old.name) :
    (cache.setRegion old).setRegion new = cache.setRegion new := by
  simp only [setRegion, h, Entries.insert_insert]

theorem region?_without (cache : Cache α σ) (name other : String) :
    (cache.without name).region? other =
      if other = name then none else cache.region? other :=
  Entries.get?_erase name other cache.regions

theorem mem_names_setRegion (cache : Cache α σ) {region : Region α}
    (hname : region.name = name) (other : String) :
    other ∈ (cache.setRegion region).names ↔
      other = name ∨ other ∈ cache.names := by
  rw [mem_names_iff, mem_names_iff, region?_setRegion, hname]
  by_cases h : other = name
  · simp [h]
  · simp [h]

theorem mem_names_without (cache : Cache α σ) (name other : String) :
    other ∈ (cache.without name).names ↔
      other ≠ name ∧ other ∈ cache.names := by
  rw [mem_names_iff, mem_names_iff, region?_without]
  by_cases h : other = name
  · simp [h]
  · simp [h]

/-- A region that is taken out again leaves the others as they were. -/
theorem setRegion_without (cache : Cache α σ) {region : Region α}
    (hname : region.name = name) :
    (cache.setRegion region).without name = cache.without name := by
  subst hname
  simp only [without, setRegion, Entries.erase_insert]

theorem without_eq_self {cache : Cache α σ}
    (h : cache.region? name = none) : cache.without name = cache := by
  simp only [without, Entries.erase_eq_self h]

/-- Changing the entries of one region leaves the other regions alone. -/
theorem region?_update {cache : Cache α σ} {name : String}
    {change : Region α → Region α}
    (hname : ∀ region, cache.region? name = some region →
      (change region).name = name) (other : String) :
    (cache.update name change).region? other =
      if other = name then (cache.region? other).map change
      else cache.region? other := by
  rw [update]
  cases hold : cache.region? name with
  | none =>
      by_cases hother : other = name
      · rw [if_pos hother, hother, hold]
        rfl
      · rw [if_neg hother]
  | some region =>
      dsimp only
      rw [region?_setRegion, hname region hold]
      by_cases hother : other = name
      · rw [if_pos hother, if_pos hother, hother, hold]
        rfl
      · rw [if_neg hother, if_neg hother]

theorem listeners_update (cache : Cache α σ) (name : String)
    (change : Region α → Region α) :
    (cache.update name change).listeners = cache.listeners := by
  rw [update]
  split <;> rfl

/-- A listener sees the region of which it is told among the regions of the
cache, and what it makes of this region takes its place there. -/
theorem tell_setRegion (cache : Cache α σ) {event : Event}
    {region heard : Region α} {world after : σ} {listener : Listener α σ}
    {result : Except CacheError Unit}
    (hhear : listener.hear event (cache.setRegion region).regions region world =
      (result, heard, after)) (hname : heard.name = region.name) :
    (cache.setRegion region).tell event region world listener =
      (result, heard, cache.setRegion heard, after) := by
  rw [tell, hhear]
  dsimp only
  rw [update, region?_setRegion_self cache rfl]
  dsimp only
  rw [setRegion_setRegion cache hname]

end Cache
end RegionSnapshot
