/-
A cache of regions by name.  Listeners are told when a region was created and
before it is destroyed, in the order in which they were added; the region stands
in the cache all the while.  The first one that fails undoes a creation, by
taking the region out again; a destruction goes on past failures, takes the
region out at its end and gives the first failure back.
-/
import RegionSnapshot.Exchange.Basic

namespace RegionSnapshot

/-- Why a region was not created, or not destroyed in peace. -/
inductive CacheError
  | blankName
  | alreadyExists (name : String)
  | exchange (cause : ExchangeError)
  | listener (message : String)
  | notCreated (path : String) (cause : CacheError)
  deriving Repr

namespace CacheError

def message : CacheError → String
  | .blankName => "Region name must not be blank"
  | .alreadyExists name => s!"Region {name} already exists"
  | .exchange cause => cause.message
  | .listener message => message
  | .notCreated path _ => "Failed to create region " ++ path

/-- The texts of the causes, nearest first. -/
def causes : CacheError → List String
  | .exchange cause => cause.causes
  | .notCreated _ cause => cause.message :: cause.causes
  | _ => []

/-- The failed exchange behind a failure. -/
def exchange? : CacheError → Option ExchangeError
  | .exchange cause => some cause
  | .notCreated _ cause => cause.exchange?
  | _ => none

end CacheError

/-- What listeners are told of a region. -/
inductive Event
  | created
  | destroying

/-- Is told about a region of a cache and sees the regions as they stand in the
cache at that time.  It may fail, put entries into the region and change the
world `σ` around the cache. -/
structure Listener (α σ : Type) where
  hear : Event → List (String × Region α) → Region α → σ →
    Except CacheError Unit × Region α × σ

namespace Listener

variable {α σ τ : Type}

/-- A listener that does nothing. -/
def silent : Listener α σ :=
  ⟨fun _ _ region world => (.ok (), region, world)⟩

/-- A listener to a part of the world. -/
def within (get : τ → σ) (set : σ → τ → τ) (listener : Listener α σ) :
    Listener α τ :=
  ⟨fun event regions region world =>
    let (result, region, part) := listener.hear event regions region (get world)
    (result, region, set part world)⟩

/-- Imports regions that were created and exports those about to be
destroyed.  A failed import fails; a failed export does not. -/
def ofExchange (x : Exchange α) : Listener α FileTree :=
  ⟨fun event _ region tree =>
    match event with
    | .created =>
        match x.importInto tree region with
        | (.ok _, region) => (.ok (), region, tree)
        | (.error error, region) => (.error (.exchange error), region, tree)
    | .destroying =>
        let (_, tree) := x.exportFrom tree region
        (.ok (), region, tree)⟩

end Listener

/-- The regions of a cache by name, and its listeners. -/
structure Cache (α σ : Type) where
  regions : List (String × Region α)
  listeners : List (Listener α σ)

namespace Cache

variable {α σ : Type}

def empty : Cache α σ := ⟨[], []⟩

def addListener (cache : Cache α σ) (listener : Listener α σ) : Cache α σ :=
  { cache with listeners := cache.listeners ++ [listener] }

def region? (cache : Cache α σ) (name : String) : Option (Region α) :=
  Entries.get? name cache.regions

/-- The names of the regions, in order. -/
def names (cache : Cache α σ) : List String :=
  cache.regions.map Prod.fst

/-- Puts a region into the cache under its name, in place of one that has that
name. -/
def setRegion (cache : Cache α σ) (region : Region α) : Cache α σ :=
  { cache with regions := Entries.insert region.name region cache.regions }

/-- Changes a region of the cache, if it is there. -/
def update (cache : Cache α σ) (name : String)
    (change : Region α → Region α) : Cache α σ :=
  match cache.region? name with
  | some region => cache.setRegion (change region)
  | none => cache

/-- The cache without the region called `name`. -/
def without (cache : Cache α σ) (name : String) : Cache α σ :=
  { cache with regions := Entries.erase name cache.regions }

/-- Tells a listener of a region.  What it makes of the region stands in the
cache from then on, if the region stands there. -/
def tell (cache : Cache α σ) (event : Event) (region : Region α) (world : σ)
    (listener : Listener α σ) :
    Except CacheError Unit × Region α × Cache α σ × σ :=
  let (result, heard, world) :=
    listener.hear event cache.regions region world
  (result, heard, cache.update region.name (fun _ => heard), world)

/-- Tells listeners of a region that was created and stands in the cache.  The
first that fails takes it out again. -/
def tellCreated (name : String) (region : Region α) (cache : Cache α σ)
    (world : σ) : List (Listener α σ) →
    Except CacheError (Region α) × Cache α σ × σ
  | [] => (.ok region, cache, world)
  | listener :: rest =>
      match cache.tell .created region world listener with
      | (.ok (), region, cache, world) =>
          tellCreated name region cache world rest
      | (.error cause, region, cache, world) =>
          (.error (.notCreated region.fullPath cause), cache.without name,
            world)

/-- Tells every listener of a region that is about to be destroyed; the first
failure, if any. -/
def tellDestroying (region : Region α) (cache : Cache α σ) (world : σ) :
    List (Listener α σ) → Except CacheError Unit × Cache α σ × σ
  | [] => (.ok (), cache, world)
  | listener :: rest =>
      let (result, region, cache, world) :=
        cache.tell .destroying region world listener
      let (others, cache, world) := tellDestroying region cache world rest
      match result with
      | .ok () => (others, cache, world)
      | .error error => (.error error, cache, world)

/-- Puts an empty region into the cache and tells the listeners. -/
def create (cache : Cache α σ) (name : String) (world : σ) :
    Except CacheError (Region α) × Cache α σ × σ :=
  if Text.isBlank name then (.error .blankName, cache, world)
  else if (cache.region? name).isSome then
    (.error (.alreadyExists name), cache, world)
  else
    let region := Region.empty (.root name)
    tellCreated name region (cache.setRegion region) world cache.listeners

/-- Tells the listeners of a region and then takes it out of the cache; false
where there is none. -/
def destroy (cache : Cache α σ) (name : String) (world : σ) :
    Except CacheError Bool × Cache α σ × σ :=
  match cache.region? name with
  | none => (.ok false, cache, world)
  | some region =>
      let (result, cache, world) :=
        tellDestroying region cache world cache.listeners
      (result.map (fun _ => true), cache.without name, world)

end Cache
end RegionSnapshot
