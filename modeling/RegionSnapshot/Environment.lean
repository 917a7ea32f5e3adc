/-
Properties and profiles.  A property is found under its own name, else under
its relaxed name, in which dots and dashes are underscores and letters are
capitals.  A value found under the own name hides the other one even when it
is blank.  Profiles are set explicitly or come from properties.
-/
import RegionSnapshot.Entries
import RegionSnapshot.Text.Blank
import RegionSnapshot.Text.Case
import RegionSnapshot.Text.Split

namespace RegionSnapshot

/-- What a truth value may be written as, apart from case and outer
blanks. -/
def parseBool? (text : String) : Option Bool :=
  let word := Text.toLower (Text.trim text)
  if word ∈ ["1", "true", "yes", "on"] then some true
  else if word ∈ ["0", "false", "no", "off"] then some false
  else none

/-- A written truth value, and `default` where there is none. -/
def parseBoolOr (text? : Option String) (default : Bool) : Bool :=
  (text?.bind parseBool?).getD default

/-- The items of a list with commas, without outer blanks and without empty
ones. -/
def parseList (text : String) : List String :=
  ((Text.fields ',' text).map Text.trim).filter (· ≠ "")

/-- The other name under which a property is looked up. -/
def relaxedName (name : String) : String :=
  .ofList (name.toList.map (fun c =>
    if c = '.' ∨ c = '-' then '_' else c.toUpper))

/-- Properties by name, and the profiles that are set explicitly. -/
structure Environment where
  properties : List (String × String)
  active : List String
  default : List String
  deriving Repr

namespace Environment

/-- No properties and no profiles. -/
def empty : Environment :=
  ⟨[], [], []⟩

def withProperty (env : Environment) (name value : String) : Environment :=
  { env with properties := Entries.insert name value env.properties }

/-- The value of a property, under its own or its relaxed name. -/
def property? (env : Environment) (name : String) : Option String :=
  (Entries.get? name env.properties).or
    (Entries.get? (relaxedName name) env.properties)

/-- The value of a property, unless it is blank. -/
def nonBlank? (env : Environment) (name : String) : Option String :=
  (env.property? name).filter (fun value => !Text.isBlank value)

def contains (env : Environment) (name : String) : Bool :=
  (env.property? name).isSome

/-- The truth value of a property. -/
def boolOr (env : Environment) (name : String) (default : Bool) : Bool :=
  parseBoolOr (env.nonBlank? name) default

/-- The items of a property. -/
def list (env : Environment) (name : String) : List String :=
  ((env.property? name).map parseList).getD []

/-- The first of two lists that has an item. -/
def firstNonEmpty (first second : List String) : List String :=
  if first.isEmpty then second else first

def activeProfiles (env : Environment) : List String :=
  firstNonEmpty env.active (env.list "profiles.active")

def defaultProfiles (env : Environment) : List String :=
  firstNonEmpty env.default
    (firstNonEmpty (env.list "profiles.default") ["default"])

/-- The active profiles, and without any the default ones. -/
def effectiveProfiles (env : Environment) : List String :=
  firstNonEmpty env.activeProfiles env.defaultProfiles

end Environment
end RegionSnapshot
