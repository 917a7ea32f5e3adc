/-
What an environment says.  A property is found under its name or else under its
relaxed name, a list property has the items between its commas, a flag leaves
its default only where the other value is written, and the profiles in effect
are those of the first source that has any.
-/
import RegionSnapshot.Environment

namespace RegionSnapshot

/-- The piece stands in the text between separators or the ends of the text, and
no separator is in it. -/
def Text.IsField (sep : Char) (piece text : String) : Prop :=
  sep ∉ piece.toList ∧
    sep :: piece.toList ++ [sep] <:+: sep :: text.toList ++ [sep]

theorem Text.mem_fields_iff {sep : Char} {piece text : String} :
    piece ∈ Text.fields sep text ↔ Text.IsField sep piece text := by
  rw [fields, IsField, ← mem_splitChars_iff, List.mem_map]
  constructor
  · rintro ⟨cs, hcs, rfl⟩
    rwa [String.toList_ofList]
  · exact fun h => ⟨_, h, String.ofList_toList⟩

section Values

variable {text item : String}

theorem mem_parseList :
    item ∈ parseList text ↔
      ∃ piece, Text.IsField ',' piece text ∧ Text.trim piece = item ∧
        item ≠ "" := by
  simp only [parseList, List.mem_filter, List.mem_map, Text.mem_fields_iff,
    decide_eq_true_eq, ← exists_and_right, and_assoc]

theorem parseBool?_eq_true_iff :
    parseBool? text = some true ↔
      Text.toLower (Text.trim text) ∈ ["1", "true", "yes", "on"] := by
  rw [parseBool?]
  split
  · rename_i htrue
    exact iff_of_true rfl htrue
  · rename_i htrue
    refine iff_of_false ?_ htrue
    split <;> simp

theorem parseBool?_eq_false_iff :
    parseBool? text = some false ↔
      Text.toLower (Text.trim text) ∈ ["0", "false", "no", "off"] := by
  have hapart : ∀ word ∈ ["1", "true", "yes", "on"],
      word ∉ ["0", "false", "no", "off"] := by decide
  rw [parseBool?]
  split
  · rename_i htrue
    exact iff_of_false (by simp) (hapart _ htrue)
  · split
    · rename_i hfalse
      exact iff_of_true rfl hfalse
    · rename_i hfalse
      exact iff_of_false (by simp) hfalse

theorem parseBool?_of_isBlank (h : Text.isBlank text = true) :
    parseBool? text = none := by
  rw [parseBool?, Text.trim_eq_empty_iff.2 h]
  rfl

end Values

namespace Environment

variable {env : Environment} {name item : String}

/-- The value stands under the name, or it stands under the relaxed name and
nothing under the name itself. -/
def Finds (env : Environment) (name value : String) : Prop :=
  Entries.get? name env.properties = some value ∨
    Entries.get? name env.properties = none ∧
      Entries.get? (relaxedName name) env.properties = some value

theorem property?_eq_some_iff {value : String} :
    env.property? name = some value ↔ env.Finds name value := by
  rw [property?, Finds]
  cases Entries.get? name env.properties <;> simp

/-- A flag is not at its default exactly if the other value is written. -/
theorem boolOr_eq_not_iff {default : Bool} :
    env.boolOr name default = !default ↔
      ∃ value, env.Finds name value ∧ parseBool? value = some !default := by
  simp only [← property?_eq_some_iff, boolOr, parseBoolOr, nonBlank?]
  cases env.property? name with
  | none => simp
  | some value =>
      cases hblank : Text.isBlank value with
      | true => simp [Option.filter, hblank, parseBool?_of_isBlank hblank]
      | false =>
          cases hvalue : parseBool? value <;>
            simp [Option.filter, hblank, hvalue]

/-- The item stands between commas in the value of the property, with blanks
around it at most. -/
def Lists (env : Environment) (name item : String) : Prop :=
  ∃ value piece, env.Finds name value ∧ Text.IsField ',' piece value ∧
    Text.trim piece = item ∧ item ≠ ""

theorem mem_list : item ∈ env.list name ↔ env.Lists name item := by
  simp only [Lists, ← property?_eq_some_iff, list]
  cases env.property? name with
  | none => simp
  | some value => simp [mem_parseList]

/-- The element is in the first of the sources that is not empty. -/
def InFirst {α : Type} : List (α → Prop) → α → Prop
  | [], _ => False
  | source :: rest, x => source x ∨ (∀ y, ¬source y) ∧ InFirst rest x

theorem mem_firstNonEmpty {first second : List String} :
    item ∈ firstNonEmpty first second ↔
      item ∈ first ∨ (∀ other, other ∉ first) ∧ item ∈ second := by
  rw [firstNonEmpty, ← List.eq_nil_iff_forall_not_mem]
  cases first <;> simp

theorem firstNonEmpty_assoc (first second third : List String) :
    firstNonEmpty (firstNonEmpty first second) third =
      firstNonEmpty first (firstNonEmpty second third) := by
  cases first <;> rfl

/-- The profile is in effect: of the sources of profiles each stands in for
those before it. -/
def Effective (env : Environment) : String → Prop :=
  InFirst [(· ∈ env.active), env.Lists "profiles.active", (· ∈ env.default),
    env.Lists "profiles.default", (· = "default")]

theorem mem_effectiveProfiles :
    item ∈ env.effectiveProfiles ↔ env.Effective item := by
  simp only [effectiveProfiles, activeProfiles, defaultProfiles,
    firstNonEmpty_assoc, mem_firstNonEmpty, mem_list, List.mem_singleton,
    Effective, InFirst, and_false, or_false]

end Environment
end RegionSnapshot
