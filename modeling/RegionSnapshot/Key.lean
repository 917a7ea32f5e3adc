/-
Keys of region entries.  A key is an integer or a string; integers come before
strings, integers in the order of their values and strings in the order of
their characters.  A JSON string or integer makes a key, and no other JSON
value does.
-/
import RegionSnapshot.Json.Basic

namespace RegionSnapshot

/-- The key of a region entry. -/
inductive Key
  | int (value : Int64)
  | str (value : String)
  deriving DecidableEq, Repr

namespace Key

/-- Integers before strings, each in their own order. -/
def Before : Key → Key → Prop
  | .int a, .int b => a < b
  | .int _, .str _ => True
  | .str _, .int _ => False
  | .str a, .str b => a < b

instance : LT Key := ⟨Before⟩

instance (a b : Key) : Decidable (a < b) := by
  change Decidable (Before a b)
  cases a <;> cases b <;> dsimp only [Before] <;> infer_instance

instance : KeyOrder Key where
  irrefl := by
    rintro (a | a)
    · exact Int64.lt_irrefl
    · exact String.lt_irrefl a
  trans := by
    rintro (a | a) (b | b) (c | c) hab hbc
    · exact Int64.lt_trans hab hbc
    · trivial
    · exact hbc.elim
    · trivial
    · exact hab.elim
    · exact hab.elim
    · exact hbc.elim
    · exact String.lt_trans hab hbc
  connex := by
    rintro (a | a) (b | b) hnot hne
    · exact Int64.lt_of_le_of_ne (Int64.not_lt.1 hnot)
        (fun h => hne (congrArg Key.int h.symm))
    · exact (hnot trivial).elim
    · trivial
    · exact KeyOrder.connex a b hnot (fun h => hne (congrArg Key.str h))

/-- The key that a JSON value makes. -/
def ofJson? : Json → Option Key
  | .str s => some (.str s)
  | .num n => n.toInt64?.map .int
  | _ => none

def toJson : Key → Json
  | .int n => .ofInt64 n
  | .str s => .str s

/-- The bare text of a key. -/
def text : Key → String
  | .int n => toString n.toInt
  | .str s => s

theorem ofJson?_toJson (key : Key) : ofJson? key.toJson = some key := by
  cases key <;> rfl

/-- A JSON value makes the key it is the form of, and no other. -/
theorem ofJson?_eq_some_iff {json : Json} {key : Key} :
    ofJson? json = some key ↔ json = key.toJson := by
  constructor
  · intro h
    cases json with
    | str s =>
        simp only [ofJson?, Option.some.injEq] at h
        subst h
        rfl
    | num n =>
        cases n with
        | int value =>
            simp only [ofJson?, Number.toInt64?, Option.map_some,
              Option.some.injEq] at h
            subst h
            rfl
        | wide value beyond => simp [ofJson?, Number.toInt64?] at h
        | float value finite => simp [ofJson?, Number.toInt64?] at h
    | null => simp [ofJson?] at h
    | bool value => simp [ofJson?] at h
    | arr items => simp [ofJson?] at h
    | obj members => simp [ofJson?] at h
  · rintro rfl
    exact ofJson?_toJson key

end Key
end RegionSnapshot
