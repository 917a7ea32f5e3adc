/-
Writing JSON, compactly or on lines of its own for each item and member.  Of
the characters of a string only the quote, the backslash and the control
characters are escaped.
-/
import RegionSnapshot.Json.Basic

namespace RegionSnapshot
namespace Json

/-- A character inside a written string. -/
def escapeChar (c : Char) : List Char :=
  match c with
  | '"' => ['\\', '"']
  | '\\' => ['\\', '\\']
  | '\n' => ['\\', 'n']
  | '\r' => ['\\', 'r']
  | '\t' => ['\\', 't']
  | c =>
      if c.toNat = 8 then ['\\', 'b']
      else if c.toNat = 12 then ['\\', 'f']
      else if c.toNat < 0x20 then
        ['\\', 'u', '0', '0', Nat.digitChar (c.toNat / 16),
          Nat.digitChar (c.toNat % 16)]
      else [c]

/-- A written string. -/
def quoted (s : String) : List Char :=
  '"' :: (s.toList.flatMap escapeChar ++ ['"'])

mutual

/-- The compact text of a value. -/
def compactChars : Json → List Char
  | .null => ['n', 'u', 'l', 'l']
  | .bool true => ['t', 'r', 'u', 'e']
  | .bool false => ['f', 'a', 'l', 's', 'e']
  | .num n => n.text.toList
  | .str s => quoted s
  | .arr items => '[' :: compactItems items ++ [']']
  | .obj members => '{' :: compactMembers members ++ ['}']

/-- The items, with commas between them. -/
def compactItems : List Json → List Char
  | [] => []
  | [item] => compactChars item
  | item :: rest => compactChars item ++ ',' :: compactItems rest

/-- The members, with commas between them. -/
def compactMembers : List (String × Json) → List Char
  | [] => []
  | [(name, value)] => quoted name ++ ':' :: compactChars value
  | (name, value) :: rest =>
      quoted name ++ ':' :: compactChars value ++ ',' :: compactMembers rest

end

/-- The start of a line at some depth. -/
def newLine (depth : Nat) : List Char :=
  '\n' :: List.replicate (2 * depth) ' '

mutual

/-- The text of a value that starts at some depth, with each item and each
member on a line of its own. -/
def prettyChars (depth : Nat) : Json → List Char
  | .arr [] => ['[', ']']
  | .arr items => '[' :: prettyItems (depth + 1) items ++ newLine depth ++ [']']
  | .obj [] => ['{', '}']
  | .obj members =>
      '{' :: prettyMembers (depth + 1) members ++ newLine depth ++ ['}']
  | .null => ['n', 'u', 'l', 'l']
  | .bool true => ['t', 'r', 'u', 'e']
  | .bool false => ['f', 'a', 'l', 's', 'e']
  | .num n => n.text.toList
  | .str s => quoted s

def prettyItems (depth : Nat) : List Json → List Char
  | [] => []
  | [item] => newLine depth ++ prettyChars depth item
  | item :: rest =>
      newLine depth ++ prettyChars depth item ++ ',' :: prettyItems depth rest

def prettyMembers (depth : Nat) : List (String × Json) → List Char
  | [] => []
  | [(name, value)] =>
      newLine depth ++ quoted name ++ ':' :: ' ' :: prettyChars depth value
  | (name, value) :: rest =>
      newLine depth ++ quoted name ++ ':' :: ' ' :: prettyChars depth value ++
        ',' :: prettyMembers depth rest

end

def compact (json : Json) : String :=
  .ofList json.compactChars

def pretty (json : Json) : String :=
  .ofList (json.prettyChars 0)

example : (obj [("a", arr [null, bool true]), ("b", str "\t/")]).compact =
    "\x7b\"a\":[null,true],\"b\":\"\\t/\"\x7d" := by
  decide +kernel

example : (arr [obj [("a", arr [])]]).pretty =
    "[\n  \x7b\n    \"a\": []\n  \x7d\n]" := by
  decide +kernel

end Json
end RegionSnapshot
