/-
Lower and upper case of whole texts, by the full case maps of the Unicode
standard.  A capital sigma at the end of a word has its own small letter, so
lowering looks at both neighbours of it; every other character is mapped by
itself.
-/
import RegionSnapshot.Text.CaseTable

namespace RegionSnapshot
namespace Text

/-- A character that has case. -/
def isCased (c : Char) : Bool :=
  CaseTable.inRanges CaseTable.casedRanges c.toNat

/-- A character that is passed over when looking beside a sigma. -/
def isCaseIgnorable (c : Char) : Bool :=
  CaseTable.inRanges CaseTable.ignorableRanges c.toNat

/-- The first character that is not passed over has case. -/
def leadsCased (cs : List Char) : Bool :=
  match cs.dropWhile isCaseIgnorable with
  | [] => false
  | c :: _ => isCased c

/-- A sigma ends a word when a letter stands before it and none after it;
`before` is read backwards. -/
def endsWord (before after : List Char) : Bool :=
  leadsCased before && !leadsCased after

/-- The lower case of one character between its neighbours. -/
def lowerAt (before : List Char) (c : Char) (after : List Char) : List Char :=
  if c.toNat < 0x80 then [c.toLower]
  else if c = 'Σ' then [if endsWord before after then 'ς' else 'σ']
  else if c.toNat = 0x130 then ['i', Char.ofNat 0x307]
  else [Char.ofNat (CaseTable.shifted CaseTable.lowerRuns c.toNat)]

/-- The lower case of a text that follows `before`, read backwards. -/
def lowerAfter (before : List Char) : List Char → List Char
  | [] => []
  | c :: rest => lowerAt before c rest ++ lowerAfter (c :: before) rest

/-- The upper case of one character. -/
def upperChar (c : Char) : List Char :=
  if c.toNat < 0x80 then [c.toUpper]
  else
    match CaseTable.upperExpansions.lookup c.toNat with
    | some codes => codes.map Char.ofNat
    | none => [Char.ofNat (CaseTable.shifted CaseTable.upperRuns c.toNat)]

/-- The lower case of a text. -/
def toLower (s : String) : String :=
  .ofList (lowerAfter [] s.toList)

/-- The upper case of a text. -/
def toUpper (s : String) : String :=
  .ofList (s.toList.flatMap upperChar)

example : toLower "ΑΣ ΣΑ" = "ας σα" := by decide +kernel

example : toUpper "straße" = "STRASSE" := by decide +kernel

end Text
end RegionSnapshot
