/-
Texts in double quotes, as error messages show them.  Quotes, backslashes and
the common control characters have short escapes; every other character
without a picture of its own, combining marks among them, is written by its
code in hexadecimal digits between braces.
-/
import RegionSnapshot.Text.CaseTable
import RegionSnapshot.Text.HiddenTable

namespace RegionSnapshot
namespace Text

/-- A character that is shown by its code. -/
def isHidden (c : Char) : Bool :=
  if c.toNat < 0x7F then c.toNat < 0x20
  else CaseTable.inRanges HiddenTable.ranges c.toNat

/-- One character between double quotes. -/
def quotedChar (c : Char) : List Char :=
  if c = '"' then ['\\', '"']
  else if c = '\\' then ['\\', '\\']
  else if c = '\n' then ['\\', 'n']
  else if c = '\r' then ['\\', 'r']
  else if c = '\t' then ['\\', 't']
  else if c.toNat = 0 then ['\\', '0']
  else if isHidden c then
    '\\' :: 'u' :: '\x7b' :: Nat.toDigits 16 c.toNat ++ ['\x7d']
  else [c]

/-- A text in double quotes. -/
def quoted (s : String) : String :=
  .ofList ('"' :: s.toList.flatMap quotedChar ++ ['"'])

example : quoted "say \"e\u0301\"\n" =
    "\"say \\\"e\\u\x7b301\x7d\\\"\\n\"" := by
  decide +kernel

end Text
end RegionSnapshot
