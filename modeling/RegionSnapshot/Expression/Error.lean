/-
Why an expression or a template has no value.
-/
namespace RegionSnapshot

/-- Why an expression or a template has no value.  Offsets count bytes. -/
inductive ExpressionError
  | unexpectedCharacter (c : Char) (offset : Nat)
  | unterminatedString (offset : Nat)
  | unterminatedTemplate (offset : Nat)
  | unexpectedToken (expected found : String)
  | unknownVariable (name : String)
  | unknownComponent (name : String)
  | unknownProperty (name : String)
  | unknownMember (target member : String)
  | notRenderable (kind : String)
  | tooDeeplyNested (limit : Nat)
  deriving DecidableEq, Repr

namespace ExpressionError

def message : ExpressionError → String
  | .unexpectedCharacter c offset =>
      s!"unexpected character '{c}' at offset {offset}"
  | .unterminatedString offset =>
      s!"unterminated string literal starting at offset {offset}"
  | .unterminatedTemplate offset =>
      s!"unterminated template placeholder starting at offset {offset}"
  | .unexpectedToken expected found =>
      s!"expected {expected} but found {found}"
  | .unknownVariable name => "unknown variable #" ++ name
  | .unknownComponent name => "unknown component @" ++ name
  | .unknownProperty name => s!"property [{name}] is not set"
  | .unknownMember target member => s!"{target} has no member '{member}'"
  | .notRenderable kind => s!"a {kind} value cannot be rendered as text"
  | .tooDeeplyNested limit =>
      s!"expression nests more than {limit} levels of parentheses"

end ExpressionError
end RegionSnapshot
