/-
Tokens of expressions.  A text is cut into identifiers, strings in single
quotes and single signs; blanks stand between tokens and do not count.  A
quote inside a string is written twice.  The tokens of a text end with the text
or with the first fault in it, so that what stands before a fault can still be
seen.
-/
import RegionSnapshot.Expression.Error
import RegionSnapshot.Text.Blank

namespace RegionSnapshot

/-- A token of an expression. -/
inductive Token
  | identifier (name : String)
  | string (text : String)
  | hash
  | at
  | dot
  | plus
  | leftParen
  | rightParen
  | leftBracket
  | rightBracket
  deriving DecidableEq, Repr

namespace Token

/-- A token as an error message names it. -/
def describe : Token → String
  | .identifier name => s!"identifier '{name}'"
  | .string text => s!"string '{text}'"
  | .hash => "'#'"
  | .at => "'@'"
  | .dot => "'.'"
  | .plus => "'+'"
  | .leftParen => "'('"
  | .rightParen => "')'"
  | .leftBracket => "'['"
  | .rightBracket => "']'"

/-- The token of a sign. -/
def ofSign? : Char → Option Token
  | '#' => some .hash
  | '@' => some .at
  | '.' => some .dot
  | '+' => some .plus
  | '(' => some .leftParen
  | ')' => some .rightParen
  | '[' => some .leftBracket
  | ']' => some .rightBracket
  | _ => none

end Token

/-- The tokens of a text, up to its end or to the first fault. -/
inductive Tokens
  | done
  | fault (error : ExpressionError)
  | next (token : Token) (rest : Tokens)
  deriving DecidableEq, Repr

namespace Tokens

/-- The single quote around strings. -/
def quote : Char := Char.ofNat 39

def isNameStart (c : Char) : Bool :=
  c.isAlpha || c == '_'

def isNamePart (c : Char) : Bool :=
  c.isAlphanum || c == '_' || c == '-'

/-- The token that is being read; its characters stand last one first.  A
string that has met a quote is closed unless another quote follows. -/
inductive Partial
  | between
  | name (chars : List Char)
  | string (start : Nat) (chars : List Char)
  | quoted (start : Nat) (chars : List Char)
  deriving Repr

namespace Partial

/-- The token with one more character, if the character belongs to it. -/
def extend? : Partial → Char → Option Partial
  | .between, _ => none
  | .name chars, c => if isNamePart c then some (.name (c :: chars)) else none
  | .string start chars, c =>
      if c = quote then some (.quoted start chars)
      else some (.string start (c :: chars))
  | .quoted start chars, c =>
      if c = quote then some (.string start (c :: chars)) else none

/-- The token, complete, before the tokens after it. -/
def close : Partial → Tokens → Tokens
  | .between, rest => rest
  | .name chars, rest => .next (.identifier (.ofList chars.reverse)) rest
  | .string start _, _ => .fault (.unterminatedString start)
  | .quoted _ chars, rest => .next (.string (.ofList chars.reverse)) rest

end Partial

/-- The tokens of a text that starts at `offset`, after a part of a token. -/
def lexFrom (offset : Nat) (before : Partial) : List Char → Tokens
  | [] => before.close .done
  | c :: rest =>
      let next := offset + c.utf8Size
      match before.extend? c with
      | some more => lexFrom next more rest
      | none =>
          before.close
            (if Text.isBlankChar c then lexFrom next .between rest
            else if c = quote then lexFrom next (.string offset []) rest
            else if isNameStart c then lexFrom next (.name [c]) rest
            else
              match Token.ofSign? c with
              | some token => .next token (lexFrom next .between rest)
              | none => .fault (.unexpectedCharacter c offset))

/-- The tokens of an expression. -/
def lex (source : List Char) : Tokens :=
  lexFrom 0 .between source

/-- The text has a token here, or its end. -/
def ready : Tokens → Except ExpressionError Unit
  | .fault error => .error error
  | _ => .ok ()

end Tokens
end RegionSnapshot
