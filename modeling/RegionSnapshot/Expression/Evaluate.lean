/-
The value of an expression.  A sum of operands is evaluated while its tokens
are read, from left to right, in one walk over them:

    sum     := operand ('+' operand)*
    operand := primary ('.' name ('(' ')')? | '[' string ']')*
    primary := string | '#' name | '@' name | 'env' | '(' sum ')'

A walk keeps the operand that it stands at, the text rendered so far and the
texts before each open parenthesis.  Before a token is taken the one after it
must be readable, so a fault in the text is reported ahead of the value of the
token before it.
-/
import RegionSnapshot.Expression.Operand
import RegionSnapshot.Expression.Token

namespace RegionSnapshot

/-- The greatest number of open parentheses. -/
def parenthesisLimit : Nat := 32

/-- What the next token belongs to. -/
inductive Position
  | operand
  | variable
  | component
  | after (value : Operand)
  | member (value : Operand)
  | named (value : Operand) (name : String)
  | arguments (value : Operand) (name : String)
  | key (value : Operand)
  | keyed (value : Operand) (key : String)
  deriving Repr

/-- An expression that is evaluated in part; `outer` holds the texts before
the open parentheses, innermost first. -/
structure Walk where
  position : Position
  done : String
  outer : List String
  deriving Repr

namespace Walk

def start : Walk := ⟨.operand, "", []⟩

def goTo (w : Walk) (position : Position) : Walk :=
  { w with position := position }

/-- A token stands where another kind is needed. -/
def refuse {β : Type} (expected : String) (found : Option Token) :
    Except ExpressionError β :=
  .error (.unexpectedToken expected
    ((found.map Token.describe).getD "end of expression"))

/-- The first token of an operand. -/
def stepOperand (w : Walk) (ready : Except ExpressionError Unit)
    (token : Token) : Except ExpressionError Walk := do
  ready
  match token with
  | .string text => return w.goTo (.after (.text text))
  | .hash => return w.goTo .variable
  | .at => return w.goTo .component
  | .leftParen =>
      if w.outer.length = parenthesisLimit then
        throw (.tooDeeplyNested parenthesisLimit)
      else return ⟨.operand, "", w.done :: w.outer⟩
  | .identifier name =>
      if name = "env" then return w.goTo (.after .environment)
      else refuse "expression" (some token)
  | _ => refuse "expression" (some token)

/-- The text so far, with the operand at its end. -/
def finishOperand (w : Walk) (value : Operand) :
    Except ExpressionError String :=
  value.render.map (w.done ++ ·)

/-- A token after an operand. -/
def stepAfter (w : Walk) (value : Operand)
    (ready : Except ExpressionError Unit) (token : Token) :
    Except ExpressionError Walk := do
  match token with
  | .dot => ready; return w.goTo (.member value)
  | .leftBracket => ready; return w.goTo (.key value)
  | .plus =>
      let done ← w.finishOperand value
      ready
      return ⟨.operand, done, w.outer⟩
  | token =>
      let done ← w.finishOperand value
      match w.outer, token with
      | before :: outer, .rightParen =>
          ready
          return ⟨.after (.text done), before, outer⟩
      | _ :: _, _ => refuse "')'" (some token)
      | [], _ => refuse "end of expression" (some token)

/-- One token, when `ready` says whether another can be read after it. -/
def step (ctx : Context) (w : Walk) (ready : Except ExpressionError Unit)
    (token : Token) : Except ExpressionError Walk := do
  match w.position, token with
  | .operand, token => w.stepOperand ready token
  | .variable, .identifier name =>
      ready
      return w.goTo (.after (← Operand.ofVariable ctx name))
  | .variable, _ => refuse "identifier" (some token)
  | .component, .identifier name =>
      ready
      return w.goTo (.after (← Operand.ofComponent ctx name))
  | .component, _ => refuse "identifier" (some token)
  | .after value, token => w.stepAfter value ready token
  | .member value, .identifier name =>
      ready
      return w.goTo (.named value name)
  | .member _, _ => refuse "identifier" (some token)
  | .named value name, .leftParen =>
      ready
      return w.goTo (.arguments value name)
  | .named value name, token =>
      w.stepAfter (← value.member ctx name) ready token
  | .arguments value name, .rightParen =>
      ready
      return w.goTo (.after (← value.call name))
  | .arguments _ _, _ => refuse "')'" (some token)
  | .key value, .string key =>
      ready
      return w.goTo (.keyed value key)
  | .key _, _ =>
      ready
      refuse "string literal" (some token)
  | .keyed value key, .rightBracket =>
      ready
      return w.goTo (.after (← value.index ctx key))
  | .keyed _ _, _ => refuse "']'" (some token)

/-- The end of the tokens after an operand. -/
def finishAfter (w : Walk) (value : Operand) :
    Except ExpressionError String := do
  let done ← w.finishOperand value
  match w.outer with
  | [] => return done
  | _ :: _ => refuse "')'" none

/-- The end of the tokens. -/
def finish (ctx : Context) (w : Walk) : Except ExpressionError String := do
  match w.position with
  | .operand => refuse "expression" none
  | .variable | .component | .member _ => refuse "identifier" none
  | .after value => w.finishAfter value
  | .named value name => w.finishAfter (← value.member ctx name)
  | .arguments _ _ => refuse "')'" none
  | .key _ => refuse "string literal" none
  | .keyed _ _ => refuse "']'" none

/-- Takes the tokens one after the other. -/
def run (ctx : Context) (w : Walk) : Tokens → Except ExpressionError String
  | .done => w.finish ctx
  | .fault error => .error error
  | .next token rest => do
      let moved ← w.step ctx rest.ready token
      run ctx moved rest

end Walk

/-- The text of an expression. -/
def evaluate (ctx : Context) (source : List Char) :
    Except ExpressionError String :=
  Walk.start.run ctx (Tokens.lex source)

end RegionSnapshot
