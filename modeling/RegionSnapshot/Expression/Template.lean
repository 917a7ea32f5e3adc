/-
Templates.  A template is copied as it is but for its placeholders: a dollar
sign and braces around the name of a property, with a default after the first
colon, and a number sign and braces around an expression.  The first closing
brace outside single quotes ends a placeholder.  What is put in is not scanned
again.
-/
import RegionSnapshot.Expression.Evaluate

namespace RegionSnapshot

/-- What a placeholder stands for. -/
inductive Marker
  | property
  | expression
  deriving DecidableEq, Repr

namespace Marker

def ofChar? : Char → Option Marker
  | '$' => some .property
  | '#' => some .expression
  | _ => none

def char : Marker → Char
  | .property => '$'
  | .expression => '#'

/-- The value of a property, or the default after the first colon. -/
def propertyValue (env : Environment) (body : List Char) :
    Except ExpressionError String :=
  let (name, default) :=
    match Text.cutChars? ':' body with
    | some (name, default) => (name, some (String.ofList default))
    | none => (body, none)
  let name := String.ofList (Text.trimChars name)
  match (env.property? name).or default with
  | some value => .ok value
  | none => .error (.unknownProperty name)

/-- The text that is put in for a placeholder. -/
def value (ctx : Context) : Marker → List Char → Except ExpressionError String
  | .property, body => propertyValue ctx.environment body
  | .expression, body => evaluate ctx body

end Marker

namespace Template

/-- Where in a template the next character stands; the characters of a body
stand last one first. -/
inductive Place
  | outside
  | marked (marker : Marker)
  | inside (marker : Marker) (start : Nat) (body : List Char) (quoted : Bool)
  deriving Repr

/-- A template that is expanded in part; the text stands last character
first. -/
structure Scan where
  offset : Nat
  text : List Char
  place : Place
  deriving Repr

namespace Scan

def start : Scan := ⟨0, [], .outside⟩

/-- A character outside placeholders. -/
def stepOutside (s : Scan) (c : Char) : Scan :=
  let next := s.offset + c.utf8Size
  match Marker.ofChar? c with
  | some marker => ⟨next, s.text, .marked marker⟩
  | none => ⟨next, c :: s.text, .outside⟩

/-- One more character. -/
def step (ctx : Context) (s : Scan) (c : Char) :
    Except ExpressionError Scan :=
  let next := s.offset + c.utf8Size
  match s.place with
  | .outside => .ok (s.stepOutside c)
  | .marked marker =>
      if c = '\x7b' then
        .ok ⟨next, s.text, .inside marker (s.offset - 1) [] false⟩
      else
        .ok (Scan.stepOutside ⟨s.offset, marker.char :: s.text, .outside⟩ c)
  | .inside marker start body quoted =>
      if c = '\x7d' ∧ quoted = false then
        (marker.value ctx body.reverse).map
          (fun value => ⟨next, value.toList.reverse ++ s.text, .outside⟩)
      else
        .ok ⟨next, s.text,
          .inside marker start (c :: body)
            (if c = Tokens.quote then !quoted else quoted)⟩

/-- The end of the template. -/
def finish (s : Scan) : Except ExpressionError String :=
  match s.place with
  | .outside => .ok (.ofList s.text.reverse)
  | .marked marker => .ok (.ofList (marker.char :: s.text).reverse)
  | .inside _ start _ _ => .error (.unterminatedTemplate start)

end Scan

/-- The text of a template. -/
def expand (ctx : Context) (template : String) :
    Except ExpressionError String :=
  template.toList.foldlM (Scan.step ctx) .start >>= Scan.finish

/-- A region and a property, for trying templates out. -/
private def sampleContext : Context :=
  ⟨.root "Orders", ⟨[("dir", "/data")], [], []⟩, []⟩

example : (expand sampleContext
    "$\x7bdir\x7d/#\x7b#region.name.toLowerCase()\x7d").toOption =
      some "/data/orders" := by
  decide +kernel

example : (expand sampleContext "$\x7bdepth:2\x7d $5 #1").toOption =
    some "2 $5 #1" := by
  decide +kernel

end Template
end RegionSnapshot
