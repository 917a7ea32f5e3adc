/-
What expressions can see and what their parts can be.  A part is a text, a
JSON value from a component, the region, or the environment; only texts,
numbers and truth values can be rendered.
-/
import RegionSnapshot.Environment
import RegionSnapshot.Expression.Error
import RegionSnapshot.Json.Basic
import RegionSnapshot.Region.Path

namespace RegionSnapshot

/-- What an expression can see; components by name. -/
structure Context where
  region : RegionId
  environment : Environment
  components : List (String × Json)

/-- The value of a part of an expression. -/
inductive Operand
  | text (value : String)
  | json (value : Json)
  | region
  | environment
  deriving Repr

namespace Operand

/-- The kind of a value, in one word. -/
def kind : Operand → String
  | .text _ => "string"
  | .json value => value.shape
  | .region => "region"
  | .environment => "environment"

/-- The text of a value. -/
def render : Operand → Except ExpressionError String
  | .text value => .ok value
  | .json (.str value) => .ok value
  | .json (.num value) => .ok value.text
  | .json (.bool value) => .ok (if value then "true" else "false")
  | other => .error (.notRenderable other.kind)

/-- The value of a variable. -/
def ofVariable (ctx : Context) (name : String) :
    Except ExpressionError Operand :=
  if name = "region" then .ok .region
  else if name = "regionName" then .ok (.text ctx.region.name)
  else if name = "regionPath" then .ok (.text ctx.region.fullPath)
  else .error (.unknownVariable name)

/-- The value of a component. -/
def ofComponent (ctx : Context) (name : String) :
    Except ExpressionError Operand :=
  match Entries.get? name ctx.components with
  | some value => .ok (.json value)
  | none => .error (.unknownComponent name)

/-- The member called `name` of a value. -/
def member (ctx : Context) (value : Operand) (name : String) :
    Except ExpressionError Operand :=
  match value with
  | .region =>
      if name = "name" then .ok (.text ctx.region.name)
      else if name = "fullPath" then .ok (.text ctx.region.fullPath)
      else .error (.unknownMember "region" name)
  | .json (.obj members) =>
      match Entries.get? name members with
      | some value => .ok (.json value)
      | none => .error (.unknownMember "object" name)
  | other => .error (.unknownMember other.kind name)

/-- The value of a method of a text. -/
def callText (value method : String) : Except ExpressionError Operand :=
  if method = "toLowerCase" then .ok (.text (Text.toLower value))
  else if method = "toUpperCase" then .ok (.text (Text.toUpper value))
  else if method = "trim" then .ok (.text (Text.trim value))
  else .error (.unknownMember "string" method)

/-- The value of a method; only texts have any. -/
def call (value : Operand) (method : String) :
    Except ExpressionError Operand :=
  match value with
  | .text value => callText value method
  | .json (.str value) => callText value method
  | other => .error (.unknownMember other.kind method)

/-- The value at a key: a property of the environment, else a member. -/
def index (ctx : Context) (value : Operand) (key : String) :
    Except ExpressionError Operand :=
  match value with
  | .environment =>
      match ctx.environment.property? key with
      | some value => .ok (.text value)
      | none => .error (.unknownProperty key)
  | other => other.member ctx key

end Operand
end RegionSnapshot
