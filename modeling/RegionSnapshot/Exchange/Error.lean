/-
Why a region is not exported or not imported.
-/
import RegionSnapshot.Expression.Error
import RegionSnapshot.Resource.Error
import RegionSnapshot.Snapshot.ConversionError

namespace RegionSnapshot

/-- Why a region is not exported or not imported. -/
inductive ExchangeError
  | resource (cause : ResourceError)
  | conversion (cause : ConversionError)
  | expression (template : String) (cause : ExpressionError)
  | resourceDoesNotExist (location region : String)
  | resourceNotReadable (location region : String)
  | unresolvableKey (region : String) (index : Nat)
  | blankLocation (region : String)
  deriving Repr

namespace ExchangeError

def message : ExchangeError → String
  | .resource cause => cause.message
  | .conversion cause => cause.message
  | .expression template cause =>
      s!"Failed to evaluate resource location [{template}]: " ++ cause.message
  | .resourceDoesNotExist location region =>
      s!"Resource [{location}] does not exist for region [{region}]"
  | .resourceNotReadable location region =>
      s!"Resource [{location}] is not readable for region [{region}]"
  | .unresolvableKey region index =>
      s!"Cannot determine the key of element {index} imported into region " ++
        s!"[{region}]"
  | .blankLocation region =>
      s!"Resource location for region [{region}] evaluated to a blank string"

/-- The texts of the causes, nearest first. -/
def causes : ExchangeError → List String
  | .resource cause => cause.message :: cause.causes
  | .conversion cause => cause.message :: cause.causes
  | .expression _ cause => [cause.message]
  | _ => []

end ExchangeError
end RegionSnapshot
