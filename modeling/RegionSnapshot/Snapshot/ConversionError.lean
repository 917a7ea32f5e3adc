/-
Why a value has no JSON form, or a JSON document no values.
-/
import RegionSnapshot.Portable.Format
import RegionSnapshot.Text.Utf8

namespace RegionSnapshot

/-- What went wrong inside a conversion. -/
inductive Cause
  | syntaxFault (cause : Json.ReadError)
  | data (cause : DataError)
  | bytes (cause : Utf8.Fault)
  | format (cause : FormatError)
  | text (message : String)
  deriving Repr

namespace Cause

def message : Cause → String
  | .syntaxFault cause => cause.message
  | .data cause => cause.message
  | .bytes cause => cause.message
  | .format cause => cause.message
  | .text message => message

/-- The texts of the causes of a cause. -/
def causes : Cause → List String
  | .format cause => cause.causes
  | _ => []

end Cause

/-- Why a conversion failed. -/
inductive ConversionError
  | failed (source target : String) (cause : Cause)
  | missingType
  | unknownType (name : String)
  | unexpectedShape (shape : String)
  | nativeUnsupported (reason : FormatError)
  deriving Repr

namespace ConversionError

def message : ConversionError → String
  | .failed source target cause =>
      s!"Failed to convert [{source}] to [{target}]: " ++ cause.message
  | .missingType => s!"JSON object is missing the {typeMember} metadata field"
  | .unknownType name => s!"Type [{name}] is not registered"
  | .unexpectedShape shape => s!"Unexpected JSON shape: {shape}"
  | .nativeUnsupported reason =>
      "Native JSON conversion unsupported: " ++ reason.message

/-- The texts of the causes, nearest first. -/
def causes : ConversionError → List String
  | .failed _ _ cause => cause.message :: cause.causes
  | .nativeUnsupported reason => reason.message :: reason.causes
  | _ => []

end ConversionError

/-- The value that a text writes, on the way to a value called `target`. -/
def Json.parseFor (target text : String) : Except ConversionError Json :=
  match Json.parse text with
  | .ok json => .ok json
  | .error e => .error (.failed "JSON" target (.syntaxFault e))

end RegionSnapshot
