/-
Why a resource cannot be found, read or written.
-/
import RegionSnapshot.Stream.IoError

namespace RegionSnapshot

/-- Why a resource cannot be found, read or written. -/
inductive ResourceError
  | notFound (location : String)
  | notReadable (location : String)
  | notWritable (location : String)
  | invalidLocation (location : String)
  | readFailed (location : String) (cause : IoError)
  | writeFailed (location : String) (byteCount : Nat) (cause : IoError)
  deriving DecidableEq, Repr

namespace ResourceError

def location : ResourceError → String
  | .notFound location => location
  | .notReadable location => location
  | .notWritable location => location
  | .invalidLocation location => location
  | .readFailed location _ => location
  | .writeFailed location _ _ => location

def message : ResourceError → String
  | .notFound location => s!"Resource [{location}] not found"
  | .notReadable location => s!"Resource [{location}] is not readable"
  | .notWritable location => s!"Resource [{location}] is not writable"
  | .invalidLocation location => s!"Resource location [{location}] is not valid"
  | .readFailed location cause =>
      s!"Failed to read from resource [{location}]: " ++ cause.message
  | .writeFailed location byteCount cause =>
      s!"Failed to write {byteCount} byte(s) to resource [{location}]: " ++
        cause.message

/-- The texts of the causes, nearest first. -/
def causes : ResourceError → List String
  | .readFailed _ cause => [cause.message]
  | .writeFailed _ _ cause => [cause.message]
  | _ => []

end ResourceError
end RegionSnapshot
