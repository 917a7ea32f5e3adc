/-
Why an operation on a file or a device failed.
-/
namespace RegionSnapshot

/-- A refusal of the file system. -/
inductive FileError
  | notFound
  | permissionDenied
  | alreadyExists
  | notADirectory
  | isADirectory
  deriving DecidableEq, Repr

def FileError.message : FileError → String
  | .notFound => "No such file or directory (os error 2)"
  | .permissionDenied => "Permission denied (os error 13)"
  | .alreadyExists => "File exists (os error 17)"
  | .notADirectory => "Not a directory (os error 20)"
  | .isADirectory => "Is a directory (os error 21)"

/-- Why an operation on a resource failed. -/
inductive IoError
  | file (error : FileError)
  | missing (description : String)
  | unsupported (description : String)
  | nothingWritten
  | nothingFlushed
  | device (message : String)
  deriving DecidableEq, Repr

def IoError.message : IoError → String
  | .file error => error.message
  | .missing description =>
      description ++ " cannot be opened because it does not exist"
  | .unsupported description => description ++ " does not support writing"
  | .nothingWritten => "failed to write whole buffer"
  | .nothingFlushed => "failed to write the buffered data"
  | .device message => message

end RegionSnapshot
