/-
Failures of commands as they are reported: the message after the word Error,
and below it the causes, indented, and numbered if there are several.
-/
import RegionSnapshot.Exchange.Error
import RegionSnapshot.Text.Split

namespace RegionSnapshot
namespace CommandLine

/-- A message and the texts of its causes, nearest first. -/
structure Failure where
  message : String
  causes : List String
  deriving DecidableEq, Repr

namespace Failure

def ofResource (e : ResourceError) : Failure := ⟨e.message, e.causes⟩

def ofConversion (e : ConversionError) : Failure := ⟨e.message, e.causes⟩

def ofExchange (e : ExchangeError) : Failure := ⟨e.message, e.causes⟩

/-- What was being done when a failure came up. -/
def within (message : String) (f : Failure) : Failure :=
  ⟨message, f.message :: f.causes⟩

/-- A text whose lines after the first are indented. -/
def indented (first others : String) (text : String) : String :=
  first ++ ("\n" ++ others).intercalate (Text.fields '\n' text)

/-- A number in a field of some width. -/
def padLeft (width : Nat) (text : String) : String :=
  .ofList (List.replicate (width - text.length) ' ') ++ text

/-- The text of a failure. -/
def report (f : Failure) : String :=
  let causes :=
    match f.causes with
    | [] => []
    | [cause] => ["", "Caused by:", indented "    " "    " cause]
    | causes =>
        "" :: "Caused by:" :: causes.zipIdx.map (fun (cause, n) =>
          indented (padLeft 5 (toString n) ++ ": ") "       " cause)
  "\n".intercalate (("Error: " ++ f.message) :: causes) ++ "\n"

example : (Failure.mk "lost" ["no file"]).report =
    "Error: lost\n\nCaused by:\n    no file\n" := by
  decide +kernel

example : (Failure.mk "lost" ["no file", "no disk"]).report =
    "Error: lost\n\nCaused by:\n    0: no file\n    1: no disk\n" := by
  decide +kernel

end Failure
end CommandLine
end RegionSnapshot
