/-
Command lines.  A command is followed by its own options and arguments; the
options for properties, profiles and the form of the output may stand before
or after its name.  Where the same one of these stands on both sides, what is
written after the name counts.
-/
import RegionSnapshot.Text.Blank
import RegionSnapshot.Text.Split

namespace RegionSnapshot
namespace CommandLine

/-- What is to be done. -/
inductive Command
  | resolve (region : String) (importing : Bool)
  | inspect (location : String)
  | normalize (location : String) (output : Option String)
  deriving DecidableEq, Repr

/-- A command and the options around it. -/
structure Invocation where
  command : Command
  properties : List (String × String)
  profiles : List String
  json : Bool
  deriving DecidableEq, Repr

/-- Why a command line is refused. -/
inductive UsageError
  | noValue (argument : String)
  | blankName (argument : String)
  | badUsage
  deriving DecidableEq, Repr

namespace UsageError

/-- What is wrong with a property, if that is what is wrong. -/
def propertyMessage? : UsageError → Option String
  | .noValue argument => some s!"expected key=value, got '{argument}'"
  | .blankName argument =>
      some s!"property name must not be blank in '{argument}'"
  | .badUsage => none

end UsageError

/-- The name and the value of a property, as written. -/
def parseProperty (argument : String) :
    Except UsageError (String × String) :=
  match Text.cut? '=' argument with
  | none => .error (.noValue argument)
  | some (name, value) =>
      let name := Text.trim name
      if name.isEmpty then .error (.blankName argument) else .ok (name, value)

/-- The name of a command. -/
inductive CommandName
  | resolve
  | inspect
  | normalize
  deriving DecidableEq, Repr

def CommandName.ofText? (text : String) : Option CommandName :=
  if text = "resolve" then some .resolve
  else if text = "inspect" then some .inspect
  else if text = "normalize" then some .normalize
  else none

/-- An option; the last three have no value. -/
inductive Switch
  | property
  | profile
  | region
  | output
  | json
  | verbose
  | importing
  deriving DecidableEq, Repr

namespace Switch

def takesValue : Switch → Bool
  | .json | .verbose | .importing => false
  | _ => true

/-- The option of a long name, where it is allowed. -/
def ofLongName? (command : Option CommandName) (name : String) :
    Option Switch :=
  if name = "property" then some .property
  else if name = "profile" then some .profile
  else if name = "json" then some .json
  else if name = "verbose" then some .verbose
  else if name = "region" ∧ command = some .resolve then some .region
  else if name = "import" ∧ command = some .resolve then some .importing
  else if name = "output" ∧ command = some .normalize then some .output
  else none

def ofShortName? : Char → Option Switch
  | 'D' => some .property
  | 'v' => some .verbose
  | _ => none

end Switch

/-- An option that stands apart from its value.  Its value is read only once
the next option or argument is taken, so what is wrong with that one is found
first. -/
inductive Pending
  | awaiting (option : Switch)
  | given (option : Switch) (value : String)
  deriving DecidableEq, Repr

/-- What is written on one side of the name of a command. -/
structure Side where
  properties : List (String × String)
  profiles : List String
  json : Bool
  verbose : Bool
  importing : Bool
  region : Option String
  output : Option String
  location : Option String
  pending : Option Pending
  onlyArguments : Bool
  deriving Repr

namespace Side

def empty : Side :=
  ⟨[], [], false, false, false, none, none, none, none, false⟩

def fail {β : Type} : Except UsageError β :=
  .error .badUsage

/-- An option without value; none may stand twice on one side. -/
def setFlag (s : Side) (option : Switch) : Except UsageError Side :=
  match option with
  | .json => if s.json then fail else .ok { s with json := true }
  | .verbose => if s.verbose then fail else .ok { s with verbose := true }
  | .importing => if s.importing then fail else .ok { s with importing := true }
  | _ => fail

/-- An option with its value; only properties and profiles may be given more
than once. -/
def setValue (s : Side) (option : Switch) (value : String) :
    Except UsageError Side :=
  match option with
  | .property =>
      (parseProperty value).map (fun property =>
        { s with properties := s.properties ++ [property] })
  | .profile => .ok { s with profiles := s.profiles ++ [value] }
  | .region =>
      if s.region.isSome then fail else .ok { s with region := some value }
  | .output =>
      if s.output.isSome then fail else .ok { s with output := some value }
  | _ => fail

/-- The option before the next one is done with. -/
def settle (s : Side) : Except UsageError Side :=
  let done := { s with pending := none }
  match s.pending with
  | none => .ok done
  | some (.awaiting _) => fail
  | some (.given option value) => done.setValue option value

/-- The next option, with the value that is attached to it. -/
def takeOption (s : Side) (option : Switch) (value? : Option String) :
    Except UsageError Side := do
  let s ← s.settle
  match option.takesValue, value? with
  | true, some value => s.setValue option value
  | true, none => return { s with pending := some (.awaiting option) }
  | false, _ => s.setFlag option

/-- An option by its long name, with what follows an equals sign. -/
def takeLong (s : Side) (command : Option CommandName) (text : String) :
    Except UsageError Side :=
  let (name, value?) :=
    match Text.cut? '=' text with
    | some (name, value) => (name, some value)
    | none => (text, none)
  match Switch.ofLongName? command name with
  | none => fail
  | some option =>
      if value?.isSome && !option.takesValue then fail
      else s.takeOption option value?

/-- Options by their letters; the first with a value takes the rest. -/
def takeShort (s : Side) : List Char → Except UsageError Side
  | [] => .ok s
  | c :: rest =>
      match Switch.ofShortName? c with
      | none => fail
      | some option =>
          if option.takesValue then
            match rest with
            | [] => s.takeOption option none
            | '=' :: value => s.takeOption option (some (.ofList value))
            | value => s.takeOption option (some (.ofList value))
          else do takeShort (← s.takeOption option none) rest

/-- The location that a command works on. -/
def takeArgument (s : Side) (command : Option CommandName) (text : String) :
    Except UsageError Side :=
  match command with
  | none | some .resolve => fail
  | some _ =>
      if s.location.isSome then fail
      else s.settle.map (fun s => { s with location := some text })

/-- A piece that starts with a dash and is more than one. -/
def isOption (text : String) : Bool :=
  Text.startsWith "-" text && text != "-"

/-- One more piece of a command line, after a command or before it. -/
def take (s : Side) (command : Option CommandName) (text : String) :
    Except UsageError Side :=
  match s.pending with
  | some (.awaiting option) =>
      if isOption text then fail
      else .ok { s with pending := some (.given option text) }
  | _ =>
      if s.onlyArguments || !isOption text then s.takeArgument command text
      else if text = "--" then .ok { s with onlyArguments := true }
      else
        match Text.after? "--" text with
        | some long => s.takeLong command long
        | none => s.takeShort (text.toList.drop 1)

/-- The name of a command may stand here. -/
def isOpen (s : Side) : Bool :=
  match s.pending with
  | some (.awaiting _) => false
  | _ => !s.onlyArguments

/-- The command with its arguments. -/
def command? (s : Side) : CommandName → Option Command
  | .resolve => s.region.map (.resolve · s.importing)
  | .inspect => s.location.map .inspect
  | .normalize => s.location.map (.normalize · s.output)

end Side

/-- A command line that is read in part. -/
structure Draft where
  command : Option CommandName
  before : Side
  after : Side
  deriving Repr

namespace Draft

def start : Draft := ⟨none, .empty, .empty⟩

/-- One more piece of a command line. -/
def step (d : Draft) (text : String) : Except UsageError Draft :=
  match d.command with
  | some name =>
      (d.after.take name text).map (fun after => { d with after })
  | none =>
      match if d.before.isOpen then CommandName.ofText? text else none with
      | some name => .ok { d with command := some name }
      | none => (d.before.take none text).map (fun before => { d with before })

/-- What is written after the name of the command, or before it where nothing
is written after it. -/
def latter {β : Type} (before after : List β) : List β :=
  if after.isEmpty then before else after

/-- The end of a command line. -/
def finish (d : Draft) : Except UsageError Invocation := do
  match d.command with
  | none =>
      let _ ← d.before.settle
      throw .badUsage
  | some name =>
      let after ← d.after.settle
      match after.command? name with
      | none => throw .badUsage
      | some command =>
          let before ← d.before.settle
          return ⟨command, latter before.properties after.properties,
            latter before.profiles after.profiles, before.json || after.json⟩

end Draft

/-- What a command line asks for. -/
def parse (arguments : List String) : Except UsageError Invocation :=
  arguments.foldlM Draft.step .start >>= Draft.finish

end CommandLine
end RegionSnapshot
