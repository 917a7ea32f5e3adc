/-
Reading and writing whole resources.  Writing starts over from nothing; no
bytes are written without opening the resource, and without bytes it is not
even opened.
-/
import RegionSnapshot.Resource.Basic

namespace RegionSnapshot

/-- The size of a buffer where none is chosen. -/
def defaultBufferSize : Nat := 8192

/-- What came of a reading; `drained` is none where nothing could be
opened. -/
structure ReadOutcome where
  result : Except ResourceError Bytes
  drained : Option Drained
  deriving Repr

/-- Reads all of what was opened at a location. -/
def readFrom (size : Nat) (location : String)
    (opened : Except IoError Source) : ReadOutcome :=
  match opened with
  | .error cause => ⟨.error (.readFailed location cause), none⟩
  | .ok source =>
      let drained := source.drain (max 1 size)
      match drained.result with
      | .ok bytes => ⟨.ok bytes, some drained⟩
      | .error cause => ⟨.error (.readFailed location cause), some drained⟩

/-- What came of a writing; `sent` is none where nothing was opened. -/
structure WriteOutcome where
  result : Except ResourceError Unit
  sent : Option Sent
  deriving Repr

/-- Writes bytes to what opens at a location. -/
def writeTo (size : Nat) (location : String) (writable : Bool)
    (opened : Except IoError Sink) (bytes : Bytes) : WriteOutcome :=
  if bytes.isEmpty then ⟨.ok (), none⟩
  else if !writable then ⟨.error (.notWritable location), none⟩
  else
    match opened with
    | .error cause =>
        ⟨.error (.writeFailed location bytes.length cause), none⟩
    | .ok sink =>
        let sent := send (max 1 size) sink bytes
        match sent.result with
        | .ok () => ⟨.ok (), some sent⟩
        | .error cause =>
            ⟨.error (.writeFailed location bytes.length cause), some sent⟩

namespace Resource

/-- All bytes of a resource. -/
def read (size : Nat) (tree : FileTree) (r : Resource) :
    Except ResourceError Bytes :=
  (readFrom size r.location (r.openRead tree)).result

/-- Writes bytes to a resource, from the start of what opening it left in it. -/
def write (size : Nat) (tree : FileTree) (r : Resource) (bytes : Bytes) :
    Except ResourceError Unit × FileTree :=
  let writable := r.isWritable tree
  let (opened, after) := r.openWrite tree
  let outcome :=
    writeTo size r.location writable (opened.map (fun _ => .steady)) bytes
  if bytes.isEmpty || !writable then (outcome.result, tree)
  else
    match opened, outcome.sent with
    | .ok place, some sent =>
        (outcome.result,
          after.overwrite place (received (sent.calls ++ sent.closing)))
    | _, _ => (outcome.result, after)

end Resource
end RegionSnapshot
