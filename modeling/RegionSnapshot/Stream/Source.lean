/-
Reading a device to its end.  The device answers each call by a number of
bytes, by an interruption, after which the call is made again, or by a
failure; a call that gives nothing is the end.
-/
import RegionSnapshot.Stream.IoError
import RegionSnapshot.Text.Utf8

namespace RegionSnapshot

/-- The answer of a device to a call of read. -/
inductive ReadReply
  | gives (limit : Nat)
  | interrupted
  | fails (error : IoError)
  deriving DecidableEq, Repr

/-- A device that is open for reading: what is in it and its answers to the
calls to come, after which it gives as much as fits. -/
structure Source where
  content : Bytes
  replies : List ReadReply
  deriving Repr

/-- A device that always gives as much as fits. -/
def Source.steady (content : Bytes) : Source := ⟨content, []⟩

/-- What came of reading: the bytes or the failure, how many bytes each call
gave, and the number of all calls. -/
structure Drained where
  result : Except IoError Bytes
  sizes : List Nat
  calls : Nat
  deriving Repr

/-- The pieces that a steady device gives, the empty one at its end too. -/
def steadySizes (size length : Nat) : List Nat :=
  List.replicate (length / size) size ++
    (if length % size = 0 then [0] else [length % size, 0])

/-- Reads to the end with a buffer of some size; `pieces` are those already
read, last one first. -/
def drainFrom (size : Nat) (pieces : List Bytes) (calls : Nat)
    (content : Bytes) : List ReadReply → Drained
  | [] =>
      let sizes := steadySizes size content.length
      ⟨.ok ((content :: pieces).reverse.flatten),
        pieces.reverse.map List.length ++ sizes, calls + sizes.length⟩
  | .interrupted :: replies =>
      drainFrom size pieces (calls + 1) content replies
  | .fails error :: _ =>
      ⟨.error error, pieces.reverse.map List.length, calls + 1⟩
  | .gives limit :: replies =>
      let piece := content.take (min limit size)
      if piece.isEmpty then
        ⟨.ok pieces.reverse.flatten,
          pieces.reverse.map List.length ++ [0], calls + 1⟩
      else
        drainFrom size (piece :: pieces) (calls + 1)
          (content.drop (min limit size)) replies

/-- Reads a device to its end with a buffer of some size. -/
def Source.drain (size : Nat) (source : Source) : Drained :=
  drainFrom size [] 0 source.content source.replies

end RegionSnapshot
