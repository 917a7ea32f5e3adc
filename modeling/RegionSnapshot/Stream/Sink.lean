/-
Writing to a device in blocks.  A device answers each call by the number of
bytes that it takes, by an interruption, after which the call is made again,
or by a failure.  Blocks of the full size go to the device at once; a shorter
last block is held and handed over at the end, before the device is flushed.
-/
import RegionSnapshot.Stream.IoError
import RegionSnapshot.Text.Utf8

namespace RegionSnapshot

/-- The answer of a device to a call of write. -/
inductive WriteReply
  | accepts (limit : Nat)
  | interrupted
  | fails (error : IoError)
  deriving DecidableEq, Repr

/-- A device that is open for writing: its answers to the calls to come, after
which it takes all that it is given, and its answer to a flush. -/
structure Sink where
  replies : List WriteReply
  flushFails : Option IoError
  deriving Repr

/-- A device that takes everything. -/
def Sink.steady : Sink := ⟨[], none⟩

/-- What a device has seen: the bytes that it took in one call, or a flush. -/
inductive SinkCall
  | wrote (bytes : Bytes)
  | flushed
  deriving DecidableEq, Repr

def SinkCall.bytes : SinkCall → Bytes
  | .wrote bytes => bytes
  | .flushed => []

/-- All bytes that a device took, in order. -/
def received (calls : List SinkCall) : Bytes :=
  calls.flatMap SinkCall.bytes

/-- What came of handing bytes to a device: the calls that it answered, last
one first, the bytes that it did not take, and the failure if there was one. -/
structure Delivery where
  calls : List SinkCall
  left : Bytes
  replies : List WriteReply
  failure : Option IoError
  deriving Repr

/-- Hands bytes to a device until it has them all.  A call that takes nothing
ends this with the failure `stuck`. -/
def deliver (stuck : IoError) (calls : List SinkCall) (bytes : Bytes) :
    List WriteReply → Delivery
  | [] =>
      if bytes.isEmpty then ⟨calls, [], [], none⟩
      else ⟨.wrote bytes :: calls, [], [], none⟩
  | reply :: replies =>
      if bytes.isEmpty then ⟨calls, [], reply :: replies, none⟩
      else
        match reply with
        | .interrupted => deliver stuck calls bytes replies
        | .fails error => ⟨calls, bytes, replies, some error⟩
        | .accepts 0 => ⟨.wrote [] :: calls, bytes, replies, some stuck⟩
        | .accepts limit =>
            deliver stuck (.wrote (bytes.take limit) :: calls)
              (bytes.drop limit) replies

/-- Bytes in blocks of some size, after the blocks in `done` and the block that
is begun, both last one first; `room` bytes more fit into it. -/
def blocksFrom (size : Nat) (done : List Bytes) (current : Bytes)
    (room : Nat) : Bytes → List Bytes
  | [] =>
      (if current.isEmpty then done else current.reverse :: done).reverse
  | b :: rest =>
      if room ≤ 1 then
        blocksFrom size ((b :: current).reverse :: done) [] size rest
      else blocksFrom size done (b :: current) (room - 1) rest

/-- Bytes in blocks of some size, the last one perhaps shorter. -/
def blocks (size : Nat) (bytes : Bytes) : List Bytes :=
  blocksFrom size [] [] size bytes

/-- A sending that is under way; the calls stand last one first. -/
structure Sending where
  calls : List SinkCall
  held : Bytes
  replies : List WriteReply
  failure : Option IoError
  deriving Repr

namespace Sending

def start (sink : Sink) : Sending :=
  ⟨[], [], sink.replies, none⟩

/-- One more block: a full one is delivered, a shorter one is held. -/
def step (size : Nat) (s : Sending) (block : Bytes) : Sending :=
  if s.failure.isSome then s
  else if block.length < size then { s with held := block }
  else
    let d := deliver .nothingWritten s.calls block s.replies
    ⟨d.calls, [], d.replies, d.failure⟩

end Sending

/-- What came of sending bytes.  `calls` are those up to the first failure and
`closing` those made while the device was closed after it. -/
structure Sent where
  result : Except IoError Unit
  calls : List SinkCall
  closing : List SinkCall
  deriving Repr

/-- The end of a sending: the held block is delivered and the device flushed.
What a failure left of the held block is offered once more on closing. -/
def Sending.finish (sink : Sink) (s : Sending) : Sent :=
  match s.failure with
  | some error => ⟨.error error, s.calls.reverse, []⟩
  | none =>
      let d := deliver .nothingFlushed s.calls s.held s.replies
      match d.failure with
      | some error =>
          let closing := deliver .nothingFlushed [] d.left d.replies
          ⟨.error error, d.calls.reverse, closing.calls.reverse⟩
      | none =>
          let calls := (SinkCall.flushed :: d.calls).reverse
          match sink.flushFails with
          | some error => ⟨.error error, calls, []⟩
          | none => ⟨.ok (), calls, []⟩

/-- Sends bytes to a device in blocks of some size. -/
def send (size : Nat) (sink : Sink) (bytes : Bytes) : Sent :=
  ((blocks size bytes).foldl (Sending.step size) (.start sink)).finish sink

end RegionSnapshot
