/-
Texts as bytes.  `encode` writes UTF-8; `decode` reads it and, where the bytes
are no UTF-8, says at which index the first bad sequence starts and how many
bytes of it belong together, or that the bytes end inside a character.
-/
namespace RegionSnapshot

/-- The content of a resource. -/
abbrev Bytes := List UInt8

namespace Utf8

/-- Why bytes are no text. -/
inductive Fault
  | invalid (index length : Nat)
  | incomplete (index : Nat)
  deriving DecidableEq, Repr

def Fault.message : Fault → String
  | .invalid index length =>
      s!"invalid utf-8 sequence of {length} bytes from index {index}"
  | .incomplete index => s!"incomplete utf-8 byte sequence from index {index}"

/-- The UTF-8 form of a text. -/
def encode (s : String) : Bytes :=
  s.toList.flatMap String.utf8EncodeChar

/-- A byte that continues a character. -/
def isContinuation (b : UInt8) : Bool :=
  0x80 ≤ b && b ≤ 0xBF

/-- The second bytes that may follow `lead`: no overlong form, no surrogate,
nothing above the last code point. -/
def isSecond (lead b : UInt8) : Bool :=
  if lead = 0xE0 then 0xA0 ≤ b && b ≤ 0xBF
  else if lead = 0xED then 0x80 ≤ b && b ≤ 0x9F
  else if lead = 0xF0 then 0x90 ≤ b && b ≤ 0xBF
  else if lead = 0xF4 then 0x80 ≤ b && b ≤ 0x8F
  else isContinuation b

/-- A character whose first `seen` bytes, starting with `lead`, gave `code`
and which still misses `missing + 1` bytes. -/
structure Begun where
  lead : UInt8
  code : Nat
  seen : Nat
  missing : Nat
  deriving Repr

/-- The byte fits at the next place of the character. -/
def Begun.accepts (begun : Begun) (b : UInt8) : Bool :=
  if begun.seen = 1 then isSecond begun.lead b else isContinuation b

/-- The character begun by a first byte above ASCII. -/
def begin? (lead : UInt8) : Option Begun :=
  if 0xC2 ≤ lead && lead ≤ 0xDF then some ⟨lead, lead.toNat % 32, 1, 0⟩
  else if 0xE0 ≤ lead && lead ≤ 0xEF then some ⟨lead, lead.toNat % 16, 1, 1⟩
  else if 0xF0 ≤ lead && lead ≤ 0xF4 then some ⟨lead, lead.toNat % 8, 1, 2⟩
  else none

/-- What has been read: the index of the next byte, the characters so far,
last one first, and the character that has only begun. -/
structure Reading where
  index : Nat
  chars : List Char
  begun : Option Begun
  deriving Repr

namespace Reading

/-- Before the first byte. -/
def start : Reading := ⟨0, [], none⟩

/-- One more byte. -/
def step (r : Reading) (b : UInt8) : Except Fault Reading :=
  match r.begun with
  | none =>
      if b < 0x80 then
        .ok ⟨r.index + 1, Char.ofNat b.toNat :: r.chars, none⟩
      else
        match begin? b with
        | some begun => .ok ⟨r.index + 1, r.chars, some begun⟩
        | none => .error (.invalid r.index 1)
  | some begun =>
      if begun.accepts b then
        let code := begun.code * 64 + b.toNat % 64
        match begun.missing with
        | 0 => .ok ⟨r.index + 1, Char.ofNat code :: r.chars, none⟩
        | missing + 1 =>
            .ok ⟨r.index + 1, r.chars,
              some ⟨begun.lead, code, begun.seen + 1, missing⟩⟩
      else .error (.invalid (r.index - begun.seen) begun.seen)

/-- After the last byte. -/
def finish (r : Reading) : Except Fault String :=
  match r.begun with
  | none => .ok (.ofList r.chars.reverse)
  | some begun => .error (.incomplete (r.index - begun.seen))

end Reading

/-- The text of some bytes. -/
def decode (bytes : Bytes) : Except Fault String :=
  bytes.foldlM Reading.step .start >>= Reading.finish

end Utf8
end RegionSnapshot
