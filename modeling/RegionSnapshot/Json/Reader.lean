/-
Reading JSON.  The reader takes one character at a time: `Reading.step` says
what a character does after those before it, so a text is read by one fold and
the first character that cannot stand in its place decides the fault.  A text
that stops too early has a fault of its own.  Containers nest at most 127
deep, and of members with one name the last one stays.
-/
import RegionSnapshot.Json.Basic
import RegionSnapshot.Decimal.Literal

namespace RegionSnapshot
namespace Json

/-- Why a text is no JSON value. -/
inductive ReadError
  | ended
  | malformed
  deriving DecidableEq, Repr

/-- Where in an escape sequence a string stands. -/
inductive Escape
  | outside
  | started
  | code (high : Option Nat) (digits : List Char)
  | high (unit : Nat)
  | highStarted (unit : Nat)
  deriving DecidableEq, Repr

/-- The part of a number that was read last. -/
inductive Place
  | sign
  | zero
  | whole
  | point
  | fraction
  | mark
  | markSign
  | exponent
  deriving DecidableEq, Repr

/-- A number of which some characters are read; digits stand last one
first. -/
structure Draft where
  place : Place
  negative : Bool
  whole : List Nat
  fraction : List Nat
  exponentNegative : Bool
  exponent : Nat
  deriving DecidableEq, Repr

/-- An open container around the value that is being read. -/
inductive Frame
  | items (done : List Json)
  | member (done : List (String × Json)) (name : String)
  deriving Repr

/-- What a string will be: a value, or a name in an object. -/
inductive Role
  | value
  | name (done : List (String × Json))
  deriving Repr

/-- What may follow; items stand last one first. -/
inductive Phase
  | value
  | firstItem
  | firstName
  | name (done : List (String × Json))
  | colon (done : List (String × Json)) (name : String)
  | nextItem (done : List Json)
  | nextMember (done : List (String × Json))
  | text (role : Role) (chars : List Char) (escape : Escape)
  | number (draft : Draft)
  | word (rest : List Char) (value : Json)
  | done (value : Json)
  deriving Repr

/-- A text that is read in part. -/
structure Reading where
  phase : Phase
  stack : List Frame
  deriving Repr

/-- The greatest depth of nested containers. -/
def depthLimit : Nat := 127

def isSpace (c : Char) : Bool :=
  c == ' ' || c == '\t' || c == '\n' || c == '\r'

def digit? (c : Char) : Option Nat :=
  if c.isDigit then some (c.toNat - 48) else none

def hexDigit? (c : Char) : Option Nat :=
  if c.isDigit then some (c.toNat - 48)
  else if 'a' ≤ c ∧ c ≤ 'f' then some (c.toNat - 87)
  else if 'A' ≤ c ∧ c ≤ 'F' then some (c.toNat - 55)
  else none

/-- The number of four hexadecimal digits. -/
def hexCode? (digits : List Char) : Option Nat :=
  digits.foldlM (fun n c => (hexDigit? c).map (n * 16 + ·)) 0

namespace Draft

def start (place : Place) (negative : Bool) (whole : List Nat) : Draft :=
  ⟨place, negative, whole, [], false, 0⟩

/-- A number may end here. -/
def isComplete (d : Draft) : Bool :=
  match d.place with
  | .zero | .whole | .fraction | .exponent => true
  | _ => false

/-- The number that was read; none where it is too large. -/
def value? (d : Draft) : Option Number :=
  let whole := Literal.natOfDigits d.whole.reverse
  let integer : Int := if d.negative then -whole else whole
  let exponent : Int :=
    if d.exponentNegative then -d.exponent else d.exponent
  let literal : Literal :=
    ⟨d.negative, d.whole.reverse, d.fraction.reverse, exponent⟩
  let float := literal.value?.bind Number.ofFloat?
  match d.place with
  | .fraction | .exponent => float
  | _ =>
      if d.negative && whole == 0 then float
      else (Number.ofInt? integer).or float

/-- The draft with one more character, where the character belongs to it. -/
def extend? (d : Draft) (c : Char) : Option (Except ReadError Draft) :=
  let pointOrMark : Option Draft :=
    if c = '.' then some { d with place := .point }
    else if c = 'e' ∨ c = 'E' then some { d with place := .mark }
    else none
  match d.place, digit? c with
  | .sign, some 0 => some (.ok { d with place := .zero, whole := [0] })
  | .sign, some n => some (.ok { d with place := .whole, whole := [n] })
  | .sign, none => some (.error .malformed)
  | .zero, some _ => some (.error .malformed)
  | .zero, none => pointOrMark.map .ok
  | .whole, some n => some (.ok { d with whole := n :: d.whole })
  | .whole, none => pointOrMark.map .ok
  | .point, some n => some (.ok { d with place := .fraction, fraction := [n] })
  | .point, none => some (.error .malformed)
  | .fraction, some n => some (.ok { d with fraction := n :: d.fraction })
  | .fraction, none =>
      if c = 'e' ∨ c = 'E' then some (.ok { d with place := .mark }) else none
  | .mark, some n => some (.ok { d with place := .exponent, exponent := n })
  | .mark, none =>
      if c = '+' then some (.ok { d with place := .markSign })
      else if c = '-' then
        some (.ok { d with place := .markSign, exponentNegative := true })
      else some (.error .malformed)
  | .markSign, some n => some (.ok { d with place := .exponent, exponent := n })
  | .markSign, none => some (.error .malformed)
  | .exponent, some n => some (.ok { d with exponent := d.exponent * 10 + n })
  | .exponent, none => none

end Draft

namespace Reading

/-- Before the first character. -/
def start : Reading := ⟨.value, []⟩

/-- A whole value is read: it goes into the innermost open container. -/
def settle (value : Json) : List Frame → Reading
  | [] => ⟨.done value, []⟩
  | .items done :: outer => ⟨.nextItem (value :: done), outer⟩
  | .member done name :: outer =>
      ⟨.nextMember (Entries.insert name value done), outer⟩

/-- The first character of a value. -/
def begin (stack : List Frame) (c : Char) : Except ReadError Reading :=
  match c with
  | '"' => .ok ⟨.text .value [] .outside, stack⟩
  | '-' => .ok ⟨.number (.start .sign true []), stack⟩
  | 't' => .ok ⟨.word ['r', 'u', 'e'] (.bool true), stack⟩
  | 'f' => .ok ⟨.word ['a', 'l', 's', 'e'] (.bool false), stack⟩
  | 'n' => .ok ⟨.word ['u', 'l', 'l'] .null, stack⟩
  | '[' =>
      if stack.length < depthLimit then .ok ⟨.firstItem, stack⟩
      else .error .malformed
  | '{' =>
      if stack.length < depthLimit then .ok ⟨.firstName, stack⟩
      else .error .malformed
  | c =>
      match digit? c with
      | some 0 => .ok ⟨.number (.start .zero false [0]), stack⟩
      | some n => .ok ⟨.number (.start .whole false [n]), stack⟩
      | none => .error .malformed

/-- A string is read to its end. -/
def closeText (role : Role) (chars : List Char) (stack : List Frame) :
    Reading :=
  let text := String.ofList chars.reverse
  match role with
  | .value => settle (.str text) stack
  | .name done => ⟨.colon done text, stack⟩

/-- The character that a single letter after a backslash stands for. -/
def escaped? : Char → Option Char
  | '"' => some '"'
  | '\\' => some '\\'
  | '/' => some '/'
  | 'b' => some (Char.ofNat 8)
  | 'f' => some (Char.ofNat 12)
  | 'n' => some '\n'
  | 'r' => some '\r'
  | 't' => some '\t'
  | _ => none

/-- The digits of an escaped code unit are complete: it is a character, or the
first or second half of one. -/
def closeCode (chars : List Char) (high : Option Nat) (digits : List Char) :
    Except ReadError (List Char × Escape) :=
  match hexCode? digits.reverse, high with
  | none, _ => .error .malformed
  | some unit, none =>
      if 0xD800 ≤ unit ∧ unit < 0xDC00 then .ok (chars, .high unit)
      else if 0xDC00 ≤ unit ∧ unit < 0xE000 then .error .malformed
      else .ok (Char.ofNat unit :: chars, .outside)
  | some unit, some high =>
      if 0xDC00 ≤ unit ∧ unit < 0xE000 then
        .ok (Char.ofNat
          (0x10000 + (high - 0xD800) * 0x400 + (unit - 0xDC00)) :: chars,
          .outside)
      else .error .malformed

/-- One more character of a string, short of its end. -/
def stepText (chars : List Char) (escape : Escape) (c : Char) :
    Except ReadError (List Char × Escape) :=
  match escape with
  | .outside =>
      if c = '\\' then .ok (chars, .started)
      else if c.toNat < 0x20 then .error .malformed
      else .ok (c :: chars, .outside)
  | .started =>
      if c = 'u' then .ok (chars, .code none [])
      else
        match escaped? c with
        | some plain => .ok (plain :: chars, .outside)
        | none => .error .malformed
  | .code high digits =>
      let digits := c :: digits
      if (String.ofList digits).utf8ByteSize < 4 then .ok (chars, .code high digits)
      else closeCode chars high digits
  | .high unit =>
      if c = '\\' then .ok (chars, .highStarted unit) else .error .malformed
  | .highStarted unit =>
      if c = 'u' then .ok (chars, .code (some unit) []) else .error .malformed

/-- One more character outside strings, numbers and words. -/
def stepBetween (r : Reading) (c : Char) : Except ReadError Reading :=
  if isSpace c then .ok r
  else
    match r.phase, c with
    | .value, c => begin r.stack c
    | .firstItem, ']' => .ok (settle (.arr []) r.stack)
    | .firstItem, c => begin (.items [] :: r.stack) c
    | .firstName, '}' => .ok (settle (.obj []) r.stack)
    | .firstName, '"' => .ok ⟨.text (.name []) [] .outside, r.stack⟩
    | .name done, '"' => .ok ⟨.text (.name done) [] .outside, r.stack⟩
    | .colon done name, ':' => .ok ⟨.value, .member done name :: r.stack⟩
    | .nextItem done, ',' => .ok ⟨.value, .items done :: r.stack⟩
    | .nextItem done, ']' => .ok (settle (.arr done.reverse) r.stack)
    | .nextMember done, ',' => .ok ⟨.name done, r.stack⟩
    | .nextMember done, '}' => .ok (settle (.obj done) r.stack)
    | _, _ => .error .malformed

/-- A number is read to its end. -/
def closeNumber (draft : Draft) (stack : List Frame) :
    Except ReadError Reading :=
  match draft.value? with
  | some number => .ok (settle (.num number) stack)
  | none => .error .malformed

/-- One more character. -/
def step (r : Reading) (c : Char) : Except ReadError Reading :=
  match r.phase with
  | .text role chars escape =>
      if escape = .outside ∧ c = '"' then .ok (closeText role chars r.stack)
      else
        (stepText chars escape c).map
          (fun (chars, escape) => ⟨.text role chars escape, r.stack⟩)
  | .word (expected :: rest) value =>
      if c = expected then
        .ok (if rest.isEmpty then settle value r.stack
          else ⟨.word rest value, r.stack⟩)
      else .error .malformed
  | .number draft =>
      match draft.extend? c with
      | some next => next.map (fun draft => ⟨.number draft, r.stack⟩)
      | none => closeNumber draft r.stack >>= (stepBetween · c)
  | _ => stepBetween r c

/-- After the last character. -/
def finish (r : Reading) : Except ReadError Json :=
  match r.phase with
  | .done value => .ok value
  | .number draft =>
      if draft.isComplete then
        match closeNumber draft r.stack with
        | .ok ⟨.done value, _⟩ => .ok value
        | .ok _ => .error .ended
        | .error e => .error e
      else .error .ended
  | _ => .error .ended

end Reading

/-- The value that a text writes. -/
def parse (s : String) : Except ReadError Json :=
  s.toList.foldlM Reading.step .start >>= Reading.finish

end Json
end RegionSnapshot
