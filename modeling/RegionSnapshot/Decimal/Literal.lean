/-
Decimal literals as numbers.  A literal keeps the digits before and after its
point and its exponent.  Its value takes as many leading digits as fit 64
bits, rounds them to a double and scales that by one rounded power of ten, so
a long literal may differ from the nearest double in its last bit.
-/
import RegionSnapshot.Decimal.Binary64

namespace RegionSnapshot

/-- A decimal literal: its sign, the digits before and after the point, and
the exponent. -/
structure Literal where
  negative : Bool
  whole : List Nat
  fraction : List Nat
  exponent : Int
  deriving DecidableEq, Repr

namespace Literal

/-- Appends digits to `start` while the number fits 64 bits; also how many of
them were left. -/
def absorb (start : Nat) : List Nat → Nat × Nat
  | [] => (start, 0)
  | d :: rest =>
      if start * 10 + d < UInt64.size then absorb (start * 10 + d) rest
      else (start, rest.length + 1)

/-- The leading digits as one natural, and the power of ten it stands for. -/
def scaledDigits (l : Literal) : Nat × Int :=
  let (whole, dropped) := absorb 0 l.whole
  let (digits, unread) := absorb whole l.fraction
  (digits, l.exponent + dropped - (l.fraction.length - unread : Nat))

/-- The greatest power of ten that a literal is scaled by in one step. -/
def greatestPower : Nat := 308

def powerOfTen (n : Nat) : Binary64 :=
  .ofRatio false (tenTo n) 1

/-- A number divided `count` times by the greatest power of ten. -/
def lowered (x : Binary64) : Nat → Binary64
  | 0 => x
  | count + 1 => lowered (x.div (powerOfTen greatestPower)) count

/-- A finite double times `10 ^ exponent`; none where that is too large.
Three divisions by the greatest power leave nothing of any literal's digits,
so no more are made. -/
def scale? (x : Binary64) (exponent : Int) : Option Binary64 :=
  if 0 ≤ exponent then
    if x.isZero then some x
    else if greatestPower < exponent.toNat then none
    else
      let scaled := x.mul (powerOfTen exponent.toNat)
      if scaled.isFinite then some scaled else none
  else
    let down := (-exponent).toNat
    let rounds := (down - 1) / greatestPower
    let last := down - greatestPower * rounds
    some ((lowered x (min rounds 3)).div (powerOfTen last))

/-- The value of a literal; none where it is too large. -/
def value? (l : Literal) : Option Binary64 :=
  let (digits, exponent) := l.scaledDigits
  (scale? (.ofRatio false digits 1) exponent).map
    (fun x => if l.negative then x.negate else x)

/-- The natural that digits write. -/
def natOfDigits (digits : List Nat) : Nat :=
  digits.foldl (fun n d => n * 10 + d) 0

end Literal
end RegionSnapshot
