/-
Decimal texts as the nearest doubles.  A text has an optional sign, digits
with or without a point among them, and an optional exponent; the names of
infinity and of what is no number are read too.
-/
import RegionSnapshot.Decimal.Literal
import RegionSnapshot.Text.Case
import RegionSnapshot.Text.Split

namespace RegionSnapshot

namespace Literal

/-- A power of ten that takes every natural but zero past the doubles. -/
def overflowPower : Nat := 309

/-- The double nearest to a literal.  Below the smallest double, and past the
largest one, no further power of ten changes it. -/
def nearest (l : Literal) : Binary64 :=
  let digits := l.whole ++ l.fraction
  let scale := l.exponent - l.fraction.length
  .ofRatio l.negative
    (natOfDigits digits * tenTo (min scale.toNat overflowPower))
    (tenTo (min (-scale).toNat (digits.length + 324)))

def digit? (c : Char) : Option Nat :=
  if c.isDigit then some (c.toNat - '0'.toNat) else none

/-- A sign and what it stands before. -/
def cutSign (s : String) : Bool × String :=
  match Text.after? "-" s, Text.after? "+" s with
  | some rest, _ => (true, rest)
  | none, some rest => (false, rest)
  | none, none => (false, s)

/-- The integer that a sign and digits write. -/
def exponent? (s : String) : Option Int := do
  let (negative, rest) := cutSign s
  let digits ← rest.toList.mapM digit?
  if digits.isEmpty then none
  else
    let n : Int := natOfDigits digits
    return if negative then -n else n

/-- The literal that a text writes. -/
def ofText? (s : String) : Option Literal := do
  let (negative, unsigned) := cutSign (Text.toLower s)
  let (mantissa, power) := (Text.cut? 'e' unsigned).getD (unsigned, "0")
  let (whole, fraction) := (Text.cut? '.' mantissa).getD (mantissa, "")
  let whole ← whole.toList.mapM digit?
  let fraction ← fraction.toList.mapM digit?
  if whole.isEmpty && fraction.isEmpty then none
  else return ⟨negative, whole, fraction, ← exponent? power⟩

end Literal

namespace Binary64

/-- The doubles that have no digits, by their texts. -/
def special? : String → Option Binary64
  | "NaN" => some .nan
  | "inf" => some (.infinity false)
  | "-inf" => some (.infinity true)
  | _ => none

/-- The double that a text names or is nearest to. -/
def ofText? (s : String) : Option Binary64 :=
  (special? s).or ((Literal.ofText? s).map Literal.nearest)

end Binary64
end RegionSnapshot
