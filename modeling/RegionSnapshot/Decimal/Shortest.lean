/-
The shortest decimal of a double.  Of all decimals that read back as the
double those with the fewest digits are taken, and of these the nearest one.
A decimal reads back when it lies between the midpoints to both neighbours of
the double; a midpoint itself counts where the significand is even.
-/
import RegionSnapshot.Decimal.Binary64

namespace RegionSnapshot

/-- The decimal `digits * 10 ^ exponent`. -/
structure Decimal where
  digits : Nat
  exponent : Int
  deriving DecidableEq, Repr

namespace Binary64

/-- The decimals that read back as one positive finite double, as numerators
over four units. -/
structure Interval where
  value : Nat
  low : Nat
  high : Nat
  closed : Bool
  deriving Repr

/-- The midpoints to the neighbours of a double.  Below a power of two the
neighbour is half as far. -/
def interval (x : Binary64) : Interval :=
  let gap := twoTo x.shift
  let below := if x.fraction = 0 ∧ 1 < x.exponentField then gap else 2 * gap
  ⟨4 * x.units, 4 * x.units - below, 4 * x.units + 2 * gap,
    x.significand % 2 == 0⟩

/-- `point`, scaled by `scale` like the interval, lies inside. -/
def Interval.holds (i : Interval) (scale point : Nat) : Bool :=
  if i.closed then i.low * scale ≤ point && point ≤ i.high * scale
  else i.low * scale < point && point < i.high * scale

/-- The decimal exponent of the first digit of a positive finite double. -/
def leadingExponent (x : Binary64) : Int :=
  (Nat.toDigits 10 (x.units * tenTo 400 / twoTo 1074)).length - 401

/-- The decimal nearest to `x` with a last digit worth `10 ^ exponent`, if one
such decimal reads back. -/
def onGrid? (x : Binary64) (exponent : Int) : Option Decimal :=
  let i := x.interval
  let scale := tenTo (-exponent).toNat
  let step := 4 * twoTo 1074 * tenTo exponent.toNat
  let below := i.value * scale / step
  let rest := i.value * scale % step
  match i.holds scale (below * step), i.holds scale ((below + 1) * step) with
  | true, true =>
      some ⟨if 2 * rest < step ∨ (2 * rest = step ∧ below % 2 = 0)
        then below else below + 1, exponent⟩
  | true, false => some ⟨below, exponent⟩
  | false, true => some ⟨below + 1, exponent⟩
  | false, false => none

/-- The nearest of the shortest decimals that read back as a positive finite
double; seventeen digits always do. -/
def shortest (x : Binary64) : Decimal :=
  let leading := x.leadingExponent
  let grid := (List.range 17).findSome?
    (fun places : Nat => x.onGrid? (leading - places))
  grid.getD ⟨0, 0⟩

end Binary64
end RegionSnapshot
