/-
The text of a double.  The shortest digits are written plainly, with at least
one digit on both sides of the point, where the first digit stands between the
fifth place after the point and the sixteenth before it; elsewhere they are
written with an exponent that always carries its sign.
-/
import RegionSnapshot.Decimal.Shortest

namespace RegionSnapshot
namespace Binary64

/-- The least exponent of a first digit that is written plainly. -/
def plainFrom : Int := -5

/-- The greatest exponent of a first digit that is written plainly. -/
def plainTo : Int := 15

/-- The digits without the zeros at their end. -/
def dropZeros (digits : List Char) : List Char :=
  (digits.reverse.dropWhile (· = '0')).reverse

/-- Digits whose first one is worth `10 ^ exponent`, written plainly. -/
def plain (digits : List Char) (exponent : Int) : List Char :=
  if exponent < 0 then
    '0' :: '.' :: (List.replicate (-exponent - 1).toNat '0' ++ digits)
  else
    let whole := exponent.toNat + 1
    let padding := List.replicate (whole - digits.length) '0'
    let fraction := digits.drop whole
    digits.take whole ++ padding ++
      '.' :: (if fraction.isEmpty then ['0'] else fraction)

/-- Digits whose first one is worth `10 ^ exponent`, with that exponent. -/
def scientific (digits : List Char) (exponent : Int) : List Char :=
  let point := if digits.length ≤ 1 then [] else ['.']
  let sign := if exponent < 0 then '-' else '+'
  digits.take 1 ++ point ++ digits.drop 1 ++
    'e' :: sign :: Nat.toDigits 10 exponent.natAbs

/-- The text of a finite magnitude. -/
def magnitudeText (x : Binary64) : List Char :=
  if x.units = 0 then ['0', '.', '0']
  else
    let decimal := x.shortest
    let digits := Nat.toDigits 10 decimal.digits
    let exponent := decimal.exponent + digits.length - 1
    if plainFrom ≤ exponent ∧ exponent ≤ plainTo then
      plain (dropZeros digits) exponent
    else scientific (dropZeros digits) exponent

/-- The text of a finite double. -/
def chars (x : Binary64) : List Char :=
  if x.isNegative then '-' :: x.magnitudeText else x.magnitudeText

/-- The text of any double. -/
def text (x : Binary64) : String :=
  if x.isNaN then "NaN"
  else if x.isFinite then .ofList x.chars
  else if x.isNegative then "-inf" else "inf"

example : (ofInt 1).text = "1.0" := by decide +kernel

example : (ofRatio false 1 (tenTo 5)).text = "0.00001" := by decide +kernel

example : (ofRatio true 1 (tenTo 6)).text = "-1e-6" := by decide +kernel

example : (ofRatio false (tenTo 15) 1).text = "1000000000000000.0" := by
  decide +kernel

example : (ofRatio false (25 * tenTo 15) 1).text = "2.5e+16" := by
  decide +kernel

end Binary64
end RegionSnapshot
