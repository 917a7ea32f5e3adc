/-
Double-precision numbers, by their bits and in exact arithmetic.  A finite
double is a whole number of units of `2 ^ -1074`; rounding takes a quotient of
naturals, counted in these units, to the nearest double, and of two equally
near ones to the one with the even significand.  Products, quotients and
numbers of single precision are all rounded by this one rule.
-/
import RegionSnapshot.Decimal.Power

namespace RegionSnapshot

/-- A double-precision number, by its bits. -/
structure Binary64 where
  bits : UInt64
  deriving DecidableEq, Repr

/-- The quotient `num / den`, rounded to a natural, a half to the even one. -/
def roundHalfEven (num den : Nat) : Nat :=
  let quotient := num / den
  let twice := 2 * (num % den)
  if twice < den then quotient
  else if den < twice then quotient + 1
  else quotient + quotient % 2

namespace Binary64

/-- The bits as a natural. -/
def word (x : Binary64) : Nat :=
  x.bits.toNat

def isNegative (x : Binary64) : Bool :=
  twoTo 63 ≤ x.word

def exponentField (x : Binary64) : Nat :=
  x.word / twoTo 52 % twoTo 11

def fraction (x : Binary64) : Nat :=
  x.word % twoTo 52

def isFinite (x : Binary64) : Bool :=
  x.exponentField < 2047

def isNaN (x : Binary64) : Bool :=
  x.exponentField == 2047 && x.fraction != 0

/-- The significand of a finite number, as a natural below `2 ^ 53`. -/
def significand (x : Binary64) : Nat :=
  if x.exponentField = 0 then x.fraction else twoTo 52 + x.fraction

/-- How many places the significand is shifted above the smallest unit. -/
def shift (x : Binary64) : Nat :=
  x.exponentField - 1

/-- The magnitude of a finite number in units of `2 ^ -1074`. -/
def units (x : Binary64) : Nat :=
  x.significand * twoTo x.shift

def isZero (x : Binary64) : Bool :=
  x.isFinite && x.units == 0

/-- The significand and the shift of the quotient `num / den`, rounded to
`places` binary places after the leading one. -/
def roundedParts (places num den : Nat) : Nat × Nat :=
  let shift := (num / den).log2 - places
  (roundHalfEven num (den * twoTo shift), shift)

/-- A sign and the magnitude whose bits are `word`, or infinity where those
bits are past the last finite number. -/
def ofSignAndWord (negative : Bool) (word : Nat) : Binary64 :=
  ⟨.ofNat ((if negative then twoTo 63 else 0) + min word (2047 * twoTo 52))⟩

def infinity (negative : Bool) : Binary64 :=
  ofSignAndWord negative (2047 * twoTo 52)

def nan : Binary64 :=
  ⟨.ofNat (4095 * twoTo 51)⟩

/-- The double nearest to `num / den` units of `2 ^ -1074`. -/
def ofUnits (negative : Bool) (num den : Nat) : Binary64 :=
  let (significand, shift) := roundedParts 52 num den
  ofSignAndWord negative (shift * twoTo 52 + significand)

/-- The double nearest to `num / den`. -/
def ofRatio (negative : Bool) (num den : Nat) : Binary64 :=
  ofUnits negative (num * twoTo 1074) den

/-- The double nearest to an integer. -/
def ofInt (n : Int) : Binary64 :=
  ofRatio (n < 0) n.natAbs 1

def negate (x : Binary64) : Binary64 :=
  ⟨.ofNat ((x.word + twoTo 63) % twoTo 64)⟩

/-- The product of two finite doubles, rounded. -/
def mul (x y : Binary64) : Binary64 :=
  ofUnits (x.isNegative != y.isNegative) (x.units * y.units) (twoTo 1074)

/-- The quotient of a finite double by one that is not zero, rounded. -/
def div (x y : Binary64) : Binary64 :=
  ofUnits (x.isNegative != y.isNegative) (x.units * twoTo 1074) y.units

/-- Equality of numbers: both zeros are equal, and a number that is not one
equals nothing. -/
def same (x y : Binary64) : Bool :=
  !x.isNaN && !y.isNaN && (x.bits == y.bits || (x.isZero && y.isZero))

/-- The number of single precision nearest to `num / den` units of
`2 ^ -149`, as a double. -/
def singleOfUnits (negative : Bool) (num den : Nat) : Binary64 :=
  let (significand, shift) := roundedParts 23 num den
  if 255 * twoTo 23 ≤ shift * twoTo 23 + significand then infinity negative
  else ofUnits negative (significand * twoTo shift * twoTo 925) 1

/-- The number of single precision nearest to an integer, as a double. -/
def singleOfInt (n : Int) : Binary64 :=
  singleOfUnits (n < 0) (n.natAbs * twoTo 149) 1

/-- The number of single precision nearest to a double, as a double. -/
def toSingle (x : Binary64) : Binary64 :=
  if x.isFinite then singleOfUnits x.isNegative x.units (twoTo 925) else x

end Binary64
end RegionSnapshot
