import TypeAtlas.Number.Decimal

/-!
# Binary floating point

The 64-bit format of IEEE 754, as its bits. `ofDecimal` gives the value nearest to a decimal
number, of two nearest ones the one with an even significand; a number beyond the largest finite
value becomes an infinity, and a zero keeps its sign.
-/

namespace TypeAtlas.Number

/-- A number of the 64-bit binary format. -/
structure Binary64 where
  bits : UInt64
  deriving DecidableEq, Repr

/-- A power of two. -/
def twoTo (n : Nat) : Nat := Nat.pow 2 n

/-- The quotient rounded to a whole number, a half to the even neighbour. -/
def roundDiv (num den : Nat) : Nat :=
  let q := num / den
  let twice := 2 * (num % den)
  if twice < den then q
  else if den < twice then q + 1
  else q + q % 2

namespace Binary64

/-- The place of the sign bit. -/
def signUnit : Nat := twoTo 63

/-- The bits of a positive infinity: the significand is zero and the exponent has all bits set. -/
def infinityBits : Nat := 0x7FF * twoTo 52

/-- The value with the given sign whose other bits are those of `magnitude`. -/
def ofMagnitude (negative : Bool) (magnitude : Nat) : Binary64 :=
  ⟨UInt64.ofNat (if negative then signUnit + magnitude else magnitude)⟩

/-- The bits of the value nearest to the positive number `num / den`. The significand has 53 bits,
or fewer below the smallest normal number; one that rounds up to 54 bits carries into the
exponent. -/
def magnitudeOfRatio (num den : Nat) : Nat :=
  let guess : Int := (num.log2 : Int) - den.log2
  let reaches := den * twoTo guess.toNat ≤ num * twoTo (-guess).toNat
  let top := if reaches then guess else guess - 1
  let unit := max (top - 52) (-1074)
  let significand := roundDiv (num * twoTo (-unit).toNat) (den * twoTo unit.toNat)
  min ((unit + 1074).toNat * twoTo 52 + significand) infinityBits

/-- The value nearest to a decimal number. Numbers of 310 and more digits before the point, and
those that begin more than 330 places after it, are beyond the range. -/
def ofDecimal (d : Decimal) : Binary64 :=
  let length : Int := (Nat.toDigits 10 d.units).length
  ofMagnitude d.negative <|
    if d.units = 0 ∨ d.exponent + length < -330 then 0
    else if 310 < d.exponent + length then infinityBits
    else magnitudeOfRatio (d.units * tenTo d.exponent.toNat) (tenTo (-d.exponent).toNat)

/-- Whether the sign bit is set. -/
def isNegative (x : Binary64) : Bool := signUnit ≤ x.bits.toNat

/-- The bits other than the sign. -/
def magnitude (x : Binary64) : Nat := x.bits.toNat % signUnit

/-- Whether the number is zero, of either sign. -/
def isZero (x : Binary64) : Bool := x.magnitude == 0

/-- Whether the number is an infinity, of either sign. -/
def isInfinite (x : Binary64) : Bool := x.magnitude == infinityBits

/-- Whether the bits stand for no number. -/
def isNaN (x : Binary64) : Bool := infinityBits < x.magnitude

/-- A finite magnitude as a quotient of natural numbers. -/
def ratio (x : Binary64) : Nat × Nat :=
  let exponent := x.magnitude / twoTo 52
  let fraction := x.magnitude % twoTo 52
  let significand := if exponent = 0 then fraction else twoTo 52 + fraction
  let unit : Int := (max exponent 1 : Nat) - 1075
  (significand * twoTo unit.toNat, twoTo (-unit).toNat)

/-- The whole number that a value is. -/
def integer? (x : Binary64) : Option Int :=
  let (num, den) := x.ratio
  if x.isNaN || x.isInfinite || num % den ≠ 0 then none
  else some (if x.isNegative then -((num / den : Nat) : Int) else (num / den : Nat))

end Binary64

end TypeAtlas.Number
