import TypeAtlas.Number.Binary64

/-!
# The shortest decimal of a binary number

A finite number is written with the fewest significant digits that still read back as that number;
of two such numerals with equally many digits the one nearer to the number is taken. From `1e-4` up
to `1e16` the numeral has a point, elsewhere an exponent of at least two digits.
-/

namespace TypeAtlas.Number

namespace Binary64

/-- The exponent of ten of the first significant digit of the positive number `num / den`. -/
def leadingPlace (num den : Nat) : Int :=
  if den ≤ num then (Nat.toDigits 10 (num / den)).length - 1
  else
    let zeros := (den - 1) / num
    if zeros = 0 then 0 else Int.negOfNat (Nat.toDigits 10 zeros).length

/-- A positive number of `count` significant digits that reads back as `x`. -/
def shortestWith? (x : Binary64) (count : Nat) : Option Decimal :=
  let (num, den) := x.ratio
  let place := leadingPlace num den - count + 1
  let (num, den) := (num * tenTo (-place).toNat, den * tenTo place.toNat)
  let below := num / den
  let nearest := roundDiv num den
  let other := if nearest = below then below + 1 else below
  ([nearest, other].map (Decimal.mk false · place)).find? fun d =>
    (ofDecimal d).magnitude = x.magnitude

/-- The decimal with the fewest significant digits that reads back as a finite number other than
zero. Seventeen digits always suffice. -/
def shortest (x : Binary64) : Decimal :=
  (((List.range 17).map (· + 1)).findSome? (shortestWith? x)).getD ⟨false, 0, 0⟩

/-- The digits of an exponent, at least two. -/
def exponentDigits (n : Nat) : List Char :=
  let digits := Nat.toDigits 10 n
  if digits.length < 2 then '0' :: digits else digits

/-- A row of digits with a point after the first `place + 1` of them, or with an exponent. -/
def layOut (digits : List Char) (place : Int) : List Char :=
  if place < -4 ∨ 16 ≤ place then
    let mark := if place < 0 then ['e', '-'] else ['e', '+']
    let tail := if digits.length ≤ 1 then [] else '.' :: digits.drop 1
    digits.take 1 ++ tail ++ mark ++ exponentDigits place.natAbs
  else if place < 0 then
    ['0', '.'] ++ List.replicate (-place - 1).toNat '0' ++ digits
  else
    let whole := place.toNat + 1
    let padded := digits ++ List.replicate (whole - digits.length) '0'
    padded.take whole ++ ['.'] ++ (if padded.length ≤ whole then ['0'] else padded.drop whole)

/-- The numeral of a finite number. -/
def numeral (x : Binary64) : String :=
  let unsigned :=
    if x.isZero then ['0', '.', '0']
    else
      let d := x.shortest
      let digits := Nat.toDigits 10 d.units
      let significant := (digits.reverse.dropWhile (· = '0')).reverse
      layOut significant (d.exponent + digits.length - 1)
  String.ofList (if x.isNegative then '-' :: unsigned else unsigned)

end Binary64

end TypeAtlas.Number
