/-!
# Decimal numerals

A number written with a sign, digits, a fraction and an exponent, kept exactly as a natural number
of units of a power of ten.
-/

namespace TypeAtlas.Number

/-- Whether a character is one of the ten digits `0` to `9`. -/
def isDigit (c : Char) : Bool := '0' ≤ c && c ≤ '9'

/-- A power of ten. -/
def tenTo (n : Nat) : Nat := Nat.pow 10 n

/-- The value of a row of decimal digits. -/
def ofDigits (cs : List Char) : Nat :=
  cs.foldl (fun n c => 10 * n + (c.toNat - '0'.toNat)) 0

/-- The number `± units · 10 ^ exponent`. -/
structure Decimal where
  negative : Bool
  units : Nat
  exponent : Int
  deriving DecidableEq, Repr

namespace Decimal

/-- The sign of a numeral and what follows it. -/
def sign : List Char → Bool × List Char
  | '-' :: cs => (true, cs)
  | '+' :: cs => (false, cs)
  | cs => (false, cs)

/-- The digits after the point and what follows them. -/
def fraction : List Char → List Char × List Char
  | '.' :: cs => (cs.takeWhile isDigit, cs.dropWhile isDigit)
  | cs => ([], cs)

/-- The exponent after the letter that introduces it. -/
def scale : List Char → Int
  | [] => 0
  | _ :: cs =>
    let (negative, digits) := sign cs
    if negative then -(ofDigits digits : Int) else ofDigits digits

/-- The number that a numeral writes. -/
def ofChars (cs : List Char) : Decimal :=
  let (negative, cs) := sign cs
  let whole := cs.takeWhile isDigit
  let (places, cs) := fraction (cs.dropWhile isDigit)
  ⟨negative, ofDigits (whole ++ places), scale cs - places.length⟩

/-- The whole number that a numeral without fraction and exponent writes. -/
def integerOfChars (cs : List Char) : Int :=
  let (negative, digits) := sign cs
  if negative then -(ofDigits digits : Int) else ofDigits digits

/-- The most digits that a whole number may have. -/
def digitLimit : Nat := 4300

/-- The whole number that a numeral without fraction and exponent writes, unless it has too many
digits. -/
def integer? (cs : List Char) : Option Int :=
  if digitLimit < (sign cs).2.length then none else some (integerOfChars cs)

end Decimal

end TypeAtlas.Number
