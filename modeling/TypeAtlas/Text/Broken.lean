import TypeAtlas.Text.Hex
import TypeAtlas.Text.Quoted

/-!
# Broken texts

Two surrogates together write one character. A surrogate that is not one of a pair writes none, and a
text that has one is broken: it can be kept and compared, but there are no bytes for it. In messages
such a surrogate stands as its escape.
-/

namespace TypeAtlas.Text

/-- What stands at one place of a text: a character, or a surrogate that is not one of a pair. -/
inductive Point where
  | char (c : Char)
  /-- The surrogate with a given number among all of them. -/
  | surrogate (n : Fin 0x800)
  deriving DecidableEq, Repr

namespace Point

/-- The character at a place. -/
def char? : Point → Option Char
  | char c => some c
  | surrogate _ => none

/-- The point with a given code point, unless that is too large. -/
def ofNat? (n : Nat) : Option Point :=
  if h : 0xD800 ≤ n ∧ n < 0xE000 then some (surrogate ⟨n - 0xD800, by omega⟩)
  else (charOf? n).map char

/-- The point as it stands in a message. -/
def escaped : Point → List Char
  | char c => [c]
  | surrogate n => codePointEscape (0xD800 + n)

/-- How a point stands between given quotes. -/
def quoted (quote : Char) : Point → List Char
  | char c => quotedChar quote c
  | surrogate n => codePointEscape (0xD800 + n)

end Point

/-- A text with a surrogate that is not one of a pair. -/
structure Broken where
  points : List Point
  isBroken : points.any (·.char?.isNone) = true
  deriving DecidableEq, Repr

namespace Broken

/-- The text that is no more than one surrogate. -/
def ofSurrogate (n : Fin 0x800) : Broken := ⟨[.surrogate n], rfl⟩

/-- A broken text with another text after it. -/
def append (b : Broken) (s : String) : Broken where
  points := b.points ++ s.toList.map .char
  isBroken := by rw [List.any_append, b.isBroken, Bool.true_or]

/-- The text with escapes for its surrogates. -/
def escaped (b : Broken) : String := String.ofList (b.points.flatMap Point.escaped)

/-- The text in quotes. -/
def quoted (b : Broken) : String :=
  let quote := quoteFor (b.points.filterMap Point.char?)
  String.ofList (quote :: b.points.flatMap (Point.quoted quote) ++ [quote])

end Broken

end TypeAtlas.Text
