/-!
# Lines

A line ends with a line feed, a carriage return, or the two together. `lines` cuts a text at its
line ends, and `positionAt` gives the line and column of a place in it.
-/

namespace TypeAtlas.Text

/-- Whether a character ends a line. -/
def isLineEnd (c : Char) : Bool := c = '\n' || c = '\r'

/-- Puts a character before the first line. -/
def consLine (c : Char) : List (List Char) → List (List Char)
  | [] => [[c]]
  | line :: rest => (c :: line) :: rest

/-- The lines of a text, without their ends. There is always one line more than there are ends. -/
def lines : List Char → List (List Char)
  | [] => [[]]
  | '\r' :: '\n' :: cs => [] :: lines cs
  | c :: cs => if isLineEnd c then [] :: lines cs else consLine c (lines cs)

/-- A place in a text; lines and columns are counted from one. -/
structure Position where
  line : Nat
  column : Nat
  deriving DecidableEq, Repr

/-- The place after the first `offset` characters. -/
def positionAt (cs : List Char) (offset : Nat) : Position :=
  let before := lines (cs.take offset)
  ⟨before.length, (before.getLast?.getD []).length + 1⟩

/-- The text with every line end written as a line feed. -/
def withLineFeeds : List Char → List Char
  | [] => []
  | '\r' :: '\n' :: cs => '\n' :: withLineFeeds cs
  | c :: cs => (if c = '\r' then '\n' else c) :: withLineFeeds cs

end TypeAtlas.Text
