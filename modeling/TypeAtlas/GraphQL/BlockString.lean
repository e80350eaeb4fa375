import TypeAtlas.Text.Lines

/-!
# Block strings

The text that a block string stands for: its lines without the indentation that all but the first
share, and without the blank lines at the beginning and the end. Only spaces and tabs indent.
-/

namespace TypeAtlas.GraphQL.BlockString

/-- Whether a character indents a line. -/
def isIndent (c : Char) : Bool := c = ' ' || c = '\t'

/-- The length of the indentation of a line. -/
def indentation (line : List Char) : Nat := (line.takeWhile isIndent).length

/-- Whether a line has nothing but indentation. -/
def isBlankLine (line : List Char) : Bool := line.all isIndent

/-- The least indentation of the lines that are not blank. -/
def commonIndent (lines : List (List Char)) : Nat :=
  (((lines.filter (!isBlankLine ·)).map indentation).min?).getD 0

/-- Every line but the first without the indentation that they share. -/
def unindent : List (List Char) → List (List Char)
  | [] => []
  | first :: rest => first :: rest.map (·.drop (commonIndent rest))

/-- The lines without the blank ones at either end. -/
def trimLines (lines : List (List Char)) : List (List Char) :=
  ((lines.dropWhile isBlankLine).reverse.dropWhile isBlankLine).reverse

/-- The text that the characters between the triple quotes stand for. -/
def dedent (raw : List Char) : List Char :=
  ['\n'].intercalate (trimLines (unindent (Text.lines raw)))

end TypeAtlas.GraphQL.BlockString
