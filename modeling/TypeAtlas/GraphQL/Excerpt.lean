import TypeAtlas.GraphQL.Fault

/-!
# Excerpts

A syntax error with the lines of the text around its place and a caret under the column. A line of
more than 120 characters is shown in pieces of 80, from its beginning to one piece after the caret.
-/

namespace TypeAtlas.GraphQL

open Text (lines)

/-- Characters moved to the right end of a field of at least `width`. -/
def padLeft (width : Nat) (cs : List Char) : List Char :=
  List.replicate (width - cs.length) ' ' ++ cs

/-- A caret in a given column. -/
def caret (column : Nat) : List Char := padLeft column ['^']

/-- A line of an excerpt: what stands in the margin, and the text beside it. -/
structure ExcerptLine where
  margin : List Char
  text : List Char

/-- Lines with their margins aligned on the right. An empty text leaves no blank after the margin. -/
def renderExcerpt (rows : List ExcerptLine) : List Char :=
  let width := (rows.map (·.margin.length)).max?.getD 0
  ['\n'].intercalate (rows.map fun row =>
    padLeft width row.margin ++ if row.text = [] then [] else ' ' :: row.text)

/-- The margin of a numbered line. -/
def numbered (line : Nat) : List Char := Nat.toDigits 10 line ++ [' ', '|']

/-- Pieces of `size` characters, the last one possibly shorter. -/
def pieces (size : Nat) (cs : List Char) : List (List Char) :=
  (List.range ((cs.length + size - 1) / size)).map fun i => (cs.drop (i * size)).take size

/-- The excerpt of a long line. -/
def longLineExcerpt (line column : Nat) (text : List Char) : List ExcerptLine :=
  let parts := pieces 80 text
  let index := column / 80
  let before := (parts.take (index + 1)).drop 1
  ⟨numbered line, parts.head?.getD []⟩ :: before.map (⟨['|'], ·⟩) ++ [⟨['|'], caret (column % 80)⟩] ++
    (parts[index + 1]?.toList.map (⟨['|'], ·⟩))

/-- The excerpt of a line with its neighbours. -/
def lineExcerpt (all : List (List Char)) (line column : Nat) (text : List Char) :
    List ExcerptLine :=
  let before := if 2 ≤ line then all[line - 2]?.toList else []
  before.map (⟨numbered (line - 1), ·⟩) ++ [⟨numbered line, text⟩, ⟨['|'], caret column⟩] ++
    all[line]?.toList.map (⟨numbered (line + 1), ·⟩)

namespace SyntaxError

/-- The lines around the place of the error. -/
def excerpt (e : SyntaxError) : String :=
  let all := lines e.source.toList
  let (line, column) := (e.position.line, e.position.column)
  let text := all[line - 1]?.getD []
  String.ofList (renderExcerpt (
    if 120 < text.length then longLineExcerpt line column text
    else lineExcerpt all line column text))

/-- The error with its place and the lines around it. -/
def report (e : SyntaxError) : String :=
  e.message ++ "\n\nGraphQL request:" ++ toString e.position.line ++ ":" ++
    toString e.position.column ++ "\n" ++ e.excerpt

end SyntaxError

end TypeAtlas.GraphQL
