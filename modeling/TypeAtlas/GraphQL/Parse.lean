import TypeAtlas.GraphQL.Grammar.Document
import TypeAtlas.GraphQL.Lexer

/-!
# Parsing

From text to syntax trees. Tokens are read as the grammar asks for them, so a place where no token
can be read is reported only if the grammar got there: if the parser has looked past the last token
that could be read.
-/

namespace TypeAtlas.GraphQL

/-- The error with a given fault where `left` characters of a text are left. -/
def syntaxErrorAt (source : String) (left : Nat) (fault : SyntaxFault) : SyntaxError :=
  let cs := source.toList
  ⟨source, fault, Text.positionAt cs (cs.length - left)⟩

/-- The number of characters left where a number of tokens is left. -/
def charactersLeft (tokens : List PlacedToken) (left : Nat) : Nat :=
  (tokens[tokens.length - left]?.map PlacedToken.left).getD 0

/-- Reads a whole text. -/
def parseWith {α : Type} (parser : Parser α) (source : String) : Except SyntaxError α :=
  let (tokens, stopped) := scan source.toList
  match parser.run (tokens.map PlacedToken.token), stopped with
  | .ok (result, _), none => .ok result
  | .ok _, some e => .error (syntaxErrorAt source e.left (.lexical e.fault))
  | .error failure, some e =>
    if failure.seen = 0 then .error (syntaxErrorAt source e.left (.lexical e.fault))
    else .error (syntaxErrorAt source (charactersLeft tokens failure.left) (.grammar failure.fault))
  | .error failure, none =>
    .error (syntaxErrorAt source (charactersLeft tokens failure.left) (.grammar failure.fault))

/-- Reads a type reference such as `[String!]!`. -/
def TypeExpr.parse (source : String) : Except SyntaxError TypeExpr :=
  parseWith Parser.wholeTypeReference source

/-- Reads a document. -/
def parseDocument (source : String) : Except SyntaxError (List Definition) :=
  parseWith Parser.document source

end TypeAtlas.GraphQL
