import TypeAtlas.GraphQL.Token
import TypeAtlas.Text.Lines

/-!
# Syntax errors

Why a text is not GraphQL: a `LexicalFault` says that no token can be read, a `GrammarFault` that
the next token does not fit. A `SyntaxError` is a fault with its place in the text.
-/

namespace TypeAtlas.GraphQL

/-- Why no token can be read. -/
inductive LexicalFault where
  /-- A character that begins no token. -/
  | unexpectedCharacter (c : Char)
  /-- An apostrophe where a string may have been meant. -/
  | apostrophe
  /-- A digit after a leading zero. -/
  | digitAfterZero (c : Char)
  /-- Something else where a number needs a digit, or directly after a number. -/
  | missingDigit (found : Option Char)
  /-- The line or the text ends inside a string. -/
  | unterminatedString
  /-- A backslash with a character that makes no escape. -/
  | unknownEscape (text : String)
  /-- An escape that gives no character by its code point. -/
  | badCodePoint (text : String)
  deriving DecidableEq, Repr

/-- What the grammar asks for. -/
inductive Expectation where
  | punctuator (p : Punctuator)
  | name
  | keyword (word : String)
  | endOfText
  deriving DecidableEq, Repr

/-- Why the next token does not fit. Tokens are absent at the end of the text. -/
inductive GrammarFault where
  /-- The grammar asks for one thing and the text has another. -/
  | expected (what : Expectation) (found : Option Token)
  /-- The grammar has several ways to go on and the token fits none. -/
  | unexpected (found : Option Token)
  /-- A variable in a value that must be constant. -/
  | variableInConstant (name : String)
  /-- An enum value named like a boolean or null. -/
  | reservedEnumValue (found : Token)
  /-- A description before a selection set. -/
  | descriptionOnShorthand
  /-- A description before something that is no definition. -/
  | descriptionOutsideDefinition
  /-- More than the allowed number of nested brackets. -/
  | tooDeep
  deriving DecidableEq, Repr

/-- A character, or the end of the text, as messages show it: printable ASCII in quotes, any other
character by its code point. -/
def shownChar : Option Char → String
  | none => "<EOF>"
  | some c =>
    if c = '"' then "'\"'"
    else if ' ' ≤ c ∧ c ≤ '~' then "'" ++ c.toString ++ "'"
    else
      let digits := (Nat.toDigits 16 c.toNat).map Char.toUpper
      "U+" ++ String.ofList (List.replicate (4 - digits.length) '0' ++ digits)

/-- The fault in words. -/
def LexicalFault.message : LexicalFault → String
  | unexpectedCharacter c => "Unexpected character: " ++ shownChar (some c) ++ "."
  | apostrophe => "Unexpected single quote character ('), did you mean to use a double quote (\")?"
  | digitAfterZero c =>
    "Invalid number, unexpected digit after 0: " ++ shownChar (some c) ++ "."
  | missingDigit found => "Invalid number, expected digit but got: " ++ shownChar found ++ "."
  | unterminatedString => "Unterminated string."
  | unknownEscape text => "Invalid character escape sequence: '" ++ text ++ "'."
  | badCodePoint text => "Invalid Unicode escape sequence: '" ++ text ++ "'."

/-- What is asked for as messages show it. -/
def Expectation.shown : Expectation → String
  | punctuator p => (Token.punctuator p).shown
  | name => "Name"
  | keyword word => Token.inQuotes word
  | endOfText => "<EOF>"

/-- The fault in words. -/
def GrammarFault.message : GrammarFault → String
  | expected what found => "Expected " ++ what.shown ++ ", found " ++ shownToken found ++ "."
  | unexpected found => "Unexpected " ++ shownToken found ++ "."
  | variableInConstant name => "Unexpected variable '$" ++ name ++ "' in constant value."
  | reservedEnumValue found =>
    found.shown ++ " is reserved and cannot be used for an enum value."
  | descriptionOnShorthand =>
    "Unexpected description, descriptions are not supported on shorthand queries."
  | descriptionOutsideDefinition =>
    "Unexpected description, only GraphQL definitions support descriptions."
  | tooDeep => "Document is nested too deeply. Parsing aborted."

/-- A fault of either kind. -/
inductive SyntaxFault where
  | lexical (fault : LexicalFault)
  | grammar (fault : GrammarFault)
  deriving DecidableEq, Repr

/-- A fault and where in which text it was found. -/
structure SyntaxError where
  source : String
  fault : SyntaxFault
  position : Text.Position
  deriving DecidableEq, Repr

/-- The error in words. -/
def SyntaxError.message (e : SyntaxError) : String :=
  "Syntax Error: " ++ match e.fault with
    | .lexical fault => fault.message
    | .grammar fault => fault.message

end TypeAtlas.GraphQL
