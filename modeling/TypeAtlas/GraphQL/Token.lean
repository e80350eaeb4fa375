/-!
# Tokens

The tokens of GraphQL text: punctuators, names, numbers as they are written, and strings with the
text they stand for.
-/

namespace TypeAtlas.GraphQL

/-- A punctuator. -/
inductive Punctuator where
  | bang | dollar | ampersand | parenL | parenR | spread | colon | equals | atSign
  | bracketL | bracketR | braceL | pipe | braceR
  deriving DecidableEq, Repr

/-- The characters of a punctuator. -/
def Punctuator.spelling : Punctuator → String
  | bang => "!"
  | dollar => "$"
  | ampersand => "&"
  | parenL => "("
  | parenR => ")"
  | spread => "..."
  | colon => ":"
  | equals => "="
  | atSign => "@"
  | bracketL => "["
  | bracketR => "]"
  | braceL => "\x7b"
  | pipe => "|"
  | braceR => "\x7d"

/-- A token. -/
inductive Token where
  | punctuator (p : Punctuator)
  | name (text : String)
  /-- A whole number as it is written. -/
  | int (numeral : String)
  /-- A number with fraction or exponent as it is written. -/
  | float (numeral : String)
  /-- A string on one line. -/
  | string (value : String)
  /-- A string between triple quotes. -/
  | blockString (value : String)
  deriving DecidableEq, Repr

namespace Token

/-- The text that a token carries; punctuators carry none. -/
def value? : Token → Option String
  | punctuator _ => none
  | name text => some text
  | int numeral => some numeral
  | float numeral => some numeral
  | string value => some value
  | blockString value => some value

/-- A text between single quotes, as it is. -/
def inQuotes (text : String) : String := "'" ++ text ++ "'"

/-- The token as messages show it. -/
def shown : Token → String
  | punctuator p => inQuotes p.spelling
  | name text => "Name " ++ inQuotes text
  | int numeral => "Int " ++ inQuotes numeral
  | float numeral => "Float " ++ inQuotes numeral
  | string value => "String " ++ inQuotes value
  | blockString value => "BlockString " ++ inQuotes value

end Token

/-- The next token, or the end of the text, as messages show it. -/
def shownToken : Option Token → String
  | some token => token.shown
  | none => "<EOF>"

end TypeAtlas.GraphQL
