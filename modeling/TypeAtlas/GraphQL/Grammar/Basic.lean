import TypeAtlas.GraphQL.Fault

/-!
# Reading tokens

A `Parser` takes tokens from the front of a list. It looks at the next token only and never goes
back, apart from `lookAhead`, which shows the token after the next one. When it stops it tells the
fault, the place of the fault and how far it has looked, both as numbers of tokens left.
-/

namespace TypeAtlas.GraphQL

/-- Why and where a parser stopped. -/
structure Failure where
  fault : GrammarFault
  /-- The number of tokens left from the fault on. -/
  left : Nat
  /-- The number of tokens left from the last token that was looked at. -/
  seen : Nat
  deriving DecidableEq, Repr

/-- Reads tokens from the front of a list. -/
abbrev Parser := StateT (List Token) (Except Failure)

namespace Parser

variable {α : Type}

/-- Stops at the next token. -/
def fail (fault : GrammarFault) : Parser α := fun ts => .error ⟨fault, ts.length, ts.length⟩

/-- Stops at a place that was passed before, of which `left` tokens were left. -/
def failAt (left : Nat) (fault : GrammarFault) : Parser α :=
  fun ts => .error ⟨fault, left, ts.length⟩

/-- Stops because the next token fits nothing. -/
def unexpected : Parser α := fun ts => fail (.unexpected ts.head?) ts

/-- Stops because something else was asked for. -/
def expected (what : Expectation) : Parser α := fun ts => fail (.expected what ts.head?) ts

/-- The next token. -/
def peek : Parser (Option Token) := fun ts => .ok (ts.head?, ts)

/-- The token after the next one. -/
def lookAhead : Parser (Option Token) := fun ts => .ok (ts.tail.head?, ts)

/-- The number of tokens left. -/
def tokensLeft : Parser Nat := fun ts => .ok (ts.length, ts)

/-- Whether the next token is a given one. -/
def isNext (t : Token) : Parser Bool := fun ts => .ok (ts.head? = some t, ts)

/-- Passes over the next token. -/
def skip : Parser Unit := fun ts => .ok ((), ts.tail)

/-- Passes over a given token if it is the next one, and tells whether it was. -/
def accept (t : Token) : Parser Bool := fun ts =>
  if ts.head? = some t then .ok (true, ts.tail) else .ok (false, ts)

/-- Passes over a given token. -/
def require (t : Token) (what : Expectation) : Parser Unit := fun ts =>
  if ts.head? = some t then .ok ((), ts.tail) else expected what ts

/-- Passes over a punctuator. -/
def punctuator (p : Punctuator) : Parser Unit := require (.punctuator p) (.punctuator p)

/-- Passes over a keyword, which is a name like any other. -/
def keyword (word : String) : Parser Unit := require (.name word) (.keyword word)

/-- A name. -/
def name : Parser String := fun ts =>
  match ts with
  | .name text :: rest => .ok (text, rest)
  | _ => expected .name ts

/-! ## Repetition

An item that takes no token could be read for ever, so it ends a repetition with a fault. -/

/-- Items up to a closing punctuator. -/
def untilClose (item : Parser α) (close : Punctuator) : Parser (List α) := fun ts =>
  if ts.head? = some (.punctuator close) then .ok ([], ts.tail)
  else match item ts with
    | .error e => .error e
    | .ok (first, rest) =>
      if rest.length < ts.length then
        match untilClose item close rest with
        | .error e => .error e
        | .ok (others, rest) => .ok (first :: others, rest)
      else unexpected rest
termination_by ts => ts.length

/-- Items for as long as each begins with a given punctuator. -/
def whileAt (start : Punctuator) (item : Parser α) : Parser (List α) := fun ts =>
  if ts.head? = some (.punctuator start) then
    match item ts with
    | .error e => .error e
    | .ok (first, rest) =>
      if rest.length < ts.length then
        match whileAt start item rest with
        | .error e => .error e
        | .ok (others, rest) => .ok (first :: others, rest)
      else unexpected rest
  else .ok ([], ts)
termination_by ts => ts.length

/-- Between two punctuators, any number of items. -/
def any (opening : Punctuator) (item : Parser α) (close : Punctuator) : Parser (List α) := do
  punctuator opening
  untilClose item close

/-- Between two punctuators, one item or more. -/
def many (opening : Punctuator) (item : Parser α) (close : Punctuator) : Parser (List α) := do
  punctuator opening
  let first ← item
  let others ← untilClose item close
  return first :: others

/-- Between two punctuators, one item or more; or nothing at all. -/
def optionalMany (opening : Punctuator) (item : Parser α) (close : Punctuator) :
    Parser (List α) := do
  if ← isNext (.punctuator opening) then many opening item close else return []

/-- One item or more with a punctuator between them and possibly before the first. -/
def delimited (separator : Punctuator) (item : Parser α) : Parser (List α) := do
  let _ ← accept (.punctuator separator)
  let first ← item
  let others ← whileAt separator do
    punctuator separator
    item
  return first :: others

end Parser

end TypeAtlas.GraphQL
