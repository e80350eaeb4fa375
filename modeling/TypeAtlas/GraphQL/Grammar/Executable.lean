import TypeAtlas.GraphQL.Grammar.TypeReference

/-!
# Operations and fragments

Definitions that are executed. They may stand in a document but say nothing about types. Their names
and directives are kept.
-/

namespace TypeAtlas.GraphQL.Parser

/-- Whether the next token can be a description. -/
def isDescription : Option Token → Bool
  | some (.string _) => true
  | some (.blockString _) => true
  | _ => false

/-- A description, if there is one. -/
def description : Parser Unit := do
  if isDescription (← peek) then skip

/-- Whether a token is a name. -/
def isName : Option Token → Bool
  | some (.name _) => true
  | _ => false

/-- The name of a fragment, which is not `on`. -/
def fragmentName : Parser String := do
  if (← peek).bind Token.value? = some "on" then unexpected else name

/-- A field with its alias, arguments, directives and selections. -/
def field (selections : Parser Unit) (depth : Nat) : Parser Unit := do
  let _ ← name
  if ← accept (.punctuator .colon) then
    let _ ← name
  let _ ← arguments false depth
  let _ ← directives false depth
  if ← isNext (.punctuator .braceL) then selections

/-- A fragment spread or an inline fragment. -/
def spread (selections : Parser Unit) (depth : Nat) : Parser Unit := do
  punctuator .spread
  if ← accept (.name "on") then
    let _ ← name
    let _ ← directives false depth
    selections
  else if isName (← peek) then
    let _ ← fragmentName
    let _ ← directives false depth
  else
    let _ ← directives false depth
    selections

/-- A selection. -/
def selection (selections : Parser Unit) (depth : Nat) : Parser Unit := do
  if ← isNext (.punctuator .spread) then spread selections depth else field selections depth

/-- A selection set. -/
def selectionSet : (depth : Nat) → Parser Unit
  | 0 => fail .tooDeep
  | depth + 1 => do
    let _ ← many .braceL (selection (selectionSet depth) depth) .braceR

/-- The definition of a variable. -/
def variableDefinition : Parser Unit := do
  description
  punctuator .dollar
  let _ ← name
  punctuator .colon
  let _ ← typeReference
  if ← accept (.punctuator .equals) then
    let _ ← value true depthLimit
  let _ ← constDirectives

/-- The words that name the types of operations. -/
def operationWords : List String := ["query", "mutation", "subscription"]

/-- A name, if there is one. -/
def optionalName : Parser (Option String) := do
  if isName (← peek) then return some (← name) else return none

/-- An operation of a given type. -/
def operation (word : String) : Parser Definition := do
  description
  keyword word
  let operationName ← optionalName
  let _ ← optionalMany .parenL variableDefinition .parenR
  let applied ← directives false depthLimit
  selectionSet depthLimit
  return .operation operationName applied

/-- The definition of a fragment. -/
def fragmentDefinition : Parser Definition := do
  description
  keyword "fragment"
  let fragmentName ← fragmentName
  keyword "on"
  let _ ← name
  let applied ← directives false depthLimit
  selectionSet depthLimit
  return .fragment fragmentName applied

end TypeAtlas.GraphQL.Parser
