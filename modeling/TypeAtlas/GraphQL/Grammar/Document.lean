import TypeAtlas.GraphQL.Grammar.TypeSystem

/-!
# Documents

A document is a row of definitions, at least one. The word that begins a definition decides what it
is; it may have a description before it, except for a bare selection set and for extensions.
-/

namespace TypeAtlas.GraphQL.Parser

/-- Stops at the token after the next one. -/
def unexpectedAhead {α : Type} : Parser α := fun ts =>
  .error ⟨.unexpected ts.tail.head?, ts.length - 1, ts.length - 1⟩

/-- Stops at a description, after a look at what follows it. -/
def misplacedDescription {α : Type} (fault : GrammarFault) : Parser α := fun ts =>
  .error ⟨fault, ts.length, ts.length - 1⟩

/-- An extension. -/
def extension : Parser Definition := do
  match ← lookAhead with
  | some (.name word) =>
    match typeSystem? true word with
    | some rest => do
      keyword "extend"
      rest
    | none => unexpectedAhead
  | _ => unexpectedAhead

/-- An operation or a fragment that begins with a given word. -/
def executable? (word : String) : Option (Parser Definition) :=
  if word ∈ operationWords then some (operation word)
  else if word = "fragment" then some fragmentDefinition
  else none

/-- A definition that begins with a given word and may have a description before it. -/
def described? (word : String) : Option (Parser Definition) :=
  match typeSystem? false word with
  | some definition => some do
    description
    definition
  | none => executable? word

/-- A definition after a description. -/
def afterDescription : Parser Definition := do
  match ← lookAhead with
  | some (.punctuator .braceL) => misplacedDescription .descriptionOnShorthand
  | some (.name word) =>
    match described? word with
    | some definition => definition
    | none => misplacedDescription .descriptionOutsideDefinition
  | _ => unexpectedAhead

/-- A definition. -/
def definition : Parser Definition := do
  match ← peek with
  | some (.punctuator .braceL) => do
    selectionSet depthLimit
    return .operation none []
  | some (.string _) => afterDescription
  | some (.blockString _) => afterDescription
  | some (.name word) =>
    match described? word with
    | some definition => definition
    | none => if word = "extend" then extension else unexpected
  | _ => unexpected

/-- Definitions up to the end of the text, at least one. -/
def document : Parser (List Definition) := fun ts =>
  match definition ts with
  | .error e => .error e
  | .ok (first, []) => .ok ([first], [])
  | .ok (first, t :: rest) =>
    if (t :: rest).length < ts.length then
      match document (t :: rest) with
      | .error e => .error e
      | .ok (others, rest) => .ok (first :: others, rest)
    else unexpected (t :: rest)
termination_by ts => ts.length

end TypeAtlas.GraphQL.Parser
