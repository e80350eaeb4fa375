import TypeAtlas.GraphQL.Grammar.Executable

/-!
# Type system definitions

Definitions and extensions of types, of the schema and of directives. An extension has to add
something. Class, name and directives of each are kept.
-/

namespace TypeAtlas.GraphQL.Parser

/-! ## Parts of definitions -/

/-- The definition of an argument or input field. -/
def inputValue : Parser Unit := do
  description
  let _ ← name
  punctuator .colon
  let _ ← typeReference
  if ← accept (.punctuator .equals) then
    let _ ← value true depthLimit
  let _ ← constDirectives

/-- The definitions of arguments, if there are any. -/
def argumentDefinitions : Parser Unit := do
  let _ ← optionalMany .parenL inputValue .parenR

/-- The definition of a field. -/
def fieldDefinition : Parser Unit := do
  description
  let _ ← name
  argumentDefinitions
  punctuator .colon
  let _ ← typeReference
  let _ ← constDirectives

/-- The name of an enum value, which is not that of a boolean or null. -/
def enumValueName : Parser Unit := do
  match ← peek with
  | some token =>
    if token.value?.any (["true", "false", "null"].contains ·) then fail (.reservedEnumValue token)
  | none => pure ()
  let _ ← name

/-- The definition of an enum value. -/
def enumValue : Parser Unit := do
  description
  enumValueName
  let _ ← constDirectives

/-- The root type of an operation. -/
def rootType : Parser Unit := do
  let left ← tokensLeft
  let word ← name
  if word ∉ operationWords then failAt left (.unexpected (some (.name word)))
  punctuator .colon
  let _ ← name

/-- The names of the places where a directive may stand. -/
def directiveLocations : List String :=
  ["QUERY", "MUTATION", "SUBSCRIPTION", "FIELD", "FRAGMENT_DEFINITION", "FRAGMENT_SPREAD",
   "INLINE_FRAGMENT", "VARIABLE_DEFINITION", "SCHEMA", "SCALAR", "OBJECT", "FIELD_DEFINITION",
   "ARGUMENT_DEFINITION", "INTERFACE", "UNION", "ENUM", "ENUM_VALUE", "INPUT_OBJECT",
   "INPUT_FIELD_DEFINITION"]

/-- The name of a place where a directive may stand. -/
def directiveLocation : Parser Unit := do
  let left ← tokensLeft
  let word ← name
  if word ∉ directiveLocations then failAt left (.unexpected (some (.name word)))

/-- The interfaces that a type implements; tells whether there are any. -/
def implemented : Parser Bool := do
  if ← accept (.name "implements") then
    let _ ← delimited .ampersand name
    return true
  else return false

/-- The fields of a type; tells whether there are any. -/
def fields : Parser Bool := do
  return !(← optionalMany .braceL fieldDefinition .braceR).isEmpty

/-- The members of a union; tells whether there are any. -/
def members : Parser Bool := do
  if ← accept (.punctuator .equals) then
    let _ ← delimited .pipe name
    return true
  else return false

/-- The values of an enum; tells whether there are any. -/
def enumValues : Parser Bool := do
  return !(← optionalMany .braceL enumValue .braceR).isEmpty

/-- The fields of an input type; tells whether there are any. -/
def inputFields : Parser Bool := do
  return !(← optionalMany .braceL inputValue .braceR).isEmpty

/-! ## Definitions and extensions -/

/-- The word that begins the definition of a type of some kind. -/
def kindWord : TypeKind → String
  | .object => "type"
  | .interface => "interface"
  | .enum => "enum"
  | .scalar => "scalar"
  | .input => "input"
  | .union => "union"

/-- What may stand between the name of a type and its directives; tells whether it does. -/
def beforeDirectives : TypeKind → Parser Bool
  | .object => implemented
  | .interface => implemented
  | _ => pure false

/-- What may stand after the directives of a type; tells whether it does. -/
def afterDirectives : TypeKind → Parser Bool
  | .object => fields
  | .interface => fields
  | .enum => enumValues
  | .scalar => pure false
  | .input => inputFields
  | .union => members

/-- A type from the word that begins its definition on. An extension has to add something. -/
def typeDefinition (isExtension : Bool) (kind : TypeKind) : Parser Definition := do
  keyword (kindWord kind)
  let typeName ← name
  let before ← beforeDirectives kind
  let directives ← constDirectives
  let after ← afterDirectives kind
  if isExtension && !before && directives.isEmpty && !after then unexpected
  else return .ofKind isExtension kind typeName directives

/-- The definition of the schema. -/
def schemaDefinition : Parser Definition := do
  keyword "schema"
  let directives ← constDirectives
  let _ ← many .braceL rootType .braceR
  return .schema directives

/-- An extension of the schema. -/
def schemaExtension : Parser Definition := do
  keyword "schema"
  let directives ← constDirectives
  let roots ← optionalMany .braceL rootType .braceR
  if directives.isEmpty && roots.isEmpty then unexpected else return .schemaExtension directives

/-- The definition of a directive. -/
def directiveDefinition : Parser Definition := do
  keyword "directive"
  punctuator .atSign
  let directiveName ← name
  argumentDefinitions
  let _ ← accept (.name "repeatable")
  keyword "on"
  let _ ← delimited .pipe directiveLocation
  return .directive directiveName

/-- The kind of type whose definition begins with a given word. -/
def kindOfWord? (word : String) : Option TypeKind :=
  [TypeKind.object, .interface, .enum, .scalar, .input, .union].find? (kindWord · = word)

/-- The definition or extension that begins with a given word, if it is one of the type system. -/
def typeSystem? (isExtension : Bool) (word : String) : Option (Parser Definition) :=
  match kindOfWord? word with
  | some kind => some (typeDefinition isExtension kind)
  | none =>
    if word = "schema" then some (if isExtension then schemaExtension else schemaDefinition)
    else if word = "directive" ∧ !isExtension then some directiveDefinition
    else none

end TypeAtlas.GraphQL.Parser
