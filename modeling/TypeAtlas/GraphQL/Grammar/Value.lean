import TypeAtlas.GraphQL.Grammar.Basic
import TypeAtlas.GraphQL.Syntax
import TypeAtlas.OrderedMap

/-!
# Values and directives

Values, constant or with variables, and the directives whose arguments they are. `depth` is the
number of brackets that may still be opened inside one another.
-/

namespace TypeAtlas.GraphQL

open Number (Decimal Binary64)

namespace Parser

/-- The number of brackets that may be opened inside one another. -/
def depthLimit : Nat := 200

/-- A list, given how to read its items. -/
def listValue (item : Parser Value) : Parser Value := do
  return .list (← any .bracketL item .bracketR)

/-- A field of an object, given how to read its value. -/
def objectField (value : Parser Value) : Parser (String × Value) := do
  let field ← name
  punctuator .colon
  return (field, ← value)

/-- An object, given how to read the values of its fields. The last of several fields with one name
counts. -/
def objectValue (value : Parser Value) : Parser Value := do
  let fields ← any .braceL (objectField value) .braceR
  return .object (fields.foldl (fun l f => insertEntry f.1 f.2 l) [])

/-- A variable. A constant has none, and the fault then names it if it has a name. -/
def variableValue (constant : Bool) : Parser Value := do
  let left ← tokensLeft
  punctuator .dollar
  if constant then
    match ← peek with
    | some (.name text) => failAt left (.variableInConstant text)
    | _ => failAt left (.unexpected (some (.punctuator .dollar)))
  else return .variable (← name)

/-- The value that a bare name stands for. -/
def namedValue : String → Value
  | "true" => .boolean true
  | "false" => .boolean false
  | "null" => .null
  | text => .enumerated text

/-- The value that a numeral without fraction and exponent writes. -/
def intValue (numeral : String) : Value :=
  match Decimal.integer? numeral.toList with
  | some value => .int value
  | none => .oversizedInt

/-- A value, given how to read lists and objects. -/
def valueOver (constant : Bool) (list object : Parser Value) : Parser Value := do
  match ← peek with
  | some (.punctuator .bracketL) => list
  | some (.punctuator .braceL) => object
  | some (.punctuator .dollar) => variableValue constant
  | some (.int numeral) => do
    skip
    return intValue numeral
  | some (.float numeral) => do
    skip
    return .float (Binary64.ofDecimal (Decimal.ofChars numeral.toList))
  | some (.string text) => do
    skip
    return .string text
  | some (.blockString text) => do
    skip
    return .string text
  | some (.name text) => do
    skip
    return namedValue text
  | _ => unexpected

/-- A value. -/
def value (constant : Bool) : (depth : Nat) → Parser Value
  | 0 => valueOver constant (fail .tooDeep) (fail .tooDeep)
  | depth + 1 =>
    valueOver constant (listValue (value constant depth)) (objectValue (value constant depth))

/-- An argument with its value. -/
def argument (constant : Bool) (depth : Nat) : Parser (String × Value) := do
  let argument ← name
  punctuator .colon
  return (argument, ← value constant depth)

/-- The arguments of a field or directive, if there are any. -/
def arguments (constant : Bool) (depth : Nat) : Parser (List (String × Value)) :=
  optionalMany .parenL (argument constant depth) .parenR

/-- A directive. -/
def directive (constant : Bool) (depth : Nat) : Parser Directive := do
  punctuator .atSign
  let directive ← name
  return ⟨directive, ← arguments constant depth⟩

/-- Any number of directives. -/
def directives (constant : Bool) (depth : Nat) : Parser (List Directive) :=
  whileAt .atSign (directive constant depth)

/-- The directives of a definition, whose arguments are constant. -/
def constDirectives : Parser (List Directive) := directives true depthLimit

end Parser

end TypeAtlas.GraphQL
