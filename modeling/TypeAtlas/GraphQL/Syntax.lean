import TypeAtlas.Number.Binary64

/-!
# Syntax trees

What is kept of a GraphQL text: type references, values, directives, and of each definition its
class, its name and its directives. Fields, arguments, members and everything else are read and
dropped.
-/

namespace TypeAtlas.GraphQL

/-- A reference to a type: a name under any number of list and non-null wrappers. -/
inductive TypeExpr where
  | named (name : String)
  | list (element : TypeExpr)
  | nonNull (type : TypeExpr)
  deriving DecidableEq, Repr

/-- The reference as GraphQL writes it. -/
def TypeExpr.spelling : TypeExpr → String
  | named name => name
  | list element => "[" ++ element.spelling ++ "]"
  | nonNull type => type.spelling ++ "!"

/-- A value. -/
inductive Value where
  | null
  | boolean (value : Bool)
  | int (value : Int)
  /-- A whole number with too many digits to be kept. -/
  | oversizedInt
  | float (value : Number.Binary64)
  | string (value : String)
  /-- A bare name other than those of the booleans and null. -/
  | enumerated (name : String)
  | list (items : List Value)
  | object (fields : List (String × Value))
  | variable (name : String)
  deriving Repr, Inhabited

/-- The text of a value written as a string. -/
def Value.string? : Value → Option String
  | string value => some value
  | _ => none

/-- A directive with its arguments in the order in which they are written. -/
structure Directive where
  name : String
  arguments : List (String × Value)
  deriving Repr

/-- The kinds of types that a schema defines. -/
inductive TypeKind where
  | object | interface | enum | scalar | input | union
  deriving DecidableEq, Repr

/-- A definition at the top of a document. There is one class for each sort of definition, and one for
the extensions of what can be extended. -/
inductive Definition where
  /-- An operation, which need not have a name. -/
  | operation (name : Option String) (directives : List Directive)
  | fragment (name : String) (directives : List Directive)
  /-- The root types of the schema. -/
  | schema (directives : List Directive)
  | schemaExtension (directives : List Directive)
  /-- The definition of a directive. -/
  | directive (name : String)
  | scalarType (name : String) (directives : List Directive)
  | scalarTypeExtension (name : String) (directives : List Directive)
  | objectType (name : String) (directives : List Directive)
  | objectTypeExtension (name : String) (directives : List Directive)
  | interfaceType (name : String) (directives : List Directive)
  | interfaceTypeExtension (name : String) (directives : List Directive)
  | unionType (name : String) (directives : List Directive)
  | unionTypeExtension (name : String) (directives : List Directive)
  | enumType (name : String) (directives : List Directive)
  | enumTypeExtension (name : String) (directives : List Directive)
  | inputObjectType (name : String) (directives : List Directive)
  | inputObjectTypeExtension (name : String) (directives : List Directive)
  deriving Repr

namespace Definition

/-- The definition of a type of a given kind, or an extension of one. -/
def ofKind (isExtension : Bool) : TypeKind → String → List Directive → Definition
  | .object => if isExtension then objectTypeExtension else objectType
  | .interface => if isExtension then interfaceTypeExtension else interfaceType
  | .enum => if isExtension then enumTypeExtension else enumType
  | .scalar => if isExtension then scalarTypeExtension else scalarType
  | .input => if isExtension then inputObjectTypeExtension else inputObjectType
  | .union => if isExtension then unionTypeExtension else unionType

/-- The name of what is defined, if it has one. -/
def name? : Definition → Option String
  | operation name _ => name
  | schema _ | schemaExtension _ => none
  | fragment name _ | directive name
  | scalarType name _ | scalarTypeExtension name _
  | objectType name _ | objectTypeExtension name _
  | interfaceType name _ | interfaceTypeExtension name _
  | unionType name _ | unionTypeExtension name _
  | enumType name _ | enumTypeExtension name _
  | inputObjectType name _ | inputObjectTypeExtension name _ => some name

/-- The directives on a definition. The definition of a directive has none. -/
def directives : Definition → List Directive
  | directive _ => []
  | operation _ directives | fragment _ directives
  | schema directives | schemaExtension directives
  | scalarType _ directives | scalarTypeExtension _ directives
  | objectType _ directives | objectTypeExtension _ directives
  | interfaceType _ directives | interfaceTypeExtension _ directives
  | unionType _ directives | unionTypeExtension _ directives
  | enumType _ directives | enumTypeExtension _ directives
  | inputObjectType _ directives | inputObjectTypeExtension _ directives => directives

end Definition

end TypeAtlas.GraphQL
