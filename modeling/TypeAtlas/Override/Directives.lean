import TypeAtlas.ConfigurationError
import TypeAtlas.Schema.Basic

/-!
# Class names on scalars

A scalar may name its Java class in a directive, as in `scalar Url @javaType(name: "java.net.URL")`.
Every scalar of a schema is checked, whether or not a field uses it: it may carry the directive
once, and then with a text under the argument.
-/

namespace TypeAtlas.Schema

/-- The directive that names Java classes unless another is given. -/
def standardDirective : String := "javaType"

/-- The argument that holds the class name unless another is given. -/
def standardArgument : String := "name"

/-- The class name that the directive on a scalar gives, if the scalar carries it. -/
def TypeDefinition.className? (scalar : TypeDefinition) (directive argument : String) :
    Except ConfigurationError (Option String) :=
  match scalar.directivesNamed directive with
  | [] => .ok none
  | [applied] =>
    match (applied.arguments.get? argument).bind GraphQL.Value.string? with
    | some text => .ok (some text)
    | none => .error (.missingArgument directive argument scalar.name)
  | _ :: _ :: _ => .error (.repeatedDirective directive scalar.name)

/-- The class names of the given scalars in order. Of several scalars with one name the last
counts. -/
def classNamesOf (directive argument : String) (scalars : List TypeDefinition) :
    Except ConfigurationError (OrderedMap String String) :=
  scalars.foldlM (fun names scalar => do
    match ← scalar.className? directive argument with
    | some text => return names.insert scalar.name text
    | none => return names) OrderedMap.empty

/-- The class names that the scalars of a schema carry. -/
def directiveMappings (s : Schema) (directive : String := standardDirective)
    (argument : String := standardArgument) :
    Except ConfigurationError (OrderedMap String String) :=
  classNamesOf directive argument (s.ofKind .scalar)

/-- The class names that the scalars of a schema carry in a directive, if one is named. -/
def mappingsFor (s : Schema) (directive : Option String) (argument : String := standardArgument) :
    Except ConfigurationError (OrderedMap String String) :=
  match directive with
  | some name => s.directiveMappings name argument
  | none => .ok .empty

end TypeAtlas.Schema
