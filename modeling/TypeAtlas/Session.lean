import TypeAtlas.Override.Directives
import TypeAtlas.Resolver
import TypeAtlas.Schema.Parse
import TypeAtlas.Sources

/-!
# Sessions

A session holds everything that the types of one schema are resolved against. It is made from a
configuration and a schema. The override table takes directives from the source schema that is
given, else from the sources that the configuration names, else from the schema itself.
-/

namespace TypeAtlas

open Files (FileSystem)
open GraphQL (SyntaxError TypeExpr)
open Java (JavaType PrimitiveMisuse)

/-- Why there is no session. -/
inductive SessionError where
  | sources (error : SourceError)
  | schema (error : SyntaxError)
  | configuration (error : ConfigurationError)
  | misuse (error : Config.Misuse)
  deriving DecidableEq, Repr

/-- The error of a session whose override table cannot be made. -/
def SessionError.ofOverrideError : OverrideError → SessionError
  | .configuration error => .configuration error
  | .notAText => .misuse .className

/-- The schema that the sources of a configuration define. -/
def Schema.ofSources (fs : FileSystem) (c : Config) : Except SessionError Schema := do
  let text ← (loadSources fs c).mapError .sources
  (Schema.parse text).mapError .schema

/-- The schema whose directives count. -/
def Schema.scanned (fs : FileSystem) (c : Config) (schema : Schema) :
    (source : Option Schema) → Except SessionError Schema
  | some source => .ok source
  | none => do
    if ← c.namesSources.mapError .misuse then ofSources fs c else return schema

/-- The override table for a configuration and a schema. -/
def OverrideTable.build (fs : FileSystem) (c : Config) (schema : Schema)
    (builtins : Builtins := .standard) (source : Option Schema := none) :
    Except SessionError OverrideTable := do
  let scanned ← schema.scanned fs c source
  let directive ← (scanned.mappingsFor c.directive?).mapError .configuration
  let explicit ← c.mapping.mapError .misuse
  (OverrideTable.make explicit (.ofTexts directive) builtins).mapError SessionError.ofOverrideError

/-- The resolver for a schema. The primitives are those of the override table unless other tables
are given. -/
def Resolver.make (schema : Schema) (overrides : OverrideTable) (c : Config)
    (builtins : Option Builtins := none) : Resolver :=
  ⟨schema, overrides, (builtins.getD overrides.builtins).primitives, c.typesPackage⟩

/-- What the types of a schema are resolved against. -/
structure Session where
  config : Config
  schema : Schema
  overrides : OverrideTable
  resolver : Resolver

namespace Session

/-- A session for a schema. -/
def create (fs : FileSystem) (config : Config) (schema : Schema) (builtins : Builtins := .standard)
    (source : Option Schema := none) : Except SessionError Session := do
  let overrides ← OverrideTable.build fs config schema builtins source
  return ⟨config, schema, overrides, Resolver.make schema overrides config builtins⟩

/-- A session for the sources that a configuration names. -/
def ofConfig (fs : FileSystem) (config : Config) (builtins : Builtins := .standard) :
    Except SessionError Session := do
  let schema ← Schema.ofSources fs config
  create fs config schema builtins schema

/-- The Java type of a type reference. -/
def resolve (s : Session) (interface wildcard : Bool) (type : TypeExpr) :
    Except PrimitiveMisuse JavaType :=
  s.resolver.resolve ⟨interface, wildcard, s.config.keepsBoxed⟩ type

/-- Whether values of a Java type are written as string literals. -/
def isStringInput (s : Session) (type : JavaType) : Bool :=
  s.resolver.overrides.isStringInput type

/-- Whether values of a Java type are written as string literals, if the type can be looked up. -/
def isStringInput? (s : Session) (type : JavaType) : Option Bool :=
  s.resolver.overrides.isStringInput? type

end Session

end TypeAtlas
