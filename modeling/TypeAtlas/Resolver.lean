import TypeAtlas.Override.Table
import TypeAtlas.Schema.Basic

/-!
# Resolving type references

A resolver turns a type reference into a Java type. The name at its heart is looked up in the
override table, then among the primitives; any other name stands for a generated class. Lists become
`java.util.List`, and a non-null type outside of a list becomes a primitive where there is one.

`isStringInput` tells whether values of a Java type are written as string literals. It looks the
type up, so `isStringInput?` gives an answer only for types that can be looked up.
-/

namespace TypeAtlas

open GraphQL (TypeExpr)
open Java (JavaType PrimitiveMisuse Primitive stringType)

/-- What resolution depends on, apart from how a reference is used. -/
structure Resolver where
  schema : Schema
  overrides : OverrideTable
  primitives : OrderedMap String JavaType
  /-- The package of the generated classes. -/
  package : Json

/-- How a reference is used. -/
structure Usage where
  /-- Refer to the interface of an object type and not to its class. -/
  interface : Bool := false
  /-- Allow subtypes of an interface as elements of a list. -/
  wildcard : Bool := false
  /-- Keep the wrapper of a primitive also where null is excluded. -/
  keepBoxed : Bool := false
  deriving DecidableEq, Repr

namespace Resolver

/-- The name of the interface that is generated for an object type. -/
def interfaceName (name : String) : String := "I" ++ name

/-- The names of the interfaces of all object types. -/
def interfaceNames (r : Resolver) : List String :=
  (r.schema.ofKind .object).map (interfaceName ·.name)

/-- The generated class for a name. -/
def generatedType (r : Resolver) (interface : Bool) (name : String) : JavaType :=
  let simple := if interface && r.schema.isObjectType name then interfaceName name else name
  .declared ⟨r.package, simple, []⟩

/-- The Java type of a name. -/
def namedType (r : Resolver) (interface : Bool) (name : String) : JavaType :=
  ((r.overrides.lookup name).or (r.primitives.get? name)).getD (r.generatedType interface name)

/-- Whether a type is the interface of an object type, going by its innermost name. -/
def isInterface (r : Resolver) : JavaType → Bool
  | .declared name => r.interfaceNames.contains name.simpleName
  | _ => false

/-- The Java type of a reference. -/
def resolve (r : Resolver) (use : Usage) : TypeExpr → Except PrimitiveMisuse JavaType
  | .named name => .ok (r.namedType use.interface name).box
  | .list element => do
    let type := (← r.resolve use element).box
    JavaType.listOf type (use.wildcard && r.isInterface type)
  | .nonNull type => do
    let type ← r.resolve use type
    return if use.keepBoxed then type.box else type.unbox

/-- The types whose values are never written as string literals. -/
def nonStringTypes : List JavaType :=
  [.primitive .int, .primitive .double, .primitive .boolean,
   .boxed .int, .boxed .double, .boxed .boolean]

end Resolver

namespace OverrideTable

/-- Whether values of a type are written as string literals. A type whose spelling was configured
is, unless it is a number or boolean; else `java.lang.String` and the common built-in scalars
are. -/
def isStringInput (t : OverrideTable) (type : JavaType) : Bool :=
  if t.mappedNames.contains type.spelling then !Resolver.nonStringTypes.contains type
  else type = stringType || t.builtinTypes.contains type

/-- Whether values of a type are written as string literals, if the type can be looked up. -/
def isStringInput? (t : OverrideTable) (type : JavaType) : Option Bool :=
  if type.isKey then some (t.isStringInput type) else none

end OverrideTable

end TypeAtlas
