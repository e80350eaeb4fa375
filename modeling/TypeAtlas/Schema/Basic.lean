import TypeAtlas.GraphQL.Syntax
import TypeAtlas.Json.Display
import TypeAtlas.OrderedMap

/-!
# Schemas

A schema maps type names to definitions: of each type its kind and the directives on it. The
definition of a type and its extensions are one entry, so `add` joins the directives of those that
share a name, and the first of them gives the kind. `merge` adds every entry of one schema to
another.

* `get?_add`: the entry under a name after a definition was added;
* `add_add`: two definitions with one name count as one.
-/

namespace TypeAtlas

open GraphQL (TypeKind Value)

namespace Schema

/-- A directive as it stands on a type. Of several arguments with one name the last counts. -/
structure Directive where
  name : String
  arguments : OrderedMap String Value

/-- A directive with the arguments as they are written. -/
def Directive.ofSyntax (d : GraphQL.Directive) : Directive :=
  ⟨d.name, OrderedMap.ofList d.arguments⟩

/-- The definition of a type with the directives on it and on its extensions. -/
structure TypeDefinition where
  name : String
  kind : TypeKind
  directives : List Directive

/-- The kind of the type that a definition at the top of a document defines or extends. Operations,
fragments and definitions of the schema and of directives define none. -/
def definitionKind? : GraphQL.Definition → Option TypeKind
  | .objectType .. | .objectTypeExtension .. => some .object
  | .interfaceType .. | .interfaceTypeExtension .. => some .interface
  | .enumType .. | .enumTypeExtension .. => some .enum
  | .scalarType .. | .scalarTypeExtension .. => some .scalar
  | .inputObjectType .. | .inputObjectTypeExtension .. => some .input
  | .unionType .. | .unionTypeExtension .. => some .union
  | .operation .. | .fragment .. | .schema .. | .schemaExtension .. | .directive .. => none

namespace TypeDefinition

/-- The directives of a given name, in order. -/
def directivesNamed (d : TypeDefinition) (name : String) : List Directive :=
  d.directives.filter (·.name = name)

/-- The type that a definition at the top of a document defines or extends. -/
def ofSyntax? (node : GraphQL.Definition) : Option TypeDefinition := do
  let kind ← definitionKind? node
  let name ← node.name?
  return ⟨name, kind, node.directives.map Directive.ofSyntax⟩

/-- A definition with the directives of a later one. -/
def extend (d later : TypeDefinition) : TypeDefinition :=
  ⟨later.name, d.kind, d.directives ++ later.directives⟩

end TypeDefinition

end Schema

open Schema (TypeDefinition)

/-- A map from type names to definitions, in order of first appearance. -/
structure Schema where
  definitions : OrderedMap String TypeDefinition

namespace Schema

/-- The schema without types. -/
def empty : Schema := ⟨OrderedMap.empty⟩

/-- The definition under a name. -/
def get? (s : Schema) (name : String) : Option TypeDefinition := s.definitions.get? name

/-- Whether there is a definition under a name. -/
def contains (s : Schema) (name : String) : Bool := s.definitions.contains name

/-- The definitions in order. -/
def types (s : Schema) : List TypeDefinition := s.definitions.values

/-- The definitions of a kind, in order. -/
def ofKind (s : Schema) (kind : TypeKind) : List TypeDefinition := s.types.filter (·.kind = kind)

/-- Whether there is an object type under a name. -/
def isObjectType (s : Schema) (name : String) : Bool :=
  (s.get? name).any (·.kind = .object)

/-- Adds a definition: as a new entry, or to the entry that has its name. -/
def add (s : Schema) (d : TypeDefinition) : Schema :=
  ⟨s.definitions.insert d.name (((s.get? d.name).map (·.extend d)).getD d)⟩

/-- Adds definitions one after the other. -/
def addAll (s : Schema) (ds : List TypeDefinition) : Schema := ds.foldl add s

/-- Adds the entries of another schema. -/
def merge (s t : Schema) : Schema := s.addAll t.types

/-- The schema of the definitions at the top of a document. -/
def ofDefinitions (ds : List GraphQL.Definition) : Schema :=
  empty.addAll (ds.filterMap TypeDefinition.ofSyntax?)

/-- The schema as messages show it: the names in alphabetical order. -/
def shown (s : Schema) : String :=
  "SchemaDocument(" ++ shownTexts (s.definitions.keys.mergeSort (fun a b => decide (a ≤ b))) ++ ")"

theorem get?_add (s : Schema) (d : TypeDefinition) (name : String) :
    (s.add d).get? name =
      if name = d.name then some (((s.get? d.name).map (·.extend d)).getD d) else s.get? name :=
  OrderedMap.get?_insert ..

/-- Two definitions with one name count as the first with the directives of both. -/
theorem add_add (s : Schema) {d e : TypeDefinition} (h : e.name = d.name) :
    (s.add d).add e = s.add (d.extend e) := by
  have hg : (s.add d).get? e.name = some (((s.get? d.name).map (·.extend d)).getD d) := by
    rw [get?_add, if_pos h]
  have he : (d.extend e).name = d.name := h
  unfold add at hg ⊢
  rw [hg, he, h, OrderedMap.insert_insert]
  cases s.get? d.name <;> simp [TypeDefinition.extend]

end Schema

end TypeAtlas
