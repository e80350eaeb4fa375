import TypeAtlas.Java.Guess
import TypeAtlas.Json.Table
import TypeAtlas.Override.Builtins

/-!
# The override table

Java types that schema names are mapped to before anything else is considered. Three sources are
layered: configured mappings come first, then class names from directives, then the common built-in
scalars. Every class name is read when the table is made, also one that another source hides.
-/

namespace TypeAtlas

open Java (JavaType)

/-- A class name that a key is mapped to. -/
structure Override where
  /-- The key as it was given first. -/
  key : Json
  className : String
  /-- The type that the class name stands for. -/
  type : JavaType
  deriving DecidableEq, Repr

/-- Why there is no override table. -/
inductive OverrideError where
  | configuration (error : ConfigurationError)
  /-- A class name is not a text. -/
  | notAText
  deriving DecidableEq, Repr

/-- The override that an entry of a table gives. -/
def Override.read (entry : Json.Entry) : Except OverrideError Override :=
  match entry.value with
  | .text name => do
    return ⟨entry.key, name, ← (JavaType.guess name).mapError .configuration⟩
  | .broken name => .error (.configuration (.notAClassName name.escaped))
  | _ => .error .notAText

/-- Overrides under their keys. -/
abbrev Overrides := OrderedMap Json.Key Override

namespace Overrides

/-- The overrides that the entries of a table give. -/
def read (t : Json.Table) : Except OverrideError Overrides := t.mapValues Override.read

/-- The class names in order. -/
def classNames (o : Overrides) : List String := o.values.map (·.className)

/-- The types under their keys. -/
def types (o : Overrides) : List (Json.Key × JavaType) := o.entries.map fun e => (e.1, e.2.type)

/-- The overrides as messages show them. -/
def shown (o : Overrides) : String :=
  bracketed "\x7b" "\x7d" (o.values.map fun v => v.key.shown ++ ": " ++ Text.quoted v.className)

end Overrides

/-- Names mapped to Java types by configuration, directives and built-in tables. -/
structure OverrideTable where
  explicit : Overrides
  directive : Overrides
  builtins : Builtins
  /-- The type under each key that any of the sources maps. -/
  types : OrderedMap Json.Key JavaType

namespace OverrideTable

/-- The table of the given sources. -/
def make (explicit directive : Json.Table) (builtins : Builtins) :
    Except OverrideError OverrideTable := do
  let directive ← Overrides.read directive
  let explicit ← Overrides.read explicit
  let common := OrderedMap.ofList (builtins.common.entries.map fun e => (.text e.1, e.2))
  return {
    explicit, directive, builtins
    types := (common.insertAll directive.types).insertAll explicit.types }

/-- The type that a key is mapped to. -/
def get? (t : OverrideTable) (key : Json.Key) : Option JavaType := t.types.get? key

/-- The type that a name is mapped to. -/
def lookup (t : OverrideTable) (name : String) : Option JavaType := t.get? (.text name)

/-- The number of keys that are mapped. -/
def size (t : OverrideTable) : Nat := t.types.size

/-- The class names that configuration and directives give, without the blanks around them. -/
def mappedNames (t : OverrideTable) : List String :=
  (t.explicit.classNames ++ t.directive.classNames).map Text.trim

/-- The types of the common built-in scalars. -/
def builtinTypes (t : OverrideTable) : List JavaType := t.builtins.common.values

/-- The table as messages show it. -/
def shown (t : OverrideTable) : String :=
  "OverrideTable(explicit=" ++ t.explicit.shown ++ ", directive=" ++ t.directive.shown ++ ")"

end OverrideTable

end TypeAtlas
