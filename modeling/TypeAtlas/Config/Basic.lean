import TypeAtlas.Json.Display
import TypeAtlas.Json.Table

/-!
# Configuration

The options that decide how schema types are mapped to Java types. A configuration is a table of
named values. It is made from the members of a JSON object and can be written as one again. Values
are kept as they are given and only looked at where they are used, so each option has a function
that says what its value means.

Besides the options there are names that a configuration manages itself (`Managed`). One of them
stands for the table as a whole: giving it a value replaces the table, and then options may be
missing. Four options fall back on the value that they have unless set, the other three do not.

* `get?_put`: reading an option after giving it a value.
-/

namespace TypeAtlas

namespace Config

/-- An option. -/
inductive Field where
  /-- The base package of the generated code. -/
  | packageName
  /-- The package of the generated types; if unset, `types` in the base package. -/
  | typesPackageName
  /-- Java class names for schema types. -/
  | typeMapping
  /-- Files and directories with schema text. -/
  | schemaFiles
  /-- Schema texts. -/
  | schemas
  /-- Whether wrappers of primitives are kept where null is excluded. -/
  | generateBoxedTypes
  /-- The directive that names the Java class of a scalar. -/
  | typeDirectiveName
  deriving DecidableEq, Repr

namespace Field

/-- Every option, in the order in which they are written. -/
def all : List Field :=
  [packageName, typesPackageName, typeMapping, schemaFiles, schemas, generateBoxedTypes,
   typeDirectiveName]

/-- The name of an option. -/
def key : Field → String
  | packageName => "package_name"
  | typesPackageName => "types_package_name"
  | typeMapping => "type_mapping"
  | schemaFiles => "schema_files"
  | schemas => "schemas"
  | generateBoxedTypes => "generate_boxed_types"
  | typeDirectiveName => "type_directive_name"

/-- The value that an option has unless set. -/
def standard : Field → Json
  | packageName => .text "com.netflix.dgs.codegen.generated"
  | typesPackageName => .text ""
  | typeMapping => .object []
  | schemaFiles => .array []
  | schemas => .array []
  | generateBoxedTypes => .bool false
  | typeDirectiveName => .text "javaType"

/-- The value of an option that the table of values does not have. -/
def fallback? : Field → Option Json
  | typeMapping => none
  | schemaFiles => none
  | schemas => none
  | field => some field.standard

theorem key_inj {f g : Field} : f.key = g.key ↔ f = g := by
  cases f <;> cases g <;> decide

end Field

end Config

/-- The options for resolving types: values under their names. -/
structure Config where
  values : OrderedMap String Json
  deriving DecidableEq

namespace Config

/-- The configuration in which nothing is set. -/
def standard : Config := ⟨.ofList (Field.all.map fun f => (f.key, f.standard))⟩

instance : Inhabited Config := ⟨standard⟩

/-- The value of an option, unless it is missing. -/
def get? (c : Config) (field : Field) : Option Json :=
  (c.values.get? field.key).or field.fallback?

/-- The value of an option, or the one that it has unless set. -/
def value (c : Config) (field : Field) : Json := (c.get? field).getD field.standard

/-- Gives an option a value. -/
def put (c : Config) (field : Field) (value : Json) : Config := ⟨c.values.insert field.key value⟩

theorem get?_put (c : Config) (f g : Field) (value : Json) :
    (c.put f value).get? g = if g = f then some value else c.get? g := by
  unfold put get?
  rw [OrderedMap.get?_insert]
  by_cases h : g = f
  · simp [h]
  · simp [h, Field.key_inj]

/-! ## Giving values to names -/

/-- What a name stands for that a configuration manages itself. -/
inductive Managed where
  /-- The table of values. -/
  | table
  /-- The sort of thing that a configuration is. -/
  | sort
  /-- What refers to the configuration. -/
  | references
  /-- The package of the generated types, which follows from two options. -/
  | typesPackage
  deriving DecidableEq, Repr

/-- The name that stands for it. -/
def Managed.name : Managed → String
  | table => "__dict__"
  | sort => "__class__"
  | references => "__weakref__"
  | typesPackage => "types_package"

/-- What a name stands for, if it is managed. -/
def Managed.ofName? : String → Option Managed
  | "__dict__" => some table
  | "__class__" => some sort
  | "__weakref__" => some references
  | "types_package" => some typesPackage
  | _ => none

theorem Managed.ofName?_eq_some_iff {name : String} {managed : Managed} :
    ofName? name = some managed ↔ managed.name = name := by
  constructor
  · unfold ofName?
    split <;> rintro ⟨⟩ <;> rfl
  · rintro rfl
    cases managed <;> rfl

/-- Why a name takes no value. -/
inductive Refusal where
  /-- The name takes no value at all. -/
  | fixed
  /-- The value is of the wrong sort for the name. -/
  | wrongSort
  deriving DecidableEq, Repr

/-- Gives a name a value. -/
def set (c : Config) (name : String) (value : Json) : Except Refusal Config :=
  match Managed.ofName? name, value with
  | none, value => .ok ⟨c.values.insert name value⟩
  | some .table, .object members => .ok ⟨.ofList (Json.properMembers members)⟩
  | some .table, _ => .error .wrongSort
  | some .sort, _ => .error .wrongSort
  | some .references, _ => .error .fixed
  | some .typesPackage, _ => .error .fixed

/-- The name under which a configuration offers to be written. -/
def writerKey : String := "to_dict"

/-- The names of what a configuration offers besides its options: to be written and read, and what any
value offers, such as to be compared, shown and copied. A value may be given to any of them; it then
stands in the place of what was offered. -/
def offered : List String :=
  [writerKey, "from_dict", "__annotations__", "__dataclass_fields__", "__dataclass_params__",
   "__delattr__", "__dir__", "__doc__", "__eq__", "__format__", "__ge__", "__getattribute__",
   "__getstate__", "__gt__", "__hash__", "__init__", "__init_subclass__", "__le__", "__lt__",
   "__match_args__", "__module__", "__ne__", "__new__", "__reduce__", "__reduce_ex__", "__repr__",
   "__setattr__", "__sizeof__", "__str__", "__subclasshook__"]

/-- Whether a configuration knows a name. -/
def knows (c : Config) (name : String) : Bool :=
  c.values.contains name || (Managed.ofName? name).isSome || offered.contains name ||
    Field.all.any fun f => f.key = name && f.fallback?.isSome

/-- Takes over one member of an object. A member whose name is not known does not count, and neither
does one for the package of the generated types. -/
def assign (c : Config) (name : String) (value : Json) : Except Refusal Config :=
  if c.knows name && Managed.ofName? name ≠ some .typesPackage then c.set name value else .ok c

/-- The configuration that the members of an object give, one after the other. -/
def ofMembers (members : List (String × Json)) : Except Refusal Config :=
  members.foldlM (fun c m => c.assign m.1 m.2) standard

/-! ## What the options mean -/

/-- Why the value of an option cannot be used. -/
inductive Misuse where
  /-- The option is missing. -/
  | missing (field : Field)
  /-- The files or schema texts are not a list of texts. -/
  | sources
  /-- The class names are no table. -/
  | mapping (why : Json.NotATable)
  /-- A class name is not a text. -/
  | className
  /-- A value has taken the place of writing the configuration. -/
  | writer
  deriving DecidableEq, Repr

/-- The value of an option. -/
def get (c : Config) (field : Field) : Except Misuse Json :=
  match c.get? field with
  | some value => .ok value
  | none => .error (.missing field)

/-- The package of the generated types: the value that is set for it, whatever it is. -/
def typesPackage (c : Config) : Json :=
  if (c.value .typesPackageName).isSet then c.value .typesPackageName
  else (c.value .packageName).followedBy ".types"

/-- Whether wrappers of primitives are kept where null is excluded. -/
def keepsBoxed (c : Config) : Bool := (c.value .generateBoxedTypes).isSet

/-- The directive that names the Java class of a scalar; a value that is no text names none. -/
def directive? (c : Config) : Option String := (c.value .typeDirectiveName).text?

/-- Whether there are files or texts to load. -/
def namesSources (c : Config) : Except Misuse Bool := do
  if (← c.get .schemaFiles).isSet then return true
  else return (← c.get .schemas).isSet

/-- The configured class names. -/
def mapping (c : Config) : Except Misuse Json.Table := do
  (← c.get .typeMapping).table.mapError .mapping

/-! ## Configurations as JSON objects -/

/-- The configuration as the members of an object: every option with its value. -/
def members (c : Config) : Except Misuse (List (String × Json)) :=
  if c.values.contains writerKey then .error .writer
  else Field.all.mapM fun f => do return (f.key, ← c.get f)

/-- Whether an option has the value that it has unless set. The number zero counts as false for the
one that is a boolean. -/
def isStandardAt (c : Config) (field : Field) : Bool :=
  match field, c.get? field with
  | _, none => false
  | .generateBoxedTypes, some value => value.isZero
  | field, some value => value = field.standard

/-- Whether all options have the values that they have unless set. -/
def isStandard (c : Config) : Bool := Field.all.all c.isStandardAt

end Config

end TypeAtlas
