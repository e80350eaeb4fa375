import TypeAtlas.Session

/-!
# Runs

What happens to a session over time: it is asked for types and tables, options of its configuration
are set, and its resolver is replaced. A step that fails leaves the session as it was.
-/

namespace TypeAtlas

open GraphQL (SyntaxError TypeExpr)
open Java (JavaType PrimitiveMisuse)

/-- A tree of list and non-null wrappers over a name, or over a value that is no type. -/
inductive TypeTree where
  | named (name : String)
  | list (element : TypeTree)
  | nonNull (type : TypeTree)
  | other (value : Json)

/-- The type reference that a tree is, or the value at its heart that is no type. -/
def TypeTree.typeExpr? : TypeTree → Except Json TypeExpr
  | named name => .ok (.named name)
  | list element => do return .list (← element.typeExpr?)
  | nonNull type => do return .nonNull (← type.typeExpr?)
  | other value => .error value

namespace Session

/-- A type to resolve. -/
inductive Request where
  | tree (tree : TypeTree)
  /-- A type reference in GraphQL text. -/
  | text (source : String)
  /-- A whole document, which is no type. -/
  | document (source : String)

/-- A step of a run. -/
inductive Step where
  | resolve (type : Request) (interface wildcard : Bool)
  | isStringInput (type : JavaType)
  | table
  | schema
  | config
  /-- Gives a name of the configuration a value. -/
  | set (name : String) (value : Json)
  /-- Replaces the resolver by a new one, with the primitives of the override table unless other
  tables are given. -/
  | newResolver (builtins : Option Builtins)

/-- What a step that succeeds tells. -/
inductive Answer where
  /-- The Java type of a reference. -/
  | resolved (type : JavaType)
  /-- Whether values of a Java type are written as string literals. -/
  | stringInput (type : JavaType) (stringInput : Bool)
  | table (table : OverrideTable)
  | schema (schema : Schema)
  | config (config : Config)
  /-- The package of the generated types. -/
  | package (name : Json)

/-- Why a step fails. -/
inductive StepError where
  | syntaxError (error : SyntaxError)
  /-- The tree ends in a value that is no type. -/
  | unknownType (value : Json)
  /-- A document is no type. -/
  | documentAsType
  | misuse (error : PrimitiveMisuse)
  /-- A Java type cannot be looked up. -/
  | noKey (type : JavaType)
  /-- A name of the configuration does not take the value. -/
  | refused (why : Config.Refusal)

/-- The type reference that a request stands for. -/
def Request.typeExpr : Request → Except StepError TypeExpr
  | .tree t => t.typeExpr?.mapError .unknownType
  | .text source => (TypeExpr.parse source).mapError .syntaxError
  | .document source =>
    match GraphQL.parseDocument source with
    | .error e => .error (.syntaxError e)
    | .ok _ => .error .documentAsType

end Session

open Session (Answer Request Step StepError)

/-- The Java type that a request asks for, given whether types stay boxed. -/
def Resolver.answer (r : Resolver) (keepBoxed : Bool) (request : Request)
    (interface wildcard : Bool) : Except StepError JavaType := do
  let expr ← request.typeExpr
  (r.resolve ⟨interface, wildcard, keepBoxed⟩ expr).mapError .misuse

/-- Whether values of a type are written as string literals. -/
def OverrideTable.stringInput (t : OverrideTable) (type : JavaType) : Except StepError Bool :=
  match t.isStringInput? type with
  | some stringInput => .ok stringInput
  | none => .error (.noKey type)

namespace Session

/-- What a step tells and the session after it. -/
def step (s : Session) : Step → Except StepError Answer × Session
  | .resolve request interface wildcard =>
    ((s.resolver.answer s.config.keepsBoxed request interface wildcard).map .resolved, s)
  | .isStringInput type => ((s.resolver.overrides.stringInput type).map (.stringInput type), s)
  | .table => (.ok (.table s.overrides), s)
  | .schema => (.ok (.schema s.schema), s)
  | .config => (.ok (.config s.config), s)
  | .set name value =>
    match s.config.set name value with
    | .ok config => (.ok (.config config), { s with config })
    | .error why => (.error (.refused why), s)
  | .newResolver builtins =>
    let resolver := Resolver.make s.schema s.overrides s.config builtins
    (.ok (.package resolver.package), { s with resolver })

/-- What the steps of a run tell, and the session after them. -/
def run (s : Session) : List Step → List (Except StepError Answer) × Session
  | [] => ([], s)
  | step :: steps =>
    let (answer, s) := s.step step
    let (answers, s) := s.run steps
    (answer :: answers, s)

end Session

/-- The message about a value that is no type. -/
def unknownTypeMessage (value : Json) : String := "Unknown field type: " ++ value.shown

end TypeAtlas
