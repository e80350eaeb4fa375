import TypeAtlas.Java.Primitive
import TypeAtlas.Json.Display
import TypeAtlas.Json.Key

/-!
# Java types

The types that schema types stand for: primitives, their wrapper classes, other classes, generic
classes with one argument, and wildcards. A primitive can be neither the argument of a generic
class nor the bound of a wildcard, so `generic` and `extending` refuse it.

A package is a text, but for the classes that are generated it is the value that was configured,
whatever that is. Only a type with packages that can be keys can be looked up (`isKey`), and only one
without broken texts can be written (`isWritable`).
-/

namespace TypeAtlas.Java

/-- The package of the wrapper classes. -/
def langPackage : String := "java.lang"

/-- A reference to a class, possibly nested in others. -/
structure ClassName where
  /-- The package; a value that counts as unset is the unnamed one. -/
  package : Json
  /-- The class that stands in the package. -/
  outermost : String
  /-- The classes nested in it, from the outside in. -/
  nested : List String := []
  deriving DecidableEq, Repr

namespace ClassName

/-- The names of the class and of those around it, from the outside in. -/
def names (c : ClassName) : List String := c.outermost :: c.nested

/-- The name of the class itself. -/
def simpleName (c : ClassName) : String := c.nested.getLast?.getD c.outermost

/-- The package and the names, joined by points. -/
def spelling (c : ClassName) : String :=
  let names := String.intercalate "." c.names
  if c.package.isSet then c.package.plain ++ "." ++ names else names

end ClassName

/-- A Java type. -/
inductive JavaType where
  /-- A primitive such as `int`. -/
  | primitive (kind : Primitive)
  /-- The wrapper class of a primitive, such as `java.lang.Integer`. -/
  | boxed (kind : Primitive)
  /-- Any other class. -/
  | declared (name : ClassName)
  /-- A generic class with its argument. -/
  | parameterized (raw : ClassName) (argument : JavaType)
  /-- A wildcard with an upper bound. -/
  | wildcard (bound : JavaType)
  deriving DecidableEq, Repr

/-- A primitive in a place that only takes reference types. -/
inductive PrimitiveMisuse where
  /-- As the argument of a generic class. -/
  | typeArgument (kind : Primitive)
  /-- As the bound of a wildcard. -/
  | wildcardBound (kind : Primitive)
  deriving DecidableEq, Repr

/-- The misuse in words. -/
def PrimitiveMisuse.message : PrimitiveMisuse → String
  | typeArgument kind => "Type argument cannot be primitive: " ++ kind.keyword
  | wildcardBound kind => "Wildcard bound cannot be primitive: " ++ kind.keyword

namespace JavaType

/-- The type as Java writes it, with full class names. -/
def spelling : JavaType → String
  | primitive kind => kind.keyword
  | boxed kind => langPackage ++ "." ++ kind.wrapperName
  | declared name => name.spelling
  | parameterized raw argument => raw.spelling ++ "<" ++ argument.spelling ++ ">"
  | wildcard bound => "? extends " ++ bound.spelling

/-- The wildcard with a given upper bound. -/
def extending : JavaType → Except PrimitiveMisuse JavaType
  | primitive kind => .error (.wildcardBound kind)
  | bound => .ok (wildcard bound)

/-- A generic class with a given argument. -/
def generic (raw : ClassName) : JavaType → Except PrimitiveMisuse JavaType
  | primitive kind => .error (.typeArgument kind)
  | argument => .ok (parameterized raw argument)

/-- The wrapper of a primitive; any other type stays as it is. -/
def box : JavaType → JavaType
  | primitive kind => boxed kind
  | type => type

/-- The primitive that a wrapper wraps; any other type stays as it is. -/
def unbox : JavaType → JavaType
  | boxed kind => primitive kind
  | type => type

/-- The class `java.util.List`. -/
def listClass : ClassName := ⟨.text "java.util", "List", []⟩

/-- A list of `element`, or of any subtype of it if `covariant`. -/
def listOf (element : JavaType) (covariant : Bool := false) : Except PrimitiveMisuse JavaType := do
  generic listClass (← if covariant then extending element else pure element)

@[simp] theorem box_box (type : JavaType) : type.box.box = type.box := by cases type <;> rfl
@[simp] theorem box_unbox (type : JavaType) : type.unbox.box = type.box := by cases type <;> rfl
@[simp] theorem unbox_box (type : JavaType) : type.box.unbox = type.unbox := by cases type <;> rfl
@[simp] theorem unbox_unbox (type : JavaType) : type.unbox.unbox = type.unbox := by
  cases type <;> rfl

/-- A boxed type can always stand in a list. -/
theorem listOf_box (type : JavaType) (covariant : Bool) :
    listOf type.box covariant =
      .ok (parameterized listClass (if covariant then wildcard type.box else type.box)) := by
  cases covariant <;> cases type <;> rfl

/-- Whether the type is a generic class whose argument is a wildcard. -/
def isCovariant : JavaType → Bool
  | parameterized _ (wildcard _) => true
  | _ => false

/-- The argument of a generic class, without a wildcard around it. -/
def elementType? : JavaType → Option JavaType
  | parameterized _ (wildcard bound) => some bound
  | parameterized _ argument => some argument
  | _ => none

/-- The package of a class or wrapper. -/
def package? : JavaType → Option Json
  | boxed _ => some (.text langPackage)
  | declared name => some name.package
  | _ => none

/-- The innermost name of a class or wrapper. -/
def simpleName? : JavaType → Option String
  | boxed kind => some kind.wrapperName
  | declared name => some name.simpleName
  | _ => none

/-- The packages of the classes in a type. Primitives and their wrappers need none. -/
def packages : JavaType → List Json
  | primitive _ => []
  | boxed _ => []
  | declared name => [name.package]
  | parameterized raw argument => raw.package :: argument.packages
  | wildcard bound => bound.packages

/-- Whether the type can be looked up: every package in it can be a key. -/
def isKey (type : JavaType) : Bool := type.packages.all (·.key?.isSome)

/-- Whether there are bytes for the spelling of the type: no package in it is a broken text. -/
def isWritable (type : JavaType) : Bool := type.packages.all (!·.isBroken)

end JavaType

/-- The class `java.lang.String`. -/
def stringType : JavaType := .declared ⟨.text langPackage, "String", []⟩

end TypeAtlas.Java
