import TypeAtlas.Java.JavaType
import TypeAtlas.OrderedMap

/-!
# Built-in scalars

The Java types of well-known scalars. The common ones may be overridden; the primitives, which
GraphQL itself defines, are used where nothing else is known about a name.
-/

namespace TypeAtlas

open Java (JavaType Primitive stringType)

/-- Tables of the Java types of well-known scalars. -/
structure Builtins where
  common : OrderedMap String JavaType
  primitives : OrderedMap String JavaType

namespace Builtins

/-- A class by its package and names. -/
def classType (package outermost : String) (nested : List String := []) : JavaType :=
  .declared ⟨.text package, outermost, nested⟩

/-- The package of the types that the resolver library brings. -/
def resolversPackage : String := "com.netflix.graphql.types.core.resolvers"

/-- Temporal types, currency and paging. -/
def standardCommon : OrderedMap String JavaType := .ofList [
  ("LocalTime", classType "java.time" "LocalTime"),
  ("LocalDate", classType "java.time" "LocalDate"),
  ("LocalDateTime", classType "java.time" "LocalDateTime"),
  ("TimeZone", stringType),
  ("Date", classType "java.time" "LocalDate"),
  ("DateTime", classType "java.time" "OffsetDateTime"),
  ("Currency", classType "java.util" "Currency"),
  ("Instant", classType "java.time" "Instant"),
  ("RelayPageInfo", classType "graphql.relay" "PageInfo"),
  ("PageInfo", classType "graphql.relay" "PageInfo"),
  ("PresignedUrlResponse", classType resolversPackage "PresignedUrlResponse"),
  ("Header", classType resolversPackage "PresignedUrlResponse" ["Header"])]

/-- The scalars of GraphQL and the wrappers of their values. -/
def standardPrimitives : OrderedMap String JavaType := .ofList [
  ("String", stringType),
  ("StringValue", stringType),
  ("Int", .primitive .int),
  ("IntValue", .primitive .int),
  ("Float", .primitive .double),
  ("FloatValue", .primitive .double),
  ("Boolean", .primitive .boolean),
  ("BooleanValue", .primitive .boolean),
  ("ID", stringType),
  ("IDValue", stringType)]

/-- The tables that hold unless others are given. -/
def standard : Builtins := ⟨standardCommon, standardPrimitives⟩

end Builtins

end TypeAtlas
