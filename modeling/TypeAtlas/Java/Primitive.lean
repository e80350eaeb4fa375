/-!
# Primitive types

The eight primitive types of Java, the keyword of each and the class in `java.lang` that wraps it.
-/

namespace TypeAtlas.Java

/-- A primitive type. -/
inductive Primitive where
  | boolean | byte | short | int | long | char | float | double
  deriving DecidableEq, Repr

namespace Primitive

/-- Every primitive type. -/
def all : List Primitive := [boolean, byte, short, int, long, char, float, double]

theorem mem_all (p : Primitive) : p ∈ all := by cases p <;> decide

/-- The keyword that names the type. -/
def keyword : Primitive → String
  | boolean => "boolean"
  | byte => "byte"
  | short => "short"
  | int => "int"
  | long => "long"
  | char => "char"
  | float => "float"
  | double => "double"

/-- The simple name of the class that wraps the type. -/
def wrapperName : Primitive → String
  | boolean => "Boolean"
  | byte => "Byte"
  | short => "Short"
  | int => "Integer"
  | long => "Long"
  | char => "Character"
  | float => "Float"
  | double => "Double"

/-- The primitive type with a given keyword. -/
def ofKeyword? (text : String) : Option Primitive := all.find? (·.keyword = text)

/-- The primitive type that the class of a given simple name in `java.lang` wraps. -/
def ofWrapperName? (name : String) : Option Primitive := all.find? (·.wrapperName = name)

theorem ofKeyword?_keyword (p : Primitive) : ofKeyword? p.keyword = some p := by
  cases p <;> decide

theorem ofWrapperName?_wrapperName (p : Primitive) : ofWrapperName? p.wrapperName = some p := by
  cases p <;> decide

theorem keyword_of_ofKeyword? {text : String} {p : Primitive} (h : ofKeyword? text = some p) :
    p.keyword = text := by
  simpa using List.find?_some h

theorem wrapperName_of_ofWrapperName? {name : String} {p : Primitive}
    (h : ofWrapperName? name = some p) : p.wrapperName = name := by
  simpa using List.find?_some h

end Primitive

end TypeAtlas.Java
