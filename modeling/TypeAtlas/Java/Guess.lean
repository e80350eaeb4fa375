import TypeAtlas.ConfigurationError
import TypeAtlas.Java.JavaType
import TypeAtlas.Text.Blank
import TypeAtlas.Text.Identifier
import TypeAtlas.Text.Uppercase

/-!
# Reading a class name

A configured class name is a primitive keyword or identifiers joined by points. The identifiers
before the first one that begins with an upper-case letter are the package, the others are the
class and the classes around it. Blanks around the name do not count. A wrapper class of
`java.lang` is read as the boxed primitive.
-/

namespace TypeAtlas.Java

/-- Whether a segment of a class name names a class and not a part of the package. -/
def beginsUpper : List Char → Bool
  | [] => false
  | c :: _ => Text.isUpper c

/-- The segments of a text between its points. -/
def segments (cs : List Char) : List (List Char) := cs.splitOn '.'

/-- A class of the given package, or the boxed primitive if it is a wrapper class. -/
def ClassName.toType (c : ClassName) : JavaType :=
  match Primitive.ofWrapperName? c.outermost with
  | some kind => if c.package = .text langPackage ∧ c.nested = [] then .boxed kind else .declared c
  | none => .declared c

/-- The class that a row of segments names, if all are identifiers and one begins with an
upper-case letter. -/
def className? (parts : List (List Char)) : Option ClassName :=
  if parts.all Text.isIdentifier then
    match parts.dropWhile (!beginsUpper ·) with
    | [] => none
    | outermost :: nested => some {
        package := .text <|
          String.intercalate "." ((parts.takeWhile (!beginsUpper ·)).map String.ofList)
        outermost := String.ofList outermost
        nested := nested.map String.ofList }
  else none

/-- The type that a configured class name stands for. -/
def JavaType.guess (text : String) : Except ConfigurationError JavaType :=
  let name := Text.trim text
  match Primitive.ofKeyword? name with
  | some kind => .ok (.primitive kind)
  | none =>
    match className? (segments name.toList) with
    | some c => .ok c.toType
    | none => .error (.notAClassName text)

end TypeAtlas.Java
