import TypeAtlas.Json.Value
import TypeAtlas.Number.Shortest
import TypeAtlas.Text.Quoted

/-!
# Values in messages

How a JSON value is shown inside a message: texts in quotes, `None`, `True` and `False` for null
and the booleans, and lists and objects with a blank after each comma and colon. As a part of a
name a text stands without quotes (`plain`). A broken text is shown with escapes.
-/

namespace TypeAtlas

/-- A number as it is shown in messages. -/
def Number.Binary64.shown (x : Number.Binary64) : String :=
  if x.isNaN then "nan"
  else if x.isInfinite then (if x.isNegative then "-inf" else "inf")
  else x.numeral

/-- Rows of items between brackets, with commas. -/
def bracketed (opening closing : String) (items : List String) : String :=
  opening ++ String.intercalate ", " items ++ closing

/-- A list of texts as it is shown in messages. -/
def shownTexts (texts : List String) : String := bracketed "[" "]" (texts.map Text.quoted)

namespace Json

/-- A name as it is shown in messages. -/
def Name.shown : Name → String
  | proper name => Text.quoted name
  | broken name => name.quoted

mutual

/-- The value as it is shown in messages. -/
def shown : Json → String
  | null => "None"
  | bool true => "True"
  | bool false => "False"
  | int value => toString value
  | float value => value.shown
  | text value => Text.quoted value
  | broken value => value.quoted
  | array items => bracketed "[" "]" (shownItems items)
  | object members => bracketed "\x7b" "\x7d" (shownMembers members)

/-- The items of an array as they are shown in messages. -/
def shownItems : List Json → List String
  | [] => []
  | item :: items => shown item :: shownItems items

/-- The members of an object as they are shown in messages. -/
def shownMembers : List (Name × Json) → List String
  | [] => []
  | (name, value) :: members => (name.shown ++ ": " ++ shown value) :: shownMembers members

end

/-- The value as a part of a name: a text stands as it is. -/
def plain : Json → String
  | text value => value
  | broken value => value.escaped
  | value => value.shown

/-- The text that begins with a value. -/
def followedBy (value : Json) (suffix : String) : Json :=
  match value with
  | broken value => broken (value.append suffix)
  | value => text (value.plain ++ suffix)

end Json

end TypeAtlas
