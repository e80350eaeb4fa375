import TypeAtlas.GraphQL.Parse
import TypeAtlas.Schema.Basic
import TypeAtlas.Text.Blank

/-!
# Schemas from text

A text that is blank stands for the schema without types, although it is no GraphQL document.
-/

namespace TypeAtlas.Schema

open GraphQL (SyntaxError)

/-- The schema that a GraphQL document defines. -/
def parseDocument (source : String) : Except SyntaxError Schema :=
  (GraphQL.parseDocument source).map ofDefinitions

/-- The schema that a text defines. -/
def parse (source : String) : Except SyntaxError Schema :=
  if (Text.trimChars source.toList).isEmpty then .ok empty else parseDocument source

end TypeAtlas.Schema
