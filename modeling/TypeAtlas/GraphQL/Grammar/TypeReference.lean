import TypeAtlas.GraphQL.Grammar.Value

/-!
# Type references

A name or a reference in brackets, each with at most one exclamation mark.
-/

namespace TypeAtlas.GraphQL.Parser

/-- A type reference, given how to read the one between brackets. -/
def typeReferenceOver (element : Parser TypeExpr) : Parser TypeExpr := do
  let type ←
    if ← accept (.punctuator .bracketL) then do
      let type ← element
      punctuator .bracketR
      pure (.list type)
    else pure (.named (← name))
  if ← accept (.punctuator .bang) then return .nonNull type else return type

/-- A type reference with at most `depth` brackets inside one another. -/
def typeReferenceWithin : (depth : Nat) → Parser TypeExpr
  | 0 => typeReferenceOver (fail .tooDeep)
  | depth + 1 => typeReferenceOver (typeReferenceWithin depth)

/-- A type reference. -/
def typeReference : Parser TypeExpr := typeReferenceWithin depthLimit

/-- A type reference and nothing after it. -/
def wholeTypeReference : Parser TypeExpr := do
  let type ← typeReference
  match ← peek with
  | none => return type
  | some _ => expected .endOfText

end TypeAtlas.GraphQL.Parser
