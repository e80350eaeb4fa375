/-!
# Configuration errors

What can be wrong with the names and directives that say which Java type a schema type stands for.
-/

namespace TypeAtlas

/-- Why configuration or schema cannot produce a type mapping. -/
inductive ConfigurationError where
  /-- The text is not a class name. -/
  | notAClassName (text : String)
  /-- A scalar carries the type directive more than once. -/
  | repeatedDirective (directive scalar : String)
  /-- The type directive of a scalar has no text under the argument. -/
  | missingArgument (directive argument scalar : String)
  deriving DecidableEq, Repr

/-- The error in words. -/
def ConfigurationError.message : ConfigurationError → String
  | notAClassName text => "Couldn't make a guess for '" ++ text ++ "'"
  | repeatedDirective directive scalar =>
    "multiple @" ++ directive ++ " directives are defined on scalar " ++ scalar
  | missingArgument directive argument scalar =>
    "@" ++ directive ++ " directive on scalar " ++ scalar ++ " must contain a " ++ argument ++
      " argument"

end TypeAtlas
