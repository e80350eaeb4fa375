import TypeAtlas.Json.Value

/-!
# Values as keys

Any JSON value but an array or an object can be the key of a table. Numbers of equal value are one
key, whether or not they are written with a fraction, and the booleans are the keys zero and one.
-/

namespace TypeAtlas

open Number (Binary64)
open Text (Broken)

namespace Json

/-- What a key is compared by. -/
inductive Key where
  | null
  | whole (value : Int)
  /-- A number that is not whole, an infinity or no number. -/
  | other (value : Binary64)
  | text (value : String)
  | broken (value : Broken)
  deriving DecidableEq, Repr

/-- The key that the name of a member is. -/
def Name.key : Name → Key
  | proper name => .text name
  | broken name => .broken name

theorem Name.key_inj {a b : Name} : a.key = b.key ↔ a = b := by
  cases a <;> cases b <;> simp [key]

/-- The key that a value is. -/
def key? : Json → Option Key
  | null => some .null
  | bool value => some (.whole (if value then 1 else 0))
  | int value => some (.whole value)
  | float value =>
    match value.integer? with
    | some n => some (.whole n)
    | none => some (.other value)
  | text value => some (.text value)
  | broken value => some (.broken value)
  | array _ => none
  | object _ => none

end Json

end TypeAtlas
