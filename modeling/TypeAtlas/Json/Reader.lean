import TypeAtlas.Json.Value
import TypeAtlas.Text.Hex

/-!
# Reading JSON

`Json.read` reads a whole text as one value. Besides the values of RFC 8259 it takes `NaN`,
`Infinity` and `-Infinity`. Raw control characters in texts, trailing commas, comments and
anything after the value are refused; so is a byte order mark, which is no blank here. A surrogate
that is not one of a pair is taken, and the text with it is broken. Of several faults the first in
the text counts.
-/

namespace TypeAtlas.Json

/-- Why a text cannot be read as a value. -/
inductive Unreadable where
  /-- The text is not JSON. -/
  | notJson
  /-- A whole number has too many digits. -/
  | tooManyDigits
  /-- Too many arrays and objects are inside one another. -/
  | tooDeep
  deriving DecidableEq, Repr

namespace Reader

open Number (Binary64 Decimal isDigit)
open Text (Point hexQuad? isLeadingSurrogate isTrailingSurrogate ofSurrogates)

/-- Whether a character may stand between the parts of a text. -/
def isSpace (c : Char) : Bool := c = ' ' || c = '\t' || c = '\n' || c = '\r'

/-- The characters from the first that is no blank. -/
def skipSpace (cs : List Char) : List Char := cs.dropWhile isSpace

/-- The point that an escape stands for and the number of characters of the escape, without its
backslash. -/
def escape? : List Char → Option (Point × Nat)
  | '"' :: _ => some (.char '"', 1)
  | '\\' :: _ => some (.char '\\', 1)
  | '/' :: _ => some (.char '/', 1)
  | 'b' :: _ => some (.char (Char.ofNat 0x8), 1)
  | 'f' :: _ => some (.char (Char.ofNat 0xC), 1)
  | 'n' :: _ => some (.char '\n', 1)
  | 'r' :: _ => some (.char '\r', 1)
  | 't' :: _ => some (.char '\t', 1)
  | 'u' :: cs => do
    let first ← hexQuad? cs
    match isLeadingSurrogate first, cs.drop 4 with
    | true, '\\' :: 'u' :: rest =>
      match (hexQuad? rest).filter isTrailingSurrogate with
      | some second => return (← Point.ofNat? (ofSurrogates first second), 11)
      | none => return (← Point.ofNat? first, 5)
    | _, _ => return (← Point.ofNat? first, 5)
  | _ => none

/-- The points of a text up to its closing quote, and what follows. -/
def textBody : List Char → Option (List Point × List Char)
  | [] => none
  | '"' :: rest => some ([], rest)
  | '\\' :: rest => do
    let (point, n) ← escape? rest
    let (points, rest) ← textBody (rest.drop n)
    return (point :: points, rest)
  | c :: rest => do
    if c.toNat < 0x20 then none
    else
      let (points, rest) ← textBody rest
      return (.char c :: points, rest)
termination_by cs => cs.length
decreasing_by all_goals simp only [List.length_drop, List.length_cons]; omega

/-- The digits of a whole number: a zero, or a row that does not begin with one. -/
def wholeDigits : List Char → List Char
  | '0' :: _ => ['0']
  | cs => cs.takeWhile isDigit

/-- A point and the digits after it, if there are any. -/
def fractionPart : List Char → List Char
  | '.' :: cs =>
    let digits := cs.takeWhile isDigit
    if digits = [] then [] else '.' :: digits
  | _ => []

/-- The letter, sign and digits of an exponent, if there are any digits. -/
def exponentPart : List Char → List Char
  | mark :: cs =>
    let sign := (cs.take 1).filter fun c => c = '+' || c = '-'
    let digits := (cs.drop sign.length).takeWhile isDigit
    if (mark = 'e' ∨ mark = 'E') ∧ digits ≠ [] then mark :: sign ++ digits else []
  | [] => []

/-- The longest number at the beginning, and what follows. -/
def number (cs : List Char) : Except Unreadable (Json × List Char) :=
  let sign := (cs.take 1).filter (· = '-')
  let rest := cs.drop sign.length
  let whole := wholeDigits rest
  let rest := rest.drop whole.length
  let fraction := fractionPart rest
  let rest := rest.drop fraction.length
  let exponent := exponentPart rest
  let rest := rest.drop exponent.length
  if whole = [] then .error .notJson
  else if fraction = [] ∧ exponent = [] then
    match Decimal.integer? (sign ++ whole) with
    | some value => .ok (int value, rest)
    | none => .error .tooManyDigits
  else
    .ok (float (Binary64.ofDecimal (Decimal.ofChars (sign ++ whole ++ fraction ++ exponent))), rest)

/-- The value that a word at the beginning stands for, and what follows. -/
def word? (cs : List Char) : Option (Json × List Char) :=
  [("null", null), ("true", bool true), ("false", bool false),
    ("NaN", float ⟨0x7FF8000000000000⟩), ("Infinity", float ⟨0x7FF0000000000000⟩),
    ("-Infinity", float ⟨0xFFF0000000000000⟩)].findSome? fun (word, value) =>
      if word.toList.isPrefixOf cs then some (value, cs.drop word.length) else none

/-- The text at the beginning, after its opening quote, and what follows. -/
def quotedText (cs : List Char) : Except Unreadable (Name × List Char) :=
  match textBody cs with
  | some (points, rest) => .ok (.ofPoints points, rest)
  | none => .error .notJson

mutual

/-- The value at the beginning, and what follows. Each step into a value or along a list takes one
unit of `fuel`; `depth` is the number of arrays and objects that may still be opened inside one
another. -/
def value : (fuel depth : Nat) → List Char → Except Unreadable (Json × List Char)
  | 0, _, _ => .error .notJson
  | _ + 1, _, '"' :: cs => do
    let (read, cs) ← quotedText cs
    return (read.toJson, cs)
  | _ + 1, 0, '[' :: _ => .error .tooDeep
  | fuel + 1, depth + 1, '[' :: cs =>
    match skipSpace cs with
    | ']' :: cs => .ok (array [], cs)
    | cs => do
      let (items, cs) ← items fuel depth cs
      return (array items, cs)
  | _ + 1, 0, '\x7b' :: _ => .error .tooDeep
  | fuel + 1, depth + 1, '\x7b' :: cs =>
    match skipSpace cs with
    | '\x7d' :: cs => .ok (object [], cs)
    | cs => do
      let (members, cs) ← members fuel depth cs
      return (ofMembers members, cs)
  | _ + 1, _, cs =>
    match word? cs with
    | some read => .ok read
    | none => number cs

/-- The items of an array up to its closing bracket, and what follows. -/
def items : (fuel depth : Nat) → List Char → Except Unreadable (List Json × List Char)
  | 0, _, _ => .error .notJson
  | fuel + 1, depth, cs => do
    let (item, cs) ← value fuel depth cs
    match skipSpace cs with
    | ']' :: cs => return ([item], cs)
    | ',' :: cs =>
      let (items, cs) ← items fuel depth (skipSpace cs)
      return (item :: items, cs)
    | _ => .error .notJson

/-- The members of an object up to its closing brace, and what follows. -/
def members : (fuel depth : Nat) → List Char → Except Unreadable (List (Name × Json) × List Char)
  | fuel + 1, depth, '"' :: cs => do
    let (name, cs) ← quotedText cs
    match skipSpace cs with
    | ':' :: cs =>
      let (value, cs) ← value fuel depth (skipSpace cs)
      match skipSpace cs with
      | '\x7d' :: cs => return ([(name, value)], cs)
      | ',' :: cs =>
        let (members, cs) ← members fuel depth (skipSpace cs)
        return ((name, value) :: members, cs)
      | _ => .error .notJson
    | _ => .error .notJson
  | _, _, _ => .error .notJson

end

end Reader

open Reader (skipSpace)

/-- The number of arrays and objects that may be inside one another. -/
def nestingLimit : Nat := 980

/-- The value that a whole text writes. Each value and each separator takes at least one character,
so twice the length of the text is fuel enough. -/
def read (source : String) : Except Unreadable Json := do
  let cs := source.toList
  let (value, rest) ← Reader.value (2 * cs.length + 2) nestingLimit (skipSpace cs)
  if skipSpace rest = [] then return value else .error .notJson

end TypeAtlas.Json
