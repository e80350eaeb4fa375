/-!
# Paths

A path names a place by the directories on the way to it. Empty components and single points do not
count; two points lead back to the directory above and are kept, because what is above depends on
the files there are. Taken literally (`literalSteps`), a text has empty components and single points
too, and they are steps that stay where they are.
-/

namespace TypeAtlas.Files

/-- The way to a file or directory. -/
structure Path where
  /-- What stands before the first component: slashes if the way begins at the root. -/
  anchor : String
  components : List String
  deriving DecidableEq, Repr

namespace Path

/-- The anchor that a number of leading slashes stands for: exactly two are kept as two. -/
def anchorOf (slashes : Nat) : String :=
  if slashes = 0 then "" else if slashes = 2 then "//" else "/"

/-- Whether a text can name a place: it has no zero character. -/
def isWritable (text : String) : Bool := !text.toList.contains (Char.ofNat 0)

/-- The components of a text, whatever they are. -/
def literalSteps (text : String) : List String := (text.toList.splitOn '/').map String.ofList

/-- The path that a text writes. -/
def parse (text : String) : Path :=
  ⟨anchorOf (text.toList.takeWhile (· = '/')).length,
    (literalSteps text).filter fun c => c ≠ "" ∧ c ≠ "."⟩

/-- The path as messages show it. -/
def spelling (p : Path) : String :=
  if p.anchor = "" ∧ p.components = [] then "."
  else p.anchor ++ String.intercalate "/" p.components

/-- The path to a place below. -/
def below (p : Path) (place : List String) : Path := ⟨p.anchor, p.components ++ place⟩

/-- Whether the way begins at the root. -/
def isAbsolute (p : Path) : Bool := p.anchor ≠ ""

/-- The components without two points: each takes away the component before it. -/
def collapse (components : List String) : List String :=
  components.foldl (fun kept c => if c = ".." then kept.dropLast else kept ++ [c]) []

/-- Whether one row of components comes before another or is the same: at the first place where they
differ the smaller component comes first, and the shorter row before its continuations. -/
def componentsLe : List String → List String → Bool
  | [], _ => true
  | _ :: _, [] => false
  | a :: as, b :: bs => if a = b then componentsLe as bs else decide (a ≤ b)

end Path

end TypeAtlas.Files
