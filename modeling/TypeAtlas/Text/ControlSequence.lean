/-!
# Control sequences

Terminals take an escape character and an opening bracket, then parameters, then intermediate
characters, then one final character as a single command: to move the cursor, or to change the
colour. The three ranges of characters have nothing in common, so a sequence ends in one place only.
`withoutSequences` drops such commands from a text that no terminal reads.
-/

namespace TypeAtlas.Text

/-- Whether a character may stand in the parameters: a digit, or one of `:`, `;`, `<`, `=`, `>` and
`?`. -/
def isParameter (c : Char) : Bool := '0' ≤ c && c ≤ '?'

/-- Whether a character may stand between the parameters and the final character: a blank, or a
mark from `!` to `/`. -/
def isIntermediate (c : Char) : Bool := ' ' ≤ c && c ≤ '/'

/-- Whether a character ends a control sequence: any other printable one, such as a letter. -/
def isFinal (c : Char) : Bool := '@' ≤ c && c ≤ '~'

/-- What follows the control sequence at the beginning of a text. -/
def afterSequence? : List Char → Option (List Char)
  | '\x1b' :: '[' :: cs =>
    match (cs.dropWhile isParameter).dropWhile isIntermediate with
    | [] => none
    | c :: rest => if isFinal c then some rest else none
  | _ => none

theorem length_afterSequence? {cs rest : List Char} (h : afterSequence? cs = some rest) :
    rest.length < cs.length := by
  unfold afterSequence? at h
  split at h
  · rename_i tail
    have hp := (List.dropWhile_suffix (l := tail) isParameter).length_le
    have hi := (List.dropWhile_suffix (l := tail.dropWhile isParameter) isIntermediate).length_le
    split at h
    · exact absurd h nofun
    · rename_i c after hc
      rw [hc] at hi
      split at h
      · obtain rfl := Option.some.inj h
        simp only [List.length_cons] at hi ⊢
        omega
      · exact absurd h nofun
  · exact absurd h nofun

/-- The text without the control sequences in it. -/
def withoutSequences : List Char → List Char
  | [] => []
  | c :: cs =>
    match _h : afterSequence? (c :: cs) with
    | some rest => withoutSequences rest
    | none => c :: withoutSequences cs
termination_by cs => cs.length
decreasing_by
  · exact length_afterSequence? ‹_›
  · simp

end TypeAtlas.Text
