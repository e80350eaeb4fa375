import TypeAtlas.Fallible
import TypeAtlas.GraphQL.BlockString
import TypeAtlas.GraphQL.Fault
import TypeAtlas.Number.Decimal
import TypeAtlas.Text.Hex

/-!
# From text to tokens

`scan` reads the tokens of a text up to its end or to the first place where no token can be read.
Between tokens blanks, tabs, commas, line ends, byte order marks and comments do not count. A place
in the text is given by the number of characters left from it on.

* `length_rest_of_readToken`: reading a token leaves fewer characters.
-/

namespace TypeAtlas.GraphQL

open Number (isDigit)
open Text (isLineEnd)

/-- A fault and the number of characters left where it was found. -/
structure LexicalError where
  fault : LexicalFault
  left : Nat
  deriving DecidableEq, Repr

namespace Lexer

/-- Whether a character does not count between tokens. -/
def isIgnored (c : Char) : Bool :=
  c = ' ' || c = '\t' || c = ',' || c = Char.ofNat 0xFEFF || isLineEnd c

/-- Whether a character may begin a name. -/
def isNameStart (c : Char) : Bool :=
  ('a' ≤ c && c ≤ 'z') || ('A' ≤ c && c ≤ 'Z') || c = '_'

/-- Whether a character may follow in a name. -/
def isNameContinue (c : Char) : Bool := isNameStart c || isDigit c

/-- The punctuator that a single character is. -/
def punctuator? : Char → Option Punctuator
  | '!' => some .bang
  | '$' => some .dollar
  | '&' => some .ampersand
  | '(' => some .parenL
  | ')' => some .parenR
  | ':' => some .colon
  | '=' => some .equals
  | '@' => some .atSign
  | '[' => some .bracketL
  | ']' => some .bracketR
  | '\x7b' => some .braceL
  | '|' => some .pipe
  | '\x7d' => some .braceR
  | _ => none

/-- Stops with a fault at the beginning of the given characters. -/
def stop {α : Type} (fault : LexicalFault) (cs : List Char) : Except LexicalError α :=
  .error ⟨fault, cs.length⟩

/-! ## Numbers -/

/-- One digit or more. -/
def digits (cs : List Char) : Except LexicalError (List Char × List Char) :=
  if cs.takeWhile isDigit = [] then stop (.missingDigit cs.head?) cs
  else .ok (cs.takeWhile isDigit, cs.dropWhile isDigit)

/-- A zero with no digit after it, or digits that do not begin with one. -/
def wholePart : List Char → Except LexicalError (List Char × List Char)
  | '0' :: cs =>
    match cs with
    | c :: _ => if isDigit c then stop (.digitAfterZero c) cs else .ok (['0'], cs)
    | [] => .ok (['0'], [])
  | cs => digits cs

/-- A point with digits after it, or nothing. -/
def fractionPart : List Char → Except LexicalError (List Char × List Char)
  | '.' :: cs => do
    let (places, rest) ← digits cs
    return ('.' :: places, rest)
  | cs => .ok ([], cs)

/-- The sign of an exponent, or nothing. -/
def exponentSign : List Char → List Char × List Char
  | '+' :: cs => (['+'], cs)
  | '-' :: cs => (['-'], cs)
  | cs => ([], cs)

/-- An exponent, or nothing. -/
def exponentPart : List Char → Except LexicalError (List Char × List Char)
  | mark :: cs =>
    if mark = 'e' ∨ mark = 'E' then do
      let (sign, cs) := exponentSign cs
      let (places, rest) ← digits cs
      return (mark :: sign ++ places, rest)
    else .ok ([], mark :: cs)
  | [] => .ok ([], [])

/-- Refuses a point or a letter directly after a number. -/
def endOfNumber : List Char → Except LexicalError Unit
  | [] => .ok ()
  | c :: cs => if c = '.' ∨ isNameStart c then stop (.missingDigit (some c)) (c :: cs) else .ok ()

/-- A minus sign, or nothing. -/
def minusSign : List Char → List Char × List Char
  | '-' :: cs => (['-'], cs)
  | cs => ([], cs)

/-- A number. -/
def number (cs : List Char) : Except LexicalError (Token × List Char) := do
  let (sign, cs) := minusSign cs
  let (whole, cs) ← wholePart cs
  let (fraction, cs) ← fractionPart cs
  let (exponent, cs) ← exponentPart cs
  endOfNumber cs
  let numeral := String.ofList (sign ++ whole ++ fraction ++ exponent)
  return (if fraction = [] ∧ exponent = [] then .int numeral else .float numeral, cs)

/-! ## Strings -/

/-- The character that an escape with four hexadecimal digits stands for, or two such escapes that
write a pair of surrogates, and the number of characters after the backslash. -/
def fixedEscape (cs : List Char) : Option (Char × Nat) := do
  let first ← Text.hexQuad? cs
  match Text.charOf? first with
  | some c => return (c, 5)
  | none =>
    match Text.isLeadingSurrogate first, cs.drop 4 with
    | true, '\\' :: 'u' :: rest =>
      let second ← Text.hexQuad? rest
      if Text.isTrailingSurrogate second then
        return (← Text.charOf? (Text.ofSurrogates first second), 11)
      else none
    | _, _ => none

/-- The number of characters that are read of an escape with braces, after the opening one: up to
the first character that is no hexadecimal digit, and nine at most. -/
def bracedLength (cs : List Char) : Nat :=
  let window := cs.take 9
  min ((window.takeWhile fun c => (Text.hexDigit? c).isSome).length + 1) window.length

/-- The character that an escape with braces stands for, given what is read after the opening
brace. -/
def bracedChar? (read : List Char) : Option Char :=
  match read.getLast?, read.dropLast with
  | some '\x7d', [] => none
  | some '\x7d', places => do Text.charOf? (← Text.ofHex? places)
  | _, _ => none

/-- The character that an escape stands for and the number of characters after the backslash. -/
def escape : List Char → Except LexicalFault (Char × Nat)
  | '"' :: _ => .ok ('"', 1)
  | '\\' :: _ => .ok ('\\', 1)
  | '/' :: _ => .ok ('/', 1)
  | 'b' :: _ => .ok (Char.ofNat 0x8, 1)
  | 'f' :: _ => .ok (Char.ofNat 0xC, 1)
  | 'n' :: _ => .ok ('\n', 1)
  | 'r' :: _ => .ok ('\r', 1)
  | 't' :: _ => .ok ('\t', 1)
  | 'u' :: '\x7b' :: cs =>
    let n := bracedLength cs
    match bracedChar? (cs.take n) with
    | some c => .ok (c, n + 2)
    | none => .error (.badCodePoint (String.ofList ('\\' :: 'u' :: '\x7b' :: cs.take n)))
  | 'u' :: cs =>
    match fixedEscape cs with
    | some result => .ok result
    | none => .error (.badCodePoint (String.ofList ('\\' :: 'u' :: cs.take 4)))
  | cs => .error (.unknownEscape (String.ofList ('\\' :: cs.take 1)))

/-- The characters of a string up to its closing quote. -/
def stringBody : List Char → Except LexicalError (List Char × List Char)
  | [] => stop .unterminatedString []
  | '"' :: rest => .ok ([], rest)
  | '\\' :: rest =>
    match escape rest with
    | .error fault => stop fault ('\\' :: rest)
    | .ok (c, n) => do
      let (value, rest) ← stringBody (rest.drop n)
      return (c :: value, rest)
  | c :: rest =>
    if isLineEnd c then stop .unterminatedString (c :: rest)
    else do
      let (value, rest) ← stringBody rest
      return (c :: value, rest)
termination_by cs => cs.length
decreasing_by all_goals simp only [List.length_drop, List.length_cons]; omega

/-- The characters of a block string up to its closing quotes, with escaped triple quotes put in. -/
def blockBody : List Char → Except LexicalError (List Char × List Char)
  | [] => stop .unterminatedString []
  | '"' :: '"' :: '"' :: rest => .ok ([], rest)
  | '\\' :: '"' :: '"' :: '"' :: rest => do
    let (value, rest) ← blockBody rest
    return ('"' :: '"' :: '"' :: value, rest)
  | c :: rest => do
    let (value, rest) ← blockBody rest
    return (c :: value, rest)

/-- A string or block string, after its first quote. -/
def stringToken : List Char → Except LexicalError (Token × List Char)
  | '"' :: '"' :: cs => do
    let (raw, rest) ← blockBody cs
    return (.blockString (String.ofList (BlockString.dedent raw)), rest)
  | cs => do
    let (value, rest) ← stringBody cs
    return (.string (String.ofList value), rest)

/-! ## Tokens -/

/-- The token that begins with the character `c`, of which `cs` follows. -/
def readToken (c : Char) (cs : List Char) : Except LexicalError (Token × List Char) :=
  if c = '"' then stringToken cs
  else if isDigit c ∨ c = '-' then number (c :: cs)
  else if isNameStart c then
    .ok (.name (String.ofList (c :: cs.takeWhile isNameContinue)), cs.dropWhile isNameContinue)
  else if c = '.' ∧ cs.take 2 = ['.', '.'] then .ok (.punctuator .spread, cs.drop 2)
  else if c = '\x27' then stop .apostrophe (c :: cs)
  else match punctuator? c with
    | some p => .ok (.punctuator p, cs)
    | none => stop (.unexpectedCharacter c) (c :: cs)

/-- The characters from the next token on. -/
def skipIgnored : List Char → List Char
  | [] => []
  | '#' :: cs => skipIgnored (cs.dropWhile (!isLineEnd ·))
  | c :: cs => if isIgnored c then skipIgnored cs else c :: cs
termination_by cs => cs.length
decreasing_by
  · have := (List.dropWhile_sublist (fun c => !isLineEnd c) (l := cs)).length_le
    simp only [List.length_cons]; omega
  · simp

/-! ## Reading moves on -/

theorem length_digits {cs : List Char} {r : List Char × List Char} (h : digits cs = .ok r) :
    r.2.length < cs.length := by
  simp only [digits, stop] at h
  split at h
  · simp at h
  · rename_i hne
    obtain rfl := Except.ok.inj h
    have := congrArg List.length (@List.takeWhile_append_dropWhile _ isDigit cs)
    have := List.length_pos_iff.2 hne
    rw [List.length_append] at *
    show (cs.dropWhile isDigit).length < cs.length
    omega

theorem length_wholePart {cs : List Char} {r : List Char × List Char} (h : wholePart cs = .ok r) :
    r.2.length < cs.length := by
  unfold wholePart at h
  split at h
  · split at h
    · split at h
      · simp [stop] at h
      · obtain rfl := Except.ok.inj h
        simp
    · obtain rfl := Except.ok.inj h
      simp
  · exact length_digits h

theorem length_fractionPart {cs : List Char} {r : List Char × List Char}
    (h : fractionPart cs = .ok r) : r.2.length ≤ cs.length := by
  unfold fractionPart at h
  split at h
  · obtain ⟨p, hp, h⟩ := bind_eq_ok.1 h
    obtain rfl := Except.ok.inj h
    have := length_digits hp
    exact Nat.le_succ_of_le (Nat.le_of_lt this)
  · obtain rfl := Except.ok.inj h
    exact Nat.le_refl _

theorem length_exponentSign (cs : List Char) : (exponentSign cs).2.length ≤ cs.length := by
  unfold exponentSign
  split <;> simp

theorem length_exponentPart {cs : List Char} {r : List Char × List Char}
    (h : exponentPart cs = .ok r) : r.2.length ≤ cs.length := by
  unfold exponentPart at h
  split at h
  · rename_i mark cs
    split at h
    · obtain ⟨p, hp, h⟩ := bind_eq_ok.1 h
      obtain rfl := Except.ok.inj h
      have := Nat.le_trans (Nat.le_of_lt (length_digits hp)) (length_exponentSign cs)
      exact Nat.le_succ_of_le this
    · obtain rfl := Except.ok.inj h
      exact Nat.le_refl _
  · obtain rfl := Except.ok.inj h
    exact Nat.le_refl _

theorem length_minusSign (cs : List Char) : (minusSign cs).2.length ≤ cs.length := by
  unfold minusSign
  split <;> simp

theorem length_number {cs : List Char} {r : Token × List Char} (h : number cs = .ok r) :
    r.2.length < cs.length := by
  obtain ⟨w, hw, h⟩ := bind_eq_ok.1 h
  obtain ⟨f, hf, h⟩ := bind_eq_ok.1 h
  obtain ⟨x, hx, h⟩ := bind_eq_ok.1 h
  obtain ⟨-, -, h⟩ := bind_eq_ok.1 h
  obtain rfl := Except.ok.inj h
  calc x.2.length ≤ f.2.length := length_exponentPart hx
    _ ≤ w.2.length := length_fractionPart hf
    _ < (minusSign cs).2.length := length_wholePart hw
    _ ≤ cs.length := length_minusSign cs

theorem length_stringBody {cs : List Char} {r : List Char × List Char}
    (h : stringBody cs = .ok r) : r.2.length ≤ cs.length := by
  fun_induction stringBody cs generalizing r with
  | case1 => simp [stop] at h
  | case2 rest =>
    obtain rfl := Except.ok.inj h
    exact Nat.le_succ _
  | case3 => simp [stop] at h
  | case4 rest c n _ ih =>
    obtain ⟨p, hp, h⟩ := bind_eq_ok.1 h
    obtain rfl := Except.ok.inj h
    have := Nat.le_trans (ih hp) (List.drop_sublist n rest).length_le
    exact Nat.le_succ_of_le this
  | case5 => simp [stop] at h
  | case6 c rest _ _ _ ih =>
    obtain ⟨p, hp, h⟩ := bind_eq_ok.1 h
    obtain rfl := Except.ok.inj h
    have := ih hp
    exact Nat.le_succ_of_le this

theorem length_blockBody {cs : List Char} {r : List Char × List Char} (h : blockBody cs = .ok r) :
    r.2.length ≤ cs.length := by
  fun_induction blockBody cs generalizing r with
  | case1 => simp [stop] at h
  | case2 rest =>
    obtain rfl := Except.ok.inj h
    exact Nat.le_add_right rest.length 3
  | case3 rest ih =>
    obtain ⟨p, hp, h⟩ := bind_eq_ok.1 h
    obtain rfl := Except.ok.inj h
    have := ih hp
    exact Nat.le_trans this (Nat.le_add_right rest.length 4)
  | case4 c rest _ _ ih =>
    obtain ⟨p, hp, h⟩ := bind_eq_ok.1 h
    obtain rfl := Except.ok.inj h
    have := ih hp
    exact Nat.le_succ_of_le this

theorem length_stringToken {cs : List Char} {r : Token × List Char}
    (h : stringToken cs = .ok r) : r.2.length ≤ cs.length := by
  unfold stringToken at h
  split at h
  · rename_i rest
    obtain ⟨p, hp, h⟩ := bind_eq_ok.1 h
    obtain rfl := Except.ok.inj h
    exact Nat.le_trans (length_blockBody hp) (Nat.le_add_right rest.length 2)
  · obtain ⟨p, hp, h⟩ := bind_eq_ok.1 h
    obtain rfl := Except.ok.inj h
    exact length_stringBody hp

/-- Reading a token leaves fewer characters. -/
theorem length_rest_of_readToken {c : Char} {cs rest : List Char} {t : Token}
    (h : readToken c cs = .ok (t, rest)) : rest.length ≤ cs.length := by
  unfold readToken at h
  split at h
  · exact length_stringToken h
  split at h
  · exact Nat.le_of_lt_succ (length_number h)
  split at h
  · obtain ⟨-, rfl⟩ := Prod.mk.inj (Except.ok.inj h)
    exact (List.dropWhile_sublist _).length_le
  split at h
  · obtain ⟨-, rfl⟩ := Prod.mk.inj (Except.ok.inj h)
    simp
  split at h
  · simp [stop] at h
  split at h
  · obtain ⟨-, rfl⟩ := Prod.mk.inj (Except.ok.inj h)
    exact Nat.le_refl _
  · simp [stop] at h

theorem length_skipIgnored (cs : List Char) : (skipIgnored cs).length ≤ cs.length := by
  fun_induction skipIgnored cs with
  | case1 => simp
  | case2 cs ih =>
    have := (List.dropWhile_sublist (fun c => !isLineEnd c) (l := cs)).length_le
    simp only [List.length_cons]
    omega
  | case3 c cs _ _ ih => exact Nat.le_succ_of_le ih
  | case4 => simp

end Lexer

/-- A token and the number of characters left where it begins. -/
structure PlacedToken where
  token : Token
  left : Nat
  deriving DecidableEq, Repr

/-- The tokens of a text up to its end or to the first place where no token can be read. -/
def scan (cs : List Char) : List PlacedToken × Option LexicalError :=
  match _h : Lexer.skipIgnored cs with
  | [] => ([], none)
  | c :: after =>
    match _ht : Lexer.readToken c after with
    | .error e => ([], some e)
    | .ok (token, rest) =>
      let (tokens, failure) := scan rest
      (⟨token, after.length + 1⟩ :: tokens, failure)
termination_by cs.length
decreasing_by
  have h₁ := Lexer.length_skipIgnored cs
  have h₂ := Lexer.length_rest_of_readToken _ht
  simp only [_h, List.length_cons] at h₁
  omega

end TypeAtlas.GraphQL
