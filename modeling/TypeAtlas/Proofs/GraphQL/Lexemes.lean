import TypeAtlas.Proofs.GraphQL.Scan

/-!
# Punctuators and names

The lexical grammar for texts that have no tokens but punctuators and names (`Writes`), given by the
characters that may be written for a token and between tokens:

* `Lexer.skipIgnored_comment`: a comment ends with its line;
* `Lexer.readToken_punctuator`, `Lexer.readToken_name`: what is read where one of these is written;
* `writes_iff`: the tokens that are read from a text are those that it writes;
* `Writes.unique`: a text writes one list of tokens at most.
-/

namespace TypeAtlas.GraphQL

open Number (isDigit)
open Text (isLineEnd)

/-! ## The lexical grammar -/

/-- The characters that end a line. -/
def lineEnds : List Char := ['\n', '\r']

/-- The characters that do not count between tokens: blanks, tabs, commas, byte order marks and those
that end a line. -/
def ignoredCharacters : List Char := [' ', '\t', ',', Char.ofNat 0xFEFF] ++ lineEnds

/-- Whether a character may stand in a name. -/
def IsNameCharacter (c : Char) : Prop := c.isAlphanum ∨ c = '_'

instance : DecidablePred IsNameCharacter := fun c => inferInstanceAs (Decidable (c.isAlphanum ∨ c = '_'))

/-- Whether a text is a name: a letter or an underscore, and then letters, digits and underscores. -/
def IsName (text : String) : Prop :=
  ∃ c cs, text.toList = c :: cs ∧ (c.isAlpha ∨ c = '_') ∧ ∀ d ∈ cs, IsNameCharacter d

/-- Whether characters write punctuators and names one after the other. -/
inductive Writes : List Token → List Char → Prop
  | nil : Writes [] []
  | ignored {c : Char} {ts : List Token} {cs : List Char} (hc : c ∈ ignoredCharacters)
    (h : Writes ts cs) : Writes ts (c :: cs)
  /-- A comment goes up to the end of its line. -/
  | comment {body cs : List Char} {ts : List Token} (hbody : ∀ c ∈ body, c ∉ lineEnds)
    (hend : ∀ c ∈ cs.head?, c ∈ lineEnds) (h : Writes ts cs) : Writes ts ('#' :: (body ++ cs))
  | punctuator {ts : List Token} {cs : List Char} (p : Punctuator) (h : Writes ts cs) :
    Writes (.punctuator p :: ts) (p.spelling.toList ++ cs)
  /-- A name goes on for as long as it can. -/
  | name {text : String} {ts : List Token} {cs : List Char} (htext : IsName text)
    (hend : ∀ c ∈ cs.head?, ¬IsNameCharacter c) (h : Writes ts cs) :
    Writes (.name text :: ts) (text.toList ++ cs)

/-- Whether a token is a punctuator or a name. -/
def Token.IsPlain : Token → Prop
  | punctuator _ => True
  | name _ => True
  | _ => False

theorem Writes.isPlain {ts : List Token} {cs : List Char} (h : Writes ts cs) :
    ∀ t ∈ ts, t.IsPlain := by
  induction h with
  | nil => nofun
  | ignored _ _ ih => exact ih
  | comment _ _ _ ih => exact ih
  | punctuator p _ ih => exact List.forall_mem_cons.mpr ⟨trivial, ih⟩
  | name _ _ _ ih => exact List.forall_mem_cons.mpr ⟨trivial, ih⟩

theorem Writes.isName {ts : List Token} {cs : List Char} (h : Writes ts cs) {text : String}
    (htext : .name text ∈ ts) : IsName text := by
  induction h with
  | nil => cases htext
  | ignored _ _ ih => exact ih htext
  | comment _ _ _ ih => exact ih htext
  | punctuator p _ ih => exact ih ((List.mem_cons.mp htext).resolve_left nofun)
  | name hname _ _ ih =>
    rcases List.mem_cons.mp htext with heq | htext
    · cases heq
      exact hname
    · exact ih htext

/-! ## Classes of characters -/

theorem isLineEnd_iff {c : Char} : isLineEnd c = true ↔ c ∈ lineEnds := by
  simp [isLineEnd, lineEnds]

theorem not_isLineEnd_iff {c : Char} : (!isLineEnd c) = true ↔ c ∉ lineEnds := by
  rw [Bool.not_eq_true', ← Bool.not_eq_true, isLineEnd_iff]

/-- What drops the characters of a class stops at one that is not of it. -/
theorem eq_false_of_mem_head?_dropWhile {p : Char → Bool} {cs : List Char} {c : Char}
    (h : c ∈ (cs.dropWhile p).head?) : p c = false := by
  have hhead := List.head?_dropWhile_not p cs
  rw [Option.mem_def.mp h] at hhead
  exact hhead

namespace Lexer

theorem isIgnored_iff {c : Char} : isIgnored c = true ↔ c ∈ ignoredCharacters := by
  simp only [isIgnored, ignoredCharacters, Bool.or_eq_true, decide_eq_true_eq, isLineEnd_iff,
    List.mem_append, List.mem_cons, List.not_mem_nil, or_false, or_assoc]

/-- The letters are those from `a` to `z`, large and small. -/
theorem isAlpha_iff {c : Char} :
    c.isAlpha = true ↔ ('A' ≤ c ∧ c ≤ 'Z') ∨ ('a' ≤ c ∧ c ≤ 'z') := by
  have hranges : c.isAlpha = (decide (c.val ≥ 'A'.val ∧ c.val ≤ 'Z'.val) ||
      decide (c.val ≥ 'a'.val) && decide (c.val ≤ 'z'.val)) := rfl
  simp only [hranges, Bool.or_eq_true, Bool.and_eq_true, decide_eq_true_eq, ge_iff_le, Char.le_def]

theorem isNameStart_iff {c : Char} : isNameStart c = true ↔ c.isAlpha ∨ c = '_' := by
  simp only [isNameStart, isAlpha_iff, Bool.or_eq_true, Bool.and_eq_true, decide_eq_true_eq]
  exact or_congr_left or_comm

theorem isNameContinue_iff {c : Char} : isNameContinue c = true ↔ IsNameCharacter c := by
  have hdigit : isDigit c = c.isDigit := rfl
  have halphanum : c.isAlphanum = (c.isAlpha || c.isDigit) := rfl
  rw [isNameContinue, IsNameCharacter, halphanum, Bool.or_eq_true, isNameStart_iff, hdigit,
    Bool.or_eq_true, or_right_comm]

theorem not_isIgnored_of_isNameStart {c : Char} (h : isNameStart c = true) : isIgnored c = false := by
  have hall : ignoredCharacters.all (!isNameStart ·) = true := by decide
  refine Bool.eq_false_iff.mpr fun hc => ?_
  have hstart := List.all_eq_true.mp hall c (isIgnored_iff.mp hc)
  rw [h] at hstart
  cases hstart

theorem not_isDigit_of_isNameStart {c : Char} (h : isNameStart c = true) : isDigit c = false := by
  have hunderscore : isDigit '_' = false := rfl
  rcases isNameStart_iff.mp h with h | rfl
  · simp only [isAlpha_iff, Char.le_def, UInt32.le_iff_toNat_le] at h
    have hA : 'A'.val.toNat = 65 := rfl
    have ha : 'a'.val.toNat = 97 := rfl
    have h9 : '9'.val.toNat = 57 := rfl
    simp only [isDigit, Bool.and_eq_false_iff, decide_eq_false_iff_not, Char.le_def,
      UInt32.le_iff_toNat_le]
    omega
  · exact hunderscore

/-! ## Between tokens -/

variable {cs : List Char}

theorem skipIgnored_of_isIgnored {c : Char} (h : isIgnored c = true) :
    skipIgnored (c :: cs) = skipIgnored cs := by
  rw [skipIgnored, if_pos h]
  rintro rfl
  exact absurd h (by decide)

theorem skipIgnored_of_not_isIgnored {c : Char} (hcomment : c ≠ '#') (h : isIgnored c = false) :
    skipIgnored (c :: cs) = c :: cs := by
  rw [skipIgnored, if_neg (by rw [h]; decide)]
  exact hcomment

theorem dropWhile_comment {body : List Char} (hbody : ∀ c ∈ body, c ∉ lineEnds)
    (hend : ∀ c ∈ cs.head?, c ∈ lineEnds) : (body ++ cs).dropWhile (!isLineEnd ·) = cs := by
  rw [List.dropWhile_append_of_pos fun c hc => not_isLineEnd_iff.mpr (hbody c hc)]
  cases cs with
  | nil => rfl
  | cons c cs => exact List.dropWhile_cons_of_neg fun hc => not_isLineEnd_iff.mp hc (hend c rfl)

theorem skipIgnored_comment {body : List Char} (hbody : ∀ c ∈ body, c ∉ lineEnds)
    (hend : ∀ c ∈ cs.head?, c ∈ lineEnds) : skipIgnored ('#' :: (body ++ cs)) = skipIgnored cs := by
  rw [skipIgnored, dropWhile_comment hbody hend]

/-! ## Tokens -/

theorem readToken_punctuator (p : Punctuator) (cs : List Char) :
    ∃ c after, p.spelling.toList ++ cs = c :: after ∧ skipIgnored (c :: after) = c :: after ∧
      readToken c after = .ok (.punctuator p, cs) := by
  cases p
  case spread => exact ⟨'.', '.' :: '.' :: cs, rfl, skipIgnored_of_not_isIgnored (by decide) rfl, rfl⟩
  all_goals exact ⟨_, cs, rfl, skipIgnored_of_not_isIgnored (by decide) rfl, rfl⟩

theorem readToken_of_isNameStart {c : Char} (h : isNameStart c = true) (cs : List Char) :
    readToken c cs =
      .ok (.name (String.ofList (c :: cs.takeWhile isNameContinue)), cs.dropWhile isNameContinue) := by
  have hne {d : Char} (hd : isNameStart d = false) : c ≠ d := by
    rintro rfl
    exact Bool.false_ne_true (hd.symm.trans h)
  have hnumber : ¬(isDigit c = true ∨ c = '-') := by
    rw [not_isDigit_of_isNameStart h]
    simpa using hne (d := '-') rfl
  rw [readToken, if_neg (hne rfl), if_neg hnumber, if_pos h]

theorem takeWhile_name {body : List Char} (hbody : ∀ c ∈ body, IsNameCharacter c)
    (hend : ∀ c ∈ cs.head?, ¬IsNameCharacter c) :
    (body ++ cs).takeWhile isNameContinue = body ∧ (body ++ cs).dropWhile isNameContinue = cs := by
  have hall : ∀ c ∈ body, isNameContinue c = true := fun c hc => isNameContinue_iff.mpr (hbody c hc)
  rw [List.takeWhile_append_of_pos hall, List.dropWhile_append_of_pos hall]
  cases cs with
  | nil => exact ⟨List.append_nil body, rfl⟩
  | cons c cs =>
    have hc : ¬isNameContinue c = true := fun hc => hend c rfl (isNameContinue_iff.mp hc)
    rw [List.takeWhile_cons_of_neg hc, List.dropWhile_cons_of_neg hc, List.append_nil]
    exact ⟨rfl, rfl⟩

theorem readToken_name {text : String} (htext : IsName text)
    (hend : ∀ c ∈ cs.head?, ¬IsNameCharacter c) :
    ∃ c after, text.toList ++ cs = c :: after ∧ skipIgnored (c :: after) = c :: after ∧
      readToken c after = .ok (.name text, cs) := by
  obtain ⟨c, body, hchars, hstart, hbody⟩ := htext
  have hc := isNameStart_iff.mpr hstart
  have hcomment : c ≠ '#' := by
    rintro rfl
    exact absurd hc (by decide)
  refine ⟨c, body ++ cs, by rw [hchars, List.cons_append], ?_, ?_⟩
  · exact skipIgnored_of_not_isIgnored hcomment (not_isIgnored_of_isNameStart hc)
  · obtain ⟨htake, hdrop⟩ := takeWhile_name hbody hend
    rw [readToken_of_isNameStart hc, htake, hdrop, ← hchars, String.ofList_toList]

end Lexer

/-! ## The tokens of a text -/

theorem tokens_of_readToken {cs after rest : List Char} {c : Char} {token : Token}
    (hskip : Lexer.skipIgnored cs = c :: after) (hread : Lexer.readToken c after = .ok (token, rest)) :
    (scan cs).2 = (scan rest).2 ∧ tokens cs = token :: tokens rest := by
  rw [tokens, scan_eq_of_readToken hskip hread]
  exact ⟨rfl, rfl⟩

/-- What is written is read. -/
theorem tokens_of_writes {ts : List Token} {cs : List Char} (h : Writes ts cs) :
    (scan cs).2 = none ∧ tokens cs = ts := by
  induction h with
  | nil =>
    have hnil : scan [] = ([], none) := scan_of_forall_isIgnored nofun
    rw [tokens, hnil]
    exact ⟨rfl, rfl⟩
  | ignored hc _ ih =>
    rw [tokens, scan_congr (Lexer.skipIgnored_of_isIgnored (Lexer.isIgnored_iff.mpr hc))]
    exact ih
  | comment hbody hend _ ih =>
    rw [tokens, scan_congr (Lexer.skipIgnored_comment hbody hend)]
    exact ih
  | @punctuator ts cs p _ ih =>
    obtain ⟨c, after, hchars, hskip, hread⟩ := Lexer.readToken_punctuator p cs
    obtain ⟨hscan, htokens⟩ := tokens_of_readToken hskip hread
    rw [hchars, hscan, htokens, ih.2]
    exact ⟨ih.1, rfl⟩
  | name htext hend _ ih =>
    obtain ⟨c, after, hchars, hskip, hread⟩ := Lexer.readToken_name htext hend
    obtain ⟨hscan, htokens⟩ := tokens_of_readToken hskip hread
    rw [hchars, hscan, htokens, ih.2]
    exact ⟨ih.1, rfl⟩

theorem Writes.unique {ts us : List Token} {cs : List Char} (h : Writes ts cs) (h' : Writes us cs) :
    ts = us :=
  (tokens_of_writes h).2.symm.trans (tokens_of_writes h').2

namespace Lexer

/-- What does not count may be written before any text. -/
theorem writes_of_skipIgnored {ts : List Token} {cs : List Char} (h : Writes ts (skipIgnored cs)) :
    Writes ts cs := by
  fun_induction skipIgnored cs with
  | case1 => exact h
  | case2 cs ih =>
    have hbody : ∀ c ∈ cs.takeWhile (!isLineEnd ·), c ∉ lineEnds := fun c hc =>
      not_isLineEnd_iff.mp (List.all_eq_true.mp List.all_takeWhile c hc)
    have hend : ∀ c ∈ (cs.dropWhile (!isLineEnd ·)).head?, c ∈ lineEnds := fun c hc =>
      isLineEnd_iff.mp (by simpa using eq_false_of_mem_head?_dropWhile hc)
    have hcomment := Writes.comment hbody hend (ih h)
    rwa [List.takeWhile_append_dropWhile] at hcomment
  | case3 c cs hcomment hignored ih => exact .ignored (isIgnored_iff.mp hignored) (ih h)
  | case4 => exact h

/-- Strings and numbers are neither punctuators nor names. -/
theorem not_isPlain_of_stringToken {cs rest : List Char} {token : Token}
    (h : stringToken cs = .ok (token, rest)) : ¬token.IsPlain := by
  unfold stringToken at h
  split at h
  all_goals
    obtain ⟨_, -, h⟩ := bind_eq_ok.mp h
    cases h
    exact id

theorem not_isPlain_of_number {cs rest : List Char} {token : Token}
    (h : number cs = .ok (token, rest)) : ¬token.IsPlain := by
  obtain ⟨_, -, h⟩ := bind_eq_ok.mp h
  obtain ⟨_, -, h⟩ := bind_eq_ok.mp h
  obtain ⟨_, -, h⟩ := bind_eq_ok.mp h
  obtain ⟨_, -, h⟩ := bind_eq_ok.mp h
  cases h
  split <;> exact id

theorem spelling_of_punctuator? {c : Char} {p : Punctuator} (h : punctuator? c = some p) :
    p.spelling.toList = [c] := by
  unfold punctuator? at h
  split at h <;> cases h <;> rfl

/-- What is read as a punctuator or a name is written as one. -/
theorem writes_of_readToken {c : Char} {after rest : List Char} {token : Token} {ts : List Token}
    (hread : readToken c after = .ok (token, rest)) (hplain : token.IsPlain) (h : Writes ts rest) :
    Writes (token :: ts) (c :: after) := by
  unfold readToken at hread
  split at hread
  · exact absurd hplain (not_isPlain_of_stringToken hread)
  split at hread
  · exact absurd hplain (not_isPlain_of_number hread)
  split at hread
  · rename_i hstart
    cases hread
    have hname : IsName (String.ofList (c :: after.takeWhile isNameContinue)) := by
      refine ⟨c, _, String.toList_ofList, isNameStart_iff.mp hstart, fun d hd => ?_⟩
      exact isNameContinue_iff.mp (List.all_eq_true.mp List.all_takeWhile d hd)
    have hend : ∀ d ∈ (after.dropWhile isNameContinue).head?, ¬IsNameCharacter d := fun d hd hd' => by
      rw [← isNameContinue_iff, eq_false_of_mem_head?_dropWhile hd] at hd'
      exact Bool.false_ne_true hd'
    have hwrites := Writes.name hname hend h
    rwa [String.toList_ofList, List.cons_append, List.takeWhile_append_dropWhile] at hwrites
  split at hread
  · rename_i hspread
    cases hread
    have hwrites := Writes.punctuator .spread h
    rwa [hspread.1, ← List.take_append_drop 2 after, hspread.2]
  split at hread
  · cases hread
  split at hread
  · rename_i p hp
    cases hread
    have hwrites := Writes.punctuator p h
    rwa [spelling_of_punctuator? hp] at hwrites
  · cases hread

end Lexer

/-- The tokens that are read from a text are those that it writes, if they are punctuators and
names. -/
theorem writes_iff {ts : List Token} {cs : List Char} :
    Writes ts cs ↔ (scan cs).2 = none ∧ tokens cs = ts ∧ ∀ t ∈ ts, t.IsPlain := by
  constructor
  · intro h
    exact ⟨(tokens_of_writes h).1, (tokens_of_writes h).2, h.isPlain⟩
  rintro ⟨hscan, rfl, hplain⟩
  rw [tokens] at hplain ⊢
  fun_induction scan cs with
  | case1 cs hskip =>
    refine Lexer.writes_of_skipIgnored ?_
    rw [hskip]
    exact .nil
  | case2 => cases hscan
  | case3 cs c after hskip token rest hread others failure hrest ih =>
    rw [hrest] at ih
    obtain ⟨htoken, hothers⟩ := List.forall_mem_cons.mp hplain
    refine Lexer.writes_of_skipIgnored ?_
    rw [hskip]
    exact Lexer.writes_of_readToken hread htoken (ih hscan hothers)

end TypeAtlas.GraphQL
