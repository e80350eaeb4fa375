import TypeAtlas.GraphQL.Parse

/-!
# Texts on lines of their own

No token goes on from one line to the next, except for block strings, which have to be closed. So the
tokens of a text are not changed by what stands on the lines after it, and are followed by the tokens
there:

* `Lexer.readToken_append`: a token that can be read is the same before a line feed;
* `Lexer.skipIgnored_append_of_cons`, `Lexer.skipIgnored_append_of_nil`: a comment ends before it;
* `scan_append`: the tokens of two texts with a line feed between them.
-/

namespace TypeAtlas.GraphQL

open Number (isDigit)
open Text (isLineEnd)

section

variable {α : Type} {p : α → Bool} {x : α} (h : p x = false) (l l' : List α)
include h

theorem takeWhile_append_cons : (l ++ x :: l').takeWhile p = l.takeWhile p := by
  induction l with
  | nil => rw [List.nil_append, List.takeWhile_cons, h]; rfl
  | cons a l ih => rw [List.cons_append, List.takeWhile_cons, List.takeWhile_cons, ih]

theorem dropWhile_append_cons : (l ++ x :: l').dropWhile p = l.dropWhile p ++ x :: l' := by
  induction l with
  | nil => rw [List.nil_append, List.dropWhile_cons, h]; rfl
  | cons a l ih =>
    rw [List.cons_append, List.dropWhile_cons, List.dropWhile_cons, ih]
    split <;> rfl

end

/-- What begins a text before a separator that is not part of it begins the text by itself. -/
theorem exists_eq_append {α : Type} (qs : List α) {cs rest ds : List α} {x : α} (hx : x ∉ qs)
    (h : cs ++ x :: ds = qs ++ rest) : ∃ after, cs = qs ++ after := by
  rcases List.append_eq_append_iff.mp h with ⟨es, rfl, hes⟩ | ⟨es, rfl, -⟩
  · cases es with
    | nil => exact ⟨[], by rw [List.append_nil, List.append_nil]⟩
    | cons e es =>
      obtain rfl := (List.cons.inj hes).1
      exact absurd (List.mem_append_right cs List.mem_cons_self) hx
  · exact ⟨es, rfl⟩

namespace Lexer

variable {cs rest : List Char} (ds : List Char)

/-! ## Numbers -/

theorem digits_append {places : List Char} (h : digits cs = .ok (places, rest)) :
    digits (cs ++ '\n' :: ds) = .ok (places, rest ++ '\n' :: ds) := by
  have hdigit : isDigit '\n' = false := by decide
  rw [digits] at h ⊢
  rw [takeWhile_append_cons hdigit, dropWhile_append_cons hdigit]
  split at h
  · cases h
  · rename_i hne
    rw [if_neg hne]
    cases h
    rfl

theorem wholePart_of_ne {c : Char} (h : c ≠ '0') (cs : List Char) :
    wholePart (c :: cs) = digits (c :: cs) := by
  unfold wholePart
  split
  · rename_i heq
    exact absurd (List.cons.inj heq).1 h
  · rfl

theorem wholePart_append {places : List Char} (h : wholePart cs = .ok (places, rest)) :
    wholePart (cs ++ '\n' :: ds) = .ok (places, rest ++ '\n' :: ds) := by
  cases cs with
  | nil => cases h
  | cons c cs =>
    by_cases hc : c = '0'
    · subst hc
      cases cs with
      | nil =>
        cases h
        rfl
      | cons c cs =>
        unfold wholePart at h
        simp only at h
        split at h
        · cases h
        · rename_i hdigit
          cases h
          exact if_neg hdigit
    · rw [wholePart_of_ne hc] at h
      exact (wholePart_of_ne hc _).trans (digits_append ds h)

theorem fractionPart_of_ne {c : Char} (h : c ≠ '.') (cs : List Char) :
    fractionPart (c :: cs) = .ok ([], c :: cs) := by
  unfold fractionPart
  split
  · rename_i heq
    exact absurd (List.cons.inj heq).1 h
  · rfl

theorem fractionPart_append {places : List Char} (h : fractionPart cs = .ok (places, rest)) :
    fractionPart (cs ++ '\n' :: ds) = .ok (places, rest ++ '\n' :: ds) := by
  cases cs with
  | nil =>
    cases h
    rfl
  | cons c cs =>
    by_cases hc : c = '.'
    · subst hc
      obtain ⟨⟨places, rest⟩, hdigits, h⟩ := bind_eq_ok.mp h
      cases h
      exact bind_eq_ok.mpr ⟨_, digits_append ds hdigits, rfl⟩
    · rw [fractionPart_of_ne hc] at h
      cases h
      exact fractionPart_of_ne hc _

theorem exponentSign_append (cs : List Char) :
    exponentSign (cs ++ '\n' :: ds) = ((exponentSign cs).1, (exponentSign cs).2 ++ '\n' :: ds) := by
  cases cs with
  | nil => rfl
  | cons c cs =>
    unfold exponentSign
    simp only [List.cons_append]
    split <;> simp_all

theorem exponentPart_append {places : List Char} (h : exponentPart cs = .ok (places, rest)) :
    exponentPart (cs ++ '\n' :: ds) = .ok (places, rest ++ '\n' :: ds) := by
  cases cs with
  | nil =>
    cases h
    rfl
  | cons c cs =>
    rw [exponentPart] at h
    rw [List.cons_append, exponentPart]
    split at h
    · rename_i hmark
      obtain ⟨⟨places, rest⟩, hdigits, h⟩ := bind_eq_ok.mp h
      cases h
      rw [if_pos hmark, exponentSign_append]
      exact bind_eq_ok.mpr ⟨_, digits_append ds hdigits, rfl⟩
    · rename_i hmark
      rw [if_neg hmark]
      cases h
      rfl

theorem endOfNumber_append (h : endOfNumber cs = .ok ()) : endOfNumber (cs ++ '\n' :: ds) = .ok () := by
  cases cs with
  | nil => rfl
  | cons c cs =>
    rw [endOfNumber] at h
    split at h
    · cases h
    · rename_i hc
      exact if_neg hc

theorem minusSign_append (cs : List Char) :
    minusSign (cs ++ '\n' :: ds) = ((minusSign cs).1, (minusSign cs).2 ++ '\n' :: ds) := by
  cases cs with
  | nil => rfl
  | cons c cs =>
    unfold minusSign
    simp only [List.cons_append]
    split <;> simp_all

theorem number_append {token : Token} (h : number cs = .ok (token, rest)) :
    number (cs ++ '\n' :: ds) = .ok (token, rest ++ '\n' :: ds) := by
  obtain ⟨⟨whole, afterWhole⟩, hwhole, h⟩ := bind_eq_ok.mp h
  obtain ⟨⟨fraction, afterFraction⟩, hfraction, h⟩ := bind_eq_ok.mp h
  obtain ⟨⟨exponent, afterExponent⟩, hexponent, h⟩ := bind_eq_ok.mp h
  obtain ⟨⟨⟩, hend, h⟩ := bind_eq_ok.mp h
  cases h
  rw [number, minusSign_append]
  refine bind_eq_ok.mpr ⟨_, wholePart_append ds hwhole, ?_⟩
  refine bind_eq_ok.mpr ⟨_, fractionPart_append ds hfraction, ?_⟩
  refine bind_eq_ok.mpr ⟨_, exponentPart_append ds hexponent, ?_⟩
  exact bind_eq_ok.mpr ⟨(), endOfNumber_append ds hend, rfl⟩

/-! ## Strings -/

theorem four_le_length_of_hexQuad? {n : Nat} (h : Text.hexQuad? cs = some n) : 4 ≤ cs.length := by
  rw [Text.hexQuad?] at h
  split at h
  · rename_i hlength
    rw [List.length_take] at hlength
    omega
  · cases h

theorem hexQuad?_append {n : Nat} (h : Text.hexQuad? cs = some n) (ds : List Char) :
    Text.hexQuad? (cs ++ ds) = some n := by
  rw [← h, Text.hexQuad?, List.take_append_of_le_length (four_le_length_of_hexQuad? h)]
  rfl

theorem fixedEscape_append {c : Char} {n : Nat} (h : fixedEscape cs = some (c, n)) (ds : List Char) :
    fixedEscape (cs ++ ds) = some (c, n) ∧ n ≤ cs.length + 1 := by
  obtain ⟨first, hfirst, h⟩ := Option.bind_eq_some_iff.mp h
  have hlength := four_le_length_of_hexQuad? hfirst
  have happend : fixedEscape (cs ++ ds) = _ :=
    congrArg (Option.bind · _) (hexQuad?_append hfirst ds)
  rw [happend, Option.bind_some, List.drop_append_of_le_length hlength]
  cases hc : Text.charOf? first with
  | some c' =>
    rw [hc] at h
    cases h
    exact ⟨rfl, Nat.succ_le_succ hlength⟩
  | none =>
    rw [hc] at h
    simp only at h
    split at h
    -- Half of a pair is completed by a second escape, of which the four digits are there, too.
    · rename_i rest hleading hrest
      obtain ⟨second, hsecond, h⟩ := Option.bind_eq_some_iff.mp h
      split at h
      · rename_i htrailing
        obtain ⟨_, hc', h⟩ := Option.bind_eq_some_iff.mp h
        cases h
        have hrestLength := four_le_length_of_hexQuad? hsecond
        have hdrop := congrArg List.length hrest
        rw [List.length_drop, List.length_cons, List.length_cons] at hdrop
        refine ⟨?_, by omega⟩
        simp only [hleading, hrest, List.cons_append]
        refine Option.bind_eq_some_iff.mpr ⟨second, hexQuad?_append hsecond ds, ?_⟩
        rw [if_pos htrailing]
        exact Option.bind_eq_some_iff.mpr ⟨_, hc', rfl⟩
      · cases h
    · cases h

theorem getLast?_eq_of_bracedChar? {c : Char} (h : bracedChar? cs = some c) :
    cs.getLast? = some '\x7d' := by
  unfold bracedChar? at h
  split at h
  · cases h
  · assumption
  · cases h

theorem bracedLength_eq (cs : List Char) : bracedLength cs =
    min (((cs.take 9).takeWhile fun c => (Text.hexDigit? c).isSome).length + 1) (cs.take 9).length :=
  rfl

theorem bracedLength_le (cs : List Char) : bracedLength cs ≤ cs.length :=
  Nat.le_trans (Nat.min_le_right _ _) (List.length_take_le' 9 cs)

/-- The closing brace of an escape is no digit, so the digits end before the window does in which they
are looked for. -/
theorem length_hexDigits_lt_of_bracedChar? {c : Char}
    (h : bracedChar? (cs.take (bracedLength cs)) = some c) :
    ((cs.take 9).takeWhile fun c => (Text.hexDigit? c).isSome).length < (cs.take 9).length := by
  have hprefix := @List.takeWhile_prefix _ (cs.take 9) fun c => (Text.hexDigit? c).isSome
  refine Nat.lt_of_le_of_ne hprefix.length_le fun heq => ?_
  have hlength : bracedLength cs = min 9 cs.length := by
    rw [bracedLength_eq, heq, List.length_take]
    omega
  have hlast := getLast?_eq_of_bracedChar? h
  rw [hlength, ← List.take_eq_take_min, ← hprefix.eq_of_length heq] at hlast
  have hbrace := List.all_eq_true.mp List.all_takeWhile _ (List.mem_of_getLast? hlast)
  exact absurd hbrace (by decide)

/-- An escape in braces is read up to the closing one, so what follows makes no difference. -/
theorem bracedLength_append {c : Char} (h : bracedChar? (cs.take (bracedLength cs)) = some c) :
    bracedLength (cs ++ '\n' :: ds) = bracedLength cs := by
  have hinside := length_hexDigits_lt_of_bracedChar? h
  rw [bracedLength_eq, bracedLength_eq]
  rcases Nat.lt_or_ge cs.length 9 with hlt | hge
  · obtain ⟨k, hk⟩ : ∃ k, 9 - cs.length = k + 1 := ⟨8 - cs.length, by omega⟩
    have hcs : cs.take 9 = cs := List.take_of_length_le (Nat.le_of_lt hlt)
    have hwindow : (cs ++ '\n' :: ds).take 9 = cs ++ '\n' :: ds.take k := by
      rw [List.take_append, hk, hcs, List.take_succ_cons]
    rw [hcs] at hinside ⊢
    rw [hwindow, takeWhile_append_cons (by decide), List.length_append]
    omega
  · rw [List.take_append_of_le_length hge]

theorem escape_append {c : Char} {n : Nat} (h : escape cs = .ok (c, n)) :
    escape (cs ++ '\n' :: ds) = .ok (c, n) ∧ n ≤ cs.length := by
  unfold escape at h
  split at h
  case h_9 cs =>
    simp only at h
    split at h
    · rename_i c' hc'
      cases h
      have hle := bracedLength_le cs
      rw [List.cons_append, List.cons_append, escape]
      rw [bracedLength_append ds hc', List.take_append_of_le_length hle, hc']
      exact ⟨rfl, Nat.add_le_add_right hle 2⟩
    · cases h
  case h_10 cs hbrace =>
    split at h
    · rename_i result hresult
      cases h
      obtain ⟨happend, hle⟩ := fixedEscape_append hresult ('\n' :: ds)
      refine ⟨?_, hle⟩
      rw [List.cons_append, escape, happend]
      rintro after hcs
      obtain ⟨after, rfl⟩ := exists_eq_append ['\x7b'] (by decide) hcs
      exact hbrace after rfl
    · cases h
  case h_11 => cases h
  all_goals
    cases h
    exact ⟨rfl, by simp⟩

theorem stringBody_append {value : List Char} (h : stringBody cs = .ok (value, rest)) :
    stringBody (cs ++ '\n' :: ds) = .ok (value, rest ++ '\n' :: ds) := by
  fun_induction stringBody cs generalizing value rest with
  | case1 => cases h
  | case2 cs =>
    cases h
    rw [List.cons_append, stringBody]
  | case3 => cases h
  | case4 cs c n hescape ih =>
    obtain ⟨⟨value, rest⟩, hbody, h⟩ := bind_eq_ok.mp h
    cases h
    obtain ⟨happend, hle⟩ := escape_append ds hescape
    rw [List.cons_append, stringBody, happend]
    dsimp only
    rw [List.drop_append_of_le_length hle]
    exact bind_eq_ok.mpr ⟨_, ih hbody, rfl⟩
  | case5 => cases h
  | case6 c cs hquote hbackslash hend ih =>
    obtain ⟨⟨value, rest⟩, hbody, h⟩ := bind_eq_ok.mp h
    cases h
    rw [List.cons_append, stringBody, if_neg hend]
    · exact bind_eq_ok.mpr ⟨_, ih hbody, rfl⟩
    · exact hquote
    · exact hbackslash

theorem blockBody_append {value : List Char} (h : blockBody cs = .ok (value, rest)) :
    blockBody (cs ++ '\n' :: ds) = .ok (value, rest ++ '\n' :: ds) := by
  fun_induction blockBody cs generalizing value rest with
  | case1 => cases h
  | case2 cs =>
    cases h
    rfl
  | case3 cs ih =>
    obtain ⟨⟨value, rest⟩, hbody, h⟩ := bind_eq_ok.mp h
    cases h
    exact bind_eq_ok.mpr ⟨_, ih hbody, rfl⟩
  | case4 c cs hquotes hescaped ih =>
    obtain ⟨⟨value, rest⟩, hbody, h⟩ := bind_eq_ok.mp h
    cases h
    rw [List.cons_append, blockBody]
    · exact bind_eq_ok.mpr ⟨_, ih hbody, rfl⟩
    · intro after hc hcs
      obtain ⟨after, rfl⟩ := exists_eq_append ['"', '"'] (by decide) hcs
      exact hquotes after hc rfl
    · intro after hc hcs
      obtain ⟨after, rfl⟩ := exists_eq_append ['"', '"', '"'] (by decide) hcs
      exact hescaped after hc rfl

theorem stringToken_append {token : Token} (h : stringToken cs = .ok (token, rest)) :
    stringToken (cs ++ '\n' :: ds) = .ok (token, rest ++ '\n' :: ds) := by
  unfold stringToken at h
  split at h
  · obtain ⟨⟨raw, rest⟩, hbody, h⟩ := bind_eq_ok.mp h
    cases h
    exact bind_eq_ok.mpr ⟨_, blockBody_append ds hbody, rfl⟩
  · rename_i hquotes
    obtain ⟨⟨value, rest⟩, hbody, h⟩ := bind_eq_ok.mp h
    cases h
    rw [stringToken]
    · exact bind_eq_ok.mpr ⟨_, stringBody_append ds hbody, rfl⟩
    · intro after hcs
      obtain ⟨after, rfl⟩ := exists_eq_append ['"', '"'] (by decide) hcs
      exact hquotes after rfl

/-! ## Tokens -/

theorem readToken_append {c : Char} {token : Token} (h : readToken c cs = .ok (token, rest)) :
    readToken c (cs ++ '\n' :: ds) = .ok (token, rest ++ '\n' :: ds) := by
  unfold readToken at h ⊢
  split at h
  · rename_i hc
    rw [if_pos hc]
    exact stringToken_append ds h
  rename_i hquote
  rw [if_neg hquote]
  split at h
  · rename_i hc
    rw [if_pos hc]
    exact number_append ds h
  rename_i hnumber
  rw [if_neg hnumber]
  split at h
  · rename_i hc
    rw [if_pos hc]
    cases h
    have hname : isNameContinue '\n' = false := by decide
    rw [takeWhile_append_cons hname, dropWhile_append_cons hname]
  rename_i hname
  rw [if_neg hname]
  split at h
  · rename_i hc
    cases h
    have hlength : 2 ≤ cs.length := by
      have := congrArg List.length hc.2
      rw [List.length_take] at this
      simp only [List.length_cons, List.length_nil] at this
      omega
    rw [List.take_append_of_le_length hlength, if_pos hc, List.drop_append_of_le_length hlength]
  rename_i hspread
  split at h
  · cases h
  rename_i hapostrophe
  split at h
  · rename_i p hp
    cases h
    have hpoint : c ≠ '.' := by
      rintro rfl
      cases hp
    rw [if_neg fun h => hpoint h.1, if_neg hapostrophe]
  · cases h

theorem skipIgnored_append_of_cons {c : Char} (h : skipIgnored cs = c :: rest) :
    skipIgnored (cs ++ '\n' :: ds) = c :: (rest ++ '\n' :: ds) := by
  fun_induction skipIgnored cs with
  | case1 => cases h
  | case2 cs ih =>
    rw [List.cons_append, skipIgnored, dropWhile_append_cons (by decide)]
    exact ih h
  | case3 c cs hcomment hignored ih =>
    rw [List.cons_append, skipIgnored, if_pos hignored]
    · exact ih h
    · exact hcomment
  | case4 c cs hcomment hignored =>
    cases h
    rw [List.cons_append, skipIgnored, if_neg hignored]
    exact hcomment

theorem skipIgnored_append_of_nil (h : skipIgnored cs = []) :
    skipIgnored (cs ++ '\n' :: ds) = skipIgnored ds := by
  fun_induction skipIgnored cs with
  | case1 =>
    rw [List.nil_append, skipIgnored, if_pos (by decide)]
    decide
  | case2 cs ih =>
    rw [List.cons_append, skipIgnored, dropWhile_append_cons (by decide)]
    exact ih h
  | case3 c cs hcomment hignored ih =>
    rw [List.cons_append, skipIgnored, if_pos hignored]
    · exact ih h
    · exact hcomment
  | case4 => cases h

end Lexer

/-- A token as it stands where a number of characters more are left. -/
def PlacedToken.before (n : Nat) (t : PlacedToken) : PlacedToken := { t with left := t.left + n }

theorem scan_congr {cs ds : List Char} (h : Lexer.skipIgnored cs = Lexer.skipIgnored ds) :
    scan cs = scan ds := by
  rw [scan.eq_def cs, scan.eq_def ds, h]

theorem scan_eq_of_readToken {cs after rest : List Char} {c : Char} {token : Token}
    (hskip : Lexer.skipIgnored cs = c :: after) (hread : Lexer.readToken c after = .ok (token, rest)) :
    scan cs = (⟨token, after.length + 1⟩ :: (scan rest).1, (scan rest).2) := by
  rw [scan.eq_def cs, hskip]
  dsimp only
  rw [hread]

/-- The tokens of two texts with a line feed between them, if the first can be read. -/
theorem scan_append {cs : List Char} {tokens : List PlacedToken} (h : scan cs = (tokens, none))
    (ds : List Char) : scan (cs ++ '\n' :: ds) =
      (tokens.map (·.before (ds.length + 1)) ++ (scan ds).1, (scan ds).2) := by
  fun_induction scan cs generalizing tokens with
  | case1 cs hskip =>
    cases h
    exact scan_congr (Lexer.skipIgnored_append_of_nil ds hskip)
  | case2 => cases h
  | case3 cs c after hskip token rest hread others failure hrest ih =>
    cases h
    have hskip' := Lexer.skipIgnored_append_of_cons ds hskip
    have hleft : (after ++ '\n' :: ds).length + 1 = after.length + 1 + (ds.length + 1) := by
      rw [List.length_append, List.length_cons]
      omega
    rw [scan_eq_of_readToken hskip' (Lexer.readToken_append ds hread), ih hrest, hleft]
    rfl

/-- A text with nothing but blanks and line ends has no tokens. -/
theorem scan_of_forall_isIgnored {cs : List Char}
    (h : ∀ c ∈ cs, Lexer.isIgnored c = true) : scan cs = ([], none) := by
  have hskip : Lexer.skipIgnored cs = [] := by
    induction cs with
    | nil => rw [Lexer.skipIgnored]
    | cons c cs ih =>
      rw [List.forall_mem_cons] at h
      rw [Lexer.skipIgnored, if_pos h.1]
      · exact ih h.2
      · rintro rfl
        exact absurd h.1 (by decide)
  rw [scan.eq_def, hskip]

/-- The tokens of a text, up to the first place where none can be read. -/
def tokens (cs : List Char) : List Token := (scan cs).1.map PlacedToken.token

/-- A text is read if there are tokens up to its end and the parser accepts them. -/
theorem parseWith_eq_ok_iff {α : Type} {parser : Parser α} {source : String} {a : α} :
    parseWith parser source = .ok a ↔
      (scan source.toList).2 = none ∧ ∃ rest, parser (tokens source.toList) = .ok (a, rest) := by
  rw [parseWith, tokens]
  obtain ⟨found, stopped⟩ := scan source.toList
  dsimp only [StateT.run]
  cases parser (found.map PlacedToken.token) with
  | ok r =>
    obtain ⟨result, rest⟩ := r
    cases stopped with
    | none => simp
    | some e => simp
  | error failure =>
    cases stopped with
    | none => simp
    | some e =>
      dsimp only
      split <;> simp

theorem tokens_append {cs : List Char} (h : (scan cs).2 = none) (ds : List Char) :
    (scan (cs ++ '\n' :: ds)).2 = (scan ds).2 ∧
      tokens (cs ++ '\n' :: ds) = tokens cs ++ tokens ds := by
  obtain ⟨found, hfound⟩ : ∃ found, scan cs = (found, none) := ⟨(scan cs).1, by rw [← h]⟩
  rw [tokens, tokens, tokens, scan_append hfound, hfound, List.map_append, List.map_map]
  exact ⟨rfl, rfl⟩

/-- The tokens of texts on lines of their own. -/
theorem tokens_intercalate {parts : List (List Char)} (h : ∀ part ∈ parts, (scan part).2 = none) :
    (scan (['\n'].intercalate parts)).2 = none ∧
      tokens (['\n'].intercalate parts) = parts.flatMap tokens := by
  induction parts with
  | nil =>
    have hnil : scan [] = ([], none) := scan_of_forall_isIgnored nofun
    rw [List.intercalate_nil, tokens, hnil]
    exact ⟨rfl, rfl⟩
  | cons part parts ih =>
    rw [List.forall_mem_cons] at h
    cases parts with
    | nil =>
      rw [List.intercalate_singleton]
      exact ⟨h.1, (List.append_nil _).symm⟩
    | cons next parts =>
      obtain ⟨hscan, htokens⟩ := ih h.2
      have happend := tokens_append h.1 (['\n'].intercalate (next :: parts))
      rw [List.intercalate_cons_cons, List.append_assoc, List.singleton_append, List.flatMap_cons,
        ← htokens]
      exact ⟨happend.1.trans hscan, happend.2⟩

end TypeAtlas.GraphQL
