import Mathlib.Data.List.Chain
import TypeAtlas.Proofs.GraphQL.Continuation
import TypeAtlas.Proofs.GraphQL.Lexemes
import TypeAtlas.Proofs.Resolver.NormalForm

/-!
# Type references and their texts

A reference is read from its own tokens and from no others, so it is read from the texts that write
these, of which its spelling is one:

* `Parser.readsBelow_typeReferenceWithin`: the references that are read, by the number of lists inside
  one another (`Parser.ReadsBelow`);
* `TypeExpr.parse_eq_ok_iff`: the texts of a reference, by its tokens;
* `TypeExpr.writes_spelling`: the spelling of a reference writes its tokens;
* `TypeExpr.not_malformed_tokens`: what the tokens of no reference look like;
* `TypeExpr.parse_iff_sameTokens`: the texts of a reference, by its spelling. All others are errors.
-/

namespace TypeAtlas.GraphQL

namespace TypeExpr

/-- The tokens of a reference. -/
def tokens : TypeExpr → List Token
  | named name => [.name name]
  | list element => .punctuator .bracketL :: (element.tokens ++ [.punctuator .bracketR])
  | nonNull type => type.tokens ++ [.punctuator .bang]

/-- Whether the outermost wrapper excludes null. -/
def isNonNull : TypeExpr → Bool
  | nonNull _ => true
  | _ => false

/-- Whether no wrapper that excludes null is directly around another one. -/
def MarksOnce : TypeExpr → Prop
  | named _ => True
  | list element => element.MarksOnce
  | nonNull type => type.isNonNull = false ∧ type.MarksOnce

theorem tokens_list_append (element : TypeExpr) (us : List Token) :
    element.list.tokens ++ us =
      .punctuator .bracketL :: (element.tokens ++ .punctuator .bracketR :: us) := by
  rw [tokens, List.cons_append, List.append_assoc, List.singleton_append]

theorem tokens_nonNull_append (type : TypeExpr) (us : List Token) :
    type.nonNull.tokens ++ us = type.tokens ++ .punctuator .bang :: us := by
  rw [tokens, List.append_assoc, List.singleton_append]

end TypeExpr

namespace Parser

variable {t : Token} {ts rest : List Token} {e : TypeExpr}

/-! ## One reference -/

/-- Reads the mark that may stand after a name or brackets. -/
def marked (type : TypeExpr) : Parser TypeExpr := do
  if ← accept (.punctuator .bang) then return .nonNull type else return type

theorem marked_eq_ok_iff {type : TypeExpr} : marked type ts = .ok (e, rest) ↔
    (ts = .punctuator .bang :: rest ∧ e = .nonNull type) ∨
      (ts = rest ∧ e = type ∧ rest.head? ≠ some (.punctuator .bang)) := by
  rw [marked, bind_apply_eq_ok]
  constructor
  · rintro ⟨_, us, haccept, h⟩
    rcases accept_eq_ok_iff.mp haccept with ⟨rfl, rfl⟩ | ⟨rfl, rfl, hnext⟩
    · cases h
      exact .inl ⟨rfl, rfl⟩
    · cases h
      exact .inr ⟨rfl, rfl, hnext⟩
  · rintro (⟨rfl, rfl⟩ | ⟨rfl, rfl, hnext⟩)
    · exact ⟨true, rest, accept_eq_ok_iff.mpr (.inl ⟨rfl, rfl⟩), rfl⟩
    · exact ⟨false, ts, accept_eq_ok_iff.mpr (.inr ⟨rfl, rfl, hnext⟩), rfl⟩

theorem typeReferenceOver_eq (element : Parser TypeExpr) : typeReferenceOver element = (do
    if ← accept (.punctuator .bracketL) then do
      let type ← element
      punctuator .bracketR
      marked (.list type)
    else marked (.named (← name))) := rfl

theorem typeReferenceOver_eq_ok_iff {element : Parser TypeExpr} :
    typeReferenceOver element ts = .ok (e, rest) ↔
      (∃ us type vs, ts = .punctuator .bracketL :: us ∧
        element us = .ok (type, .punctuator .bracketR :: vs) ∧ marked (.list type) vs = .ok (e, rest)) ∨
      ∃ text us, ts = .name text :: us ∧ marked (.named text) us = .ok (e, rest) := by
  rw [typeReferenceOver_eq, bind_apply_eq_ok]
  constructor
  · rintro ⟨_, us, haccept, h⟩
    rcases accept_eq_ok_iff.mp haccept with ⟨rfl, rfl⟩ | ⟨rfl, rfl, -⟩
    · obtain ⟨type, vs, htype, h⟩ := bind_apply_eq_ok.mp h
      obtain ⟨_, ws, hclose, h⟩ := bind_apply_eq_ok.mp h
      obtain rfl := require_eq_ok_iff.mp hclose
      exact .inl ⟨us, type, ws, rfl, htype, h⟩
    · obtain ⟨text, vs, hname, h⟩ := bind_apply_eq_ok.mp h
      obtain rfl := name_eq_ok_iff.mp hname
      exact .inr ⟨text, vs, rfl, h⟩
  · rintro (⟨us, type, vs, rfl, htype, h⟩ | ⟨text, us, rfl, h⟩)
    · refine ⟨true, us, accept_eq_ok_iff.mpr (.inl ⟨rfl, rfl⟩), ?_⟩
      refine bind_apply_eq_ok.mpr ⟨type, _, htype, ?_⟩
      exact bind_apply_eq_ok.mpr ⟨(), vs, require_eq_ok_iff.mpr rfl, h⟩
    · refine ⟨false, .name text :: us, accept_eq_ok_iff.mpr (.inr ⟨rfl, rfl, nofun⟩), ?_⟩
      exact bind_apply_eq_ok.mpr ⟨text, us, name_eq_ok_iff.mpr rfl, h⟩

/-- Whether a parser reads exactly the references with fewer lists than a number, each from its own
tokens and, unless it ends with an exclamation mark, before anything else than one. -/
def ReadsBelow (n : Nat) (p : Parser TypeExpr) : Prop :=
  ∀ ts e rest, p ts = .ok (e, rest) ↔ e.MarksOnce ∧ e.listCount < n ∧ ts = e.tokens ++ rest ∧
    (e.isNonNull = false → rest.head? ≠ some (.punctuator .bang))

theorem readsBelow_fail (fault : GrammarFault) : ReadsBelow 0 (fail fault) := by
  intro ts e rest
  refine iff_of_false (failing_fail fault ts _) ?_
  rintro ⟨-, hcount, -⟩
  exact Nat.not_lt_zero _ hcount

/-- A mark is part of the reference that it ends. -/
theorem of_marked {type : TypeExpr} (h : marked type ts = .ok (e, rest)) (hbare : type.isNonNull = false)
    (honce : type.MarksOnce) : e.MarksOnce ∧ e.listCount = type.listCount ∧
      type.tokens ++ ts = e.tokens ++ rest ∧
      (e.isNonNull = false → rest.head? ≠ some (.punctuator .bang)) := by
  rcases marked_eq_ok_iff.mp h with ⟨rfl, rfl⟩ | ⟨rfl, rfl, hnext⟩
  · exact ⟨⟨hbare, honce⟩, rfl, (TypeExpr.tokens_nonNull_append type rest).symm, nofun⟩
  · exact ⟨honce, rfl, rfl, fun _ => hnext⟩

/-- Under at most one mark a reference is a name or a list. -/
theorem exists_marked (honce : e.MarksOnce)
    (hnext : e.isNonNull = false → rest.head? ≠ some (.punctuator .bang)) :
    ∃ type us, type.isNonNull = false ∧ type.MarksOnce ∧ type.listCount = e.listCount ∧
      type.tokens ++ us = e.tokens ++ rest ∧ marked type us = .ok (e, rest) := by
  cases e with
  | named text =>
    exact ⟨_, rest, rfl, honce, rfl, rfl, marked_eq_ok_iff.mpr (.inr ⟨rfl, rfl, hnext rfl⟩)⟩
  | list element =>
    exact ⟨_, rest, rfl, honce, rfl, rfl, marked_eq_ok_iff.mpr (.inr ⟨rfl, rfl, hnext rfl⟩)⟩
  | nonNull type =>
    have htokens := (TypeExpr.tokens_nonNull_append type rest).symm
    exact ⟨type, _, honce.1, honce.2, rfl, htokens, marked_eq_ok_iff.mpr (.inl ⟨rfl, rfl⟩)⟩

theorem ReadsBelow.typeReferenceOver {n : Nat} {element : Parser TypeExpr} (h : ReadsBelow n element) :
    ReadsBelow (n + 1) (typeReferenceOver element) := by
  intro ts e rest
  rw [typeReferenceOver_eq_ok_iff]
  constructor
  · rintro (⟨us, type, vs, rfl, htype, hmark⟩ | ⟨text, us, rfl, hmark⟩)
    · obtain ⟨honce, hcount, rfl, -⟩ := (h _ _ _).mp htype
      obtain ⟨honce', hcount', htokens, hnext⟩ := of_marked hmark rfl honce
      rw [TypeExpr.tokens_list_append] at htokens
      exact ⟨honce', hcount' ▸ Nat.succ_lt_succ hcount, htokens, hnext⟩
    · obtain ⟨honce', hcount', htokens, hnext⟩ := of_marked hmark rfl trivial
      exact ⟨honce', hcount' ▸ n.succ_pos, htokens, hnext⟩
  · rintro ⟨honce, hcount, rfl, hnext⟩
    obtain ⟨type, us, hbare, honce', hcount', htokens, hmark⟩ := exists_marked honce hnext
    rw [← htokens]
    rw [← hcount'] at hcount
    cases type with
    | named text => exact .inr ⟨text, us, rfl, hmark⟩
    | list inner =>
      rw [TypeExpr.tokens_list_append]
      have hcount : inner.listCount < n := Nat.lt_of_succ_lt_succ hcount
      have hinner := (h _ inner (.punctuator .bracketR :: us)).mpr ⟨honce', hcount, rfl, fun _ => nofun⟩
      exact .inl ⟨_, inner, us, rfl, hinner, hmark⟩
    | nonNull type => cases hbare

/-- What is read at each depth has one list more around it than what is read one deeper. -/
theorem readsBelow_typeReferenceWithin (depth : Nat) :
    ReadsBelow (depth + 1) (typeReferenceWithin depth) := by
  induction depth with
  | zero => exact (readsBelow_fail .tooDeep).typeReferenceOver
  | succ depth ih => exact ih.typeReferenceOver

theorem wholeTypeReference_eq_ok_iff : wholeTypeReference ts = .ok (e, rest) ↔
    e.MarksOnce ∧ e.listCount ≤ depthLimit ∧ ts = e.tokens ∧ rest = [] := by
  rw [wholeTypeReference, bind_apply_eq_ok]
  have hreads := readsBelow_typeReferenceWithin depthLimit
  constructor
  · rintro ⟨type, us, htype, h⟩
    obtain ⟨honce, hcount, rfl, -⟩ := (hreads _ _ _).mp htype
    cases us with
    | nil =>
      cases h
      exact ⟨honce, Nat.le_of_lt_succ hcount, List.append_nil _, rfl⟩
    | cons next us => cases h
  · rintro ⟨honce, hcount, rfl, rfl⟩
    have htype := (hreads _ _ []).mpr
      ⟨honce, Nat.lt_succ_of_le hcount, (List.append_nil _).symm, fun _ => nofun⟩
    exact ⟨e, [], htype, rfl⟩

end Parser

namespace TypeExpr

variable {e : TypeExpr}

theorem isPlain_of_mem_tokens {t : Token} (h : t ∈ e.tokens) : t.IsPlain := by
  induction e with
  | named text =>
    obtain rfl := List.mem_singleton.mp h
    trivial
  | list element ih =>
    rw [tokens, List.mem_cons, List.mem_append, List.mem_singleton] at h
    rcases h with rfl | h | rfl
    · trivial
    · exact ih h
    · trivial
  | nonNull type ih =>
    rw [tokens, List.mem_append, List.mem_singleton] at h
    rcases h with h | rfl
    · exact ih h
    · trivial

theorem name_mem_tokens (e : TypeExpr) : .name e.leafName ∈ e.tokens := by
  induction e with
  | named text => exact List.mem_singleton_self _
  | list element ih => exact List.mem_cons_of_mem _ (List.mem_append_left _ ih)
  | nonNull type ih => exact List.mem_append_left _ ih

/-- The texts of a reference are those that write its tokens. -/
theorem parse_eq_ok_iff {source : String} : parse source = .ok e ↔
    e.MarksOnce ∧ e.listCount ≤ 200 ∧ Writes e.tokens source.toList := by
  rw [parse, parseWith_eq_ok_iff, writes_iff]
  simp only [Parser.wholeTypeReference_eq_ok_iff]
  constructor
  · rintro ⟨hscan, _, honce, hcount, htokens, -⟩
    exact ⟨honce, hcount, hscan, htokens, fun _ => isPlain_of_mem_tokens⟩
  · rintro ⟨honce, hcount, hscan, htokens, -⟩
    exact ⟨hscan, [], honce, hcount, htokens, rfl⟩

/-- The spelling of a reference writes its tokens, before anything that does not go on with a name. -/
theorem writes_spelling {ts : List Token} {cs : List Char} (hname : IsName e.leafName)
    (h : Writes ts cs) (hend : ∀ c ∈ cs.head?, ¬IsNameCharacter c) :
    Writes (e.tokens ++ ts) (e.spelling.toList ++ cs) := by
  induction e generalizing ts cs with
  | named text => exact .name hname hend h
  | list element ih =>
    have hclose : Writes (.punctuator .bracketR :: ts) (']' :: cs) := .punctuator .bracketR h
    have hinside := ih hname hclose (by rintro _ ⟨⟩; decide)
    have hopen := Writes.punctuator .bracketL hinside
    rw [tokens_list_append, spelling, String.toList_append, String.toList_append, List.append_assoc,
      List.append_assoc]
    exact hopen
  | nonNull type ih =>
    have hmark : Writes (.punctuator .bang :: ts) ('!' :: cs) := .punctuator .bang h
    have hmarked := ih hname hmark (by rintro _ ⟨⟩; decide)
    rw [tokens_nonNull_append, spelling, String.toList_append, List.append_assoc]
    exact hmarked

/-! ## What tokens a reference has -/

theorem tokens_ne_nil (e : TypeExpr) : e.tokens ≠ [] := List.ne_nil_of_mem e.name_mem_tokens

theorem count_brackets (e : TypeExpr) :
    e.tokens.count (.punctuator .bracketL) = e.tokens.count (.punctuator .bracketR) := by
  induction e with
  | named text => rfl
  | list element ih => simp [tokens, List.count_append, ih]
  | nonNull type ih => simp [tokens, List.count_append, ih]

theorem getLast?_tokens (h : e.isNonNull = false) : e.tokens.getLast? ≠ some (.punctuator .bang) := by
  cases e with
  | named text => simp [tokens]
  | list element =>
    rw [tokens, ← List.cons_append, List.getLast?_concat]
    nofun
  | nonNull type => cases h

/-- No two exclamation marks stand together. -/
theorem isChain_tokens (h : e.MarksOnce) :
    e.tokens.IsChain fun t u => ¬(t = .punctuator .bang ∧ u = .punctuator .bang) := by
  induction e with
  | named text => exact .singleton _
  | list element ih =>
    rw [tokens, List.isChain_cons, List.isChain_append]
    refine ⟨?_, ih h, .singleton _, ?_⟩
    · rintro _ _ ⟨hbang, -⟩
      cases hbang
    · rintro _ _ _ ⟨⟩ ⟨-, hbang⟩
      cases hbang
  | nonNull type ih =>
    rw [tokens, List.isChain_append]
    refine ⟨ih h.2, .singleton _, ?_⟩
    rintro t ht _ - ⟨rfl, -⟩
    exact getLast?_tokens h.1 ht

/-- Reading a reference stops where it ends, so none begins another one. -/
theorem eq_nil_of_tokens_eq {e e' : TypeExpr} {us : List Token} (h : e.MarksOnce) (h' : e'.MarksOnce)
    (hnext : us.head? ≠ some (.punctuator .bang)) (htokens : e.tokens = e'.tokens ++ us) : us = [] := by
  have hreads := Parser.readsBelow_typeReferenceWithin (e.listCount + e'.listCount)
  have hread := (hreads e.tokens e []).mpr
    ⟨h, by omega, (List.append_nil _).symm, fun _ => nofun⟩
  have hread' := (hreads e.tokens e' us).mpr ⟨h', by omega, htokens, fun _ => hnext⟩
  rw [hread] at hread'
  cases hread'
  rfl

/-! ## The texts of a reference -/

/-- Whether two texts write the same punctuators and names. -/
def SameTokens (s t : String) : Prop := ∃ ts, Writes ts s.toList ∧ Writes ts t.toList

/-- Whether there are texts of a reference: it is called by a name, no two of its exclamation marks stand
together, and it has no more lists inside one another than are read. -/
structure IsWritable (e : TypeExpr) : Prop where
  name : IsName e.leafName
  marks : e.MarksOnce
  depth : e.listCount ≤ 200

/-- Tokens that no reference has. -/
inductive Malformed : List Token → Prop
  | blank : Malformed []
  | unbalanced {ts : List Token}
    (h : ts.count (.punctuator .bracketL) ≠ ts.count (.punctuator .bracketR)) : Malformed ts
  | markedTwice (before after : List Token) :
    Malformed (before ++ .punctuator .bang :: .punctuator .bang :: after)
  | trailing {e : TypeExpr} {ts : List Token} {t : Token} (h : e.IsWritable)
    (hts : Writes ts e.spelling.toList) (ht : t ≠ .punctuator .bang) (after : List Token) :
    Malformed (ts ++ t :: after)

theorem writes_tokens_spelling (hname : IsName e.leafName) : Writes e.tokens e.spelling.toList := by
  have hwrites := writes_spelling hname .nil nofun
  rwa [List.append_nil, List.append_nil] at hwrites

theorem sameTokens_spelling_iff {source : String} (hname : IsName e.leafName) :
    SameTokens source e.spelling ↔ Writes e.tokens source.toList := by
  have hspelling := writes_tokens_spelling hname
  constructor
  · rintro ⟨ts, hsource, hts⟩
    rwa [hts.unique hspelling] at hsource
  · exact fun hsource => ⟨e.tokens, hsource, hspelling⟩

theorem parse_eq_ok_iff_sameTokens {source : String} :
    parse source = .ok e ↔ e.IsWritable ∧ SameTokens source e.spelling := by
  rw [parse_eq_ok_iff]
  constructor
  · rintro ⟨hmarks, hdepth, hwrites⟩
    have hname := hwrites.isName e.name_mem_tokens
    exact ⟨⟨hname, hmarks, hdepth⟩, (sameTokens_spelling_iff hname).mpr hwrites⟩
  · rintro ⟨⟨hname, hmarks, hdepth⟩, hsame⟩
    exact ⟨hmarks, hdepth, (sameTokens_spelling_iff hname).mp hsame⟩

theorem parse_spelling_iff : parse e.spelling = .ok e ↔ e.IsWritable := by
  rw [parse_eq_ok_iff_sameTokens]
  refine and_iff_left_of_imp fun h => ?_
  exact (sameTokens_spelling_iff h.name).mpr (writes_tokens_spelling h.name)

theorem not_malformed_tokens (h : e.MarksOnce) : ¬Malformed e.tokens := by
  generalize htokens : e.tokens = ts
  rintro (_ | hcount | ⟨before, after⟩ | ⟨he', hts, ht, after⟩)
  · exact e.tokens_ne_nil htokens
  · exact hcount (htokens ▸ e.count_brackets)
  · have hchain := isChain_tokens h
    rw [htokens, List.isChain_append, List.isChain_cons_cons] at hchain
    exact hchain.2.1.1 ⟨rfl, rfl⟩
  · rw [hts.unique (writes_tokens_spelling he'.name)] at htokens
    have hnil := eq_nil_of_tokens_eq h he'.marks (by simpa using ht) htokens
    cases hnil

/-- A reference is read from the texts that write what its spelling writes, if it is writable. From its
spelling it is read again, and texts of no reference are errors. -/
theorem parse_iff_sameTokens (source : String) :
    (∀ e, parse source = .ok e ↔ e.IsWritable ∧ SameTokens source e.spelling) ∧
    (∀ e, parse e.spelling = .ok e ↔ e.IsWritable) ∧
    (∀ e, parse source = .ok e → parse e.spelling = .ok e) ∧
    ((∃ fault, parse source = .error fault) ↔
      ¬∃ e : TypeExpr, e.IsWritable ∧ SameTokens source e.spelling) ∧
    ∀ ts, Writes ts source.toList → Malformed ts → ∃ fault, parse source = .error fault := by
  refine ⟨fun e => parse_eq_ok_iff_sameTokens, fun e => parse_spelling_iff, fun e h => ?_, ?_, ?_⟩
  · exact parse_spelling_iff.mpr (parse_eq_ok_iff_sameTokens.mp h).1
  · simp only [exists_eq_error_iff, ne_eq, parse_eq_ok_iff_sameTokens, not_exists]
  · intro ts hts hmalformed
    refine exists_eq_error_iff.mpr fun e h => ?_
    obtain ⟨hmarks, -, hwrites⟩ := parse_eq_ok_iff.mp h
    rw [hts.unique hwrites] at hmalformed
    exact not_malformed_tokens hmarks hmalformed

/-- A comma, a comment and the end of its line make no difference. -/
theorem parse_with_comment :
    parse "[Show!,] # \n!" = .ok (.nonNull (.list (.nonNull (.named "Show")))) := by
  have hname : IsName "Show" := ⟨'S', ['h', 'o', 'w'], rfl, by decide, by simp [IsNameCharacter]⟩
  have hmark : Writes [.punctuator .bang] ['\n', '!'] := .ignored (by decide) (.punctuator .bang .nil)
  have hcomment : Writes [.punctuator .bang] ([' ', '#'] ++ [' '] ++ ['\n', '!']) :=
    .ignored (by decide) (.comment (by simp [lineEnds]) (by simp [lineEnds]) hmark)
  have hclose : Writes [.punctuator .bracketR, .punctuator .bang] [',', ']', ' ', '#', ' ', '\n', '!'] :=
    .ignored (by decide) (.punctuator .bracketR hcomment)
  have hshow : Writes _ ("Show".toList ++ _) :=
    .name hname (by rintro _ ⟨⟩; decide) (.punctuator .bang hclose)
  have hsource := Writes.punctuator .bracketL hshow
  have hspelling := @writes_tokens_spelling (.nonNull (.list (.nonNull (.named "Show")))) hname
  exact ((parse_iff_sameTokens _).1 _).mpr
    ⟨⟨hname, ⟨rfl, rfl, trivial⟩, by decide⟩, _, hsource, hspelling⟩

/-- With one list more than are read a reference is not read from its own spelling, although its name
is one and it has no exclamation marks. -/
theorem parse_spelling_too_deep :
    let e := Nat.repeat TypeExpr.list 201 (.named "A")
    IsName e.leafName ∧ e.MarksOnce ∧ SameTokens e.spelling e.spelling ∧ parse e.spelling ≠ .ok e := by
  intro e
  have hleaf : e.leafName = "A" := rfl
  have hname : IsName e.leafName := hleaf ▸ ⟨'A', [], rfl, by decide, nofun⟩
  have hcount : e.listCount = 201 := rfl
  have hspelling := writes_tokens_spelling hname
  refine ⟨hname, trivial, ⟨_, hspelling, hspelling⟩, fun h => ?_⟩
  have hdepth := (parse_spelling_iff.mp h).depth
  omega

end TypeExpr

end TypeAtlas.GraphQL
