import TypeAtlas.Fallible
import TypeAtlas.GraphQL.Grammar.Basic

/-!
# Reading before more tokens

Whether a parser takes the same tokens if more of them follow (`StableBefore`). A parser that leaves
tokens does, since it looks at the next token only. One that takes all of them might go on with what
follows, so this has to satisfy a condition: none can for a parser of which it is only known that it
is stable where it leaves tokens (`Local`), any does for a parser that stops at a token of its own
(`Exact`). A parser that fails at the end (`AsksBefore`) makes sure that the one before it leaves
tokens.

* `StableBefore.bind`, `StableBefore.bind_asks`: one parser after the other;
* `exact_untilClose`, `StableBefore.whileAt`: repetitions.
-/

namespace TypeAtlas.GraphQL.Parser

variable {α β : Type} {C C' : List Token → Prop} {p q : Parser α} {f : α → Parser β} {t : Token}

/-- Whether a parser that succeeds takes the same where more tokens follow. Where it takes all that
there are, those that follow have to satisfy a condition. -/
structure StableBefore (C : List Token → Prop) (p : Parser α) : Prop where
  rest_eq_nil {a : α} {rest : List Token} (h : p [] = .ok (a, rest)) : rest = []
  append {a : α} {ts rest us : List Token} (h : p ts = .ok (a, rest)) (hC : rest = [] → C us) :
    p (ts ++ us) = .ok (a, rest ++ us)

/-- Whether in addition a parser fails at the end of the tokens. -/
structure AsksBefore (C : List Token → Prop) (p : Parser α) : Prop extends StableBefore C p where
  demanding (r : α × List Token) : p [] ≠ .ok r

/-- Whether a parser that leaves tokens takes the same where more follow. -/
abbrev Local (p : Parser α) : Prop := StableBefore (fun _ => False) p

/-- Whether a parser takes some tokens and the same ones whatever follows. -/
abbrev Exact (p : Parser α) : Prop := AsksBefore (fun _ => True) p

/-- Whether a parser fails wherever it is. -/
def Failing (p : Parser α) : Prop := ∀ ts r, p ts ≠ .ok r

theorem StableBefore.mono (h : StableBefore C p) (hC : ∀ us, C' us → C us) : StableBefore C' p :=
  ⟨h.rest_eq_nil, fun hp hrest => h.append hp fun hnil => hC _ (hrest hnil)⟩

theorem StableBefore.isLocal (h : StableBefore C p) : Local p := h.mono fun _ => False.elim

theorem AsksBefore.of_exact (h : Exact p) : AsksBefore C p :=
  ⟨h.mono fun _ _ => trivial, h.demanding⟩

theorem StableBefore.of_exact (h : Exact p) : StableBefore C p := (AsksBefore.of_exact h).toStableBefore

theorem AsksBefore.of_append (hnil : ∀ r, p [] ≠ .ok r)
    (happend : ∀ {a ts rest us}, p ts = .ok (a, rest) → (rest = [] → C us) →
      p (ts ++ us) = .ok (a, rest ++ us)) : AsksBefore C p :=
  ⟨⟨fun h => absurd h (hnil _), happend⟩, hnil⟩

theorem Failing.asksBefore (h : Failing p) : AsksBefore C p :=
  .of_append (h []) fun hp _ => absurd hp (h _ _)

theorem Failing.stableBefore (h : Failing p) : StableBefore C p := h.asksBefore.toStableBefore

/-! ## One parser after the other -/

theorem bind_apply_eq_ok {ts : List Token} {r : β × List Token} :
    (p >>= f) ts = .ok r ↔ ∃ a rest, p ts = .ok (a, rest) ∧ f a rest = .ok r := by
  show (p ts >>= fun s => f s.1 s.2) = .ok r ↔ _
  rw [bind_eq_ok, Prod.exists]

theorem Failing.bind (h : Failing p) : Failing (p >>= f) := by
  intro ts r hr
  obtain ⟨a, rest, hp, -⟩ := bind_apply_eq_ok.mp hr
  exact h _ _ hp

theorem Failing.of_bind (h : ∀ a, Failing (f a)) : Failing (p >>= f) := by
  intro ts r hr
  obtain ⟨a, rest, -, hf⟩ := bind_apply_eq_ok.mp hr
  exact h a _ _ hf

namespace StableBefore

theorem pure (a : α) : StableBefore C (pure a : Parser α) := by
  constructor
  · rintro _ _ ⟨⟩
    rfl
  · rintro _ _ _ _ ⟨⟩ _
    rfl

theorem rest_eq_nil_of_bind (h : StableBefore C p) (hf : ∀ a, StableBefore C' (f a)) {b : β}
    {rest : List Token} (hr : (p >>= f) [] = .ok (b, rest)) : rest = [] := by
  obtain ⟨a, middle, hp, hb⟩ := bind_apply_eq_ok.mp hr
  obtain rfl := h.rest_eq_nil hp
  exact (hf a).rest_eq_nil hb

/-- If the second parser comes to the end, the first may have done so before. -/
theorem bind (h : StableBefore C p) (hf : ∀ a, StableBefore C (f a)) : StableBefore C (p >>= f) := by
  refine ⟨rest_eq_nil_of_bind h hf, fun {b ts rest us} hr hC => ?_⟩
  obtain ⟨a, middle, hp, hb⟩ := bind_apply_eq_ok.mp hr
  have hmiddle : middle = [] → C us := by
    rintro rfl
    exact hC ((hf a).rest_eq_nil hb)
  exact bind_apply_eq_ok.mpr ⟨a, middle ++ us, h.append hp hmiddle, (hf a).append hb hC⟩

/-- The first parser does not come to the end if the second asks for something. -/
theorem bind_asks (h : Local p) (hf : ∀ a, AsksBefore C (f a)) : AsksBefore C (p >>= f) := by
  refine .of_append (fun r hr => ?_) fun {b ts rest us} hr hC => ?_
  · obtain ⟨a, middle, hp, hb⟩ := bind_apply_eq_ok.mp hr
    obtain rfl := h.rest_eq_nil hp
    exact (hf a).demanding _ hb
  · obtain ⟨a, middle, hp, hb⟩ := bind_apply_eq_ok.mp hr
    have hmiddle : middle ≠ [] := by
      rintro rfl
      exact (hf a).demanding _ hb
    exact bind_apply_eq_ok.mpr ⟨a, middle ++ us, h.append hp hmiddle, (hf a).append hb hC⟩

theorem ite {c : Prop} [Decidable c] (hp : StableBefore C p) (hq : StableBefore C q) :
    StableBefore C (if c then p else q) := by
  split
  · exact hp
  · exact hq

end StableBefore

theorem AsksBefore.bind (h : AsksBefore C p) (hf : ∀ a, StableBefore C (f a)) :
    AsksBefore C (p >>= f) := by
  refine ⟨h.toStableBefore.bind hf, fun r hr => ?_⟩
  obtain ⟨a, rest, hp, -⟩ := bind_apply_eq_ok.mp hr
  exact h.demanding _ hp

theorem AsksBefore.ite {c : Prop} [Decidable c] (hp : AsksBefore C p) (hq : AsksBefore C q) :
    AsksBefore C (if c then p else q) := by
  split
  · exact hp
  · exact hq

namespace Exact

theorem bind (h : Exact p) (hf : ∀ a, StableBefore C (f a)) : AsksBefore C (p >>= f) :=
  AsksBefore.bind (.of_exact h) hf

theorem andThen (h : Exact p) (hf : ∀ a, StableBefore C (f a)) : StableBefore C (p >>= f) :=
  (h.bind hf).toStableBefore

theorem bind_asks (h : Exact p) (hf : ∀ a, AsksBefore C (f a)) : AsksBefore C (p >>= f) :=
  h.bind fun a => (hf a).toStableBefore

end Exact

/-! ## Single tokens -/

theorem failing_fail (fault : GrammarFault) : Failing (fail fault : Parser α) := nofun

theorem failing_failAt (left : Nat) (fault : GrammarFault) : Failing (failAt left fault : Parser α) :=
  nofun

theorem failing_unexpected : Failing (unexpected : Parser α) := nofun

theorem head?_append_of_eq_some {ts : List Token} (h : ts.head? = some t) (us : List Token) :
    (ts ++ us).head? = some t := by
  rw [List.head?_append, h, Option.some_or]

theorem accept_eq_ok_iff {ts rest : List Token} {found : Bool} : accept t ts = .ok (found, rest) ↔
    (found = true ∧ ts = t :: rest) ∨ (found = false ∧ ts = rest ∧ ts.head? ≠ some t) := by
  unfold accept
  split
  · rename_i hhead
    obtain ⟨us, rfl⟩ := List.head?_eq_some_iff.mp hhead
    simp [eq_comm]
  · rename_i hhead
    have hcons : ts ≠ t :: rest := by
      rintro rfl
      exact hhead rfl
    simp [hhead, hcons, eq_comm]

theorem require_eq_ok_iff {ts rest : List Token} {what : Expectation} {u : Unit} :
    require t what ts = .ok (u, rest) ↔ ts = t :: rest := by
  unfold require
  split
  · rename_i hhead
    obtain ⟨us, rfl⟩ := List.head?_eq_some_iff.mp hhead
    simp
  · rename_i hhead
    refine iff_of_false nofun ?_
    rintro rfl
    exact hhead rfl

theorem name_eq_ok_iff {ts rest : List Token} {text : String} :
    name ts = .ok (text, rest) ↔ ts = .name text :: rest := by
  unfold name
  split
  · simp
  · rename_i hother
    refine iff_of_false nofun ?_
    rintro rfl
    exact hother _ _ rfl

theorem exact_require (t : Token) (what : Expectation) : Exact (require t what) := by
  refine .of_append nofun fun {a ts rest us} h _ => ?_
  rw [require_eq_ok_iff] at h ⊢
  rw [h, List.cons_append]

theorem exact_name : Exact name := by
  refine .of_append nofun fun {a ts rest us} h _ => ?_
  rw [name_eq_ok_iff] at h ⊢
  rw [h, List.cons_append]

theorem local_peek : Local peek := by
  constructor
  · rintro a rest ⟨⟩
    rfl
  · rintro a ts rest us ⟨⟩ hC
    cases ts with
    | nil => exact (hC rfl).elim
    | cons first ts => rfl

theorem local_skip : Local skip := by
  constructor
  · rintro a rest ⟨⟩
    rfl
  · rintro a ts rest us ⟨⟩ hC
    cases ts with
    | nil => exact (hC rfl).elim
    | cons first ts => rfl

/-- What a parser answers about the next token it answers about the first of what follows. -/
theorem head?_append_eq_some_iff {ts us : List Token} (hC : ts = [] → us.head? ≠ some t) :
    (ts ++ us).head? = some t ↔ ts.head? = some t := by
  cases ts with
  | nil => exact iff_of_false (hC rfl) nofun
  | cons first ts => exact Iff.rfl

section

variable (hC : ∀ us, C us → us.head? ≠ some t)
include hC

theorem StableBefore.isNext : StableBefore C (isNext t) := by
  constructor
  · rintro a rest ⟨⟩
    rfl
  · rintro a ts rest us ⟨⟩ hrest
    show Except.ok (decide ((ts ++ us).head? = some t), _) = _
    rw [decide_eq_decide.mpr (head?_append_eq_some_iff fun hnil => hC us (hrest hnil))]

theorem StableBefore.accept : StableBefore C (accept t) := by
  constructor
  · rintro a rest ⟨⟩
    rfl
  · intro a ts rest us h hrest
    rcases accept_eq_ok_iff.mp h with ⟨rfl, rfl⟩ | ⟨rfl, rfl, hnext⟩
    · exact accept_eq_ok_iff.mpr (.inl ⟨rfl, rfl⟩)
    · have hnext' : (ts ++ us).head? ≠ some t := fun h =>
        hnext ((head?_append_eq_some_iff fun hnil => hC us (hrest hnil)).mp h)
      exact accept_eq_ok_iff.mpr (.inr ⟨rfl, rfl, hnext'⟩)

end

/-! ## Looking ahead -/

/-- A parser that goes by the next token and fails if there is none. -/
theorem AsksBefore.peek_bind {f : Option Token → Parser α} (hf : ∀ t, StableBefore C (f (some t)))
    (hnone : Failing (f none)) : AsksBefore C (peek >>= f) := by
  refine .of_append (fun r h => hnone [] r h) fun {a ts rest us} h hC => ?_
  cases ts with
  | nil => exact absurd h (hnone [] _)
  | cons t ts => exact (hf t).append h hC

/-- A parser that goes by the token after the next one and fails if there is none. -/
theorem AsksBefore.lookAhead_bind {f : Option Token → Parser α}
    (hf : ∀ t, StableBefore C (f (some t))) (hnone : Failing (f none)) :
    AsksBefore C (lookAhead >>= f) := by
  refine .of_append (fun r h => hnone [] r h) fun {a ts rest us} h hC => ?_
  match ts with
  | [] => exact absurd h (hnone [] _)
  | [t] => exact absurd h (hnone [t] _)
  | t :: t' :: ts => exact (hf t').append h hC

/-- Where a fault is told by the number of tokens left, this number has no influence on what is
read. -/
theorem StableBefore.tokensLeft_bind {f : Nat → Parser α} (hf : ∀ n, StableBefore C (f n))
    (hsame : ∀ m n ts r, f m ts = .ok r → f n ts = .ok r) : StableBefore C (tokensLeft >>= f) := by
  constructor
  · exact fun h => (hf 0).rest_eq_nil h
  · intro a ts rest us h hC
    exact hsame ts.length _ _ _ ((hf ts.length).append h hC)

theorem bind_congr_ok {f g : α → Parser β} {ts : List Token} {r : β × List Token}
    (hfg : ∀ a rest, f a rest = .ok r → g a rest = .ok r) (h : (p >>= f) ts = .ok r) :
    (p >>= g) ts = .ok r := by
  obtain ⟨a, rest, hp, hf⟩ := bind_apply_eq_ok.mp h
  exact bind_apply_eq_ok.mpr ⟨a, rest, hp, hfg a rest hf⟩

theorem ite_congr_ok {c : Prop} [Decidable c] {p' : Parser α} {ts : List Token}
    {r : α × List Token} (hp : Failing p) (h : (if c then p else q) ts = .ok r) :
    (if c then p' else q) ts = .ok r := by
  split at h
  · exact absurd h (hp _ _)
  · rename_i hc
    rw [if_neg hc]
    exact h

/-! ## Repetitions -/

theorem untilClose_nil_ne_ok (item : Parser α) (close : Punctuator) (r : List α × List Token) :
    untilClose item close [] ≠ .ok r := by
  intro h
  rw [untilClose, if_neg (by nofun)] at h
  split at h
  · cases h
  · rename_i first rest hfirst
    have hlt : ¬rest.length < ([] : List Token).length := Nat.not_lt_zero _
    rw [if_neg hlt] at h
    cases h

theorem ne_nil_of_length_lt {ts rest : List Token} (h : rest.length < ts.length) : ts ≠ [] :=
  List.ne_nil_of_length_pos (Nat.zero_lt_of_lt h)

theorem length_append_lt {ts rest : List Token} (h : rest.length < ts.length) (us : List Token) :
    (rest ++ us).length < (ts ++ us).length := by
  rw [List.length_append, List.length_append]
  omega

/-- Items are read up to a token that is taken as well. By induction on the tokens: before it comes
to that token, the repetition leaves tokens. -/
theorem exact_untilClose {item : Parser α} (hitem : Local item) (close : Punctuator) :
    Exact (untilClose item close) := by
  refine .of_append (untilClose_nil_ne_ok item close) fun {l ts rest us} h _ => ?_
  fun_induction untilClose item close ts generalizing l with
  | case1 ts hclose =>
    cases h
    rw [untilClose, if_pos (head?_append_of_eq_some hclose us), List.tail_append_of_ne_nil]
    rintro rfl
    cases hclose
  | case2 => cases h
  | case3 => cases h
  | case4 ts hclose first middle hfirst hlt others after hothers ih =>
    cases h
    -- Had the item come to the end, the closing token would be missing.
    have hmiddle : middle ≠ [] := by
      rintro rfl
      exact untilClose_nil_ne_ok item close _ hothers
    have hne := ne_nil_of_length_lt hlt
    have hfirst' : item (ts ++ us) = .ok (first, middle ++ us) := hitem.append hfirst hmiddle
    rw [untilClose, if_neg fun h => hclose ((head?_append_eq_some_iff (absurd · hne)).mp h), hfirst']
    dsimp only
    rw [if_pos (length_append_lt hlt us), ih hothers]
  | case5 => cases h

theorem StableBefore.whileAt {start : Punctuator} {item : Parser α} (hitem : StableBefore C item)
    (hC : ∀ us, C us → us.head? ≠ some (.punctuator start)) :
    StableBefore C (whileAt start item) := by
  constructor
  · intro l rest h
    rw [Parser.whileAt, if_neg (by nofun)] at h
    cases h
    rfl
  · intro l ts rest us h hrest
    fun_induction Parser.whileAt start item ts generalizing l with
    | case1 ts hstart e => cases h
    | case2 => cases h
    | case3 ts hstart first middle hfirst hlt others after hothers ih =>
      cases h
      -- If the item comes to the end, the repetition ends there as well.
      have hmiddle : middle = [] → C us := by
        rintro rfl
        rw [Parser.whileAt, if_neg (by nofun)] at hothers
        cases hothers
        exact hrest rfl
      rw [Parser.whileAt, if_pos (head?_append_of_eq_some hstart us), hitem.append hfirst hmiddle]
      dsimp only
      rw [if_pos (length_append_lt hlt us), ih hothers]
    | case4 => cases h
    | case5 ts hstart =>
      cases h
      rw [Parser.whileAt, if_neg]
      exact fun h => hstart ((head?_append_eq_some_iff fun hnil => hC us (hrest hnil)).mp h)

theorem exact_any {item : Parser α} (hitem : Local item) (opening close : Punctuator) :
    Exact (any opening item close) :=
  (exact_require _ _).bind_asks fun _ => exact_untilClose hitem close

theorem exact_many {item : Parser α} (hitem : Local item) (opening close : Punctuator) :
    Exact (many opening item close) := by
  have hothers := exact_untilClose hitem close
  refine (exact_require _ _).bind_asks fun _ => hitem.bind_asks fun first => ?_
  exact hothers.bind fun others => .pure _

theorem StableBefore.optionalMany {opening close : Punctuator} {item : Parser α} (hitem : Local item)
    (hC : ∀ us, C us → us.head? ≠ some (.punctuator opening)) :
    StableBefore C (optionalMany opening item close) := by
  refine (StableBefore.isNext hC).bind fun isNext => .ite ?_ (.pure _)
  exact .of_exact (exact_many hitem opening close)

theorem StableBefore.delimited {separator : Punctuator} {item : Parser α}
    (hitem : StableBefore C item)
    (hC : ∀ us, C us → us.head? ≠ some (.punctuator separator)) :
    StableBefore C (delimited separator item) := by
  refine (StableBefore.accept hC).bind fun _ => hitem.bind fun first => ?_
  have hothers : StableBefore C (do punctuator separator; item) :=
    (exact_require _ _).andThen fun _ => hitem
  exact (hothers.whileAt hC).bind fun others => .pure _

end TypeAtlas.GraphQL.Parser
