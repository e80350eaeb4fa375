import TypeAtlas.GraphQL.Grammar.Document
import TypeAtlas.Proofs.GraphQL.Continuation

/-!
# One definition after the other

The parsers of the grammar, in the order of the grammar, with what each of them needs to be followed
by. What stands in brackets is read by parsers that are followed by a closing bracket, so these may
look at the next token (`local_…`). What ends a definition is followed by the beginning of another
(`closed_…`), which is a word of its own or a description, unless the definition is a bare selection
set. Selection sets stop at a token of their own (`exact_…`).

* `asksBefore_definition`: a definition that is complete is not continued by the beginning of another;
* `document_append`: the definitions of two documents, one after the other.
-/

namespace TypeAtlas.GraphQL.Parser

variable {α β : Type} {C : List Token → Prop}

/-! ## Values and directives -/

theorem local_variableValue (constant : Bool) : Local (variableValue constant) := by
  refine .tokensLeft_bind (fun left => ?_) fun m n ts r h => ?_
  · refine (exact_require _ _).andThen fun _ => .ite ?_ ?_
    · refine local_peek.bind fun next => ?_
      split
      · exact (failing_failAt left _).stableBefore
      · exact (failing_failAt left _).stableBefore
    · exact exact_name.andThen fun _ => .pure _
  · refine bind_congr_ok (fun _ _ => ite_congr_ok (.of_bind fun next => ?_)) h
    split
    · exact failing_failAt m _
    · exact failing_failAt m _

theorem local_valueOver (constant : Bool) {list object : Parser Value} (hlist : Local list)
    (hobject : Local object) : Local (valueOver constant list object) := by
  refine local_peek.bind fun next => ?_
  split
  · exact hlist
  · exact hobject
  · exact local_variableValue constant
  all_goals first
    | exact local_skip.bind fun _ => .pure _
    | exact failing_unexpected.stableBefore

theorem local_objectField {value : Parser Value} (hvalue : Local value) :
    Local (objectField value) := by
  refine exact_name.andThen fun field => ?_
  exact (exact_require _ _).andThen fun _ => hvalue.bind fun _ => .pure _

theorem local_value (constant : Bool) (depth : Nat) : Local (value constant depth) := by
  induction depth with
  | zero =>
    have hfail : Local (fail .tooDeep : Parser Value) := (failing_fail _).stableBefore
    exact local_valueOver constant hfail hfail
  | succ depth ih =>
    refine local_valueOver constant ?_ ?_
    · exact (exact_any ih _ _).andThen fun _ => .pure _
    · exact (exact_any (local_objectField ih) _ _).andThen fun _ => .pure _

theorem local_argument (constant : Bool) (depth : Nat) : Local (argument constant depth) := by
  refine exact_name.andThen fun argument => (exact_require _ _).andThen fun _ => ?_
  exact (local_value constant depth).bind fun _ => .pure _

section

variable (hC : ∀ us p, C us → us.head? ≠ some (.punctuator p)) (constant : Bool) (depth : Nat)
include hC

theorem stableBefore_arguments : StableBefore C (arguments constant depth) :=
  .optionalMany (local_argument constant depth) fun us => hC us _

theorem stableBefore_directives : StableBefore C (directives constant depth) := by
  refine .whileAt ?_ fun us => hC us _
  refine (exact_require _ _).andThen fun _ => exact_name.andThen fun _ => ?_
  exact (stableBefore_arguments hC constant depth).bind fun _ => .pure _

end

theorem local_arguments (constant : Bool) (depth : Nat) : Local (arguments constant depth) :=
  stableBefore_arguments (fun _ _ => False.elim) constant depth

theorem local_directives (constant : Bool) (depth : Nat) : Local (directives constant depth) :=
  stableBefore_directives (fun _ _ => False.elim) constant depth

/-! ## Operations and fragments -/

theorem local_accept (t : Token) : Local (accept t) := .accept fun _ => False.elim

theorem local_isNext (t : Token) : Local (isNext t) := .isNext fun _ => False.elim

theorem local_description : Local description :=
  local_peek.bind fun _ => .ite local_skip (.pure _)

theorem local_fragmentName : Local fragmentName :=
  local_peek.bind fun _ => .ite failing_unexpected.stableBefore (.of_exact exact_name)

theorem local_field {selections : Parser Unit} (h : Local selections) (depth : Nat) :
    Local (field selections depth) := by
  have hrest : Local (do
      let _ ← arguments false depth
      let _ ← directives false depth
      if ← isNext (.punctuator .braceL) then selections) := by
    refine (local_arguments false depth).bind fun _ => (local_directives false depth).bind fun _ => ?_
    exact (local_isNext _).bind fun _ => .ite h (.pure _)
  refine exact_name.andThen fun _ => (local_accept _).bind fun _ => .ite ?_ hrest
  exact exact_name.andThen fun _ => hrest

theorem local_spread {selections : Parser Unit} (h : Local selections) (depth : Nat) :
    Local (spread selections depth) := by
  have hrest : Local (do let _ ← directives false depth; selections) :=
    (local_directives false depth).bind fun _ => h
  refine (exact_require _ _).andThen fun _ => (local_accept _).bind fun _ => .ite ?_ ?_
  · exact exact_name.andThen fun _ => hrest
  · refine local_peek.bind fun _ => .ite ?_ hrest
    exact local_fragmentName.bind fun _ => (local_directives false depth).bind fun _ => .pure _

theorem local_selection {selections : Parser Unit} (h : Local selections) (depth : Nat) :
    Local (selection selections depth) :=
  (local_isNext _).bind fun _ => .ite (local_spread h depth) (local_field h depth)

theorem exact_selectionSet (depth : Nat) : Exact (selectionSet depth) := by
  induction depth with
  | zero => exact (failing_fail _).asksBefore
  | succ depth ih =>
    have hselection := local_selection ih.isLocal depth
    exact (exact_many hselection _ _).bind fun _ => .pure _

theorem local_typeReferenceOver {element : Parser TypeExpr} (h : Local element) :
    Local (typeReferenceOver element) := by
  have hrest (type : TypeExpr) : Local (do
      if ← accept (.punctuator .bang) then return .nonNull type else return type) :=
    (local_accept _).bind fun _ => .ite (.pure _) (.pure _)
  refine (local_accept _).bind fun _ => .ite ?_ ?_
  · refine h.bind fun type => (exact_require _ _).andThen fun _ => ?_
    exact (StableBefore.pure _).bind hrest
  · exact exact_name.andThen fun _ => (StableBefore.pure _).bind hrest

theorem local_typeReference : Local typeReference := by
  have hwithin (depth : Nat) : Local (typeReferenceWithin depth) := by
    induction depth with
    | zero => exact local_typeReferenceOver (failing_fail _).stableBefore
    | succ depth ih => exact local_typeReferenceOver ih
  exact hwithin depthLimit

/-- A default value, if there is one, and the directives after it. -/
theorem local_variableDefinition : Local variableDefinition := by
  have hrest : Local (do let _ ← constDirectives) :=
    (local_directives true depthLimit).bind fun _ => .pure _
  refine local_description.bind fun _ => (exact_require _ _).andThen fun _ => ?_
  refine exact_name.andThen fun _ => (exact_require _ _).andThen fun _ => ?_
  refine local_typeReference.bind fun _ => (local_accept _).bind fun _ => .ite ?_ hrest
  exact (local_value true depthLimit).bind fun _ => hrest

theorem local_optionalName : Local optionalName :=
  local_peek.bind fun _ => .ite (exact_name.andThen fun _ => .pure _) (.pure _)

theorem exact_operation (word : String) : Exact (operation word) := by
  have hvariables : Local (optionalMany .parenL variableDefinition .parenR) :=
    .optionalMany local_variableDefinition fun _ => False.elim
  refine local_description.bind_asks fun _ => (exact_require _ _).bind_asks fun _ => ?_
  refine local_optionalName.bind_asks fun _ => hvariables.bind_asks fun _ => ?_
  refine (local_directives false depthLimit).bind_asks fun _ => ?_
  exact (exact_selectionSet depthLimit).bind fun _ => .pure _

theorem exact_fragmentDefinition : Exact fragmentDefinition := by
  refine local_description.bind_asks fun _ => (exact_require _ _).bind_asks fun _ => ?_
  refine local_fragmentName.bind_asks fun _ => (exact_require _ _).bind_asks fun _ => ?_
  refine exact_name.bind_asks fun _ => (local_directives false depthLimit).bind_asks fun _ => ?_
  exact (exact_selectionSet depthLimit).bind fun _ => .pure _

/-! ## Parts of type definitions -/

/-- What begins with a token that begins a definition, other than a bare selection set. -/
def BeginsDefinition : List Token → Prop
  | .string _ :: _ => True
  | .blockString _ :: _ => True
  | .name word :: _ => (described? word).isSome = true ∨ word = "extend"
  | _ => False

theorem BeginsDefinition.head?_ne_punctuator {us : List Token} (h : BeginsDefinition us)
    (p : Punctuator) : us.head? ≠ some (.punctuator p) := by
  intro hp
  obtain ⟨rest, rfl⟩ := List.head?_eq_some_iff.mp hp
  exact h

theorem BeginsDefinition.head?_ne_name {us : List Token} (h : BeginsDefinition us) {word : String}
    (hword : (described? word).isSome = false) (hextend : word ≠ "extend") :
    us.head? ≠ some (.name word) := by
  intro hname
  obtain ⟨rest, rfl⟩ := List.head?_eq_some_iff.mp hname
  rcases h with h | h
  · exact absurd (hword.symm.trans h) Bool.false_ne_true
  · exact hextend h

/-- Whether a parser that takes all that there are takes the same before a definition. -/
abbrev Closed (p : Parser α) : Prop := StableBefore BeginsDefinition p

theorem closed_constDirectives : Closed constDirectives :=
  stableBefore_directives (fun _ p h => h.head?_ne_punctuator p) true depthLimit

theorem local_inputValue : Local inputValue := by
  have hrest : Local (do let _ ← constDirectives) :=
    (local_directives true depthLimit).bind fun _ => .pure _
  refine local_description.bind fun _ => exact_name.andThen fun _ => ?_
  refine (exact_require _ _).andThen fun _ => local_typeReference.bind fun _ => ?_
  refine (local_accept _).bind fun _ => .ite ?_ hrest
  exact (local_value true depthLimit).bind fun _ => hrest

theorem local_argumentDefinitions : Local argumentDefinitions :=
  (StableBefore.optionalMany local_inputValue fun _ => False.elim).bind fun _ => .pure _

theorem local_fieldDefinition : Local fieldDefinition := by
  refine local_description.bind fun _ => exact_name.andThen fun _ => ?_
  refine local_argumentDefinitions.bind fun _ => (exact_require _ _).andThen fun _ => ?_
  exact local_typeReference.bind fun _ => (local_directives true depthLimit).bind fun _ => .pure _

theorem local_enumValueName : Local enumValueName := by
  have hrest : Local (do let _ ← name) := exact_name.andThen fun _ => .pure _
  refine local_peek.bind fun next => ?_
  cases next with
  | none => exact hrest
  | some token => exact .ite ((failing_fail _).stableBefore.bind fun _ => hrest) hrest

theorem local_enumValue : Local enumValue :=
  local_description.bind fun _ => local_enumValueName.bind fun _ =>
    (local_directives true depthLimit).bind fun _ => .pure _

/-- A name of which not every word will do. -/
theorem closed_directiveLocation : Closed directiveLocation := by
  refine .tokensLeft_bind (fun left => ?_) fun m n ts r h => ?_
  · exact exact_name.andThen fun _ => .ite (failing_failAt left _).stableBefore (.pure _)
  · exact bind_congr_ok (fun _ _ => ite_congr_ok (failing_failAt m _)) h

theorem local_rootType : Local rootType := by
  refine .tokensLeft_bind (fun left => ?_) fun m n ts r h => ?_
  · refine exact_name.andThen fun _ => .ite (failing_failAt left _).bind.stableBefore ?_
    exact (exact_require _ _).andThen fun _ => exact_name.andThen fun _ => .pure _
  · exact bind_congr_ok (fun _ _ => ite_congr_ok (failing_failAt m _).bind) h

theorem closed_implemented : Closed implemented := by
  refine (StableBefore.accept fun _ h => h.head?_ne_name rfl (by decide)).bind fun _ => .ite ?_ (.pure _)
  refine StableBefore.bind ?_ fun _ => .pure _
  exact .delimited (.of_exact exact_name) fun _ h => h.head?_ne_punctuator _

theorem closed_members : Closed members := by
  refine (StableBefore.accept fun _ h => h.head?_ne_punctuator _).bind fun _ => .ite ?_ (.pure _)
  refine StableBefore.bind ?_ fun _ => .pure _
  exact .delimited (.of_exact exact_name) fun _ h => h.head?_ne_punctuator _

/-- Between braces, or nothing. -/
theorem closed_braced {item : Parser α} (h : Local item) :
    Closed (do return !(← optionalMany .braceL item .braceR).isEmpty) :=
  (StableBefore.optionalMany h fun _ h => h.head?_ne_punctuator _).bind fun _ => .pure _

theorem closed_beforeDirectives (kind : TypeKind) : Closed (beforeDirectives kind) := by
  cases kind with
  | object => exact closed_implemented
  | interface => exact closed_implemented
  | _ => exact .pure _

theorem closed_afterDirectives (kind : TypeKind) : Closed (afterDirectives kind) := by
  cases kind with
  | object => exact closed_braced local_fieldDefinition
  | interface => exact closed_braced local_fieldDefinition
  | enum => exact closed_braced local_enumValue
  | scalar => exact .pure _
  | input => exact closed_braced local_inputValue
  | union => exact closed_members

/-! ## Definitions -/

theorem asksBefore_typeDefinition (isExtension : Bool) (kind : TypeKind) :
    AsksBefore BeginsDefinition (typeDefinition isExtension kind) := by
  refine (exact_require _ _).bind fun _ => exact_name.andThen fun _ => ?_
  refine (closed_beforeDirectives kind).bind fun _ => closed_constDirectives.bind fun _ => ?_
  exact (closed_afterDirectives kind).bind fun _ => .ite failing_unexpected.stableBefore (.pure _)

theorem exact_schemaDefinition : Exact schemaDefinition := by
  refine (exact_require _ _).bind_asks fun _ => ?_
  refine closed_constDirectives.isLocal.bind_asks fun _ => ?_
  exact (exact_many local_rootType _ _).bind fun _ => .pure _

theorem asksBefore_schemaExtension : AsksBefore BeginsDefinition schemaExtension := by
  refine (exact_require _ _).bind fun _ => closed_constDirectives.bind fun _ => ?_
  refine StableBefore.bind ?_ fun _ => .ite failing_unexpected.stableBefore (.pure _)
  exact .optionalMany local_rootType fun _ h => h.head?_ne_punctuator _

theorem asksBefore_directiveDefinition : AsksBefore BeginsDefinition directiveDefinition := by
  refine (exact_require _ _).bind fun _ => (exact_require _ _).andThen fun _ => ?_
  refine exact_name.andThen fun _ => ?_
  have hlocations : Closed (delimited .pipe directiveLocation) :=
    .delimited closed_directiveLocation fun _ h => h.head?_ne_punctuator _
  refine (local_argumentDefinitions.bind_asks fun _ => ?_).toStableBefore
  refine (local_accept _).bind_asks fun _ => (exact_require _ _).bind fun _ => ?_
  exact hlocations.bind fun _ => .pure _

theorem asksBefore_of_typeSystem? {isExtension : Bool} {word : String} {p : Parser Definition}
    (h : typeSystem? isExtension word = some p) : AsksBefore BeginsDefinition p := by
  unfold typeSystem? at h
  split at h
  · rename_i kind hkind
    cases h
    exact asksBefore_typeDefinition isExtension kind
  · split at h
    · cases h
      exact .ite asksBefore_schemaExtension (.of_exact exact_schemaDefinition)
    · split at h
      · cases h
        exact asksBefore_directiveDefinition
      · cases h

theorem exact_of_executable? {word : String} {p : Parser Definition} (h : executable? word = some p) :
    Exact p := by
  unfold executable? at h
  split at h
  · cases h
    exact exact_operation word
  · split at h
    · cases h
      exact exact_fragmentDefinition
    · cases h

theorem asksBefore_of_described? {word : String} {p : Parser Definition}
    (h : described? word = some p) : AsksBefore BeginsDefinition p := by
  unfold described? at h
  split at h
  · rename_i rest hrest
    cases h
    exact local_description.bind_asks fun _ => asksBefore_of_typeSystem? hrest
  · exact .of_exact (exact_of_executable? h)

theorem failing_unexpectedAhead : Failing (unexpectedAhead : Parser α) := nofun

theorem closed_extension : Closed extension := by
  refine (AsksBefore.lookAhead_bind (fun t => ?_) failing_unexpectedAhead).toStableBefore
  split
  · split
    · rename_i rest hrest
      exact (exact_require _ _).andThen fun _ => (asksBefore_of_typeSystem? hrest).toStableBefore
    · exact failing_unexpectedAhead.stableBefore
  · exact failing_unexpectedAhead.stableBefore

theorem closed_afterDescription : Closed afterDescription := by
  refine (AsksBefore.lookAhead_bind (fun t => ?_) failing_unexpectedAhead).toStableBefore
  have hmisplaced (fault : GrammarFault) : Failing (misplacedDescription fault : Parser Definition) :=
    nofun
  split
  · exact (hmisplaced _).stableBefore
  · split
    · rename_i rest hrest
      exact (asksBefore_of_described? hrest).toStableBefore
    · exact (hmisplaced _).stableBefore
  · exact failing_unexpectedAhead.stableBefore

theorem asksBefore_definition : AsksBefore BeginsDefinition definition := by
  refine .peek_bind (fun t => ?_) failing_unexpected
  split
  · exact (exact_selectionSet depthLimit).andThen fun _ => .pure _
  · exact closed_afterDescription
  · exact closed_afterDescription
  · split
    · rename_i rest hrest
      exact (asksBefore_of_described? hrest).toStableBefore
    · exact .ite closed_extension failing_unexpected.stableBefore
  · exact failing_unexpected.stableBefore

/-! ## Documents -/

theorem rest_eq_nil_of_document {ts rest : List Token} {ds : List Definition}
    (h : document ts = .ok (ds, rest)) : rest = [] := by
  fun_induction document ts generalizing ds with
  | case1 => cases h
  | case2 ts first hfirst =>
    cases h
    rfl
  | case3 => cases h
  | case4 ts first t after hfirst hlt others rest' hothers ih =>
    cases h
    exact ih hothers
  | case5 => cases h

/-- Only a bare selection set begins with a token that no other definition begins with. -/
theorem beginsDefinition_of_definition {ts : List Token} {r : Definition × List Token}
    (h : definition ts = .ok r) (hbrace : ts.head? ≠ some (.punctuator .braceL)) :
    BeginsDefinition ts := by
  cases ts with
  | nil => exact absurd h (asksBefore_definition.demanding r)
  | cons t ts =>
    cases t with
    | string => trivial
    | blockString => trivial
    | name word =>
      cases hword : described? word with
      | some p => exact .inl (by rw [hword]; rfl)
      | none =>
        obtain ⟨next, rest, hpeek, h⟩ := bind_apply_eq_ok.mp h
        cases hpeek
        simp only [List.head?_cons, hword] at h
        by_cases hextend : word = "extend"
        · exact .inr hextend
        · rw [if_neg hextend] at h
          cases h
    | punctuator p => cases p <;> first | exact absurd rfl hbrace | cases h
    | int => cases h
    | float => cases h

theorem exists_definition_of_document {ts : List Token} {r : List Definition × List Token}
    (h : document ts = .ok r) : ∃ first, definition ts = .ok first := by
  rw [document] at h
  split at h
  · cases h
  all_goals exact ⟨_, by assumption⟩

theorem document_nil_ne_ok (r : List Definition × List Token) : document [] ≠ .ok r := by
  intro h
  obtain ⟨first, hfirst⟩ := exists_definition_of_document h
  exact asksBefore_definition.demanding first hfirst

theorem document_of_definition {ts rest : List Token} {t : Token} {first : Definition}
    {ds : List Definition} (hfirst : definition ts = .ok (first, t :: rest))
    (hlt : (t :: rest).length < ts.length) (hothers : document (t :: rest) = .ok (ds, [])) :
    document ts = .ok (first :: ds, []) := by
  rw [document, hfirst]
  dsimp only
  rw [if_pos hlt, hothers]

/-- The definitions of two documents one after the other. By induction on the first: where its last
definition ends, the second has one that begins. -/
theorem document_append {ts us : List Token} {ds es : List Definition}
    (hts : document ts = .ok (ds, [])) (hus : document us = .ok (es, []))
    (hbrace : us.head? ≠ some (.punctuator .braceL)) :
    document (ts ++ us) = .ok (ds ++ es, []) := by
  obtain ⟨r, hr⟩ := exists_definition_of_document hus
  have hbegins := beginsDefinition_of_definition hr hbrace
  fun_induction document ts generalizing ds with
  | case1 => cases hts
  | case2 ts first hfirst =>
    cases hts
    -- The last definition of the first document, which takes all tokens, is followed by the second.
    have hfirst' := asksBefore_definition.append hfirst fun _ => hbegins
    cases us with
    | nil => exact absurd hr (asksBefore_definition.demanding r)
    | cons u us =>
      refine document_of_definition hfirst' ?_ hus
      have hne : ts ≠ [] := by
        rintro rfl
        exact asksBefore_definition.demanding _ hfirst
      rw [List.length_append]
      exact Nat.lt_add_of_pos_left (List.length_pos_iff.mpr hne)
  | case3 => cases hts
  | case4 ts first t after hfirst hlt others rest hothers ih =>
    cases hts
    have hfirst' : definition (ts ++ us) = .ok (first, t :: after ++ us) :=
      asksBefore_definition.append hfirst nofun
    exact document_of_definition hfirst' (length_append_lt hlt us) (ih hothers)
  | case5 => cases hts

end TypeAtlas.GraphQL.Parser
