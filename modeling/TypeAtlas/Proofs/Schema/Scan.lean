import TypeAtlas.Override.Directives
import TypeAtlas.Fallible

/-!
# What the scan for class names finds

A scalar gives a class name (`Gives`) if it carries the directive once and has a text under the
argument. One that carries it otherwise is at fault (`Faulty`): more than one directive is told
before a missing argument.

* `classNamesOf_eq_error_iff`: the scan fails with the fault of the first scalar that has one;
* `classNamesOf_eq_ok_iff`: if none has, it collects what the scalars give, in order;
* `get?_classNames`: with names of their own, each scalar has the class name that it gives.
-/

namespace TypeAtlas.Schema

namespace TypeDefinition

variable (d : TypeDefinition) (directive argument : String)

/-- Whether a definition carries a directive once, with a text under an argument. -/
def Gives (text : String) : Prop :=
  ∃ applied, d.directivesNamed directive = [applied] ∧
    applied.arguments.get? argument = some (.string text)

/-- What is wrong with the directive on a definition that carries it. -/
inductive Faulty : ConfigurationError → Prop
  | repeated (h : 2 ≤ (d.directivesNamed directive).length) :
    Faulty (.repeatedDirective directive d.name)
  | missing {applied : Directive} (h : d.directivesNamed directive = [applied])
    (hno : ∀ text, applied.arguments.get? argument ≠ some (.string text)) :
    Faulty (.missingArgument directive argument d.name)

variable {d directive argument}

theorem string?_eq_some_iff {value : GraphQL.Value} {text : String} :
    value.string? = some text ↔ value = .string text := by
  cases value <;> simp [GraphQL.Value.string?]

theorem bind_string?_eq_some_iff {value : Option GraphQL.Value} {text : String} :
    value.bind GraphQL.Value.string? = some text ↔ value = some (.string text) := by
  cases value <;> simp [string?_eq_some_iff]

theorem className?_eq_none_iff :
    d.className? directive argument = .ok none ↔ d.directivesNamed directive = [] := by
  unfold className?
  split
  · simp_all
  · split <;> simp_all
  · simp_all

theorem className?_eq_some_iff {text : String} :
    d.className? directive argument = .ok (some text) ↔ d.Gives directive argument text := by
  unfold className? Gives
  split
  · simp_all
  · rename_i applied h
    simp only [h, List.cons.injEq, and_true, exists_eq_left', ← bind_string?_eq_some_iff]
    cases (applied.arguments.get? argument).bind GraphQL.Value.string? <;> simp
  · simp_all

theorem className?_eq_error_iff {e : ConfigurationError} :
    d.className? directive argument = .error e ↔ d.Faulty directive argument e := by
  unfold className?
  split
  · rename_i h
    refine iff_of_false nofun ?_
    intro hfaulty
    cases hfaulty with
    | repeated h' => simp [h] at h'
    | missing h' => simp [h] at h'
  · rename_i applied h
    split
    · rename_i text htext
      refine iff_of_false nofun ?_
      intro hfaulty
      cases hfaulty with
      | repeated h' => simp [h] at h'
      | missing h' hno =>
        rw [h, List.cons.injEq] at h'
        exact hno text (h'.1 ▸ bind_string?_eq_some_iff.mp htext)
    · rename_i hnone
      rw [Except.error.injEq]
      constructor
      · intro heq
        subst heq
        exact .missing h fun text htext => by simp [htext, GraphQL.Value.string?] at hnone
      · intro hfaulty
        cases hfaulty with
        | repeated h' => simp [h] at h'
        | missing => rfl
  · rename_i x y rest h
    rw [Except.error.injEq]
    constructor
    · intro heq
      subst heq
      exact .repeated (by simp [h])
    · intro hfaulty
      cases hfaulty with
      | repeated => rfl
      | missing h' => simp [h] at h'

/-- A definition is without fault if it gives a class name whenever it carries the directive. -/
theorem forall_not_faulty_iff :
    (∀ e, ¬d.Faulty directive argument e) ↔
      (d.directivesNamed directive ≠ [] → ∃ text, d.Gives directive argument text) := by
  rw [ne_eq, ← @className?_eq_none_iff d directive argument]
  simp only [← className?_eq_error_iff, ← className?_eq_some_iff]
  rcases d.className? directive argument with e | (_ | text) <;> simp

variable (d directive argument)

/-- The name of a definition with the class name that it gives. -/
def givenEntry : Option (String × String) :=
  match d.className? directive argument with
  | .ok (some text) => some (d.name, text)
  | _ => none

variable {d directive argument}

theorem givenEntry_eq_some_iff {entry : String × String} :
    d.givenEntry directive argument = some entry ↔
      d.name = entry.1 ∧ d.Gives directive argument entry.2 := by
  rw [← className?_eq_some_iff, givenEntry]
  obtain ⟨name, text⟩ := entry
  split <;> simp_all

end TypeDefinition

variable {directive argument : String} {scalars : List TypeDefinition}

theorem classNamesOf_eq_error_iff {e : ConfigurationError} :
    classNamesOf directive argument scalars = .error e ↔
      FirstFailure (fun d e => d.Faulty directive argument e) scalars e := by
  refine foldlM_eq_error_iff (fun names d e => ?_) ..
  rw [← TypeDefinition.className?_eq_error_iff]
  rcases d.className? directive argument with e' | (_ | text) <;>
    simp [bind, Except.bind, pure, Except.pure]

theorem classNamesOf_eq_ok_iff {names : OrderedMap String String} :
    classNamesOf directive argument scalars = .ok names ↔
      (∀ d ∈ scalars, ∀ e, ¬d.Faulty directive argument e) ∧
        names = .ofList (scalars.filterMap (·.givenEntry directive argument)) := by
  rw [OrderedMap.ofList, OrderedMap.insertAll, List.foldl_filterMap]
  refine foldlM_eq_ok_iff (fun names d t h => ?_) (fun names d e => ?_) ..
  · rw [TypeDefinition.givenEntry]
    rcases hd : d.className? directive argument with e' | (_ | text) <;>
      simp_all [bind, Except.bind, pure, Except.pure]
  · rw [← TypeDefinition.className?_eq_error_iff]
    rcases d.className? directive argument with e' | (_ | text) <;>
      simp [bind, Except.bind, pure, Except.pure]

/-- The entries of a scan of scalars with names of their own, in the order of the scalars. -/
theorem entries_classNames (h : (scalars.map (·.name)).Nodup) {names : OrderedMap String String}
    (hok : classNamesOf directive argument scalars = .ok names) :
    names.entries = scalars.filterMap (·.givenEntry directive argument) := by
  rw [(classNamesOf_eq_ok_iff.mp hok).2]
  refine OrderedMap.entries_ofList (nodup_map_filterMap (fun d entry he => ?_) h)
  exact (TypeDefinition.givenEntry_eq_some_iff.mp he).1.symm

theorem get?_classNames (h : (scalars.map (·.name)).Nodup) {names : OrderedMap String String}
    (hok : classNamesOf directive argument scalars = .ok names) {name text : String} :
    names.get? name = some text ↔
      ∃ d ∈ scalars, d.name = name ∧ d.Gives directive argument text := by
  rw [OrderedMap.get?_eq_some_iff_mem, entries_classNames h hok, List.mem_filterMap]
  simp only [TypeDefinition.givenEntry_eq_some_iff]

end TypeAtlas.Schema
