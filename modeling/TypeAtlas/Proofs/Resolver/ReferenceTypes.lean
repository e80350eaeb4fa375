import TypeAtlas.Proofs.Override.StringInput
import TypeAtlas.Proofs.Resolver.NormalForm

/-!
# Where primitives can stand

Generic classes and wildcards refuse a primitive as their argument or bound, but they look no deeper.
That none stands deeper inside is an invariant of everything that makes Java types:

* `Java.JavaType.HoldsReferences`: no primitive stands inside a type, at any depth;
* `Obtainable`: the types that any sequence of operations gives, `Obtainable.holdsReferences` says
  that they have the invariant;
* `Resolver.resolve_eq_primitive_iff`: which references resolve to a primitive;
* `no_primitive_inside`: all of it, and when a generic class or a wildcard is refused.
-/

namespace TypeAtlas

open GraphQL (TypeExpr)
open Java (JavaType ClassName Primitive)

namespace Java.JavaType

variable {raw : ClassName} {type argument bound element : JavaType}

/-- Whether a type stands inside another, as an argument or a bound at any depth. -/
inductive Inside (inner : JavaType) : JavaType → Prop
  | argument (raw : ClassName) : Inside inner (parameterized raw inner)
  | bound : Inside inner (wildcard inner)
  | inArgument (raw : ClassName) {argument : JavaType} (h : Inside inner argument) :
    Inside inner (parameterized raw argument)
  | inBound {bound : JavaType} (h : Inside inner bound) : Inside inner (wildcard bound)

/-- Whether all that stands inside a type are references. -/
def HoldsReferences (type : JavaType) : Prop :=
  ∀ inner, Inside inner type → ∀ kind, inner ≠ primitive kind

/-! ## The invariant, constructor by constructor -/

@[simp] theorem holdsReferences_primitive (kind : Primitive) : (primitive kind).HoldsReferences := nofun

@[simp] theorem holdsReferences_boxed (kind : Primitive) : (boxed kind).HoldsReferences := nofun

@[simp] theorem holdsReferences_declared (name : ClassName) : (declared name).HoldsReferences := nofun

@[simp] theorem holdsReferences_parameterized : (parameterized raw argument).HoldsReferences ↔
    (∀ kind, argument ≠ primitive kind) ∧ argument.HoldsReferences := by
  constructor
  · exact fun h => ⟨h argument (.argument raw), fun inner hinner => h inner (.inArgument raw hinner)⟩
  · intro h inner hinner
    cases hinner with
    | argument => exact h.1
    | inArgument _ hinner => exact h.2 inner hinner

@[simp] theorem holdsReferences_wildcard : (wildcard bound).HoldsReferences ↔
    (∀ kind, bound ≠ primitive kind) ∧ bound.HoldsReferences := by
  constructor
  · exact fun h => ⟨h bound .bound, fun inner hinner => h inner (.inBound hinner)⟩
  · intro h inner hinner
    cases hinner with
    | bound => exact h.1
    | inBound hinner => exact h.2 inner hinner

/-! ## Generic classes and wildcards -/

theorem generic_eq_error_iff {e : PrimitiveMisuse} :
    generic raw argument = .error e ↔ ∃ kind, argument = primitive kind ∧ e = .typeArgument kind := by
  cases argument <;> simp [generic, eq_comm]

theorem extending_eq_error_iff {e : PrimitiveMisuse} :
    extending bound = .error e ↔ ∃ kind, bound = primitive kind ∧ e = .wildcardBound kind := by
  cases bound <;> simp [extending, eq_comm]

theorem generic_eq_ok_iff : generic raw argument = .ok type ↔
    (∀ kind, argument ≠ primitive kind) ∧ type = parameterized raw argument := by
  cases argument <;> simp [generic, eq_comm]

theorem extending_eq_ok_iff : extending bound = .ok type ↔
    (∀ kind, bound ≠ primitive kind) ∧ type = wildcard bound := by
  cases bound <;> simp [extending, eq_comm]

theorem box_ne_primitive (type : JavaType) (kind : Primitive) : type.box ≠ primitive kind := by
  cases type <;> simp [box]

theorem unbox_eq_primitive_iff {kind : Primitive} :
    type.unbox = primitive kind ↔ type = primitive kind ∨ type = boxed kind := by
  cases type <;> simp [unbox]

namespace HoldsReferences

theorem generic (h : argument.HoldsReferences) (hok : JavaType.generic raw argument = .ok type) :
    type.HoldsReferences := by
  obtain ⟨hreference, rfl⟩ := generic_eq_ok_iff.mp hok
  exact holdsReferences_parameterized.mpr ⟨hreference, h⟩

theorem extending (h : bound.HoldsReferences) (hok : JavaType.extending bound = .ok type) :
    type.HoldsReferences := by
  obtain ⟨hreference, rfl⟩ := extending_eq_ok_iff.mp hok
  exact holdsReferences_wildcard.mpr ⟨hreference, h⟩

theorem listOf {covariant : Bool} (h : element.HoldsReferences)
    (hok : JavaType.listOf element covariant = .ok type) : type.HoldsReferences := by
  cases covariant with
  | false => exact HoldsReferences.generic h hok
  | true =>
    obtain ⟨argument, hargument, hgeneric⟩ : ∃ argument, JavaType.extending element = .ok argument ∧
      JavaType.generic listClass argument = .ok type := bind_eq_ok.mp hok
    exact (h.extending hargument).generic hgeneric

theorem box (h : type.HoldsReferences) : type.box.HoldsReferences := by
  cases type with
  | primitive kind => exact holdsReferences_boxed kind
  | _ => exact h

theorem unbox (h : type.HoldsReferences) : type.unbox.HoldsReferences := by
  cases type with
  | boxed kind => exact holdsReferences_primitive kind
  | _ => exact h

/-- Taking the element of a list leaves a wildcard out, which holds no more than its bound. -/
theorem elementType? (h : type.HoldsReferences) (hok : type.elementType? = some element) :
    element.HoldsReferences := by
  cases type with
  | parameterized raw argument =>
    obtain ⟨-, hargument⟩ := holdsReferences_parameterized.mp h
    cases argument with
    | wildcard bound =>
      cases hok
      exact (holdsReferences_wildcard.mp hargument).2
    | _ =>
      cases hok
      exact hargument
  | _ => cases hok

end HoldsReferences

/-- A class name names no generic class. -/
theorem holdsReferences_of_guess {text : String} (h : guess text = .ok type) :
    type.HoldsReferences := by
  have hnamed := guess_eq_ok_iff.mp h
  generalize Text.trim text = name at hnamed
  cases hnamed with
  | keyword kind => exact holdsReferences_primitive kind
  | @className c hc =>
    by_cases hwrapper : ∃ kind, c = .wrapper kind
    · obtain ⟨kind, rfl⟩ := hwrapper
      rw [ClassName.toType_wrapper]
      exact holdsReferences_boxed kind
    · rw [ClassName.toType_of_forall_ne fun kind hkind => hwrapper ⟨kind, hkind⟩]
      exact holdsReferences_declared c

end Java.JavaType

/-! ## Tables and resolvers -/

theorem Overrides.exists_guess_of_lookup {t : Json.Table} {o : Overrides}
    (h : Overrides.read t = .ok o) {key : Json.Key} {type : JavaType}
    (hlookup : o.types.lookup key = some type) :
    ∃ text, t.HasText text ∧ JavaType.guess text = .ok type := by
  rw [lookup_types] at hlookup
  obtain ⟨override, hget, rfl⟩ := Option.map_eq_some_iff.mp hlookup
  obtain ⟨entry, hentry, hread⟩ :=
    (OrderedMap.mem_values_mapValues h).mp (o.mem_values_iff.mpr ⟨key, hget⟩)
  obtain ⟨text, type, hvalue, htype, rfl⟩ := Override.read_eq_ok_iff.mp hread
  exact ⟨text, ⟨entry, hentry, hvalue⟩, htype⟩

/-- A type in the table of a name was guessed from a class name or is that of a common scalar. -/
theorem OverrideTable.guess_or_mem_of_lookup {explicit directive : Json.Table} {builtins : Builtins}
    {t : OverrideTable} (h : make explicit directive builtins = .ok t) {name : String} {type : JavaType}
    (hlookup : t.lookup name = some type) :
    (∃ text, (explicit.HasText text ∨ directive.HasText text) ∧ JavaType.guess text = .ok type) ∨
      type ∈ builtins.common.values := by
  obtain ⟨d, e, hd, he, hlayers⟩ := exists_read_of_make h
  rw [hlayers, Option.or_eq_some_iff, Option.or_eq_some_iff] at hlookup
  rcases hlookup with htype | ⟨-, htype | ⟨-, htype⟩⟩
  · obtain ⟨text, htext, hguess⟩ := Overrides.exists_guess_of_lookup he htype
    exact .inl ⟨text, .inl htext, hguess⟩
  · obtain ⟨text, htext, hguess⟩ := Overrides.exists_guess_of_lookup hd htype
    exact .inl ⟨text, .inr htext, hguess⟩
  · exact .inr (builtins.common.mem_values_iff.mpr ⟨name, htype⟩)

namespace Resolver

variable {r : Resolver} {use : Usage} {e : TypeExpr} {type : JavaType}

/-- Resolving makes references of types that hold references: by induction on the reference, with one
operation on Java types for each wrapper. -/
theorem holdsReferences_of_resolve
    (hnamed : ∀ interface name, (r.namedType interface name).HoldsReferences)
    (hok : r.resolve use e = .ok type) : type.HoldsReferences := by
  induction e generalizing type with
  | named name =>
    cases hok
    exact (hnamed use.interface name).box
  | list element ih =>
    obtain ⟨elementType, helement, hlist⟩ := bind_eq_ok.mp hok
    exact (ih helement).box.listOf hlist
  | nonNull e ih =>
    obtain ⟨nullable, hnullable, hnonNull⟩ := bind_eq_ok.mp hok
    cases hnonNull
    split
    · exact (ih hnullable).box
    · exact (ih hnullable).unbox

theorem holdsReferences_namedType
    (hoverrides : ∀ name type, r.overrides.lookup name = some type → type.HoldsReferences)
    (hprimitives : ∀ type ∈ r.primitives.values, type.HoldsReferences) (interface : Bool)
    (name : String) : (r.namedType interface name).HoldsReferences := by
  rw [namedType]
  cases hfound : (r.overrides.lookup name).or (r.primitives.get? name) with
  | none => exact JavaType.holdsReferences_declared _
  | some type =>
    rcases Option.or_eq_some_iff.mp hfound with hlookup | ⟨-, hprimitive⟩
    · exact hoverrides name type hlookup
    · exact hprimitives type (r.primitives.mem_values_iff.mpr ⟨name, hprimitive⟩)

/-- A reference becomes a primitive if it excludes null, is no list and its name stands for the
primitive or its wrapper, unless types stay boxed. -/
theorem resolve_eq_primitive_iff {kind : Primitive} :
    r.resolve use e = .ok (.primitive kind) ↔
      e.listCount = 0 ∧ e.excludesNull = true ∧ use.keepBoxed = false ∧
        (r.namedType use.interface e.leafName = .primitive kind ∨
          r.namedType use.interface e.leafName = .boxed kind) := by
  rw [resolve_eq_normalForm, Except.ok.injEq, normalForm]
  cases e.listCount with
  | zero =>
    dsimp only
    split
    · rename_i hboxed
      refine iff_of_false (JavaType.box_ne_primitive _ _) fun h => ?_
      simp [h.2.1, h.2.2.1] at hboxed
    · rename_i hunboxed
      rw [not_or, Bool.not_eq_true, Bool.not_eq_false] at hunboxed
      rw [JavaType.unbox_box, JavaType.unbox_eq_primitive_iff]
      simp [hunboxed]
  | succ n =>
    refine iff_of_false ?_ fun h => Nat.succ_ne_zero n h.1
    cases n <;> simp [JavaType.inLists]

end Resolver

/-! ## Sequences of operations -/

/-- A type that some sequence of operations gives, all of which succeed. A resolver may have any
tables of which all types are such types. -/
inductive Obtainable : JavaType → Prop
  | primitive (kind : Primitive) : Obtainable (.primitive kind)
  | boxed (kind : Primitive) : Obtainable (.boxed kind)
  | declared (name : ClassName) : Obtainable (.declared name)
  | parameterized {raw : ClassName} {argument type : JavaType} (h : Obtainable argument)
    (hok : JavaType.generic raw argument = .ok type) : Obtainable type
  | wildcard {bound type : JavaType} (h : Obtainable bound)
    (hok : JavaType.extending bound = .ok type) : Obtainable type
  | box {type : JavaType} (h : Obtainable type) : Obtainable type.box
  | unbox {type : JavaType} (h : Obtainable type) : Obtainable type.unbox
  | list {element type : JavaType} {covariant : Bool} (h : Obtainable element)
    (hok : JavaType.listOf element covariant = .ok type) : Obtainable type
  | guessed {text : String} {type : JavaType} (hok : JavaType.guess text = .ok type) :
    Obtainable type
  | element {type element : JavaType} (h : Obtainable type)
    (hok : type.elementType? = some element) : Obtainable element
  | resolved {explicit directive : Json.Table} {builtins : Builtins} {r : Resolver} {use : Usage}
    {e : TypeExpr} {type : JavaType}
    (hmake : OverrideTable.make explicit directive builtins = .ok r.overrides)
    (hcommon : ∀ type ∈ builtins.common.values, Obtainable type)
    (hprimitives : ∀ type ∈ r.primitives.values, Obtainable type)
    (hok : r.resolve use e = .ok type) : Obtainable type

theorem Obtainable.holdsReferences {type : JavaType} (h : Obtainable type) : type.HoldsReferences := by
  induction h with
  | primitive kind => exact JavaType.holdsReferences_primitive kind
  | boxed kind => exact JavaType.holdsReferences_boxed kind
  | declared name => exact JavaType.holdsReferences_declared name
  | parameterized _ hok ih => exact ih.generic hok
  | wildcard _ hok ih => exact ih.extending hok
  | box _ ih => exact ih.box
  | unbox _ ih => exact ih.unbox
  | list _ hok ih => exact ih.listOf hok
  | guessed hok => exact JavaType.holdsReferences_of_guess hok
  | element _ hok ih => exact ih.elementType? hok
  | resolved hmake _ _ hok ihcommon ihprimitives =>
    refine Resolver.holdsReferences_of_resolve (Resolver.holdsReferences_namedType ?_ ihprimitives) hok
    intro name type hlookup
    rcases OverrideTable.guess_or_mem_of_lookup hmake hlookup with ⟨text, -, hguess⟩ | hmem
    · exact JavaType.holdsReferences_of_guess hguess
    · exact ihcommon type hmem

/-- No primitive stands inside a type that any sequence of operations gives, at any depth. A generic
class and a wildcard are refused exactly if their argument or bound is itself a primitive. A session
resolves a reference to a primitive exactly if the reference has no list and excludes null, types do
not stay boxed, and its name stands for the primitive or for the wrapper of the primitive. -/
theorem no_primitive_inside :
    (∀ type, Obtainable type → ∀ inner, JavaType.Inside inner type →
      ∀ kind, inner ≠ .primitive kind) ∧
    (∀ raw argument e, JavaType.generic raw argument = .error e ↔
      ∃ kind, argument = .primitive kind ∧ e = .typeArgument kind) ∧
    (∀ bound e, JavaType.extending bound = .error e ↔
      ∃ kind, bound = .primitive kind ∧ e = .wildcardBound kind) ∧
    ∀ (s : Session) interface wildcard e kind,
      s.resolve interface wildcard e = .ok (.primitive kind) ↔
        e.listCount = 0 ∧ e.excludesNull = true ∧ s.config.keepsBoxed = false ∧
          (s.resolver.namedType interface e.leafName = .primitive kind ∨
            s.resolver.namedType interface e.leafName = .boxed kind) :=
  ⟨fun _ h => h.holdsReferences, fun _ _ _ => JavaType.generic_eq_error_iff,
    fun _ _ => JavaType.extending_eq_error_iff, fun _ _ _ _ _ => Resolver.resolve_eq_primitive_iff⟩

/-- Lists of lists from a built-in table that has a covariant list of integers, which taken out of it
and unboxed cannot go into a list again. -/
theorem no_primitive_inside_of_element :
    let ids := JavaType.parameterized JavaType.listClass (.wildcard (.boxed .int))
    let builtins : Builtins := ⟨.empty, .ofList [("Ids", ids)]⟩
    let r : Resolver := ⟨.empty, ⟨.empty, .empty, builtins, .empty⟩, builtins.primitives, .text "a"⟩
    r.resolve {} (.list (.named "Ids")) = .ok (.parameterized JavaType.listClass ids) ∧
      (∀ inner, JavaType.Inside inner (.parameterized JavaType.listClass ids) →
        ∀ kind, inner ≠ .primitive kind) ∧
      ids.elementType? = some (.boxed .int) ∧
      JavaType.generic JavaType.listClass (JavaType.boxed .int).unbox =
        .error (.typeArgument .int) := by
  intro ids builtins r
  obtain ⟨hinside, hgeneric, -, -⟩ := no_primitive_inside
  have hids : Obtainable ids :=
    .list (.boxed .int) (show JavaType.listOf (.boxed .int) true = .ok ids from rfl)
  have hresolve : r.resolve {} (.list (.named "Ids")) =
      .ok (.parameterized JavaType.listClass ids) := rfl
  have hmake : OverrideTable.make .empty .empty builtins = .ok r.overrides := rfl
  refine ⟨hresolve, hinside _ (.resolved hmake nofun ?_ hresolve), rfl, ?_⟩
  · intro type htype
    obtain rfl := List.mem_singleton.mp htype
    exact hids
  · exact (hgeneric _ _ _).mpr ⟨.int, rfl, rfl⟩

end TypeAtlas
