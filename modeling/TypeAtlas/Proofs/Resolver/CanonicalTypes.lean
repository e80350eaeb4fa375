import TypeAtlas.Proofs.Java.Spelling
import TypeAtlas.Proofs.Resolver.ReferenceTypes

/-!
# References that resolve to canonical types

What a class name stands for is read back from its spelling, and so are the standard built-in scalars.
Boxing, unboxing, wildcards and lists keep types canonical:

* `isCanonical_namedType`: a name that is mapped, or is that of a primitive, stands for a canonical
  type;
* `isCanonical_normalForm`: so does every reference to it;
* `spelling_identifies_canonical`: canonical types, and with them all that such references resolve to,
  are told apart by their spelling.
-/

namespace TypeAtlas

open GraphQL (TypeExpr)
open Java (JavaType)

namespace Java.JavaType

variable {type : JavaType}

theorem isReadBack_listClass : (declared listClass).IsReadBack := by decide +kernel

namespace IsCanonical

theorem box (h : type.IsCanonical) : type.box.IsCanonical := by
  cases type with
  | primitive kind => exact .boxed kind
  | _ => exact h

theorem unbox (h : type.IsCanonical) : type.unbox.IsCanonical := by
  cases type with
  | boxed kind => exact .primitive kind
  | _ => exact h

/-- Lists of what may stand in a list are canonical, and may stand in a list themselves. -/
theorem list_inLists (h : type.IsCanonical) (hreference : ∀ kind, type ≠ .primitive kind) (n : Nat) :
    ((JavaType.parameterized listClass type).inLists n).IsCanonical := by
  induction n with
  | zero => exact .parameterized isReadBack_listClass h hreference
  | succ n ih =>
    refine .parameterized isReadBack_listClass ih ?_
    cases n <;> exact nofun

end IsCanonical

end Java.JavaType

namespace Builtins

theorem isReadBack_of_mem_standardCommon : ∀ type ∈ standardCommon.values, type.IsReadBack := by
  decide +kernel

theorem isReadBack_of_mem_standardPrimitives :
    ∀ type ∈ standardPrimitives.values, type.IsReadBack := by
  decide +kernel

end Builtins

theorem OverrideTable.isReadBack_of_lookup {explicit directive : Json.Table} {t : OverrideTable}
    (h : make explicit directive .standard = .ok t) {name : String} {type : JavaType}
    (hlookup : t.lookup name = some type) : type.IsReadBack := by
  rcases guess_or_mem_of_lookup h hlookup with ⟨text, -, hguess⟩ | hmem
  · exact JavaType.guess_spelling_of_guess hguess
  · exact Builtins.isReadBack_of_mem_standardCommon type hmem

namespace Resolver

variable {r : Resolver} {use : Usage} {e : TypeExpr}

/-- Whether a name is mapped or that of a primitive, and so stands for no generated class. -/
def Finds (r : Resolver) (name : String) : Prop :=
  (∃ type, r.overrides.lookup name = some type) ∨ ∃ type, r.primitives.get? name = some type

theorem isCanonical_namedType {explicit directive : Json.Table}
    (hmake : OverrideTable.make explicit directive .standard = .ok r.overrides)
    (hprimitives : r.primitives = Builtins.standardPrimitives) {name : String} (h : r.Finds name)
    (interface : Bool) : (r.namedType interface name).IsCanonical := by
  rw [namedType]
  cases hfound : (r.overrides.lookup name).or (r.primitives.get? name) with
  | none =>
    rw [Option.or_eq_none_iff] at hfound
    rcases h with ⟨type, hlookup⟩ | ⟨type, hprimitive⟩
    · cases hfound.1.symm.trans hlookup
    · cases hfound.2.symm.trans hprimitive
  | some type =>
    have hread : type.IsReadBack := by
      rcases Option.or_eq_some_iff.mp hfound with hlookup | ⟨-, hprimitive⟩
      · exact OverrideTable.isReadBack_of_lookup hmake hlookup
      · rw [hprimitives] at hprimitive
        exact Builtins.isReadBack_of_mem_standardPrimitives type
          ((OrderedMap.mem_values_iff _).mpr ⟨name, hprimitive⟩)
    exact hread.isCanonical

theorem isCanonical_element {wildcard : Bool} {type : JavaType} (h : type.IsCanonical)
    (hreference : ∀ kind, type ≠ .primitive kind) : (r.element wildcard type).IsCanonical ∧
      ∀ kind, r.element wildcard type ≠ .primitive kind := by
  rw [element]
  split
  · refine ⟨.wildcard h hreference, fun kind hkind => ?_⟩
    cases hkind
  · exact ⟨h, hreference⟩

/-- A reference is canonical if the type of its name is. -/
theorem isCanonical_normalForm (h : (r.namedType use.interface e.leafName).IsCanonical) :
    (r.normalForm use e).IsCanonical := by
  have hreference := JavaType.box_ne_primitive (r.namedType use.interface e.leafName)
  rw [normalForm]
  split
  · split
    · exact h.box
    · exact h.box.unbox
  · obtain ⟨helement, hargument⟩ := r.isCanonical_element h.box hreference
    exact helement.list_inLists hargument _

end Resolver

/-- Canonical types that are spelled alike are the same: a primitive, a wrapper, a class that is read
back from its spelling, a generic class or a wildcard, nested to any depth. And canonical is what every
reference resolves to, whatever its flags and whatever the schema, if its name is in an override table
that could be made with the standard built-in scalars, or is that of a standard primitive. -/
theorem spelling_identifies_canonical :
    (∀ type type' : JavaType, type.IsCanonical → type'.IsCanonical →
      type.spelling = type'.spelling → type = type') ∧
    ∀ (explicit directive : Json.Table) (r : Resolver),
      OverrideTable.make explicit directive .standard = .ok r.overrides →
      r.primitives = Builtins.standardPrimitives →
      ∀ (use : Usage) (e : TypeExpr), r.Finds e.leafName →
        ∃ type, r.resolve use e = .ok type ∧ type.IsCanonical := by
  refine ⟨fun type type' h h' heq => h.eq_of_spelling_eq h' heq, ?_⟩
  intro explicit directive r hmake hprimitives use e hfinds
  have hname := Resolver.isCanonical_namedType hmake hprimitives hfinds use.interface
  exact ⟨_, r.resolve_eq_normalForm use e, Resolver.isCanonical_normalForm hname⟩

/-- A wildcard in lists for a class that is configured with blanks around it and called like an
interface. No other canonical type is spelled like it. -/
theorem spelling_identifies_nested_wildcard :
    let explicit : Json.Table := .ofTexts (.ofList [("Show", " a.IShow ")])
    let schema := Schema.ofDefinitions [.objectType "Show" []]
    let show' : JavaType := .declared ⟨.text "a", "IShow", []⟩
    let nested : JavaType := .parameterized JavaType.listClass
      (.parameterized JavaType.listClass (.wildcard show'))
    ∃ t, OverrideTable.make explicit .empty .standard = .ok t ∧
      (Resolver.mk schema t Builtins.standardPrimitives (.text "b")).resolve ⟨true, true, false⟩
        (.list (.nonNull (.list (.named "Show")))) = .ok nested ∧
      nested.spelling = "java.util.List<java.util.List<? extends a.IShow>>" ∧
      ∀ type : JavaType, type.IsCanonical →
        type.spelling = "java.util.List<java.util.List<? extends a.IShow>>" → type = nested := by
  intro explicit schema show' nested
  obtain ⟨hunique, hresolves⟩ := spelling_identifies_canonical
  obtain ⟨t, ht⟩ : ∃ t, OverrideTable.make explicit .empty .standard = .ok t := ⟨_, rfl⟩
  have hlookup : t.lookup "Show" = some show' := by
    have hexplicit : (OrderedMap.ofList [("Show", " a.IShow ")]).get? "Show" = some " a.IShow " := rfl
    have hmake : OverrideTable.make explicit (.ofTexts .empty) .standard = .ok t := ht
    obtain ⟨type, hguess, hlookup⟩ := OverrideTable.lookup_make_of_explicit hmake hexplicit
    have hshow : JavaType.guess " a.IShow " = .ok show' := by decide +kernel
    cases hshow.symm.trans hguess
    exact hlookup
  let r : Resolver := ⟨schema, t, Builtins.standardPrimitives, .text "b"⟩
  let e : TypeExpr := .list (.nonNull (.list (.named "Show")))
  have hresolve : r.resolve ⟨true, true, false⟩ e = .ok nested := by
    have hnamed : r.namedType true e.leafName = show' := by
      show ((t.lookup "Show").or _).getD _ = _
      rw [hlookup]
      rfl
    rw [Resolver.resolve_eq_normalForm, Resolver.normalForm, hnamed]
    rfl
  obtain ⟨type, htype, hcanonical⟩ :=
    hresolves _ _ r ht rfl ⟨true, true, false⟩ e (.inl ⟨_, hlookup⟩)
  cases hresolve.symm.trans htype
  have hspelling : nested.spelling = "java.util.List<java.util.List<? extends a.IShow>>" := by
    decide +kernel
  refine ⟨t, ht, hresolve, hspelling, fun type' htype' heq => ?_⟩
  exact hunique type' nested htype' hcanonical (heq.trans hspelling.symm)

end TypeAtlas
