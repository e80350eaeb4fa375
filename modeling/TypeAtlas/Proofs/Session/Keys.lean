import TypeAtlas.Proofs.Override.StringInput
import TypeAtlas.Proofs.Resolver.ReferenceTypes
import TypeAtlas.Proofs.Session.Creation

/-!
# Types that can be looked up and written

Whether values of a type are written as strings is known if the type can be looked up, that is, if
every package in it can be a key, and the type can be printed if no package in it is a broken text.
Class names have packages that are texts, so only the package of the generated types matters, and only
for names that stand for none of the others (`Session.all_packages_resolve_iff`).

* `Session.isKey_resolve_iff`: the types that can be looked up;
* `Session.isWritable_resolve_iff`: the types that can be written.
-/

namespace TypeAtlas

open Files (FileSystem)
open GraphQL (TypeExpr)
open Java (JavaType)

theorem Json.isSome_key?_iff {value : Json} :
    value.key?.isSome = true ↔
      (∀ items, value ≠ .array items) ∧ ∀ members, value ≠ .object members := by
  cases value with
  | float value =>
    rw [key?]
    cases value.integer? <;> simp
  | _ => simp [key?]

theorem Json.not_isBroken_iff {value : Json} :
    (!value.isBroken) = true ↔ ∀ text, value ≠ .broken text := by
  cases value <;> simp [isBroken]

namespace Java.JavaType

@[simp] theorem packages_box (type : JavaType) : type.box.packages = type.packages := by
  cases type <;> rfl

@[simp] theorem packages_unbox (type : JavaType) : type.unbox.packages = type.packages := by
  cases type <;> rfl

variable {p : Json → Bool} (hp : ∀ text, p (.text text) = true)
include hp

theorem all_packages_inLists (type : JavaType) (n : Nat) :
    (type.inLists n).packages.all p = type.packages.all p := by
  induction n with
  | zero => rfl
  | succ n ih => rw [inLists, packages, List.all_cons, listClass, hp, Bool.true_and, ih]

theorem all_packages_normalForm (r : Resolver) (use : Usage) (e : TypeExpr) :
    (r.normalForm use e).packages.all p = (r.namedType use.interface e.leafName).packages.all p := by
  rw [Resolver.normalForm]
  split
  · split
    · rw [packages_box]
    · rw [packages_unbox, packages_box]
  · rw [all_packages_inLists hp, packages, List.all_cons, listClass, hp, Bool.true_and,
      Resolver.element]
    split
    · rw [packages, packages_box]
    · rw [packages_box]

theorem all_packages_of_texts {type : JavaType}
    (htexts : type.packages.all (·.text?.isSome) = true) : type.packages.all p = true := by
  refine List.all_eq_true.mpr fun package hmem => ?_
  obtain ⟨text, htext⟩ := Option.isSome_iff_exists.mp (List.all_eq_true.mp htexts package hmem)
  cases package with
  | text value => exact hp value
  | _ => cases htext

end Java.JavaType

namespace Session

/-- Whether the type of a reference can be looked up: its name is mapped or that of a primitive, or
the package of the generated types is neither an array nor an object. -/
def HasKey (s : Session) (e : TypeExpr) : Prop :=
  (∃ type, s.overrides.lookup e.leafName = some type) ∨
    (∃ type, Builtins.standardPrimitives.get? e.leafName = some type) ∨
    (∀ items, s.config.typesPackage ≠ .array items) ∧
      ∀ members, s.config.typesPackage ≠ .object members

/-- Whether the type of a reference can be written: its name is mapped or that of a primitive, or the
package of the generated types is not a broken text. -/
def HasBytes (s : Session) (e : TypeExpr) : Prop :=
  (∃ type, s.overrides.lookup e.leafName = some type) ∨
    (∃ type, Builtins.standardPrimitives.get? e.leafName = some type) ∨
    ∀ text, s.config.typesPackage ≠ .broken text

/-- A package that cannot be a key is an array or an object, so it is shown with escapes. -/
theorem hasBytes_of_not_hasKey {s : Session} {e : TypeExpr} (h : ¬s.HasKey e) : s.HasBytes e := by
  by_contra hbytes
  simp only [HasBytes, not_or, not_forall, not_not] at hbytes
  obtain ⟨-, -, text, htext⟩ := hbytes
  refine h (.inr (.inr ⟨fun items hitems => ?_, fun members hmembers => ?_⟩))
  · cases htext.symm.trans hitems
  · cases htext.symm.trans hmembers

theorem exists_resolve (s : Session) (interface wildcard : Bool) (e : TypeExpr) :
    ∃ type, s.resolve interface wildcard e = .ok type :=
  ⟨_, s.resolver.resolve_eq_normalForm ⟨interface, wildcard, s.config.keepsBoxed⟩ e⟩

variable {fs : FileSystem} {c : Config} {s : Session} (h : ofConfig fs c = .ok s)
include h

section

variable {p : Json → Bool} (hp : ∀ text, p (.text text) = true)
include hp

theorem all_packages_of_lookup {name : String} {type : JavaType}
    (hlookup : s.overrides.lookup name = some type) : type.packages.all p = true := by
  have hcommon : ∀ type ∈ Builtins.standardCommon.values,
      type.packages.all (·.text?.isSome) = true := by
    decide
  obtain ⟨schema, -, hcreate⟩ := create_of_ofConfig h
  obtain ⟨explicit, scanned, names, -, -, -, hmake⟩ := exists_tables_of_create hcreate
  rcases OverrideTable.guess_or_mem_of_lookup hmake hlookup with ⟨text, -, hguess⟩ | hmem
  · exact (JavaType.guess_eq_ok_iff.mp hguess).isNameable.all_packages hp
  · exact JavaType.all_packages_of_texts hp (hcommon type hmem)

/-- What holds of all texts holds of the packages in the type of a reference, unless this is generated
in a package of which it does not hold. -/
theorem all_packages_resolve_iff {interface wildcard : Bool} {e : TypeExpr} {type : JavaType}
    (hresolve : s.resolve interface wildcard e = .ok type) : type.packages.all p = true ↔
      (∃ type, s.overrides.lookup e.leafName = some type) ∨
        (∃ type, Builtins.standardPrimitives.get? e.leafName = some type) ∨
        p s.config.typesPackage = true := by
  have hprimitives : ∀ type ∈ Builtins.standardPrimitives.values,
      type.packages.all (·.text?.isSome) = true := by
    decide
  obtain ⟨schema, -, hcreate⟩ := create_of_ofConfig h
  rw [resolve, Resolver.resolve_eq_normalForm] at hresolve
  rw [← Except.ok.inj hresolve, JavaType.all_packages_normalForm hp, Resolver.namedType,
    eq_of_create hcreate]
  dsimp only
  cases hlookup : s.overrides.lookup e.leafName with
  | some found => simpa using all_packages_of_lookup h hp hlookup
  | none =>
    cases hprimitive : Builtins.standardPrimitives.get? e.leafName with
    | some found =>
      have hmem := OrderedMap.mem_values_iff _ |>.mpr ⟨_, hprimitive⟩
      simpa [Builtins.standard, hprimitive] using
        JavaType.all_packages_of_texts hp (hprimitives found hmem)
    | none => simp [Builtins.standard, hprimitive, Resolver.generatedType, JavaType.packages]

end

variable {interface wildcard : Bool} {e : TypeExpr} {type : JavaType}
  (hresolve : s.resolve interface wildcard e = .ok type)
include hresolve

theorem isKey_resolve_iff : type.isKey = true ↔ s.HasKey e := by
  rw [HasKey, ← Json.isSome_key?_iff]
  exact all_packages_resolve_iff h (fun _ => rfl) hresolve

theorem isWritable_resolve_iff : type.isWritable = true ↔ s.HasBytes e := by
  rw [HasBytes, ← Json.not_isBroken_iff]
  exact all_packages_resolve_iff h (fun _ => rfl) hresolve

end Session

end TypeAtlas
