import TypeAtlas.Proofs.Resolver.NormalForm

/-!
# References that share a Java type

A name that is neither overridden nor a primitive stands for a generated class (`Generates`). Lists
are counted and the class is kept, so two references to such names share their Java type only if the
names share their class. Only the prefix of an interface can bring two names together, that of an
object type and one that is spelled like its interface (`ShareClass`):

* `JavaType.inLists_inj`: types in lists, counted from the outside;
* `normalForm_generated`: what a reference to a generated class resolves to;
* `generatedType_inj`: names that share their class;
* `resolve_generated_inj`: references that share their Java type.
-/

namespace TypeAtlas

open GraphQL (TypeExpr)
open Java (JavaType)

namespace Java.JavaType

theorem inLists_parameterized (type : JavaType) (n : Nat) :
    (parameterized listClass type).inLists n = type.inLists (n + 1) := by
  induction n with
  | zero => rfl
  | succ n ih =>
    show parameterized listClass ((parameterized listClass type).inLists n) = _
    rw [ih]
    rfl

/-- Types that are no lists themselves are told apart in lists, and so is the number of lists. -/
theorem inLists_inj {type type' : JavaType} (h : ∀ argument, type ≠ parameterized listClass argument)
    (h' : ∀ argument, type' ≠ parameterized listClass argument) {n n' : Nat} :
    type.inLists n = type'.inLists n' ↔ n = n' ∧ type = type' := by
  induction n generalizing n' with
  | zero =>
    cases n' with
    | zero => exact (and_iff_right rfl).symm
    | succ n' => exact iff_of_false (h _) (fun hcount => absurd hcount.1 (Nat.zero_ne_add_one n'))
  | succ n ih =>
    cases n' with
    | zero => exact iff_of_false (h' _).symm (fun hcount => absurd hcount.1 (Nat.add_one_ne_zero n))
    | succ n' =>
      show parameterized listClass _ = parameterized listClass _ ↔ _
      rw [parameterized.injEq, and_iff_right rfl, ih, Nat.add_right_cancel_iff]

end Java.JavaType

/-- Whether two different names share their generated class where interfaces are asked for: the one is
that of an object type, and the other is spelled like its interface and is no object type itself. -/
def Schema.ShareClass (s : Schema) (name name' : String) : Prop :=
  ∃ object, s.isObjectType object = true ∧ s.isObjectType ("I" ++ object) = false ∧
    (name = object ∧ name' = "I" ++ object ∨ name' = object ∧ name = "I" ++ object)

namespace Resolver

variable (r : Resolver)

/-- Whether a name stands for a generated class, because it is found neither in the override table
nor among the primitives. -/
structure Generates (name : String) : Prop where
  notOverridden : r.overrides.lookup name = none
  notPrimitive : r.primitives.get? name = none

variable {r}

theorem Generates.namedType_eq {name : String} (h : r.Generates name) (interface : Bool) :
    r.namedType interface name = r.generatedType interface name := by
  rw [namedType, h.notOverridden, h.notPrimitive]
  rfl

/-- The class stands in lists only, and in a wildcard inside of them at most. -/
theorem normalForm_generated (use : Usage) {e : TypeExpr} (h : r.Generates e.leafName) :
    r.normalForm use e = (if e.listCount = 0 then r.generatedType use.interface e.leafName
      else r.element use.wildcard (r.generatedType use.interface e.leafName)).inLists
        e.listCount := by
  rw [normalForm, h.namedType_eq]
  cases e.listCount with
  | zero => exact ite_self _
  | succ n =>
    rw [if_neg (Nat.add_one_ne_zero n), ← JavaType.inLists_parameterized]
    rfl

/-- A wildcard tells no classes apart and brings none together. -/
theorem element_generated_inj (wildcard interface : Bool) (name name' : String) :
    r.element wildcard (r.generatedType interface name) =
        r.element wildcard (r.generatedType interface name') ↔
      r.generatedType interface name = r.generatedType interface name' := by
  constructor
  · intro h
    unfold element at h
    split at h <;> split at h
    · exact JavaType.wildcard.inj h
    · cases h
    · cases h
    · exact h
  · intro h
    rw [h]

theorem element_generated_ne (wildcard interface : Bool) (name : String) (raw : Java.ClassName)
    (argument : JavaType) :
    r.element wildcard (r.generatedType interface name) ≠ .parameterized raw argument := by
  unfold element
  split <;> exact nofun

/-- Two names share their class only if they are the same, or by the prefix of an interface. -/
theorem generatedType_inj (interface : Bool) (name name' : String) :
    r.generatedType interface name = r.generatedType interface name' ↔
      name = name' ∨ interface = true ∧ r.schema.ShareClass name name' := by
  have hclass : r.generatedType interface name = r.generatedType interface name' ↔
      (if interface && r.schema.isObjectType name then "I" ++ name else name) =
        if interface && r.schema.isObjectType name' then "I" ++ name' else name' := by
    simp [generatedType, interfaceName]
  rw [hclass]
  cases interface with
  | false => simp
  | true =>
    simp only [Bool.true_and, true_and, Schema.ShareClass]
    -- With one object type among the two names the other has to carry its prefix.
    cases hname : r.schema.isObjectType name <;> cases hname' : r.schema.isObjectType name'
    · grind
    · grind
    · grind
    · rw [if_pos rfl, if_pos rfl, String.append_right_inj]
      grind

/-- Take two references to names that are neither overridden nor primitives. Under the same flags they
resolve to the same Java type exactly if they have equally many lists, and either have the same name
or, where interfaces are asked for, one has the name of an object type and the other the name of its
interface, which is then no object type itself. So without interfaces different names never share a
Java type, and no two object types do. -/
theorem resolve_generated_inj (r : Resolver) (use : Usage) {e e' : TypeExpr}
    (h : r.Generates e.leafName) (h' : r.Generates e'.leafName) :
    ∃ type type', r.resolve use e = .ok type ∧ r.resolve use e' = .ok type' ∧
      (type = type' ↔ e.listCount = e'.listCount ∧
        (e.leafName = e'.leafName ∨
          use.interface = true ∧ r.schema.ShareClass e.leafName e'.leafName)) ∧
      (type = type' → use.interface = false → e.leafName = e'.leafName) ∧
      (type = type' → r.schema.isObjectType e.leafName = true →
        r.schema.isObjectType e'.leafName = true → e.leafName = e'.leafName) := by
  have hiff : r.normalForm use e = r.normalForm use e' ↔ e.listCount = e'.listCount ∧
      (e.leafName = e'.leafName ∨
        use.interface = true ∧ r.schema.ShareClass e.leafName e'.leafName) := by
    have hinner (name : String) (n : Nat) (argument : JavaType) :
        (if n = 0 then r.generatedType use.interface name
          else r.element use.wildcard (r.generatedType use.interface name)) ≠
            .parameterized JavaType.listClass argument := by
      split
      · exact nofun
      · exact element_generated_ne _ _ _ _ _
    rw [← generatedType_inj, normalForm_generated use h, normalForm_generated use h',
      JavaType.inLists_inj (hinner _ _) (hinner _ _)]
    refine and_congr_right fun hcount => ?_
    rw [hcount]
    split
    · rfl
    · exact element_generated_inj ..
  refine ⟨_, _, r.resolve_eq_normalForm use e, r.resolve_eq_normalForm use e', hiff, ?_, ?_⟩
  · intro heq hinterface
    refine (hiff.mp heq).2.resolve_right fun hshare => ?_
    rw [hinterface] at hshare
    exact Bool.false_ne_true hshare.1
  · intro heq hobject hobject'
    refine (hiff.mp heq).2.resolve_right ?_
    rintro ⟨-, object, -, hno, ⟨-, hname⟩ | ⟨-, hname⟩⟩
    · exact Bool.false_ne_true (hno.symm.trans (hname ▸ hobject'))
    · exact Bool.false_ne_true (hno.symm.trans (hname ▸ hobject))

/-- An enum that is spelled like the interface of an object type shares its Java type, in the same
number of lists only and not without interfaces. -/
theorem resolve_generated_collision :
    let schema := Schema.ofDefinitions [.objectType "Show" [], .enumType "IShow" []]
    let r : Resolver := ⟨schema, ⟨.empty, .empty, .standard, .empty⟩, .empty, .text "a"⟩
    let show' : TypeExpr := .nonNull (.list (.nonNull (.named "Show")))
    let enum : TypeExpr := .list (.named "IShow")
    r.resolve ⟨true, true, false⟩ show' = r.resolve ⟨true, true, false⟩ enum ∧
      r.resolve ⟨true, true, false⟩ show' ≠ r.resolve ⟨true, true, false⟩ (.list enum) ∧
      r.resolve ⟨false, true, false⟩ show' ≠ r.resolve ⟨false, true, false⟩ enum := by
  intro schema r show' enum
  have hgenerates (name : String) : r.Generates name := ⟨rfl, rfl⟩
  have hiff (use : Usage) (e : TypeExpr) : r.resolve use show' = r.resolve use e ↔
      show'.listCount = e.listCount ∧ (show'.leafName = e.leafName ∨
        use.interface = true ∧ r.schema.ShareClass show'.leafName e.leafName) := by
    obtain ⟨type, type', htype, htype', hiff, -⟩ :=
      resolve_generated_inj r use (hgenerates show'.leafName) (hgenerates e.leafName)
    rw [htype, htype', Except.ok.injEq]
    exact hiff
  refine ⟨(hiff _ _).mpr ⟨rfl, .inr ⟨rfl, "Show", rfl, rfl, .inl ⟨rfl, rfl⟩⟩⟩, fun heq => ?_,
    fun heq => ?_⟩
  · exact absurd ((hiff _ _).mp heq).1 (by decide)
  · rcases ((hiff _ _).mp heq).2 with hname | ⟨hinterface, -⟩
    · exact absurd hname (by decide)
    · cases hinterface

end Resolver

end TypeAtlas
