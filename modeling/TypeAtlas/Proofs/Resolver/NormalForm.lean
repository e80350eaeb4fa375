import TypeAtlas.Session

/-!
# The normal form of a resolved reference

Of the wrappers around a name only the number of lists counts, and whether null is excluded where
there is no list. A boxed type inside of a list stays boxed, and a wildcard stands at most around
the innermost element:

* `Resolver.resolve_eq_normalForm`: resolving always succeeds, with the type that `normalForm`
  builds from the name and the number of lists;
* `Session.resolve_eq_inLists`: the same for a session, whose configuration says whether types stay
  boxed, and what follows for references that differ in their non-null wrappers only.
-/

namespace TypeAtlas

open GraphQL (TypeExpr)
open Java (JavaType)

namespace GraphQL.TypeExpr

/-- The name at the heart of a reference. -/
def leafName : TypeExpr → String
  | named name => name
  | list element => element.leafName
  | nonNull type => type.leafName

/-- The number of lists around the name. -/
def listCount : TypeExpr → Nat
  | named _ => 0
  | list element => element.listCount + 1
  | nonNull type => type.listCount

/-- Whether null is excluded anywhere in a reference. -/
def excludesNull : TypeExpr → Bool
  | named _ => false
  | list element => element.excludesNull
  | nonNull _ => true

end GraphQL.TypeExpr

/-- A type with a number of lists around it. -/
def Java.JavaType.inLists (type : JavaType) : Nat → JavaType
  | 0 => type
  | n + 1 => .parameterized JavaType.listClass (type.inLists n)

namespace Resolver

variable (r : Resolver)

/-- Whether a type is a class that is called, innermost, like the interface of an object type. -/
def NamesInterface (type : JavaType) : Prop :=
  ∃ c, type = .declared c ∧ ∃ d ∈ r.schema.types, d.kind = .object ∧ c.simpleName = "I" ++ d.name

theorem isInterface_iff (type : JavaType) : r.isInterface type = true ↔ r.NamesInterface type := by
  cases type with
  | declared c =>
    rw [isInterface, List.contains_iff_mem]
    simp only [interfaceNames, Schema.ofKind, interfaceName, NamesInterface, List.mem_map,
      List.mem_filter, decide_eq_true_eq, JavaType.declared.injEq, exists_eq_left', and_assoc]
    simp only [eq_comm]
  | _ => simp [isInterface, NamesInterface]

instance (type : JavaType) : Decidable (r.NamesInterface type) :=
  decidable_of_iff _ (r.isInterface_iff type)

/-- The argument of the innermost list around a type. -/
def element (wildcard : Bool) (type : JavaType) : JavaType :=
  if wildcard = true ∧ r.NamesInterface type then .wildcard type else type

theorem element_eq (wildcard : Bool) (type : JavaType) :
    r.element wildcard type = if wildcard && r.isInterface type then .wildcard type else type := by
  simp only [element, ← isInterface_iff, Bool.and_eq_true]

/-- What a reference resolves to, by the number of its lists. -/
def normalForm (use : Usage) (e : TypeExpr) : JavaType :=
  let leaf := (r.namedType use.interface e.leafName).box
  match e.listCount with
  | 0 => if use.keepBoxed = true ∨ e.excludesNull = false then leaf else leaf.unbox
  | n + 1 => (JavaType.parameterized JavaType.listClass (r.element use.wildcard leaf)).inLists n

theorem isInterface_inLists (raw : Java.ClassName) (argument : JavaType) (n : Nat) :
    r.isInterface ((JavaType.parameterized raw argument).inLists n) = false := by
  cases n <;> rfl

end Resolver

namespace Java.JavaType

theorem box_inLists (raw : ClassName) (argument : JavaType) (n : Nat) :
    ((parameterized raw argument).inLists n).box = (parameterized raw argument).inLists n := by
  cases n <;> rfl

theorem unbox_inLists (raw : ClassName) (argument : JavaType) (n : Nat) :
    ((parameterized raw argument).inLists n).unbox = (parameterized raw argument).inLists n := by
  cases n <;> rfl

end Java.JavaType

namespace Resolver

variable (r : Resolver)

/-- A list is put around the boxed normal form of its element. -/
theorem resolve_list (use : Usage) {element : TypeExpr} {type : JavaType}
    (h : r.resolve use element = .ok type) :
    r.resolve use (.list element) =
      .ok (.parameterized JavaType.listClass (r.element (use.wildcard) type.box)) := by
  have hlist : r.resolve use (.list element) =
      JavaType.listOf type.box (use.wildcard && r.isInterface type.box) := by
    rw [resolve, h]; rfl
  rw [hlist, JavaType.listOf_box, element_eq]

theorem resolve_nonNull (use : Usage) {e : TypeExpr} {type : JavaType}
    (h : r.resolve use e = .ok type) :
    r.resolve use (.nonNull e) = .ok (if use.keepBoxed then type.box else type.unbox) := by
  rw [resolve, h]; rfl

/-- Every reference resolves, and to its normal form. By induction on the reference: a list boxes
what it is put around, and a non-null wrapper changes only what is in no list. -/
theorem resolve_eq_normalForm (use : Usage) (e : TypeExpr) :
    r.resolve use e = .ok (r.normalForm use e) := by
  induction e with
  | named name =>
    simp [resolve, normalForm, TypeExpr.leafName, TypeExpr.listCount, TypeExpr.excludesNull]
  | list element ih =>
    rw [r.resolve_list use ih]
    simp only [normalForm, TypeExpr.listCount, TypeExpr.leafName]
    cases element.listCount with
    | zero =>
      have hleaf : ∀ (p : Prop) [Decidable p] (t : JavaType),
          (if p then t.box else t.box.unbox).box = t.box := by
        intro p _ t
        split <;> simp
      simp only [hleaf, JavaType.inLists]
    | succ n =>
      simp only [JavaType.box_inLists, JavaType.inLists]
      rw [element_eq, isInterface_inLists, Bool.and_false]
      rfl
  | nonNull type ih =>
    rw [r.resolve_nonNull use ih]
    simp only [normalForm, TypeExpr.listCount, TypeExpr.leafName, TypeExpr.excludesNull]
    cases type.listCount with
    | zero => cases use.keepBoxed <;> cases type.excludesNull <;> simp
    | succ n => simp [JavaType.box_inLists, JavaType.unbox_inLists]

end Resolver

namespace Session

/-- What a session resolves a reference to, by the number of its lists. Without a list the boxed
type of the name becomes a primitive if null is excluded and types do not stay boxed. With lists it
stays as it is, in a wildcard if wildcards are allowed and it is the interface of an object type;
which wrappers exclude null, and whether types stay boxed, is of no consequence there. -/
theorem resolve_eq_inLists (s : Session) (interface wildcard : Bool) (e : TypeExpr) :
    let leaf := (s.resolver.namedType interface e.leafName).box
    (s.resolve interface wildcard e = .ok (match e.listCount with
      | 0 => if s.config.keepsBoxed = true ∨ e.excludesNull = false then leaf else leaf.unbox
      | n + 1 => (JavaType.parameterized JavaType.listClass
          (if wildcard = true ∧ s.resolver.NamesInterface leaf then .wildcard leaf
            else leaf)).inLists n)) ∧
    ∀ (config : Config) (e' : TypeExpr), e'.leafName = e.leafName → e'.listCount = e.listCount →
      0 < e.listCount →
      ({ s with config }).resolve interface wildcard e' = s.resolve interface wildcard e := by
  intro leaf
  refine ⟨s.resolver.resolve_eq_normalForm ⟨interface, wildcard, s.config.keepsBoxed⟩ e, ?_⟩
  intro config e' hname hcount hpos
  obtain ⟨n, hn⟩ : ∃ n, e.listCount = n + 1 := ⟨e.listCount - 1, by omega⟩
  simp only [Session.resolve, Resolver.resolve_eq_normalForm, Resolver.normalForm, hcount, hname, hn]

end Session

end TypeAtlas
