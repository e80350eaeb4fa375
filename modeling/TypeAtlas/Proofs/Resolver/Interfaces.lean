import TypeAtlas.Proofs.Schema.Entries
import TypeAtlas.Proofs.Session.Priority

/-!
# Interfaces and wildcards

Whether a name is that of an object type is asked twice. A name that stands for a generated class is
looked up in the schema to tell whether it gets the name of its interface, and when a list is put
around the class, the class is compared with the interfaces of all object types. In the schema of a
document both come to the same, the kind of the first definition of the name (`DefinesObject`):

* `Schema.isObjectType_iff_definesObject`, `interfaceName_mem_iff`: the two questions;
* `namesInterface_declared_iff`, `namesInterface_generated_iff`: which classes are called like the
  interface of an object type;
* `resolve_innermost_list`: what stands in the innermost list around a name, and where wildcards do.
-/

namespace TypeAtlas

open GraphQL (TypeExpr Definition)
open Java (JavaType)

/-- Whether the first definition of a name in a document is that of an object type. -/
def GraphQL.DefinesObject (ds : List Definition) (name : String) : Prop :=
  (GraphQL.partsOf name ds).head?.map (·.kind) = some .object

instance (ds : List Definition) (name : String) : Decidable (GraphQL.DefinesObject ds name) :=
  inferInstanceAs (Decidable (_ = _))

open GraphQL (DefinesObject)

theorem Schema.isObjectType_iff_definesObject (ds : List Definition) (name : String) :
    (ofDefinitions ds).isObjectType name = true ↔ DefinesObject ds name := by
  rw [isObjectType, get?_ofDefinitions_eq_map, Option.any_map, Option.any_eq_true, DefinesObject,
    Option.map_eq_some_iff]
  simp only [decide_eq_true_eq]

namespace Resolver

section

variable {r : Resolver} {ds : List Definition} (hschema : r.schema = .ofDefinitions ds)
include hschema

theorem exists_object_iff_definesObject (name : String) :
    (∃ d ∈ r.schema.types, d.name = name ∧ d.kind = .object) ↔ DefinesObject ds name := by
  have hkeyed : r.schema.Keyed := Schema.IsParsed.keyed ⟨ds, hschema⟩
  rw [← hkeyed.isObjectType_iff, hschema]
  exact Schema.isObjectType_iff_definesObject ds name

/-- A class is called like the interface of an object type if the name of one comes after the `I`. -/
theorem namesInterface_declared_iff (c : Java.ClassName) :
    r.NamesInterface (.declared c) ↔ ∃ name, DefinesObject ds name ∧ c.simpleName = "I" ++ name := by
  simp only [NamesInterface, JavaType.declared.injEq, exists_eq_left',
    ← exists_object_iff_definesObject hschema]
  constructor
  · rintro ⟨d, hd, hkind, hname⟩
    exact ⟨d.name, ⟨d, hd, rfl, hkind⟩, hname⟩
  · rintro ⟨_, ⟨d, hd, rfl, hkind⟩, hname⟩
    exact ⟨d, hd, hkind, hname⟩

theorem interfaceName_mem_iff (name : String) :
    interfaceName name ∈ r.interfaceNames ↔ DefinesObject ds name := by
  rw [← exists_object_iff_definesObject hschema, interfaceNames, List.mem_map]
  simp only [Schema.ofKind, List.mem_filter, decide_eq_true_eq, interfaceName, String.append_right_inj]
  grind

variable {name : String} (hno : r.overrides.lookup name = none)
  (hprimitive : r.primitives.get? name = none)
include hno hprimitive

theorem namedType_generated (interface : Bool) : r.namedType interface name = .declared ⟨r.package,
    if interface = true ∧ DefinesObject ds name then "I" ++ name else name, []⟩ := by
  rw [namedType_of_none hno hprimitive (Schema.IsParsed.keyed ⟨ds, hschema⟩)]
  simp only [exists_object_iff_definesObject hschema]

/-- The class that is generated for a name is called like an interface if it is one, or if the name
itself begins like that of one. -/
theorem namesInterface_generated_iff (interface : Bool) :
    r.NamesInterface (r.namedType interface name) ↔ (interface = true ∧ DefinesObject ds name) ∨
      ∃ other, DefinesObject ds other ∧ name = "I" ++ other := by
  rw [namedType_generated hschema hno hprimitive, namesInterface_declared_iff hschema]
  -- The name of an interface is found through its own object type, whatever it begins with.
  by_cases hobject : interface = true ∧ DefinesObject ds name
  · rw [if_pos hobject]
    exact iff_of_true ⟨name, hobject.2, rfl⟩ (.inl hobject)
  · rw [if_neg hobject]
    exact (or_iff_right hobject).symm

end

/-- Take a resolver for the schema of a document, with any overrides, primitives and package. A name
is looked up as an object type, and its interface is among those of all object types, exactly if the
first definition of the name in the document is that of an object type. A name that is neither
overridden nor a primitive stands for a generated class, and this is the interface only of an object
type and only if interfaces are asked for. In every list of such a name, however deep and with
whatever non-null wrappers, the innermost list is of that class. It is covariant exactly if wildcards
are allowed and either the class is the interface of an object type or the name itself is the `I`
before the name of an object type. -/
theorem resolve_innermost_list {r : Resolver} {ds : List Definition}
    (hschema : r.schema = .ofDefinitions ds) :
    (∀ name, (r.schema.isObjectType name = true ↔ DefinesObject ds name) ∧
      (interfaceName name ∈ r.interfaceNames ↔ DefinesObject ds name)) ∧
    ∀ name, r.overrides.lookup name = none → r.primitives.get? name = none → ∀ use : Usage,
      let generated := JavaType.declared ⟨r.package,
        if use.interface = true ∧ DefinesObject ds name then "I" ++ name else name, []⟩
      r.resolve use (.named name) = .ok generated ∧
      ∀ e : TypeExpr, e.leafName = name → 0 < e.listCount → ∃ innermost : JavaType,
        r.resolve use e = .ok (innermost.inLists (e.listCount - 1)) ∧
        (innermost = .parameterized JavaType.listClass generated ∨
          innermost = .parameterized JavaType.listClass (.wildcard generated)) ∧
        (innermost.isCovariant = true ↔ use.wildcard = true ∧
          ((use.interface = true ∧ DefinesObject ds name) ∨
            ∃ other, DefinesObject ds other ∧ name = "I" ++ other)) := by
  refine ⟨fun name => ⟨?_, interfaceName_mem_iff hschema name⟩, ?_⟩
  · rw [hschema]
    exact Schema.isObjectType_iff_definesObject ds name
  · intro name hno hprimitive use generated
    have hnamed : r.namedType use.interface name = generated :=
      namedType_generated hschema hno hprimitive use.interface
    refine ⟨?_, fun e hname hcount => ?_⟩
    · rw [resolve, hnamed]
      rfl
    · obtain ⟨n, hn⟩ : ∃ n, e.listCount = n + 1 := ⟨e.listCount - 1, by omega⟩
      refine ⟨.parameterized JavaType.listClass (r.element use.wildcard generated), ?_, ?_, ?_⟩
      · rw [resolve_eq_normalForm, normalForm, hname, hnamed, hn]
        rfl
      · rw [element]
        split
        · exact .inr rfl
        · exact .inl rfl
      · rw [← namesInterface_generated_iff hschema hno hprimitive, hnamed, element]
        split
        · rename_i h
          exact iff_of_true rfl h
        · rename_i h
          exact iff_of_false Bool.false_ne_true h

/-- An enum that is called like the interface of an object type gets a wildcard without being one,
and the object type gets none unless interfaces are asked for. -/
theorem resolve_list_of_enum :
    let ds : List Definition := [.objectType "Show" [], .enumType "IShow" []]
    let r : Resolver := ⟨.ofDefinitions ds, ⟨.empty, .empty, .standard, .empty⟩, .empty, .text "a"⟩
    (∃ type, r.resolve ⟨true, true, false⟩ (.list (.nonNull (.named "Show"))) = .ok type ∧
      type.isCovariant = true) ∧
    (∃ type, r.resolve ⟨false, true, false⟩ (.list (.named "IShow")) = .ok type ∧
      type.isCovariant = true) ∧
    (∃ type, r.resolve ⟨false, true, true⟩ (.list (.named "Show")) = .ok type ∧
      type.isCovariant = false) := by
  intro ds r
  obtain ⟨-, hlist⟩ := @resolve_innermost_list r ds rfl
  refine ⟨?_, ?_, ?_⟩
  · obtain ⟨-, h⟩ := hlist "Show" rfl rfl ⟨true, true, false⟩
    obtain ⟨type, hok, -, hcovariant⟩ := h (.list (.nonNull (.named "Show"))) rfl Nat.one_pos
    exact ⟨type, hok, hcovariant.mpr ⟨rfl, .inl ⟨rfl, rfl⟩⟩⟩
  · obtain ⟨-, h⟩ := hlist "IShow" rfl rfl ⟨false, true, false⟩
    obtain ⟨type, hok, -, hcovariant⟩ := h (.list (.named "IShow")) rfl Nat.one_pos
    exact ⟨type, hok, hcovariant.mpr ⟨rfl, .inr ⟨"Show", rfl, rfl⟩⟩⟩
  · obtain ⟨-, h⟩ := hlist "Show" rfl rfl ⟨false, true, true⟩
    obtain ⟨type, hok, -, hcovariant⟩ := h (.list (.named "Show")) rfl Nat.one_pos
    refine ⟨type, hok, Bool.eq_false_iff.mpr fun htrue => ?_⟩
    obtain ⟨-, ⟨hinterface, -⟩ | ⟨other, -, hname⟩⟩ := hcovariant.mp htrue
    · cases hinterface
    · have hfirst := congrArg (·.toList.head?) hname
      simp at hfirst

end Resolver

end TypeAtlas
