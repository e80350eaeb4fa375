import TypeAtlas.Proofs.Override.StringInput
import TypeAtlas.Proofs.Session.Priority

/-!
# Names that are mapped to class names

A name that configuration or a directive maps to a class name stands for what is guessed from the
class name, and whether its values are written as strings is known from that alone. The guess may be a
primitive or its wrapper, and resolving may turn the one into the other:

* `Config.MapsTo`: the class name of a name in configuration and directives;
* `OverrideTable.isStringInput?_of_guess`, `OverrideTable.isStringInput?_of_mem_nonStringTypes`: a
  type that some class name stands for is a string, unless it is a number or a boolean;
* `isStringInput_of_mapsTo`: whatever a mapped name resolves to outside of lists, it is a string if
  the class name is that of a class, and none if it is that of a number or a boolean.
-/

namespace TypeAtlas

open Files (FileSystem)
open GraphQL (TypeExpr)
open Java (JavaType Primitive)

theorem Json.Table.MapsTo.hasText {t : Table} {name text : String} (h : t.MapsTo name text) :
    t.HasText text := by
  obtain ⟨entry, hget, hvalue⟩ := h
  exact ⟨entry, t.mem_values_iff.mpr ⟨_, hget⟩, hvalue⟩

namespace OverrideTable

variable {explicit directive : Json.Table} {t : OverrideTable}
  (h : make explicit directive .standard = .ok t) {type : JavaType}
include h

theorem isStringInput?_of_guess {text : String}
    (htext : explicit.HasText text ∨ directive.HasText text) (hguess : JavaType.guess text = .ok type)
    (hnumber : type ∉ Resolver.nonStringTypes) : t.isStringInput? type = some true := by
  have hback := JavaType.guess_spelling_of_guess hguess
  have hmem := (spelling_mem_mappedNames_iff h hback).mpr ⟨text, htext, hguess⟩
  rw [isStringInput?, if_pos (JavaType.guess_spelling_iff.mp hback).isKey,
    (isStringInput_eq_true_iff h).mpr ⟨hnumber, .inr (.inr hmem)⟩]

theorem isStringInput?_of_mem_nonStringTypes (hnumber : type ∈ Resolver.nonStringTypes) :
    t.isStringInput? type = some false := by
  have hkey : type.isKey = true := by
    obtain ⟨kind, -, rfl | rfl⟩ := mem_nonStringTypes_iff.mp hnumber <;> rfl
  have hfalse : t.isStringInput type = false :=
    Bool.eq_false_iff.mpr fun htrue => ((isStringInput_eq_true_iff h).mp htrue).1 hnumber
  rw [isStringInput?, if_pos hkey, hfalse]

end OverrideTable

/-- Whether a name is mapped to a class name, by configuration or by the directive on a scalar of the
schema that is scanned. What is configured for a name hides the directive. -/
inductive Config.MapsTo (c : Config) (scanned : Schema) (name text : String) : Prop
  | configured {explicit : Json.Table} (hmapping : c.mapping = .ok explicit)
    (hmaps : explicit.MapsTo name text) : MapsTo c scanned name text
  | directive {explicit : Json.Table} {names : OrderedMap String String}
    (hmapping : c.mapping = .ok explicit) (hno : explicit.get? (.text name) = none)
    (hnames : scanned.mappingsFor c.directive? = .ok names) (hget : names.get? name = some text) :
    MapsTo c scanned name text

theorem Config.MapsTo.mapsTo_tables {c : Config} {scanned : Schema} {name text : String}
    (hmaps : c.MapsTo scanned name text) {explicit : Json.Table} {names : OrderedMap String String}
    (hmapping : c.mapping = .ok explicit) (hnames : scanned.mappingsFor c.directive? = .ok names) :
    explicit.MapsTo name text ∨
      explicit.get? (.text name) = none ∧ (Json.Table.ofTexts names).MapsTo name text := by
  cases hmaps with
  | configured hmapping' hmaps =>
    cases hmapping.symm.trans hmapping'
    exact .inl hmaps
  | directive hmapping' hno hnames' hget =>
    cases hmapping.symm.trans hmapping'
    cases hnames.symm.trans hnames'
    exact .inr ⟨hno, Json.Table.mapsTo_ofTexts_iff.mpr hget⟩

namespace Session

variable {fs : FileSystem} {c : Config} {schema : Schema} {source : Option Schema} {s : Session}

/-- Outside of lists a name stands for the boxed type, or for the unboxed one if null is excluded and
types do not stay boxed. -/
theorem resolve_of_no_list (s : Session) {interface : Bool} {e : TypeExpr} {type : JavaType}
    (hnamed : s.resolver.namedType interface e.leafName = type) (wildcard : Bool)
    (hcount : e.listCount = 0) : s.resolve interface wildcard e =
      .ok (if s.config.keepsBoxed = true ∨ e.excludesNull = false then type.box else type.unbox) := by
  rw [resolve, Resolver.resolve_eq_normalForm, Resolver.normalForm, hcount, hnamed]
  simp only [JavaType.unbox_box]

/-- Take a session with the standard built-in scalars, however it was made, and a name that is mapped
to a class name: by configuration, or by the directive on a scalar of the scanned schema if
configuration does not have the name. Whatever else is mapped, and under all flags and all
configurations that the session may have by now, the name resolves under any number of non-null
wrappers, and to a type of which values are written as strings if the class name is that of a class, and
are not if it is that of an `int`, `double` or `boolean` or of a wrapper of these. -/
theorem isStringInput_of_mapsTo (h : create fs c schema .standard source = .ok s) :
    ∃ scanned, Schema.Scans fs c schema source scanned ∧
      ∀ name text, c.MapsTo scanned name text → ∃ type, JavaType.guess text = .ok type ∧
        ∀ config interface wildcard e, TypeExpr.leafName e = name → e.listCount = 0 →
          ∃ resolved, ({ s with config }).resolve interface wildcard e = .ok resolved ∧
            (∀ name, type = .declared name → s.isStringInput? resolved = some true) ∧
            ∀ kind ∈ [Primitive.int, .double, .boolean], type = .primitive kind ∨ type = .boxed kind →
              s.isStringInput? resolved = some false := by
  obtain ⟨explicit, scanned, names, hmapping, hscanned, hnames, hmake⟩ := exists_tables_of_create h
  refine ⟨scanned, hscanned, fun name text hmaps => ?_⟩
  have htables := hmaps.mapsTo_tables hmapping hnames
  have htext : explicit.HasText text ∨ (Json.Table.ofTexts names).HasText text :=
    htables.imp (·.hasText) (·.2.hasText)
  obtain ⟨type, hguess, hlookup⟩ := OverrideTable.lookup_of_mapsTo hmake htables
  refine ⟨type, hguess, ?_⟩
  rintro config interface wildcard e rfl hcount
  have hnamed : s.resolver.namedType interface e.leafName = type := by
    refine Resolver.namedType_of_found ?_
    rw [resolver_overrides_of_create h, hlookup, Option.some_or]
  refine ⟨_, resolve_of_no_list { s with config } hnamed wildcard hcount, ?_, ?_⟩
  · rintro name rfl
    have hnumber : JavaType.declared name ∉ Resolver.nonStringTypes := by
      rw [OverrideTable.mem_nonStringTypes_iff]
      rintro ⟨kind, -, hkind | hkind⟩ <;> cases hkind
    rw [isStringInput?_of_create h]
    show s.overrides.isStringInput? (if _ then .declared name else .declared name) = _
    rw [ite_self]
    exact OverrideTable.isStringInput?_of_guess hmake htext hguess hnumber
  · intro kind hkind hnumber
    rw [isStringInput?_of_create h]
    refine OverrideTable.isStringInput?_of_mem_nonStringTypes hmake ?_
    refine OverrideTable.mem_nonStringTypes_iff.mpr ⟨kind, hkind, ?_⟩
    rcases hnumber with rfl | rfl <;> split
    · exact .inr rfl
    · exact .inl rfl
    · exact .inr rfl
    · exact .inl rfl

/-- Two names that are mapped to the two spellings of one number, so that each configures what the
other may resolve to, and a scalar with a class name of its own. -/
theorem isStringInput_of_both_spellings :
    let config := Config.standard.put .typeMapping
      (.object [("Count", .text "int"), ("Total", .text "java.lang.Integer")])
    let source := Schema.ofDefinitions
      [.scalarType "Mail" [⟨"javaType", [("name", .string " com.example.Mail ")]⟩]]
    ∃ s, create ⟨.emptyDirectory, []⟩ config .empty .standard (some source) = .ok s ∧
      (∃ type, s.resolve true true (.named "Count") = .ok type ∧
        s.isStringInput? type = some false) ∧
      (∃ type, s.resolve false true (.nonNull (.named "Total")) = .ok type ∧
        s.isStringInput? type = some false) ∧
      ∃ type, s.resolve true false (.nonNull (.nonNull (.named "Mail"))) = .ok type ∧
        s.isStringInput? type = some true := by
  intro config source
  have hm : config.MapsNames (.ofList [("Count", "int"), ("Total", "java.lang.Integer")]) := rfl
  obtain ⟨s, hs⟩ : ∃ s,
      create ⟨.emptyDirectory, []⟩ config .empty .standard (some source) = .ok s := by
    subst config source
    exact ⟨_, rfl⟩
  obtain ⟨scanned, hscanned, hmapped⟩ := isStringInput_of_mapsTo hs
  obtain rfl := hscanned.unique (.given source)
  have hconfigured {name text : String}
      (hget : (OrderedMap.ofList [("Count", "int"), ("Total", "java.lang.Integer")]).get? name =
        some text) : config.MapsTo source name text :=
    .configured hm.mapping_eq (Json.Table.mapsTo_ofTexts_iff.mpr hget)
  have hwrapper : JavaType.guess "java.lang.Integer" = .ok (.boxed .int) :=
    (@JavaType.guess_spelling_iff (.boxed .int)).mpr trivial
  have hmail : config.MapsTo source "Mail" " com.example.Mail " :=
    .directive hm.mapping_eq rfl rfl rfl
  refine ⟨s, hs, ?_, ?_, ?_⟩
  · obtain ⟨type, hguess, h⟩ := hmapped "Count" "int" (hconfigured rfl)
    cases hguess
    obtain ⟨resolved, hok, -, hfalse⟩ := h s.config true true (.named "Count") rfl rfl
    exact ⟨resolved, hok, hfalse .int (by decide) (.inl rfl)⟩
  · obtain ⟨type, hguess, h⟩ := hmapped "Total" "java.lang.Integer" (hconfigured rfl)
    obtain rfl := Except.ok.inj (hwrapper.symm.trans hguess)
    obtain ⟨resolved, hok, -, hfalse⟩ := h s.config false true (.nonNull (.named "Total")) rfl rfl
    exact ⟨resolved, hok, hfalse .int (by decide) (.inr rfl)⟩
  · obtain ⟨type, hguess, h⟩ := hmapped "Mail" " com.example.Mail " hmail
    cases hguess
    obtain ⟨resolved, hok, htrue, -⟩ :=
      h s.config true false (.nonNull (.nonNull (.named "Mail"))) rfl rfl
    exact ⟨resolved, hok, htrue _ rfl⟩

end Session

end TypeAtlas
