import TypeAtlas.Proofs.Resolver.ReferenceTypes
import TypeAtlas.Proofs.Session.MappedNames

/-!
# Strings and non-null types

A name that is mapped to a primitive or to the wrapper of one resolves to the wrapper where null is
allowed and to the primitive where it is not. The two are spelled differently, and only the spelling
that a class name has is found among the class names. So values that are written as strings where null
is allowed may not be where it is excluded, and the other way round:

* `Config.HasName`: the class names that are configured or on a scalar;
* `OverrideTable.isStringInput_iff_of_primitive`: a primitive or wrapper that is no number and no
  boolean is a string if some class name stands for it;
* `Resolver.exists_text_of_namedType`: what resolves to such a type is mapped to one of the spellings;
* `isStringInput_nonNull_iff`: excluding null makes no difference exactly if types stay boxed, or the
  type is neither such a primitive nor its wrapper, or both spellings are class names;
* `isStringInput_nonNull_ne`: it does make a difference where only one of them is.
-/

namespace TypeAtlas

open Files (FileSystem)
open GraphQL (TypeExpr)
open Java (JavaType Primitive stringType)

/-- Whether a class name is configured or on a scalar of the schema that is scanned, hidden or not. -/
inductive Config.HasName (c : Config) (scanned : Schema) (text : String) : Prop
  | configured {explicit : Json.Table} (hmapping : c.mapping = .ok explicit)
    (htext : explicit.HasText text) : HasName c scanned text
  | directive {names : OrderedMap String String} {name : String}
    (hnames : scanned.mappingsFor c.directive? = .ok names) (hget : names.get? name = some text) :
    HasName c scanned text

theorem Config.hasName_iff {c : Config} {scanned : Schema} {explicit : Json.Table}
    {names : OrderedMap String String} (hmapping : c.mapping = .ok explicit)
    (hnames : scanned.mappingsFor c.directive? = .ok names) {text : String} :
    c.HasName scanned text ↔ explicit.HasText text ∨ (Json.Table.ofTexts names).HasText text := by
  rw [Json.Table.hasText_ofTexts]
  constructor
  · intro h
    cases h with
    | configured hmapping' htext =>
      cases hmapping.symm.trans hmapping'
      exact .inl htext
    | directive hnames' hget =>
      cases hnames.symm.trans hnames'
      exact .inr ⟨_, hget⟩
  · intro h
    rcases h with htext | ⟨name, hget⟩
    · exact .configured hmapping htext
    · exact .directive hnames hget

/-- The common built-in scalars are classes. -/
theorem Builtins.ne_of_mem_standardCommon {type : JavaType} (h : type ∈ standardCommon.values)
    (kind : Primitive) : type ≠ .primitive kind ∧ type ≠ .boxed kind := by
  have hall : ∀ kind ∈ Primitive.all, ∀ type ∈ standardCommon.values,
      type ≠ .primitive kind ∧ type ≠ .boxed kind := by
    decide +kernel
  exact hall kind kind.mem_all type h

/-- The only primitives among the standard ones are numbers and the boolean. -/
theorem Builtins.mem_of_mem_standardPrimitives {type : JavaType}
    (h : type ∈ standardPrimitives.values) {kind : Primitive}
    (htype : type = .primitive kind ∨ type = .boxed kind) :
    kind ∈ [Primitive.int, .double, .boolean] := by
  have hall : ∀ kind ∈ Primitive.all, ∀ type ∈ standardPrimitives.values,
      type = .primitive kind ∨ type = .boxed kind → kind ∈ [Primitive.int, .double, .boolean] := by
    decide +kernel
  exact hall kind kind.mem_all type h htype

section

variable {explicit directive : Json.Table} {kind : Primitive}

/-- Nothing but a class name makes a string of a primitive or of its wrapper. -/
theorem OverrideTable.isStringInput_iff_of_primitive {t : OverrideTable}
    (h : make explicit directive .standard = .ok t)
    (hkind : kind ∉ [Primitive.int, .double, .boolean]) {type : JavaType}
    (htype : type = .primitive kind ∨ type = .boxed kind) : t.isStringInput type = true ↔
      ∃ text, (explicit.HasText text ∨ directive.HasText text) ∧ JavaType.guess text = .ok type := by
  have hnumber : type ∉ Resolver.nonStringTypes := by
    rw [mem_nonStringTypes_iff]
    rintro ⟨kind', hkind', htype'⟩
    obtain rfl : kind = kind' := by rcases htype with rfl | rfl <;> simpa using htype'
    exact hkind hkind'
  have hclass : ¬(type = stringType ∨ type ∈ Builtins.standardCommon.values) := by
    rintro (rfl | hmem)
    · rcases htype with htype | htype <;> cases htype
    · obtain ⟨hprimitive, hboxed⟩ := Builtins.ne_of_mem_standardCommon hmem kind
      exact htype.elim hprimitive hboxed
  have hback : JavaType.guess type.spelling = .ok type := by
    rcases htype with rfl | rfl <;> exact JavaType.guess_spelling_iff.mpr trivial
  rw [isStringInput_eq_true_iff h, ← or_assoc, or_iff_right hclass, and_iff_right hnumber,
    spelling_mem_mappedNames_iff h hback]

/-- With the standard built-in scalars, a name stands for a primitive that is no number and no boolean,
or for the wrapper of one, only if some class name does. -/
theorem Resolver.exists_text_of_namedType {r : Resolver}
    (h : OverrideTable.make explicit directive .standard = .ok r.overrides)
    (hprimitives : r.primitives = Builtins.standardPrimitives)
    (hkind : kind ∉ [Primitive.int, .double, .boolean]) {interface : Bool} {name : String}
    (hnamed : r.namedType interface name = .primitive kind ∨
      r.namedType interface name = .boxed kind) :
    ∃ text, (explicit.HasText text ∨ directive.HasText text) ∧
      (JavaType.guess text = .ok (.primitive kind) ∨ JavaType.guess text = .ok (.boxed kind)) := by
  cases hfound : (r.overrides.lookup name).or (r.primitives.get? name) with
  | none =>
    rw [namedType, hfound] at hnamed
    rcases hnamed with hnamed | hnamed <;> cases hnamed
  | some type =>
    rw [namedType_of_found hfound] at hnamed
    rcases Option.or_eq_some_iff.mp hfound with hlookup | ⟨-, hprimitive⟩
    · rcases OverrideTable.guess_or_mem_of_lookup h hlookup with ⟨text, htext, hguess⟩ | hmem
      · refine ⟨text, htext, hnamed.imp ?_ ?_⟩ <;> exact fun htype => htype ▸ hguess
      · exact absurd hnamed (not_or.mpr (Builtins.ne_of_mem_standardCommon hmem kind))
    · rw [hprimitives] at hprimitive
      have hmem := Builtins.standardPrimitives.mem_values_iff.mpr ⟨name, hprimitive⟩
      exact absurd (Builtins.mem_of_mem_standardPrimitives hmem hnamed) hkind

/-- Where a name stands for a primitive or for its wrapper, the two are strings alike if it is a number
or the boolean, and else only if both are class names: one of them is, since the name is mapped to it. -/
theorem Resolver.isStringInput?_primitive_eq_iff {r : Resolver}
    (h : OverrideTable.make explicit directive .standard = .ok r.overrides)
    (hprimitives : r.primitives = Builtins.standardPrimitives) {interface : Bool} {name : String}
    (hnamed : r.namedType interface name = .primitive kind ∨
      r.namedType interface name = .boxed kind) :
    r.overrides.isStringInput? (.primitive kind) = r.overrides.isStringInput? (.boxed kind) ↔
      (kind ∉ [Primitive.int, .double, .boolean] →
        (∃ text, (explicit.HasText text ∨ directive.HasText text) ∧
          JavaType.guess text = .ok (.primitive kind)) ∧
        ∃ text, (explicit.HasText text ∨ directive.HasText text) ∧
          JavaType.guess text = .ok (.boxed kind)) := by
  by_cases hkind : kind ∈ [Primitive.int, .double, .boolean]
  · have hprimitive : JavaType.primitive kind ∈ nonStringTypes :=
      OverrideTable.mem_nonStringTypes_iff.mpr ⟨kind, hkind, .inl rfl⟩
    have hboxed : JavaType.boxed kind ∈ nonStringTypes :=
      OverrideTable.mem_nonStringTypes_iff.mpr ⟨kind, hkind, .inr rfl⟩
    rw [OverrideTable.isStringInput?_of_mem_nonStringTypes h hprimitive,
      OverrideTable.isStringInput?_of_mem_nonStringTypes h hboxed]
    exact iff_of_true rfl fun hno => absurd hkind hno
  · show some (r.overrides.isStringInput (.primitive kind)) =
      some (r.overrides.isStringInput (.boxed kind)) ↔ _
    rw [Option.some.injEq, Bool.eq_iff_iff, imp_iff_right hkind,
      OverrideTable.isStringInput_iff_of_primitive h hkind (.inl rfl),
      OverrideTable.isStringInput_iff_of_primitive h hkind (.inr rfl)]
    obtain ⟨text, htext, hguess⟩ := exists_text_of_namedType h hprimitives hkind hnamed
    constructor
    · intro hsame
      rcases hguess with hguess | hguess
      · exact ⟨⟨text, htext, hguess⟩, hsame.mp ⟨text, htext, hguess⟩⟩
      · exact ⟨hsame.mpr ⟨text, htext, hguess⟩, ⟨text, htext, hguess⟩⟩
    · exact fun hboth => iff_of_true hboth.1 hboth.2

end

namespace Session

variable {fs : FileSystem} {c : Config} {schema : Schema} {source : Option Schema} {s : Session}

/-- Take a session with the standard built-in scalars, however it was made, and a name under any
flags and any configuration that the session may have by now. The type of the name and that of the
name where null is excluded are alike, in that values of both are written as strings or of neither,
exactly if types stay boxed, or the type is not the wrapper of a `byte`, `short`, `long`, `char` or
`float`, or there are two class names among those that are configured or on a scalar, one for this
primitive and one for its wrapper. -/
theorem isStringInput_nonNull_iff (h : create fs c schema .standard source = .ok s) :
    ∃ scanned, Schema.Scans fs c schema source scanned ∧
      ∀ config interface wildcard name, ∃ nullable nonNull,
        ({ s with config }).resolve interface wildcard (.named name) = .ok nullable ∧
        ({ s with config }).resolve interface wildcard (.nonNull (.named name)) = .ok nonNull ∧
        (s.isStringInput? nonNull = s.isStringInput? nullable ↔ config.keepsBoxed = true ∨
          ∀ kind, nullable = .boxed kind → kind ∉ [Primitive.int, .double, .boolean] →
            (∃ text, c.HasName scanned text ∧ JavaType.guess text = .ok (.primitive kind)) ∧
            ∃ text, c.HasName scanned text ∧ JavaType.guess text = .ok (.boxed kind)) := by
  obtain ⟨explicit, scanned, names, hmapping, hscanned, hnames, hmake⟩ := exists_tables_of_create h
  refine ⟨scanned, hscanned, fun config interface wildcard name => ?_⟩
  have hoverrides := resolver_overrides_of_create h
  have hprimitives : s.resolver.primitives = Builtins.standardPrimitives := by
    rw [eq_of_create h]
    rfl
  rw [← hoverrides] at hmake
  obtain ⟨type, htype⟩ : ∃ type, s.resolver.namedType interface name = type := ⟨_, rfl⟩
  refine ⟨type.box, if config.keepsBoxed = true then type.box else type.unbox, ?_, ?_, ?_⟩
  · rw [resolve_of_no_list { s with config } htype wildcard rfl, if_pos (.inr rfl)]
  · rw [resolve_of_no_list { s with config } htype wildcard rfl]
    simp only [TypeExpr.excludesNull, Bool.true_eq_false, or_false]
  · by_cases hkeeps : config.keepsBoxed = true
    · rw [if_pos hkeeps]
      exact iff_of_true rfl (.inl hkeeps)
    · rw [if_neg hkeeps, or_iff_right hkeeps, isStringInput?, isStringInput?]
      simp only [Config.hasName_iff hmapping hnames]
      -- Only a primitive and its wrapper are changed by excluding null, into the same two types.
      cases type with
      | primitive kind =>
        have hiff := Resolver.isStringInput?_primitive_eq_iff hmake hprimitives (.inl htype)
        exact hiff.trans ⟨fun h _ hkind => JavaType.boxed.inj hkind ▸ h, fun h => h kind rfl⟩
      | boxed kind =>
        have hiff := Resolver.isStringInput?_primitive_eq_iff hmake hprimitives (.inr htype)
        exact hiff.trans ⟨fun h _ hkind => JavaType.boxed.inj hkind ▸ h, fun h => h kind rfl⟩
      | _ =>
        refine iff_of_true rfl fun kind hkind => ?_
        cases hkind

/-- Another name that is mapped to `long` makes strings of both. -/
theorem isStringInput_nonNull_eq_of_both_spellings :
    let mapping := OrderedMap.ofList [("Long", "java.lang.Long"), ("Tick", "long")]
    let config := Config.standard.put .typeMapping
      (.object (mapping.entries.map fun e => (e.1, .text e.2)))
    ∃ s nullable nonNull, create ⟨.emptyDirectory, []⟩ config .empty = .ok s ∧
      s.resolve false false (.named "Long") = .ok nullable ∧
      s.resolve false false (.nonNull (.named "Long")) = .ok nonNull ∧
      s.isStringInput? nonNull = s.isStringInput? nullable := by
  intro mapping config
  have hm : config.MapsNames mapping := rfl
  obtain ⟨s, hs, hboxed⟩ : ∃ s, create ⟨.emptyDirectory, []⟩ config .empty = .ok s ∧
      s.resolve false false (.named "Long") = .ok (.boxed .long) := by
    subst config mapping
    exact ⟨_, rfl, by decide +kernel⟩
  obtain ⟨scanned, -, hiff⟩ := isStringInput_nonNull_iff hs
  obtain ⟨nullable, nonNull, hnullable, hnonNull, hiff⟩ := hiff s.config false false "Long"
  obtain rfl : JavaType.boxed .long = nullable := Except.ok.inj (hboxed.symm.trans hnullable)
  refine ⟨s, _, nonNull, hs, hnullable, hnonNull, hiff.mpr (.inr ?_)⟩
  rintro _ ⟨⟩ -
  have hname {name text : String} (hget : mapping.get? name = some text) : config.HasName scanned text :=
    .configured hm.mapping_eq (Json.Table.hasText_ofTexts.mpr ⟨name, hget⟩)
  have hwrapper : JavaType.guess "java.lang.Long" = .ok (.boxed .long) :=
    (@JavaType.guess_spelling_iff (.boxed .long)).mpr trivial
  exact ⟨⟨"long", @hname "Tick" _ rfl, rfl⟩, "java.lang.Long", @hname "Long" _ rfl, hwrapper⟩

/-- A scalar that is mapped to `java.lang.Long` only: its values are written as strings where null is
allowed and are not where it is excluded. -/
theorem isStringInput_nonNull_ne :
    let config := Config.standard.put .typeMapping (.object [("Long", .text "java.lang.Long")])
    let schema := Schema.ofDefinitions [.scalarType "Long" []]
    ∃ s, create ⟨.emptyDirectory, []⟩ config schema = .ok s ∧
      s.resolve false false (.named "Long") = .ok (.boxed .long) ∧
      s.resolve false false (.nonNull (.named "Long")) = .ok (.primitive .long) ∧
      s.isStringInput? (.boxed .long) = some true ∧
      s.isStringInput? (.primitive .long) = some false := by
  intro config schema
  subst config schema
  refine ⟨_, rfl, ?_, ?_, ?_, ?_⟩
  · decide +kernel
  · decide +kernel
  · decide +kernel
  · decide +kernel

end Session

end TypeAtlas
