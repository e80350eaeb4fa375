import TypeAtlas.Proofs.Session.Creation

/-!
# Which type a name stands for

What a session resolves a name to comes from the first of five layers that has the name: configured
class names, those that directives give, common built-in scalars, primitives, generated classes.
The directives are those of the schema that is scanned, while the generated classes follow the schema
of the session:

* `Resolver.namedType_of_found`, `Resolver.namedType_of_none`: a name that the table or the
  primitives have stands for the type there, any other for a generated class;
* `lookup_of_configured`, `lookup_of_findsNameOf`, `lookup_of_none`, `lookup_eq_none_iff`: what the
  table of a session has;
* `resolve_named_first`: the five layers in order, for every session that can be made.
-/

namespace TypeAtlas

open Files (FileSystem)
open Java (JavaType)

namespace Resolver

variable {r : Resolver} {interface : Bool} {name : String} {type : JavaType}

theorem namedType_of_found (h : (r.overrides.lookup name).or (r.primitives.get? name) = some type) :
    r.namedType interface name = type := by
  rw [namedType, h, Option.getD_some]

/-- A name that is found nowhere stands for a generated class. -/
theorem namedType_of_none (hno : r.overrides.lookup name = none)
    (hprimitive : r.primitives.get? name = none) (hschema : r.schema.Keyed) :
    r.namedType interface name = .declared ⟨r.package,
      if interface = true ∧ ∃ d ∈ r.schema.types, d.name = name ∧ d.kind = .object then "I" ++ name
      else name, []⟩ := by
  rw [namedType, hno, hprimitive, Option.none_or, Option.getD_none, generatedType]
  simp only [Bool.and_eq_true, hschema.isObjectType_iff]
  rfl

end Resolver

/-- Whether the scalar of a given name in a schema gives a class name in the directive that a
configuration names. -/
def Config.FindsNameOf (c : Config) (scanned : Schema) (name text : String) : Prop :=
  ∃ d ∈ scanned.ofKind .scalar, d.name = name ∧ c.FindsName d text

namespace Session

variable {fs : FileSystem} {c : Config} {m : OrderedMap String String} {schema scanned : Schema}
  {source : Option Schema} {builtins : Builtins} {s : Session} {name text : String}

section

variable (hm : c.MapsNames m) (hscanned : Schema.Scans fs c schema source scanned)
  (h : create fs c schema builtins source = .ok s)
include hm hscanned h

theorem exists_make_of_create : ∃ names, scanned.mappingsFor c.directive? = .ok names ∧
    OverrideTable.make (.ofTexts m) (.ofTexts names) builtins = .ok s.overrides := by
  obtain ⟨t, ht, rfl⟩ := create_eq_ok_iff.mp h
  obtain ⟨scanned', names, hscanned', hnames, hmake⟩ := (OverrideTable.build_eq_ok_iff hm).mp ht
  obtain rfl := hscanned.unique hscanned'
  exact ⟨names, hnames, hmake⟩

theorem lookup_of_configured (hget : m.get? name = some text) :
    ∃ type, JavaType.guess text = .ok type ∧ s.overrides.lookup name = some type := by
  obtain ⟨names, -, hmake⟩ := exists_make_of_create hm hscanned h
  exact OverrideTable.lookup_make_of_explicit hmake hget

theorem lookup_of_findsNameOf (hkeyed : scanned.Keyed) (hno : m.get? name = none)
    (hfinds : c.FindsNameOf scanned name text) :
    ∃ type, JavaType.guess text = .ok type ∧ s.overrides.lookup name = some type := by
  obtain ⟨names, hnames, hmake⟩ := exists_make_of_create hm hscanned h
  exact OverrideTable.lookup_make_of_directive hmake hno ((hkeyed.get?_mappingsFor hnames).mpr hfinds)

theorem lookup_of_none (hkeyed : scanned.Keyed) (hno : m.get? name = none)
    (hfinds : ∀ text, ¬c.FindsNameOf scanned name text) :
    s.overrides.lookup name = builtins.common.get? name := by
  obtain ⟨names, hnames, hmake⟩ := exists_make_of_create hm hscanned h
  refine OverrideTable.lookup_make_of_none hmake hno ?_
  refine Option.eq_none_iff_forall_ne_some.mpr fun text htext => ?_
  exact hfinds text ((hkeyed.get?_mappingsFor hnames).mp htext)

/-- A name is missing from the table if no layer of the table has it. -/
theorem lookup_eq_none_iff (hkeyed : scanned.Keyed) : s.overrides.lookup name = none ↔
    m.get? name = none ∧ (∀ text, ¬c.FindsNameOf scanned name text) ∧
      builtins.common.get? name = none := by
  constructor
  · intro hlookup
    have hno : m.get? name = none := by
      refine Option.eq_none_iff_forall_ne_some.mpr fun text hget => ?_
      obtain ⟨type, -, htype⟩ := lookup_of_configured hm hscanned h hget
      cases hlookup.symm.trans htype
    have hfinds : ∀ text, ¬c.FindsNameOf scanned name text := by
      intro text hfinds
      obtain ⟨type, -, htype⟩ := lookup_of_findsNameOf hm hscanned h hkeyed hno hfinds
      cases hlookup.symm.trans htype
    exact ⟨hno, hfinds, (lookup_of_none hm hscanned h hkeyed hno hfinds).symm.trans hlookup⟩
  · intro hnone
    obtain ⟨hno, hfinds, hcommon⟩ := hnone
    exact (lookup_of_none hm hscanned h hkeyed hno hfinds).trans hcommon

/-- The same directives give the same table, whatever schema is resolved against. -/
theorem overrides_eq_of_scans {schema' : Schema} {source' : Option Schema} {s' : Session}
    (hscanned' : Schema.Scans fs c schema' source' scanned)
    (h' : create fs c schema' builtins source' = .ok s') : s'.overrides = s.overrides := by
  obtain ⟨names, hnames, hmake⟩ := exists_make_of_create hm hscanned h
  obtain ⟨names', hnames', hmake'⟩ := exists_make_of_create hm hscanned' h'
  obtain rfl := Except.ok.inj (hnames.symm.trans hnames')
  exact Except.ok.inj (hmake'.symm.trans hmake)

end

/-- A name that the table or the primitives have stands for the type there under all flags. -/
theorem resolve_named_of_found (h : create fs c schema builtins source = .ok s) {type : JavaType}
    (hfound : (s.overrides.lookup name).or (builtins.primitives.get? name) = some type)
    (interface wildcard : Bool) : s.resolve interface wildcard (.named name) = .ok type.box := by
  rw [eq_of_create h]
  show Except.ok (Resolver.namedType _ interface name).box = _
  rw [Resolver.namedType_of_found hfound]

theorem resolve_named_of_none (h : create fs c schema builtins source = .ok s)
    (hschema : schema.Keyed) (hno : s.overrides.lookup name = none)
    (hprimitive : builtins.primitives.get? name = none) (interface wildcard : Bool) :
    s.resolve interface wildcard (.named name) = .ok (.declared ⟨c.typesPackage,
      if interface = true ∧ ∃ d ∈ schema.types, d.name = name ∧ d.kind = .object then "I" ++ name
      else name, []⟩) := by
  rw [eq_of_create h]
  show Except.ok (Resolver.namedType _ interface name).box = _
  rw [Resolver.namedType_of_none hno hprimitive hschema]
  rfl

/-- A name of a session stands for the boxed type of the first layer that has it: the configured
class name; the class name that its scalar in the scanned schema gives; the common built-in scalar;
the primitive; the generated class, which is the interface if the name is that of an object type in
the schema of the session and interfaces are asked for. A name that one of the first four layers has
stands for the same type under all flags and in every session with the same scanned schema. -/
theorem resolve_named_first (hm : c.MapsNames m) (hschema : schema.IsParsed)
    (hsource : ∀ given, source = some given → given.IsParsed)
    (h : create fs c schema builtins source = .ok s) :
    ∃ scanned, Schema.Scans fs c schema source scanned ∧ ∀ name,
      (∀ text, m.get? name = some text → ∃ type, JavaType.guess text = .ok type ∧
        ∀ interface wildcard, s.resolve interface wildcard (.named name) = .ok type.box) ∧
      (m.get? name = none →
        (∀ text, c.FindsNameOf scanned name text → ∃ type, JavaType.guess text = .ok type ∧
          ∀ interface wildcard, s.resolve interface wildcard (.named name) = .ok type.box) ∧
        ((∀ text, ¬c.FindsNameOf scanned name text) →
          (∀ type, builtins.common.get? name = some type →
            ∀ interface wildcard, s.resolve interface wildcard (.named name) = .ok type.box) ∧
          (builtins.common.get? name = none →
            (∀ type, builtins.primitives.get? name = some type →
              ∀ interface wildcard, s.resolve interface wildcard (.named name) = .ok type.box) ∧
            (builtins.primitives.get? name = none →
              ∀ interface wildcard, s.resolve interface wildcard (.named name) =
                .ok (.declared ⟨c.typesPackage,
                  if interface = true ∧ ∃ d ∈ schema.types, d.name = name ∧ d.kind = .object
                  then "I" ++ name else name, []⟩))))) ∧
      (m.get? name ≠ none ∨ (∃ text, c.FindsNameOf scanned name text) ∨
          builtins.common.get? name ≠ none ∨ builtins.primitives.get? name ≠ none →
        ∀ schema' source' s', create fs c schema' builtins source' = .ok s' →
          Schema.Scans fs c schema' source' scanned → ∀ interface wildcard interface' wildcard',
          s'.resolve interface' wildcard' (.named name) =
            s.resolve interface wildcard (.named name)) := by
  obtain ⟨t, ht, -⟩ := create_eq_ok_iff.mp h
  obtain ⟨scanned, -, hscanned, -, -⟩ := (OverrideTable.build_eq_ok_iff hm).mp ht
  have hkeyed := (hscanned.isParsed hschema hsource).keyed
  refine ⟨scanned, hscanned, fun name => ?_⟩
  refine ⟨?_, fun hno => ⟨?_, fun hfinds => ⟨?_, fun hcommon => ?_⟩⟩, ?_⟩
  · intro text hget
    obtain ⟨type, htype, hlookup⟩ := lookup_of_configured hm hscanned h hget
    exact ⟨type, htype, resolve_named_of_found h (by rw [hlookup, Option.some_or])⟩
  · intro text hfinds
    obtain ⟨type, htype, hlookup⟩ := lookup_of_findsNameOf hm hscanned h hkeyed hno hfinds
    exact ⟨type, htype, resolve_named_of_found h (by rw [hlookup, Option.some_or])⟩
  · intro type hcommon
    have hlookup := lookup_of_none hm hscanned h hkeyed hno hfinds
    exact resolve_named_of_found h (by rw [hlookup, hcommon, Option.some_or])
  · have hlookup := (lookup_of_none hm hscanned h hkeyed hno hfinds).trans hcommon
    constructor
    · intro type hprimitive
      exact resolve_named_of_found h (by rw [hlookup, hprimitive, Option.none_or])
    · exact fun hprimitive => resolve_named_of_none h hschema.keyed hlookup hprimitive
  · intro hfirst schema' source' s' h' hscanned' interface wildcard interface' wildcard'
    -- The tables are the same, so only a name that neither they nor the primitives have could tell
    -- the two sessions apart.
    have htable := overrides_eq_of_scans hm hscanned h hscanned' h'
    cases hfound : (s.overrides.lookup name).or (builtins.primitives.get? name) with
    | some type =>
      rw [resolve_named_of_found h hfound, resolve_named_of_found h' (htable ▸ hfound)]
    | none =>
      obtain ⟨hlookup, hprimitive⟩ := Option.or_eq_none_iff.mp hfound
      obtain ⟨hno, hfinds, hcommon⟩ := (lookup_eq_none_iff hm hscanned h hkeyed).mp hlookup
      rcases hfirst with hne | ⟨text, htext⟩ | hne | hne
      · exact absurd hno hne
      · exact absurd htext (hfinds text)
      · exact absurd hcommon hne
      · exact absurd hprimitive hne

/-- Each layer in turn: a name that is configured and also on a scalar, one that is on a scalar and
also an object type, a common scalar, a primitive, and an object type. -/
theorem resolve_named_each_layer :
    let javaType (name : String) : GraphQL.Directive := ⟨"javaType", [("name", .string name)]⟩
    let source := Schema.ofDefinitions [.scalarType "Url" [javaType "java.net.URL"],
      .scalarType "Mail" [javaType "java.lang.String"]]
    let schema := Schema.ofDefinitions [.objectType "Mail" [], .objectType "Show" []]
    let config := Config.standard.put .typeMapping (.object [("Url", .text "java.net.URI")])
    ∃ s, create ⟨.emptyDirectory, []⟩ config schema .standard (some source) = .ok s ∧
      s.resolve true false (.named "Url") = .ok (Builtins.classType "java.net" "URI") ∧
      s.resolve true false (.named "Mail") = .ok Java.stringType ∧
      s.resolve true false (.named "Date") = .ok (Builtins.classType "java.time" "LocalDate") ∧
      s.resolve true false (.named "Int") = .ok (.boxed .int) ∧
      s.resolve true false (.named "Show") =
        .ok (Builtins.classType "com.netflix.dgs.codegen.generated.types" "IShow") := by
  intro javaType source schema config
  have hm : config.MapsNames (.ofList [("Url", "java.net.URI")]) := rfl
  have hsource : ∀ given, some source = some given → given.IsParsed := by
    rintro _ ⟨⟩
    exact ⟨_, rfl⟩
  obtain ⟨s, hs⟩ : ∃ s,
      create ⟨.emptyDirectory, []⟩ config schema .standard (some source) = .ok s := by
    subst config schema source javaType
    exact ⟨_, rfl⟩
  obtain ⟨scanned, hscanned, hfirst⟩ := resolve_named_first hm ⟨_, rfl⟩ hsource hs
  obtain rfl := hscanned.unique (.given source)
  have hnone {name : String} (hname : ∀ d ∈ source.ofKind .scalar, d.name ≠ name) (text : String) :
      ¬config.FindsNameOf source name text := by
    intro hfinds
    obtain ⟨d, hd, heq, -⟩ := hfinds
    exact hname d hd heq
  refine ⟨s, hs, ?_, ?_, ?_, ?_, ?_⟩
  · obtain ⟨type, htype, h⟩ := (hfirst "Url").1 "java.net.URI" rfl
    cases htype
    exact h true false
  · have hmail : config.FindsNameOf source "Mail" "java.lang.String" :=
      ⟨_, .tail _ (.head _), rfl, "javaType", rfl, _, rfl, rfl⟩
    obtain ⟨type, htype, h⟩ := ((hfirst "Mail").2.1 rfl).1 _ hmail
    cases htype
    exact h true false
  · exact (((hfirst "Date").2.1 rfl).2 (hnone (by decide))).1 _ rfl true false
  · exact ((((hfirst "Int").2.1 rfl).2 (hnone (by decide))).2 rfl).1 _ rfl true false
  · rw [((((hfirst "Show").2.1 rfl).2 (hnone (by decide))).2 rfl).2 rfl true false, if_pos (by decide)]
    rfl

end Session

end TypeAtlas
