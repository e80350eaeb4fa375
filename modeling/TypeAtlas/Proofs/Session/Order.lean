import TypeAtlas.Proofs.Override.StringInput
import TypeAtlas.Proofs.Schema.Alike
import TypeAtlas.Proofs.Session.Creation

/-!
# The order of definitions

The first definition of a name gives the kind, directives are kept in order and the first failure is
the one that is told, but nothing that a session answers depends on the order of the definitions:

* `OverrideTable.lookup_eq_of_get?_eq`, `OverrideTable.isStringInput_eq_of_get?_eq`: tables of the
  same class names give the same answers;
* `Resolver.normalForm_congr`: resolving depends on the names that are mapped, the object types and
  the package;
* `Session.exists_create_of_alike`: alike schemas have sessions that give the same answers;
* `Session.create_perm`: the same definitions in another order.
-/

namespace TypeAtlas

open Files (FileSystem)
open GraphQL (TypeExpr)
open Java (JavaType)

/-! ## Tables -/

theorem Overrides.exists_read_ofTexts_iff_get? {m : OrderedMap String String} :
    (∃ o, Overrides.read (.ofTexts m) = .ok o) ↔
      ∀ name text, m.get? name = some text → ∃ type, JavaType.guess text = .ok type := by
  simp only [exists_read_ofTexts_iff, OrderedMap.get?_eq_some_iff_mem, Prod.forall]

namespace OverrideTable

section

variable {explicit names names' : OrderedMap String String} {builtins : Builtins} {t : OverrideTable}
  (h : make (.ofTexts explicit) (.ofTexts names) builtins = .ok t)
  (hnames : ∀ name, names'.get? name = names.get? name)
include h hnames

theorem exists_make_of_get?_eq :
    ∃ t', make (.ofTexts explicit) (.ofTexts names') builtins = .ok t' := by
  obtain ⟨d, e, hd, he, -⟩ := make_eq_ok_iff.mp h
  have hd' : ∃ d', Overrides.read (.ofTexts names') = .ok d' := by
    rw [Overrides.exists_read_ofTexts_iff_get?]
    simp only [hnames]
    exact Overrides.exists_read_ofTexts_iff_get?.mp ⟨d, hd⟩
  obtain ⟨d', hd'⟩ := hd'
  exact ⟨_, make_eq_ok_iff.mpr ⟨d', e, hd', he, rfl⟩⟩

variable {t' : OverrideTable}
  (h' : make (.ofTexts explicit) (.ofTexts names') builtins = .ok t')
include h'

theorem lookup_eq_of_get?_eq (name : String) : t'.lookup name = t.lookup name := by
  rw [lookup_make h', lookup_make h, hnames]

theorem mem_mappedNames_iff_of_get?_eq (name : String) :
    name ∈ t'.mappedNames ↔ name ∈ t.mappedNames := by
  rw [mem_mappedNames_iff h', mem_mappedNames_iff h]
  simp only [Json.Table.hasText_ofTexts, hnames]

theorem isStringInput_eq_of_get?_eq (type : JavaType) :
    t'.isStringInput type = t.isStringInput type := by
  have hcontains : t'.mappedNames.contains type.spelling = t.mappedNames.contains type.spelling := by
    rw [Bool.eq_iff_iff, List.contains_iff_mem, List.contains_iff_mem]
    exact mem_mappedNames_iff_of_get?_eq h hnames h' _
  rw [isStringInput, isStringInput, hcontains, builtinTypes_make h, builtinTypes_make h']

end

end OverrideTable

/-! ## Resolvers -/

namespace Resolver

variable {r r' : Resolver}

theorem namedType_congr {interface : Bool} {name : String}
    (hlookup : r'.overrides.lookup name = r.overrides.lookup name)
    (hprimitives : r'.primitives = r.primitives) (hpackage : r'.package = r.package)
    (hobject : r'.schema.isObjectType name = r.schema.isObjectType name) :
    r'.namedType interface name = r.namedType interface name := by
  rw [namedType, namedType, generatedType, generatedType, hlookup, hprimitives, hpackage, hobject]

theorem normalForm_congr {use : Usage} {e : TypeExpr}
    (hnamed : r'.namedType use.interface e.leafName = r.namedType use.interface e.leafName)
    (hinterface : ∀ type, r'.NamesInterface type ↔ r.NamesInterface type) :
    r'.normalForm use e = r.normalForm use e := by
  simp only [normalForm, element, hnamed, hinterface]

/-- Alike schemas have the same interfaces. -/
theorem namesInterface_iff_of_alike (h : r.schema.Alike r'.schema) (hs : r.schema.Keyed)
    (hs' : r'.schema.Keyed) (type : JavaType) : r'.NamesInterface type ↔ r.NamesInterface type := by
  have hnames {r r' : Resolver} (h : r.schema.Alike r'.schema) (hs : r.schema.Keyed)
      (hs' : r'.schema.Keyed) : r.NamesInterface type → r'.NamesInterface type := by
    rintro ⟨c, rfl, d, hd, hkind, hname⟩
    obtain ⟨e, he, halike⟩ := h.exists_mem_ofKind hs hs' (List.mem_filter.mpr ⟨hd, by simpa using hkind⟩)
    obtain ⟨he, hkind'⟩ := List.mem_filter.mp he
    exact ⟨c, rfl, e, he, of_decide_eq_true hkind', halike.name ▸ hname⟩
  exact ⟨hnames h.symm hs' hs, hnames h hs hs'⟩

end Resolver

namespace Session

/-- Whether two sessions give the same answers. -/
structure AnswersAlike (s s' : Session) : Prop where
  lookup (name : String) : s'.overrides.lookup name = s.overrides.lookup name
  resolve (interface wildcard : Bool) (e : TypeExpr) :
    s'.resolve interface wildcard e = s.resolve interface wildcard e
  isStringInput (type : JavaType) : s'.isStringInput type = s.isStringInput type

variable {fs : FileSystem} {c : Config} {m : OrderedMap String String} {schema schema' : Schema}
  {builtins : Builtins} {s s' : Session}

/-- Sessions for alike schemas resolve alike if they map the same names. -/
theorem resolve_eq_of_alike (hs : create fs c schema builtins = .ok s)
    (hs' : create fs c schema' builtins = .ok s') (halike : schema.Alike schema')
    (hkeyed : schema.Keyed) (hkeyed' : schema'.Keyed)
    (hlookup : ∀ name, s'.overrides.lookup name = s.overrides.lookup name)
    (interface wildcard : Bool) (e : TypeExpr) :
    s'.resolve interface wildcard e = s.resolve interface wildcard e := by
  rw [eq_of_create hs, eq_of_create hs']
  show Resolver.resolve _ _ e = Resolver.resolve _ _ e
  rw [Resolver.resolve_eq_normalForm, Resolver.resolve_eq_normalForm]
  refine congrArg Except.ok (Resolver.normalForm_congr ?_ ?_)
  · exact Resolver.namedType_congr (hlookup _) rfl rfl (halike.isObjectType_eq _).symm
  · exact Resolver.namesInterface_iff_of_alike halike hkeyed hkeyed'

/-- If there is a session for a schema that is itself scanned, there is one for every schema that is
alike, and it gives the same answers. -/
theorem exists_create_of_alike (hm : c.MapsNames m) (hno : c.namesSources = .ok false)
    (halike : schema.Alike schema') (hkeyed : schema.Keyed) (hkeyed' : schema'.Keyed)
    (hs : create fs c schema builtins = .ok s) :
    ∃ s', create fs c schema' builtins = .ok s' ∧ s.AnswersAlike s' := by
  obtain ⟨t, ht, rfl⟩ := create_eq_ok_iff.mp hs
  obtain ⟨scanned, names, hscanned, hnames, hmake⟩ := (OverrideTable.build_eq_ok_iff hm).mp ht
  obtain rfl := hscanned.unique (.itself hno)
  obtain ⟨names', hnames', hget⟩ := halike.mappingsFor hkeyed hkeyed' hnames
  obtain ⟨t', hmake'⟩ := OverrideTable.exists_make_of_get?_eq hmake hget
  have ht' : OverrideTable.build fs c schema' builtins = .ok t' :=
    (OverrideTable.build_eq_ok_iff hm).mpr ⟨schema', names', .itself hno, hnames', hmake'⟩
  have hs' := create_eq_ok_iff.mpr ⟨t', ht', rfl⟩
  have hlookup := OverrideTable.lookup_eq_of_get?_eq hmake hget hmake'
  refine ⟨_, hs', hlookup, resolve_eq_of_alike hs hs' halike hkeyed hkeyed' hlookup, ?_⟩
  exact OverrideTable.isStringInput_eq_of_get?_eq hmake hget hmake'

/-- Without sources that have to be read, only the configuration of a session can be at fault. -/
theorem exists_configuration_of_create_eq_error (hm : c.MapsNames m)
    (hno : c.namesSources = .ok false) (hschema : schema.IsParsed) {e : SessionError}
    (h : create fs c schema builtins = .error e) : ∃ e', e = .configuration e' := by
  have hsource : ∀ given : Schema, none = some given → given.IsParsed := by
    rintro _ ⟨⟩
  cases (create_eq_error_iff hm hschema hsource).mp h with
  | scan hfails =>
    have hscans : Schema.Scans fs c schema none schema := .itself hno
    exact absurd hfails (hscans.not_scanFails e)
  | directive => exact ⟨_, rfl⟩
  | foundName => exact ⟨_, rfl⟩
  | configuredName => exact ⟨_, rfl⟩

/-- Take definitions and extensions of which those that share a name are of one kind, in any other
order, and a configuration that names no sources. Either the configuration is found at fault with
both, or there are sessions for both, and they map the same names, resolve every reference under all
flags to the same type and write values of the same types as strings. A scan for class names fails
for both, or gives each name the same class name in both. -/
theorem create_perm {ds es : List GraphQL.Definition} (hm : c.MapsNames m)
    (hno : c.namesSources = .ok false) (hperm : ds.Perm es) (hkinds : Schema.KindsAgree ds) :
    ((∃ e e', create fs c (.ofDefinitions ds) builtins = .error (.configuration e) ∧
        create fs c (.ofDefinitions es) builtins = .error (.configuration e')) ∨
      ∃ s s', create fs c (.ofDefinitions ds) builtins = .ok s ∧
        create fs c (.ofDefinitions es) builtins = .ok s' ∧ s.AnswersAlike s') ∧
    ∀ directive argument,
      (∃ e e', (Schema.ofDefinitions ds).directiveMappings directive argument = .error e ∧
        (Schema.ofDefinitions es).directiveMappings directive argument = .error e') ∨
      ∃ names names', (Schema.ofDefinitions ds).directiveMappings directive argument = .ok names ∧
        (Schema.ofDefinitions es).directiveMappings directive argument = .ok names' ∧
        ∀ name, names'.get? name = names.get? name := by
  have halike := Schema.alike_of_perm hperm hkinds
  have hkeyed : (Schema.ofDefinitions ds).Keyed := Schema.IsParsed.keyed ⟨ds, rfl⟩
  have hkeyed' : (Schema.ofDefinitions es).Keyed := Schema.IsParsed.keyed ⟨es, rfl⟩
  constructor
  · have hcreate : (∃ e e', create fs c (.ofDefinitions ds) builtins = .error e ∧
          create fs c (.ofDefinitions es) builtins = .error e') ∨
        ∃ s s', create fs c (.ofDefinitions ds) builtins = .ok s ∧
          create fs c (.ofDefinitions es) builtins = .ok s' ∧ s.AnswersAlike s' := by
      refine both_error_or_both_ok ?_ fun s' hs' => ?_
      · exact fun s => exists_create_of_alike hm hno halike hkeyed hkeyed'
      · obtain ⟨s, hs, -⟩ := exists_create_of_alike hm hno halike.symm hkeyed' hkeyed hs'
        exact ⟨s, hs⟩
    refine hcreate.imp_left ?_
    rintro ⟨_, _, hs, hs'⟩
    obtain ⟨e, rfl⟩ := exists_configuration_of_create_eq_error hm hno ⟨ds, rfl⟩ hs
    obtain ⟨e', rfl⟩ := exists_configuration_of_create_eq_error hm hno ⟨es, rfl⟩ hs'
    exact ⟨e, e', hs, hs'⟩
  · intro directive argument
    refine both_error_or_both_ok ?_ fun names' hnames' => ?_
    · exact fun names => halike.directiveMappings hkeyed hkeyed'
    · obtain ⟨names, hnames, -⟩ := halike.symm.directiveMappings hkeyed' hkeyed hnames'
      exact ⟨names, hnames⟩

/-- An extension that carries the directive may come before or after what it extends. -/
theorem create_extension_first :
    let javaType (name : String) : GraphQL.Directive := ⟨"javaType", [("name", .string name)]⟩
    let extension : GraphQL.Definition := .scalarTypeExtension "Url" [javaType "java.net.URI"]
    let rest : List GraphQL.Definition := [.scalarType "Url" [], .objectType "Show" []]
    ∃ s s',
      create ⟨.emptyDirectory, []⟩ .standard (.ofDefinitions (extension :: rest)) = .ok s ∧
      create ⟨.emptyDirectory, []⟩ .standard (.ofDefinitions (rest ++ [extension])) = .ok s' ∧
      s'.overrides.lookup "Url" = some (Builtins.classType "java.net" "URI") ∧
      s.AnswersAlike s' := by
  intro javaType extension rest
  have hm : Config.standard.MapsNames .empty := rfl
  have hkinds : Schema.KindsAgree (extension :: rest) := by
    simp [Schema.KindsAgree, extension, rest, Schema.definitionKind?, GraphQL.Definition.name?]
  have hperm : (extension :: rest).Perm (rest ++ [extension]) :=
    (List.perm_append_singleton extension rest).symm
  obtain ⟨s, hs, hlookup⟩ : ∃ s, create ⟨.emptyDirectory, []⟩ .standard
      (.ofDefinitions (extension :: rest)) = .ok s ∧
      s.overrides.lookup "Url" = some (Builtins.classType "java.net" "URI") := by
    subst extension rest javaType
    exact ⟨_, rfl, rfl⟩
  obtain ⟨h, -⟩ := @create_perm ⟨.emptyDirectory, []⟩ _ _ .standard _ _ hm rfl hperm hkinds
  rcases h with ⟨e, e', h, -⟩ | ⟨t, s', h, h', hsame⟩
  · cases hs.symm.trans h
  · obtain rfl := Except.ok.inj (hs.symm.trans h)
    exact ⟨s, s', hs, h', (hsame.lookup "Url").trans hlookup, hsame⟩

end Session

end TypeAtlas
