import TypeAtlas.Proofs.Schema.ClassNames
import TypeAtlas.Proofs.Schema.Entries
import TypeAtlas.Proofs.Session.Order

/-!
# Sources that are named twice

Definitions that are read a second time change neither the names of a schema nor their order nor
kinds, but every directive is there twice. Nobody looks at directives but the scan for class names,
and to it a directive that is there twice is at fault:

* `Schema.Keyed.types_merge_self`: a schema merged into itself;
* `OverrideTable.build_eq_of_mappingsFor_eq`: the table takes nothing else from a schema than what
  the scan gives;
* `Schema.Keyed.mappingsFor_merge_self`, `Schema.Keyed.mappingsFor_merge_self_of_carries`: the scan,
  without and with a scalar that carries the directive;
* `Session.create_append_self`: the sessions for some definitions and for these definitions twice.
-/

namespace TypeAtlas

open Files (FileSystem)
open GraphQL (Definition TypeKind)
open Java (JavaType)
open Schema (TypeDefinition)

/-- The values are those that the keys are read back with. -/
theorem OrderedMap.values_eq_filterMap_keys {κ α : Type} [DecidableEq κ] (m : OrderedMap κ α) :
    m.values = m.keys.filterMap m.get? := by
  rw [values, keys, List.filterMap_map, ← List.filterMap_eq_map]
  exact List.filterMap_congr fun e he => (m.get?_eq_some_iff_mem.mpr he).symm

namespace Schema

/-! ## A schema merged into itself -/

theorem TypeDefinition.directivesNamed_extend (d later : TypeDefinition) (name : String) :
    (d.extend later).directivesNamed name = d.directivesNamed name ++ later.directivesNamed name :=
  List.filter_append ..

theorem ofDefinitions_append_self (ds : List Definition) :
    ofDefinitions (ds ++ ds) = (ofDefinitions ds).merge (ofDefinitions ds) :=
  ofDefinitions_append ds ds

namespace Keyed

variable {s : Schema} (h : s.Keyed)
include h

theorem get?_merge_self (name : String) :
    (s.merge s).get? name = (s.get? name).map fun d => d.extend d := by
  rw [h.get?_merge h]
  cases s.get? name <;> rfl

/-- No name is added and none is moved. -/
theorem keys_merge_self : (s.merge s).definitions.keys = s.definitions.keys := by
  have hnone : s.definitions.keys.removeAll s.definitions.keys = [] :=
    List.filter_eq_nil_iff.mpr fun name hname => by simpa using hname
  rw [h.keys_merge, List.eraseDups_append, hnone, List.eraseDups_nil, List.append_nil]
  exact eraseDups_of_nodup s.definitions.nodup_keys

theorem types_merge_self : (s.merge s).types = s.types.map fun d => d.extend d := by
  have hget : (s.merge s).definitions.get? = fun name => (s.get? name).map fun d => d.extend d :=
    funext h.get?_merge_self
  rw [types, OrderedMap.values_eq_filterMap_keys, h.keys_merge_self, hget, types,
    OrderedMap.values_eq_filterMap_keys, List.map_filterMap]
  rfl

theorem ofKind_merge_self (kind : TypeKind) :
    (s.merge s).ofKind kind = (s.ofKind kind).map fun d => d.extend d := by
  rw [ofKind, h.types_merge_self, List.filter_map]
  rfl

theorem isObjectType_merge_self (name : String) :
    (s.merge s).isObjectType name = s.isObjectType name := by
  rw [isObjectType, h.get?_merge_self, Option.any_map]
  rfl

/-! ## What the scan finds -/

variable {c : Config}

/-- What no scalar carries is not there twice. -/
theorem mappingsFor_merge_self (hno : ∀ d ∈ s.ofKind .scalar, ∀ directive,
      c.directive? = some directive → d.directivesNamed directive = []) :
    (s.merge s).mappingsFor c.directive? = s.mappingsFor c.directive? := by
  cases hdirective : c.directive? with
  | none => rfl
  | some directive =>
    refine directiveMappings_congr ?_
    rw [h.ofKind_merge_self, List.map_map]
    refine List.map_congr_left fun d hd => ?_
    show (d.extend d).carried directive standardArgument = _
    have hnil := hno d hd directive hdirective
    rw [TypeDefinition.carried, TypeDefinition.directivesNamed_extend, TypeDefinition.carried, hnil]
    rfl

/-- The first scalar that carries the directive carries it twice, and those before it not at all. -/
theorem mappingsFor_merge_self_of_carries {directive : String}
    (hdirective : c.directive? = some directive) {before after : List TypeDefinition}
    {d : TypeDefinition} (hscalars : s.ofKind .scalar = before ++ d :: after)
    (hbefore : ∀ d' ∈ before, d'.directivesNamed directive = [])
    (hcarries : d.directivesNamed directive ≠ []) :
    (s.merge s).mappingsFor c.directive? = .error (.repeatedDirective directive d.name) := by
  refine mappingsFor_eq_error_iff.mpr ⟨before.map fun d => d.extend d, d.extend d,
    after.map fun d => d.extend d, ?_, ?_, directive, hdirective, .repeated ?_⟩
  · rw [h.ofKind_merge_self, hscalars, List.map_append, List.map_cons]
  · intro twice htwice
    obtain ⟨d', hd', rfl⟩ := List.mem_map.mp htwice
    refine (Config.forall_not_findsFault_iff _).mpr fun directive' hdirective' hne => ?_
    obtain rfl := Option.some.inj (hdirective.symm.trans hdirective')
    rw [TypeDefinition.directivesNamed_extend, hbefore d' hd'] at hne
    exact absurd rfl hne
  · rw [TypeDefinition.directivesNamed_extend, List.length_append]
    have := List.length_pos_iff.mpr hcarries
    omega

end Keyed

end Schema

/-! ## Tables and sessions -/

variable {fs : FileSystem} {c : Config} {builtins : Builtins}

/-- If no sources are configured, the table takes from a schema what the scan gives and nothing
else. -/
theorem OverrideTable.build_eq_of_mappingsFor_eq (hno : c.namesSources = .ok false) {s t : Schema}
    (h : t.mappingsFor c.directive? = s.mappingsFor c.directive?) :
    build fs c t builtins = build fs c s builtins := by
  rw [build, build, Schema.scanned_none_of_ok hno, Schema.scanned_none_of_ok hno]
  show ((t.mappingsFor c.directive?).mapError _ >>= _) = _
  rw [h]
  rfl

theorem OverrideTable.build_of_mappingsFor_eq_error (hno : c.namesSources = .ok false) {s : Schema}
    {e : ConfigurationError} (h : s.mappingsFor c.directive? = .error e) :
    build fs c s builtins = .error (.configuration e) := by
  rw [build, Schema.scanned_none_of_ok hno]
  show ((s.mappingsFor c.directive?).mapError _ >>= _) = _
  rw [h]
  rfl

theorem Resolver.namesInterface_merge_self_iff {r r' : Resolver} (h : r.schema.Keyed)
    (hschema : r'.schema = r.schema.merge r.schema) (type : JavaType) :
    r'.NamesInterface type ↔ r.NamesInterface type := by
  simp only [NamesInterface, hschema, h.types_merge_self, List.mem_map, exists_exists_and_eq_and]
  rfl

namespace Session

/-- With the same table a session for a schema that is merged into itself gives the same answers. -/
theorem answersAlike_merge_self {s s' : Session} {schema : Schema} (hkeyed : schema.Keyed)
    (hs : create fs c schema builtins = .ok s)
    (hs' : create fs c (schema.merge schema) builtins = .ok s')
    (htable : s'.overrides = s.overrides) : s.AnswersAlike s' := by
  refine ⟨fun name => by rw [htable], fun interface wildcard e => ?_, fun type => ?_⟩
  · rw [eq_of_create hs, eq_of_create hs', htable]
    show Resolver.resolve _ _ e = Resolver.resolve _ _ e
    rw [Resolver.resolve_eq_normalForm, Resolver.resolve_eq_normalForm]
    refine congrArg Except.ok (Resolver.normalForm_congr ?_ ?_)
    · exact Resolver.namedType_congr rfl rfl rfl (hkeyed.isObjectType_merge_self _)
    · exact Resolver.namesInterface_merge_self_iff hkeyed rfl
  · rw [isStringInput, isStringInput, resolver_overrides_of_create hs,
      resolver_overrides_of_create hs', htable]

/-- Compare the sessions for some definitions and for the same definitions twice, in a configuration
that names no sources. If no scalar carries the directive for class names, both fail with the same
error, or there are sessions for both and they map the same names, resolve every reference under all
flags to the same type and write values of the same types as strings. If some scalar carries it, there
is no session for the definitions twice, whether or not there is one for them once: the error is that
the first such scalar carries the directive more than once. -/
theorem create_append_self (hno : c.namesSources = .ok false) (ds : List Definition) :
    ((∀ d ∈ (Schema.ofDefinitions ds).ofKind .scalar, ∀ directive,
        c.directive? = some directive → d.directivesNamed directive = []) →
      (∃ e, create fs c (.ofDefinitions ds) builtins = .error e ∧
        create fs c (.ofDefinitions (ds ++ ds)) builtins = .error e) ∨
      ∃ s s', create fs c (.ofDefinitions ds) builtins = .ok s ∧
        create fs c (.ofDefinitions (ds ++ ds)) builtins = .ok s' ∧ s.AnswersAlike s') ∧
    ∀ directive, c.directive? = some directive →
      (∃ d ∈ (Schema.ofDefinitions ds).ofKind .scalar, d.directivesNamed directive ≠ []) →
      ∃ before d after, (Schema.ofDefinitions ds).ofKind .scalar = before ++ d :: after ∧
        (∀ d' ∈ before, d'.directivesNamed directive = []) ∧ d.directivesNamed directive ≠ [] ∧
        create fs c (.ofDefinitions (ds ++ ds)) builtins =
          .error (.configuration (.repeatedDirective directive d.name)) := by
  have hkeyed : (Schema.ofDefinitions ds).Keyed := Schema.IsParsed.keyed ⟨ds, rfl⟩
  rw [Schema.ofDefinitions_append_self]
  constructor
  · intro hnone
    have htable := @OverrideTable.build_eq_of_mappingsFor_eq fs c builtins hno _ _
      (hkeyed.mappingsFor_merge_self hnone)
    cases hbuild : OverrideTable.build fs c (.ofDefinitions ds) builtins with
    | error e =>
      refine .inl ⟨e, ?_, ?_⟩
      · rw [create, hbuild]
        rfl
      · rw [create, htable, hbuild]
        rfl
    | ok t =>
      have hs := create_eq_ok_iff.mpr ⟨t, hbuild, rfl⟩
      have hs' := create_eq_ok_iff.mpr ⟨t, htable.trans hbuild, rfl⟩
      exact .inr ⟨_, _, hs, hs', answersAlike_merge_self hkeyed hs hs' rfl⟩
  · rintro directive hdirective ⟨d, hd, hcarries⟩
    -- The first scalar that carries the directive, as the first one that fails not to.
    obtain ⟨_, before, d, after, hscalars, hbefore, hcarries⟩ :=
      (@exists_firstFailure_iff _ Unit (fun d _ => d.directivesNamed directive ≠ []) _).mpr
        ⟨d, hd, (), hcarries⟩
    have hnone : ∀ d' ∈ before, d'.directivesNamed directive = [] := fun d' hd' =>
      Decidable.not_not.mp (hbefore d' hd' ())
    refine ⟨before, d, after, hscalars, hnone, hcarries, ?_⟩
    have hscan := hkeyed.mappingsFor_merge_self_of_carries hdirective hscalars hnone hcarries
    rw [create, OverrideTable.build_of_mappingsFor_eq_error hno hscan]
    rfl

/-- A scalar that carries the directive once: there is a session for the definitions and none for the
definitions twice. Without the directive on it there is one for both. -/
theorem create_twice :
    let javaType : GraphQL.Directive := ⟨"javaType", [("name", .string "java.net.URL")]⟩
    let definitions (directives : List GraphQL.Directive) : List Definition :=
      [.scalarType "Mail" [], .scalarType "Url" directives, .objectType "Show" []]
    (∃ s, create ⟨.emptyDirectory, []⟩ .standard (.ofDefinitions (definitions [javaType])) = .ok s) ∧
      create ⟨.emptyDirectory, []⟩ .standard
          (.ofDefinitions (definitions [javaType] ++ definitions [javaType])) =
        .error (.configuration (.repeatedDirective "javaType" "Url")) ∧
      ∃ s s', create ⟨.emptyDirectory, []⟩ .standard (.ofDefinitions (definitions [])) = .ok s ∧
        create ⟨.emptyDirectory, []⟩ .standard
          (.ofDefinitions (definitions [] ++ definitions [])) = .ok s' ∧ s.AnswersAlike s' := by
  intro javaType definitions
  have hno : Config.standard.namesSources = .ok false := rfl
  refine ⟨?_, ?_, ?_⟩
  · subst definitions javaType
    exact ⟨_, rfl⟩
  · obtain ⟨-, htwice⟩ := @create_append_self ⟨.emptyDirectory, []⟩ _ .standard hno
      (definitions [javaType])
    obtain ⟨before, d, after, hscalars, -, hcarries, herror⟩ := htwice "javaType" rfl
      ⟨⟨"Url", .scalar, [.ofSyntax javaType]⟩, .tail _ (.head _), by decide⟩
    have hurl : ∀ d ∈ (Schema.ofDefinitions (definitions [javaType])).ofKind .scalar,
        d.directivesNamed "javaType" ≠ [] → d.name = "Url" := by decide
    have hd : d ∈ (Schema.ofDefinitions (definitions [javaType])).ofKind .scalar :=
      hscalars ▸ List.mem_append_right before List.mem_cons_self
    rw [herror, hurl d hd hcarries]
  · obtain ⟨halike, -⟩ := @create_append_self ⟨.emptyDirectory, []⟩ _ .standard hno (definitions [])
    rcases halike (by decide) with ⟨e, he, -⟩ | hsame
    · cases he
    · exact hsame

end Session

end TypeAtlas
