import TypeAtlas.Proofs.Override.Layers
import TypeAtlas.Proofs.Resolver.NormalForm
import TypeAtlas.Proofs.Session.Scanned
import TypeAtlas.Session.Run

/-!
# Making a session

A session is made in four phases: finding the schema that is scanned, looking at the directive on
each of its scalars, reading the class names that the directives give, and reading the configured
ones. The first failure in this order is the error of the session (`CreationFails`):

* `OverrideTable.exists_make_of_build`, `OverrideTable.build_eq_ok_iff`, `create_eq_ok_iff`: what a
  session is made of;
* `create_of_ofConfig`: a session for configured sources is made in the same way;
* `OverrideTable.build_eq_error_iff`, `create_eq_error_iff`: the errors are exactly these failures;
* `exists_create_iff`: there is a session if no phase fails;
* `create_eager`: both, and what a session resolves after any run.
-/

namespace TypeAtlas

open Files (FileSystem)
open GraphQL (TypeExpr)
open Java (JavaType)

/-- Whether the configured class names are given texts under given names. -/
def Config.MapsNames (c : Config) (m : OrderedMap String String) : Prop :=
  c.get? .typeMapping = some (.object (m.entries.map fun e => (e.1, .text e.2)))

theorem Config.MapsNames.mapping_eq {c : Config} {m : OrderedMap String String} (h : c.MapsNames m) :
    c.mapping = .ok (.ofTexts m) := by
  have hget : c.get .typeMapping = .ok (.object (m.entries.map fun e => (e.1, .text e.2))) := by
    rw [get, h]
  show (c.get .typeMapping >>= fun value => value.table.mapError Misuse.mapping) = _
  rw [hget]
  show (Json.object (m.entries.map fun e => (e.1, .text e.2))).table.mapError Misuse.mapping = _
  rw [Json.table_members]
  rfl

/-- The first failure of the phases in which a session is made. -/
inductive CreationFails (fs : FileSystem) (c : Config) (m : OrderedMap String String)
    (schema : Schema) (source : Option Schema) : SessionError → Prop
  /-- Sources that have to be read give no schema. -/
  | scan {e : SessionError} (h : Schema.ScanFails fs c source e) :
    CreationFails fs c m schema source e
  /-- The directive on a scalar is at fault. -/
  | directive {scanned : Schema} {e : ConfigurationError}
    (hscanned : Schema.Scans fs c schema source scanned)
    (h : FirstFailure c.FindsFault (scanned.ofKind .scalar) e) :
    CreationFails fs c m schema source (.configuration e)
  /-- A class name from a directive cannot be read. -/
  | foundName {scanned : Schema} {e : ConfigurationError}
    (hscanned : Schema.Scans fs c schema source scanned)
    (hdirectives : ∀ d ∈ scanned.ofKind .scalar, ∀ e, ¬c.FindsFault d e)
    (h : FirstFailure (fun d e => ∃ text, c.FindsName d text ∧ JavaType.guess text = .error e)
      (scanned.ofKind .scalar) e) :
    CreationFails fs c m schema source (.configuration e)
  /-- A configured class name cannot be read. -/
  | configuredName {scanned : Schema} {e : ConfigurationError}
    (hscanned : Schema.Scans fs c schema source scanned)
    (hdirectives : ∀ d ∈ scanned.ofKind .scalar, ∀ e, ¬c.FindsFault d e)
    (hfound : ∀ d ∈ scanned.ofKind .scalar, ∀ text, c.FindsName d text →
      ∃ type, JavaType.guess text = .ok type)
    (h : FirstFailure (fun entry e => JavaType.guess entry.2 = .error e) m.entries e) :
    CreationFails fs c m schema source (.configuration e)

variable {fs : FileSystem} {c : Config} {m : OrderedMap String String} {schema : Schema}
  {source : Option Schema} {builtins : Builtins}

/-- Whatever is configured, the table is made of the configured class names and of those that the
directives of the scanned schema give. -/
theorem OverrideTable.exists_make_of_build {t : OverrideTable}
    (h : build fs c schema builtins source = .ok t) :
    ∃ explicit scanned names, c.mapping = .ok explicit ∧ Schema.Scans fs c schema source scanned ∧
      scanned.mappingsFor c.directive? = .ok names ∧
      make explicit (.ofTexts names) builtins = .ok t := by
  simp only [build, bind_eq_ok, mapError_eq_ok, Schema.scanned_eq_ok_iff] at h
  obtain ⟨scanned, hscanned, names, hnames, explicit, hmapping, hmake⟩ := h
  exact ⟨explicit, scanned, names, hmapping, hscanned, hnames, hmake⟩

theorem OverrideTable.builtins_of_build {t : OverrideTable}
    (h : build fs c schema builtins source = .ok t) : t.builtins = builtins := by
  obtain ⟨_, _, _, -, -, -, hmake⟩ := exists_make_of_build h
  obtain ⟨_, _, -, -, rfl⟩ := make_eq_ok_iff.mp hmake
  rfl

/-- The table is made of the class names that are found and those that are configured. -/
theorem OverrideTable.build_eq (hm : c.MapsNames m) :
    build fs c schema builtins source = (do
      let scanned ← schema.scanned fs c source
      let names ← (scanned.mappingsFor c.directive?).mapError .configuration
      (make (.ofTexts m) (.ofTexts names) builtins).mapError SessionError.ofOverrideError) := by
  rw [build, hm.mapping_eq]
  rfl

theorem OverrideTable.build_eq_ok_iff (hm : c.MapsNames m) {t : OverrideTable} :
    build fs c schema builtins source = .ok t ↔ ∃ scanned names,
      Schema.Scans fs c schema source scanned ∧ scanned.mappingsFor c.directive? = .ok names ∧
        make (.ofTexts m) (.ofTexts names) builtins = .ok t := by
  rw [build_eq hm]
  simp only [bind_eq_ok, mapError_eq_ok, Schema.scanned_eq_ok_iff, exists_and_left]

theorem OverrideTable.build_eq_error_iff (hm : c.MapsNames m) (hschema : schema.IsParsed)
    (hsource : ∀ given, source = some given → given.IsParsed) {e : SessionError} :
    build fs c schema builtins source = .error e ↔ CreationFails fs c m schema source e := by
  rw [build_eq hm]
  simp only [bind_eq_error, mapError_eq_ok, mapError_eq_error, Schema.scanned_eq_ok_iff,
    Schema.scanned_eq_error_iff, Schema.mappingsFor_eq_error_iff, make_eq_error_iff]
  have hok {scanned : Schema} : (∃ names, scanned.mappingsFor c.directive? = .ok names) ↔
      ∀ d ∈ scanned.ofKind .scalar, ∀ e, ¬c.FindsFault d e := by
    simp only [exists_eq_ok_iff, ne_eq, Schema.mappingsFor_eq_error_iff, forall_not_firstFailure_iff]
  constructor
  · intro h
    rcases h with h | ⟨scanned, hscanned, h⟩
    · exact .scan h
    rcases h with ⟨e, h, rfl⟩ | ⟨names, hnames, _, ⟨e, h, rfl⟩, rfl⟩
    · exact .directive hscanned h
    have hkeyed := (hscanned.isParsed hschema hsource).keyed
    have hdirectives := hok.mp ⟨names, hnames⟩
    rcases h with h | ⟨hall, h⟩
    · exact .foundName hscanned hdirectives ((hkeyed.firstFailure_mappingsFor hnames).mp h)
    · exact .configuredName hscanned hdirectives ((hkeyed.forall_entries_mappingsFor hnames).mp hall) h
  · intro h
    cases h with
    | scan h => exact .inl h
    | directive hscanned h => exact .inr ⟨_, hscanned, .inl ⟨_, h, rfl⟩⟩
    | foundName hscanned hdirectives h =>
      have hkeyed := (hscanned.isParsed hschema hsource).keyed
      obtain ⟨names, hnames⟩ := hok.mpr hdirectives
      have hnamesFail := (hkeyed.firstFailure_mappingsFor hnames).mpr h
      exact .inr ⟨_, hscanned, .inr ⟨names, hnames, _, ⟨_, .inl hnamesFail, rfl⟩, rfl⟩⟩
    | configuredName hscanned hdirectives hfound h =>
      have hkeyed := (hscanned.isParsed hschema hsource).keyed
      obtain ⟨names, hnames⟩ := hok.mpr hdirectives
      have hall := (hkeyed.forall_entries_mappingsFor hnames).mpr hfound
      exact .inr ⟨_, hscanned, .inr ⟨names, hnames, _, ⟨_, .inr ⟨hall, h⟩, rfl⟩, rfl⟩⟩

namespace Session

theorem create_eq_ok_iff {s : Session} :
    create fs c schema builtins source = .ok s ↔
      ∃ t, OverrideTable.build fs c schema builtins source = .ok t ∧
        ⟨c, schema, t, Resolver.make schema t c builtins⟩ = s := by
  simp only [create, bind_eq_ok, pure, Except.pure, Except.ok.injEq]

theorem eq_of_create {s : Session} (h : create fs c schema builtins source = .ok s) :
    s = ⟨c, schema, s.overrides, ⟨schema, s.overrides, builtins.primitives, c.typesPackage⟩⟩ := by
  obtain ⟨t, -, rfl⟩ := create_eq_ok_iff.mp h
  rfl

theorem builtins_of_create {s : Session} (h : create fs c schema builtins source = .ok s) :
    s.overrides.builtins = builtins := by
  obtain ⟨t, ht, rfl⟩ := create_eq_ok_iff.mp h
  exact OverrideTable.builtins_of_build ht

theorem resolver_overrides_of_create {s : Session}
    (h : create fs c schema builtins source = .ok s) : s.resolver.overrides = s.overrides := by
  rw [eq_of_create h]

theorem isStringInput?_of_create {s : Session} (h : create fs c schema builtins source = .ok s)
    (type : JavaType) : s.isStringInput? type = s.overrides.isStringInput? type := by
  rw [isStringInput?, resolver_overrides_of_create h]

theorem exists_tables_of_create {s : Session} (h : create fs c schema builtins source = .ok s) :
    ∃ explicit scanned names, c.mapping = .ok explicit ∧ Schema.Scans fs c schema source scanned ∧
      scanned.mappingsFor c.directive? = .ok names ∧
      OverrideTable.make explicit (.ofTexts names) builtins = .ok s.overrides := by
  obtain ⟨t, ht, rfl⟩ := create_eq_ok_iff.mp h
  exact OverrideTable.exists_make_of_build ht

/-- A session for the sources that a configuration names is one for the schema that they define. -/
theorem create_of_ofConfig {s : Session} (h : ofConfig fs c builtins = .ok s) :
    ∃ schema, Schema.ofSources fs c = .ok schema ∧ create fs c schema builtins (some schema) = .ok s :=
  bind_eq_ok.mp h

theorem create_eq_error_iff (hm : c.MapsNames m) (hschema : schema.IsParsed)
    (hsource : ∀ given, source = some given → given.IsParsed) {e : SessionError} :
    create fs c schema builtins source = .error e ↔ CreationFails fs c m schema source e := by
  rw [create, bind_eq_error, OverrideTable.build_eq_error_iff hm hschema hsource]
  simp [pure, Except.pure]

/-- There is a session if every phase finds what it looks for. -/
theorem exists_create_iff (hm : c.MapsNames m) (hschema : schema.IsParsed)
    (hsource : ∀ given, source = some given → given.IsParsed) :
    (∃ s, create fs c schema builtins source = .ok s) ↔
      ∃ scanned, Schema.Scans fs c schema source scanned ∧
        (∀ d ∈ scanned.ofKind .scalar, ∀ e, ¬c.FindsFault d e) ∧
        (∀ d ∈ scanned.ofKind .scalar, ∀ text, c.FindsName d text →
          ∃ type, JavaType.guess text = .ok type) ∧
        ∀ entry ∈ m.entries, ∃ type, JavaType.guess entry.2 = .ok type := by
  simp only [exists_eq_ok_iff, ne_eq, create_eq_error_iff hm hschema hsource]
  constructor
  · intro h
    obtain ⟨scanned, hscanned⟩ := Schema.exists_scans fun e he => h e (.scan he)
    have hdirectives := forall_not_firstFailure_iff.mp fun e he => h _ (.directive hscanned he)
    have hfound : ∀ d ∈ scanned.ofKind .scalar, ∀ text, c.FindsName d text →
        ∀ e, ¬JavaType.guess text = .error e := fun d hd text ht e he =>
      forall_not_firstFailure_iff.mp (fun e he => h _ (.foundName hscanned hdirectives he))
        d hd e ⟨text, ht, he⟩
    refine ⟨scanned, hscanned, hdirectives, hfound, ?_⟩
    exact forall_not_firstFailure_iff.mp fun e he => h _ (.configuredName hscanned hdirectives
      (fun d hd text ht => exists_eq_ok_iff.mpr (hfound d hd text ht)) he)
  · intro h e hfails
    obtain ⟨scanned, hscanned, hdirectives, hfound, hconfigured⟩ := h
    cases hfails with
    | scan h => exact hscanned.not_scanFails e h
    | directive hs h =>
      obtain rfl := hscanned.unique hs
      exact forall_not_firstFailure_iff.mpr hdirectives _ h
    | foundName hs _ h =>
      obtain rfl := hscanned.unique hs
      refine forall_not_firstFailure_iff.mpr (fun d hd e => ?_) _ h
      intro hname
      obtain ⟨text, ht, he⟩ := hname
      exact hfound d hd text ht e he
    | configuredName hs _ _ h =>
      obtain rfl := hscanned.unique hs
      exact forall_not_firstFailure_iff.mpr hconfigured _ h

/-- A session is made exactly if the sources that have to be read can be, every scalar that carries
the directive carries it once and with a class name, and every class name can be read, used or not.
If not, the error is the first of these failures. Once made, a session resolves every reference,
whatever has happened to it since. -/
theorem create_eager (hm : c.MapsNames m) (hschema : schema.IsParsed)
    (hsource : ∀ given, source = some given → given.IsParsed) :
    ((∃ s, create fs c schema builtins source = .ok s) ↔
      ∃ scanned, Schema.Scans fs c schema source scanned ∧
        (∀ d ∈ scanned.ofKind .scalar, ∀ directive, c.directive? = some directive →
          d.directivesNamed directive ≠ [] →
          ∃ text, d.Gives directive Schema.standardArgument text) ∧
        (∀ d ∈ scanned.ofKind .scalar, ∀ text, c.FindsName d text →
          ∃ type, JavaType.guess text = .ok type) ∧
        ∀ name text, m.get? name = some text → ∃ type, JavaType.guess text = .ok type) ∧
    (∀ e, create fs c schema builtins source = .error e ↔ CreationFails fs c m schema source e) ∧
    ∀ s, create fs c schema builtins source = .ok s → ∀ steps interface wildcard e,
      ∃ type, (s.run steps).2.resolve interface wildcard e = .ok type := by
  refine ⟨?_, fun e => create_eq_error_iff hm hschema hsource, ?_⟩
  · rw [exists_create_iff hm hschema hsource]
    simp only [Config.forall_not_findsFault_iff, OrderedMap.get?_eq_some_iff_mem, Prod.forall]
  · intro s _ steps interface wildcard e
    exact ⟨_, Resolver.resolve_eq_normalForm ..⟩

/-- A scalar that carries the directive twice stops the making of a session, although another has
no class name in it and a configured class name cannot be read either. -/
theorem create_repeated_directive :
    let javaType (arguments) : GraphQL.Directive := ⟨"javaType", arguments⟩
    let definitions : List GraphQL.Definition := [
      .scalarType "Url" [javaType [("name", .string "java.net.URL")], javaType []],
      .scalarType "Mail" [javaType []]]
    let config := Config.standard.put .typeMapping (.object [("Cursor", .text "cursor")])
    Session.create ⟨.emptyDirectory, []⟩ config .empty .standard (some (.ofDefinitions definitions)) =
      .error (.configuration (.repeatedDirective "javaType" "Url")) := by
  intro javaType definitions config
  have hm : config.MapsNames (.ofList [("Cursor", "cursor")]) := rfl
  refine ((create_eager hm ⟨[], rfl⟩ ?_).2.1 _).mpr (.directive (.given _) ⟨[], _, _, rfl, ?_, ?_⟩)
  · rintro _ ⟨⟩
    exact ⟨definitions, rfl⟩
  · simp
  · exact ⟨"javaType", rfl, .repeated (by decide)⟩

end Session

end TypeAtlas
