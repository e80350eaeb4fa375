import TypeAtlas.Proofs.Session.Creation

/-!
# Where the table of a session comes from

The directives that count are those of one schema, and which schema that is does not depend on how a
session is made: reading the configured sources again gives what they gave before. The schema that is
resolved against counts only if nothing else is there to be scanned:

* `Schema.scanned_ofSources`: a schema that comes from the configured sources is scanned in their
  place;
* `OverrideTable.build_eq_of_isSet`, `OverrideTable.build_congr`: what the table depends on if
  sources are configured, and if a source schema is given;
* `Session.overrides_of_source`: the same for sessions.
-/

namespace TypeAtlas

open Files (FileSystem)

variable {fs : FileSystem} {c : Config} {schema : Schema} {builtins : Builtins}

/-! ## Configured sources -/

theorem exists_get_of_loadSources {text : String} (h : loadSources fs c = .ok text) :
    (∃ files, c.get .schemaFiles = .ok files) ∧ ∃ inline, c.get .schemas = .ok inline := by
  have hget {field : Config.Field} {items : List Json} (hitems : sourceItems c field = .ok items) :
      ∃ value, c.get field = .ok value := by
    obtain ⟨value, hvalue, -⟩ := bind_eq_ok.mp hitems
    exact ⟨value, mapError_eq_ok.mp hvalue⟩
  obtain ⟨files, hfiles, h⟩ := bind_eq_ok.mp h
  obtain ⟨_, -, h⟩ := bind_eq_ok.mp h
  obtain ⟨inline, hinline, -⟩ := bind_eq_ok.mp h
  exact ⟨hget hfiles, hget hinline⟩

namespace Config

theorem namesSources_eq {files inline : Json} (hfiles : c.get .schemaFiles = .ok files)
    (hinline : c.get .schemas = .ok inline) : c.namesSources = .ok (files.isSet || inline.isSet) := by
  rw [namesSources, hfiles, hinline]
  show (if files.isSet then _ else _) = _
  cases files.isSet <;> rfl

/-- An option for sources that is set either names them or finds the other one missing. -/
theorem namesSources_ne_false {field : Field} (hfield : field ∈ [.schemaFiles, .schemas]) {value : Json}
    (hvalue : c.get? field = some value) (hset : value.isSet = true) : c.namesSources ≠ .ok false := by
  intro hnames
  obtain ⟨files, hfiles, hnames⟩ := bind_eq_ok.mp hnames
  split at hnames
  · cases hnames
  · rename_i hunset
    obtain ⟨inline, hinline, hnames⟩ := bind_eq_ok.mp hnames
    have hget : c.get field = .ok value := by rw [get, hvalue]
    rcases List.mem_cons.mp hfield with rfl | hfield
    · obtain rfl := Except.ok.inj (hget.symm.trans hfiles)
      exact hunset hset
    · obtain rfl := List.mem_singleton.mp hfield
      obtain rfl := Except.ok.inj (hget.symm.trans hinline)
      rw [hset] at hnames
      cases hnames

end Config

/-- A schema that the configured sources define is scanned whether it is given or the sources are read
again. If none are configured, they define the schema itself. -/
theorem Schema.scanned_ofSources (h : ofSources fs c = .ok schema) :
    schema.scanned fs c none = schema.scanned fs c (some schema) := by
  obtain ⟨text, hload, -⟩ := ofSources_eq_ok_iff.mp h
  obtain ⟨⟨files, hfiles⟩, inline, hinline⟩ := exists_get_of_loadSources hload
  rw [scanned_none_of_ok (Config.namesSources_eq hfiles hinline)]
  split
  · exact h
  · rfl

/-- Unless the schema itself is scanned, it has no influence on what is. -/
theorem Schema.scanned_none_eq (h : c.namesSources ≠ .ok false) (s t : Schema) :
    s.scanned fs c none = t.scanned fs c none := by
  cases hnames : c.namesSources with
  | error e => rw [scanned_none_of_error hnames, scanned_none_of_error hnames]
  | ok names =>
    cases names with
    | false => exact absurd hnames h
    | true => rw [scanned_none_of_ok hnames, scanned_none_of_ok hnames]; rfl

/-! ## Tables -/

namespace OverrideTable

/-- The schema that is scanned is all that the table takes from schemas and sources. -/
theorem build_eq_of_scanned_eq {s t : Schema} {source source' : Option Schema}
    (h : s.scanned fs c source = t.scanned fs c source') :
    build fs c s builtins source = build fs c t builtins source' := by
  rw [build, build, h]

theorem build_eq_of_isSet {field : Config.Field} (hfield : field ∈ [.schemaFiles, .schemas])
    {value : Json} (hvalue : c.get? field = some value) (hset : value.isSet = true) (s t : Schema) :
    build fs c s builtins = build fs c t builtins :=
  build_eq_of_scanned_eq (Schema.scanned_none_eq (Config.namesSources_ne_false hfield hvalue hset) s t)

/-- The table for a source schema that is given depends on two options only. -/
theorem build_congr {c' : Config} (hmapping : c'.get? .typeMapping = c.get? .typeMapping)
    (hdirective : c'.get? .typeDirectiveName = c.get? .typeDirectiveName) (fs' : FileSystem)
    (schema' source : Schema) :
    build fs' c' schema' builtins (some source) = build fs c schema builtins (some source) := by
  have hnames : c'.directive? = c.directive? := by
    rw [Config.directive?, Config.directive?, Config.value, Config.value, hdirective]
  have htable : c'.mapping = c.mapping := by
    rw [Config.mapping, Config.mapping, Config.get, Config.get, hmapping]
  rw [build, build, hnames, htable]
  rfl

end OverrideTable

namespace Session

theorem map_overrides_create (source : Option Schema) :
    (create fs c schema builtins source).map (·.overrides) =
      OverrideTable.build fs c schema builtins source := by
  rw [create]
  cases OverrideTable.build fs c schema builtins source <;> rfl

theorem create_eq_of_build_eq {source source' : Option Schema}
    (h : OverrideTable.build fs c schema builtins source =
      OverrideTable.build fs c schema builtins source') :
    create fs c schema builtins source = create fs c schema builtins source' := by
  rw [create, create, h]

/-- The session for the configured sources is, or fails like, the one for the schema that they define,
for which they are read once more. If sources are configured, the table of a session, or the error, is
the same for all schemas. If a source schema is given, it follows from this schema, the configured
class names, the directive and the built-in tables, whether the configured sources can be read or not
and whatever the schema of the session defines. -/
theorem overrides_of_source (fs : FileSystem) (c : Config) (builtins : Builtins) :
    (∀ schema, Schema.ofSources fs c = .ok schema →
      ofConfig fs c builtins = create fs c schema builtins) ∧
    (∀ field ∈ [Config.Field.schemaFiles, .schemas], ∀ value, c.get? field = some value →
      value.isSet = true → ∀ schema schema',
        (create fs c schema builtins).map (·.overrides) =
          (create fs c schema' builtins).map (·.overrides)) ∧
    ∀ source fs' c' schema schema', c'.get? .typeMapping = c.get? .typeMapping →
      c'.get? .typeDirectiveName = c.get? .typeDirectiveName →
        (create fs' c' schema' builtins (some source)).map (·.overrides) =
          (create fs c schema builtins (some source)).map (·.overrides) := by
  refine ⟨fun schema h => ?_, fun field hfield value hvalue hset schema schema' => ?_, ?_⟩
  · have hconfig : ofConfig fs c builtins = create fs c schema builtins (some schema) := by
      rw [ofConfig, h]
      rfl
    rw [hconfig]
    exact create_eq_of_build_eq (OverrideTable.build_eq_of_scanned_eq (Schema.scanned_ofSources h).symm)
  · rw [map_overrides_create, map_overrides_create]
    exact OverrideTable.build_eq_of_isSet hfield hvalue hset schema schema'
  · intro source fs' c' schema schema' hmapping hdirective
    rw [map_overrides_create, map_overrides_create]
    exact OverrideTable.build_congr hmapping hdirective fs' schema' source

/-- A configured source that maps a scalar, with a schema that maps it to another class; and a source
schema without types that is given although a configured file is missing. -/
theorem overrides_of_missing_file :
    let fs : FileSystem := ⟨.emptyDirectory, []⟩
    let config := Config.standard.put .schemas
      (.array [.text "scalar Url @javaType(name: \"java.net.URL\")"])
    let broken := config.put .schemaFiles (.array [.text "missing.graphql"])
    let schema := Schema.ofDefinitions
      [.scalarType "Url" [⟨"javaType", [("name", .string "java.net.URI")]⟩]]
    (∃ s, Schema.ofSources fs config = .ok s ∧ ofConfig fs config = create fs config s) ∧
      (create fs config schema).map (·.overrides) = (create fs config .empty).map (·.overrides) ∧
      (create fs broken schema .standard (some .empty)).map (·.overrides.lookup "Url") = .ok none := by
  intro fs config broken schema
  obtain ⟨hshortcut, hconfigured, hgiven⟩ := overrides_of_source fs config .standard
  refine ⟨?_, ?_, ?_⟩
  · have hread : (Schema.ofSources fs config).toOption.isSome = true := by decide +kernel
    cases h : Schema.ofSources fs config with
    | ok s => exact ⟨s, rfl, hshortcut s h⟩
    | error e =>
      rw [h] at hread
      cases hread
  · exact hconfigured .schemas (by decide) _ rfl rfl schema .empty
  · have htable := hgiven .empty fs broken .empty schema rfl rfl
    calc (create fs broken schema .standard (some .empty)).map (·.overrides.lookup "Url")
        = ((create fs broken schema .standard (some .empty)).map (·.overrides)).map
            (·.lookup "Url") := rfl
      _ = ((create fs config .empty .standard (some .empty)).map (·.overrides)).map
            (·.lookup "Url") := congrArg _ htable
      _ = .ok none := rfl

end Session

end TypeAtlas
