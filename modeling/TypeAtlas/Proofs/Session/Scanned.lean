import TypeAtlas.Proofs.Schema.Parsed
import TypeAtlas.Proofs.Schema.Scan
import TypeAtlas.Session

/-!
# The schema that is scanned

Which schema a session takes directives from (`Scans`), why there may be none (`ScanFails`), and what
the directive that a configuration names finds on the scalars of a schema:

* `scanned_eq_ok_iff`, `scanned_eq_error_iff`: `scanned` gives the one or the other;
* `mappingsFor_eq_error_iff`: the scan fails with the fault that the configuration finds first;
* `get?_mappingsFor`: in a schema with definitions under their own names, a name is mapped to what
  the configuration finds on its scalar.
-/

namespace TypeAtlas

open Files (FileSystem)
open Schema (TypeDefinition)

namespace Schema

/-- The schema that directives are taken from: the source that is given, else what the configured
sources define if there are any, else the schema itself. -/
inductive Scans (fs : FileSystem) (c : Config) (schema : Schema) : Option Schema → Schema → Prop
  | given (source : Schema) : Scans fs c schema (some source) source
  | sources {text : String} {parsed : Schema} (hnames : c.namesSources = .ok true)
    (hload : loadSources fs c = .ok text) (hparse : parse text = .ok parsed) :
    Scans fs c schema none parsed
  | itself (hnames : c.namesSources = .ok false) : Scans fs c schema none schema

/-- Why sources that have to be read give no schema. -/
inductive ScanFails (fs : FileSystem) (c : Config) : Option Schema → SessionError → Prop
  | options {e : Config.Misuse} (hnames : c.namesSources = .error e) : ScanFails fs c none (.misuse e)
  | unreadable {e : SourceError} (hnames : c.namesSources = .ok true)
    (hload : loadSources fs c = .error e) : ScanFails fs c none (.sources e)
  | unparsable {text : String} {e : GraphQL.SyntaxError} (hnames : c.namesSources = .ok true)
    (hload : loadSources fs c = .ok text) (hparse : parse text = .error e) :
    ScanFails fs c none (.schema e)

variable {fs : FileSystem} {c : Config} {schema : Schema} {source : Option Schema}

theorem ofSources_eq_ok_iff {parsed : Schema} :
    ofSources fs c = .ok parsed ↔ ∃ text, loadSources fs c = .ok text ∧ parse text = .ok parsed := by
  simp only [ofSources, bind_eq_ok, mapError_eq_ok]

theorem ofSources_eq_error_iff {e : SessionError} :
    ofSources fs c = .error e ↔ (∃ e', loadSources fs c = .error e' ∧ .sources e' = e) ∨
      ∃ text, loadSources fs c = .ok text ∧ ∃ e', parse text = .error e' ∧ .schema e' = e := by
  simp only [ofSources, bind_eq_error, mapError_eq_ok, mapError_eq_error]

theorem scanned_none_of_error {e : Config.Misuse} (h : c.namesSources = .error e) :
    schema.scanned fs c none = .error (.misuse e) := by
  rw [scanned, h]; rfl

theorem scanned_none_of_ok {names : Bool} (h : c.namesSources = .ok names) :
    schema.scanned fs c none = if names then ofSources fs c else .ok schema := by
  rw [scanned, h]; rfl

theorem scanned_eq_ok_iff {scanned : Schema} :
    schema.scanned fs c source = .ok scanned ↔ Scans fs c schema source scanned := by
  constructor
  · intro h
    cases source with
    | some given => cases h; exact .given _
    | none =>
      cases hnames : c.namesSources with
      | error e => rw [scanned_none_of_error hnames] at h; cases h
      | ok names =>
        rw [scanned_none_of_ok hnames] at h
        cases names with
        | false => cases h; exact .itself hnames
        | true =>
          obtain ⟨text, hload, hparse⟩ := ofSources_eq_ok_iff.mp h
          exact .sources hnames hload hparse
  · intro h
    cases h with
    | given => rfl
    | sources hnames hload hparse =>
      rw [scanned_none_of_ok hnames]
      exact ofSources_eq_ok_iff.mpr ⟨_, hload, hparse⟩
    | itself hnames => rw [scanned_none_of_ok hnames]; rfl

theorem scanned_eq_error_iff {e : SessionError} :
    schema.scanned fs c source = .error e ↔ ScanFails fs c source e := by
  constructor
  · intro h
    cases source with
    | some given => cases h
    | none =>
      cases hnames : c.namesSources with
      | error e' => rw [scanned_none_of_error hnames] at h; cases h; exact .options hnames
      | ok names =>
        rw [scanned_none_of_ok hnames] at h
        cases names with
        | false => cases h
        | true =>
          obtain ⟨e', hload, rfl⟩ | ⟨text, hload, e', hparse, rfl⟩ := ofSources_eq_error_iff.mp h
          · exact .unreadable hnames hload
          · exact .unparsable hnames hload hparse
  · intro h
    cases h with
    | options hnames => exact scanned_none_of_error hnames
    | unreadable hnames hload =>
      rw [scanned_none_of_ok hnames]
      exact ofSources_eq_error_iff.mpr (.inl ⟨_, hload, rfl⟩)
    | unparsable hnames hload hparse =>
      rw [scanned_none_of_ok hnames]
      exact ofSources_eq_error_iff.mpr (.inr ⟨_, hload, _, hparse, rfl⟩)

/-- Exactly one schema is scanned, unless there is a reason why there is none. -/
theorem Scans.unique {s t : Schema} (hs : Scans fs c schema source s)
    (ht : Scans fs c schema source t) : s = t :=
  Except.ok.inj ((scanned_eq_ok_iff.mpr hs).symm.trans (scanned_eq_ok_iff.mpr ht))

theorem Scans.not_scanFails {s : Schema} (hs : Scans fs c schema source s) (e : SessionError) :
    ¬ScanFails fs c source e := fun he =>
  nomatch (scanned_eq_ok_iff.mpr hs).symm.trans (scanned_eq_error_iff.mpr he)

theorem exists_scans (h : ∀ e, ¬ScanFails fs c source e) : ∃ s, Scans fs c schema source s := by
  cases hs : schema.scanned fs c source with
  | ok s => exact ⟨s, scanned_eq_ok_iff.mp hs⟩
  | error e => exact absurd (scanned_eq_error_iff.mp hs) (h e)

theorem Scans.isParsed {scanned : Schema} (h : Scans fs c schema source scanned)
    (hschema : schema.IsParsed) (hsource : ∀ given, source = some given → given.IsParsed) :
    scanned.IsParsed := by
  cases h with
  | given => exact hsource _ rfl
  | sources _ _ hparse => exact isParsed_of_parse hparse
  | itself => exact hschema

end Schema

namespace Config

variable (c : Config) (d : TypeDefinition)

/-- Whether the directive that a configuration names gives a class name on a definition. -/
def FindsName (text : String) : Prop :=
  ∃ directive, c.directive? = some directive ∧ d.Gives directive Schema.standardArgument text

/-- Whether the directive that a configuration names is at fault on a definition. -/
def FindsFault (e : ConfigurationError) : Prop :=
  ∃ directive, c.directive? = some directive ∧ d.Faulty directive Schema.standardArgument e

variable {c}

theorem forall_not_findsFault_iff : (∀ e, ¬c.FindsFault d e) ↔
    ∀ directive, c.directive? = some directive → d.directivesNamed directive ≠ [] →
      ∃ text, d.Gives directive Schema.standardArgument text := by
  simp only [← TypeDefinition.forall_not_faulty_iff, FindsFault, not_exists, not_and]
  exact ⟨fun h directive hd e => h e directive hd, fun h e directive hd => h directive hd e⟩

end Config

namespace Schema

variable {s : Schema} {c : Config}

theorem mappingsFor_eq_error_iff {e : ConfigurationError} :
    s.mappingsFor c.directive? = .error e ↔ FirstFailure c.FindsFault (s.ofKind .scalar) e := by
  unfold Config.FindsFault
  cases c.directive? with
  | none =>
    refine iff_of_false nofun fun h => ?_
    obtain ⟨_, _, _, _, _, _, hnone, _⟩ := h
    cases hnone
  | some directive =>
    simp only [Option.some.injEq, exists_eq_left']
    exact classNamesOf_eq_error_iff

theorem Keyed.entries_mappingsFor (h : s.Keyed) {names : OrderedMap String String}
    (hok : s.mappingsFor c.directive? = .ok names) :
    names.entries = (s.ofKind .scalar).filterMap fun d =>
      c.directive?.bind fun directive => d.givenEntry directive standardArgument := by
  revert hok
  cases c.directive? with
  | none =>
    intro hok
    cases hok
    exact (List.filterMap_eq_nil_iff.mpr fun _ _ => rfl).symm
  | some directive => exact fun hok => entries_classNames (h.nodup_names .scalar) hok

theorem givenEntry_eq_some_iff_findsName {d : TypeDefinition} {entry : String × String} :
    (c.directive?.bind fun directive => d.givenEntry directive standardArgument) = some entry ↔
      d.name = entry.1 ∧ c.FindsName d entry.2 := by
  simp only [Option.bind_eq_some_iff, TypeDefinition.givenEntry_eq_some_iff, Config.FindsName]
  exact ⟨fun ⟨a, ha, hn, hg⟩ => ⟨hn, a, ha, hg⟩, fun ⟨hn, a, ha, hg⟩ => ⟨a, ha, hn, hg⟩⟩

theorem Keyed.get?_mappingsFor (h : s.Keyed) {names : OrderedMap String String}
    (hok : s.mappingsFor c.directive? = .ok names) {name text : String} :
    names.get? name = some text ↔
      ∃ d ∈ s.ofKind .scalar, d.name = name ∧ c.FindsName d text := by
  rw [OrderedMap.get?_eq_some_iff_mem, h.entries_mappingsFor hok, List.mem_filterMap]
  simp only [givenEntry_eq_some_iff_findsName]

/-- A property of all class names that a scan gives, as one of the scalars. -/
theorem Keyed.forall_entries_mappingsFor (h : s.Keyed) {names : OrderedMap String String}
    (hok : s.mappingsFor c.directive? = .ok names) {p : String → Prop} :
    (∀ entry ∈ names.entries, p entry.2) ↔
      ∀ d ∈ s.ofKind .scalar, ∀ text, c.FindsName d text → p text := by
  rw [h.entries_mappingsFor hok]
  simp only [List.mem_filterMap, givenEntry_eq_some_iff_findsName, Prod.forall]
  constructor
  · exact fun hp d hd text ht => hp d.name text ⟨d, hd, rfl, ht⟩
  · intro hp name text h
    obtain ⟨d, hd, -, ht⟩ := h
    exact hp d hd text ht

/-- The class names that a scan gives fail in the order of their scalars. -/
theorem Keyed.firstFailure_mappingsFor (h : s.Keyed) {names : OrderedMap String String}
    (hok : s.mappingsFor c.directive? = .ok names) {fails : String → ConfigurationError → Prop}
    {e : ConfigurationError} :
    FirstFailure (fun entry e => fails entry.2 e) names.entries e ↔
      FirstFailure (fun d e => ∃ text, c.FindsName d text ∧ fails text e) (s.ofKind .scalar) e := by
  rw [h.entries_mappingsFor hok, firstFailure_filterMap]
  simp only [givenEntry_eq_some_iff_findsName, Prod.exists]
  simp only [and_assoc, exists_and_left, exists_eq_left']

end Schema

end TypeAtlas
