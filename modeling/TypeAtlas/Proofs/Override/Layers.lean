import TypeAtlas.Override.Table
import TypeAtlas.Fallible

/-!
# The layers of the override table

A table that is made of texts under texts reads every class name, directive mappings first
(`make_eq_error_iff`). What it maps a name to comes from the first layer that has the name:
configured mappings, directive mappings, common built-in scalars (`lookup_make`, and for each layer
`lookup_make_of_explicit`, `lookup_make_of_directive`, `lookup_make_of_none`). Other tables may have
other keys and values beside these, but a class name that they have for a name counts in the same way
(`Json.Table.MapsTo`, `lookup_of_mapsTo`).
-/

namespace TypeAtlas

open Java (JavaType)

theorem Override.read_text (key : Json) (text : String) :
    Override.read ⟨key, .text text⟩ =
      ((JavaType.guess text).mapError .configuration).map fun type => ⟨key, text, type⟩ := by
  show ((JavaType.guess text).mapError OverrideError.configuration >>=
    fun type => pure (⟨key, text, type⟩ : Override)) = _
  cases JavaType.guess text <;> rfl

theorem Override.read_text_eq_error_iff {key : Json} {text : String} {e : OverrideError} :
    Override.read ⟨key, .text text⟩ = .error e ↔
      ∃ e', JavaType.guess text = .error e' ∧ .configuration e' = e := by
  rw [read_text]
  cases JavaType.guess text with
  | error e' =>
    show Except.error (OverrideError.configuration e') = .error e ↔ _
    simp
  | ok type =>
    show Except.ok (⟨key, text, type⟩ : Override) = .error e ↔ _
    simp

theorem Override.read_eq_ok_iff {entry : Json.Entry} {o : Override} :
    Override.read entry = .ok o ↔ ∃ text type,
      entry.value = .text text ∧ JavaType.guess text = .ok type ∧ ⟨entry.key, text, type⟩ = o := by
  obtain ⟨key, value⟩ := entry
  cases value with
  | text text =>
    rw [read_text]
    cases hguess : JavaType.guess text with
    | error e =>
      refine iff_of_false nofun ?_
      rintro ⟨text', type, htext, htype, -⟩
      cases htext
      cases hguess.symm.trans htype
    | ok type =>
      show Except.ok (⟨key, text, type⟩ : Override) = .ok o ↔ _
      constructor
      · rintro ⟨⟩
        exact ⟨text, type, rfl, hguess, rfl⟩
      · rintro ⟨text', type', htext, htype, rfl⟩
        cases htext
        cases hguess.symm.trans htype
        rfl
  | _ =>
    refine iff_of_false nofun ?_
    rintro ⟨text, type, htext, -, -⟩
    cases htext

theorem Override.toOption_read_text (key : Json) (text : String) :
    (Override.read ⟨key, .text text⟩).toOption =
      (JavaType.guess text).toOption.map fun type => ⟨key, text, type⟩ := by
  rw [read_text]
  cases JavaType.guess text <;> rfl

theorem Override.read_toJson_error {key : Json} {name : Json.Name} {e : OverrideError}
    (h : Override.read ⟨key, name.toJson⟩ = .error e) : ∃ e', e = .configuration e' := by
  cases name with
  | proper text =>
    obtain ⟨e', -, rfl⟩ := Override.read_text_eq_error_iff.mp h
    exact ⟨e', rfl⟩
  | broken text =>
    cases h
    exact ⟨_, rfl⟩

/-- Whether all values of a table are texts, broken or not. -/
def Json.Table.HasTextsOnly (t : Json.Table) : Prop :=
  ∀ entry ∈ t.values, ∃ text : Json.Name, entry.value = text.toJson

theorem Json.Table.hasTextsOnly_ofMembers (m : OrderedMap Json.Name Json.Name) :
    (ofMembers (m.entries.map fun e => (e.1, e.2.toJson))).HasTextsOnly := by
  have hnames : ((m.entries.map fun e => (e.1, e.2.toJson)).map Prod.fst).Nodup := by
    rw [List.map_map]
    exact m.nodup_keys
  intro entry hentry
  rw [OrderedMap.values, entries_ofMembers hnames, List.map_map, List.map_map] at hentry
  obtain ⟨e, -, rfl⟩ := List.mem_map.mp hentry
  exact ⟨e.2, rfl⟩

theorem Json.Table.hasTextsOnly_ofTexts (m : OrderedMap String String) : (ofTexts m).HasTextsOnly := by
  intro entry hentry
  rw [OrderedMap.values, entries_ofTexts, List.map_map] at hentry
  obtain ⟨e, -, rfl⟩ := List.mem_map.mp hentry
  exact ⟨.proper e.2, rfl⟩

/-- Whether a table has a text under a name. -/
def Json.Table.MapsTo (t : Json.Table) (name text : String) : Prop :=
  ∃ entry, t.get? (.text name) = some entry ∧ entry.value = .text text

theorem Json.Table.mapsTo_ofTexts_iff {m : OrderedMap String String} {name text : String} :
    (ofTexts m).MapsTo name text ↔ m.get? name = some text := by
  rw [MapsTo, get?_ofTexts]
  cases m.get? name <;> simp

namespace Overrides

/-- Class names are read in order, and the first that cannot be read fails. -/
theorem read_ofTexts_eq_error_iff {m : OrderedMap String String} {e : OverrideError} :
    Overrides.read (.ofTexts m) = .error e ↔
      ∃ e', FirstFailure (fun entry e => JavaType.guess entry.2 = .error e) m.entries e' ∧
        .configuration e' = e := by
  rw [read, OrderedMap.mapValues_eq_error_iff, Json.Table.entries_ofTexts, firstFailure_map,
    ← firstFailure_exists]
  simp only [Override.read_text_eq_error_iff]

/-- Where all values are texts, one that cannot be read is no class name. -/
theorem read_error_of_texts {t : Json.Table} (ht : t.HasTextsOnly) {e : OverrideError}
    (h : Overrides.read t = .error e) : ∃ e', e = .configuration e' := by
  obtain ⟨before, entry, after, hentries, -, hentry⟩ := (t.mapValues_eq_error_iff Override.read).mp h
  have hmem : entry ∈ t.entries := hentries ▸ List.mem_append_right _ List.mem_cons_self
  obtain ⟨text, htext⟩ := ht _ (List.mem_map.mpr ⟨entry, hmem, rfl⟩)
  have hvalue : entry.2 = ⟨entry.2.key, text.toJson⟩ := by rw [← htext]
  rw [hvalue] at hentry
  exact Override.read_toJson_error hentry

theorem exists_read_ofTexts_iff {m : OrderedMap String String} :
    (∃ o, Overrides.read (.ofTexts m) = .ok o) ↔
      ∀ entry ∈ m.entries, ∃ type, JavaType.guess entry.2 = .ok type := by
  simp only [exists_eq_ok_iff, ne_eq, read_ofTexts_eq_error_iff]
  rw [← forall_not_firstFailure_iff]
  exact ⟨fun h e he => h _ ⟨e, he, rfl⟩, fun h e ⟨e', he', _⟩ => h e' he'⟩

theorem get?_read_ofTexts {m : OrderedMap String String} {o : Overrides}
    (h : Overrides.read (.ofTexts m) = .ok o) (name : String) :
    o.get? (.text name) = (m.get? name).bind fun text =>
      (JavaType.guess text).toOption.map fun type => ⟨.text name, text, type⟩ := by
  rw [OrderedMap.get?_mapValues h, Json.Table.get?_ofTexts]
  cases m.get? name with
  | none => rfl
  | some text =>
    rw [Option.map_some, Option.bind_some, Option.bind_some, Override.toOption_read_text]

theorem lookup_types (o : Overrides) (key : Json.Key) :
    o.types.lookup key = (o.get? key).map (·.type) := by
  exact @lookup_map_key Json.Key Json.Key Override JavaType _ _ id (fun _ _ h => h)
    (fun _ v => v.type) o.entries key

section

variable {t : Json.Table} {o : Overrides} (h : Overrides.read t = .ok o)
include h

theorem exists_guess_of_mem {entry : Json.Entry} {text : String} (hentry : entry ∈ t.values)
    (hvalue : entry.value = .text text) : ∃ type, JavaType.guess text = .ok type := by
  obtain ⟨⟨key, entry⟩, hmem, rfl⟩ := List.mem_map.mp hentry
  have hok := exists_eq_ok_iff.mpr (((t.mapValues_eq_ok_iff Override.read).mp h).1 _ hmem)
  obtain ⟨o, ho⟩ := hok
  obtain ⟨text', type, htext', htype, -⟩ := Override.read_eq_ok_iff.mp ho
  cases hvalue.symm.trans htext'
  exact ⟨type, htype⟩

theorem lookup_types_of_mapsTo {name text : String} (hmaps : t.MapsTo name text) :
    ∃ type, JavaType.guess text = .ok type ∧ o.types.lookup (.text name) = some type := by
  obtain ⟨entry, hget, hvalue⟩ := hmaps
  obtain ⟨type, htype⟩ := exists_guess_of_mem h (t.mem_values_iff.mpr ⟨_, hget⟩) hvalue
  have hread : Override.read entry = .ok ⟨entry.key, text, type⟩ :=
    Override.read_eq_ok_iff.mpr ⟨text, type, hvalue, htype, rfl⟩
  refine ⟨type, htype, ?_⟩
  rw [lookup_types, OrderedMap.get?_mapValues h, hget, Option.bind_some, hread]
  rfl

theorem lookup_types_of_none {key : Json.Key} (hno : t.get? key = none) :
    o.types.lookup key = none := by
  rw [lookup_types, OrderedMap.get?_mapValues h, hno]
  rfl

end

theorem lookup_types_read {m : OrderedMap String String} {o : Overrides}
    (h : Overrides.read (.ofTexts m) = .ok o) (name : String) :
    o.types.lookup (.text name) =
      (m.get? name).bind fun text => (JavaType.guess text).toOption := by
  rw [lookup_types, get?_read_ofTexts h, Option.map_bind]
  simp only [Function.comp_def, Option.map_map, Option.map_id']

theorem nodup_types (o : Overrides) : (o.types.map Prod.fst).Nodup := by
  rw [types, List.map_map]
  exact o.nodup_keys

end Overrides

namespace OverrideTable

variable {explicit directive : OrderedMap String String} {builtins : Builtins}

/-- Directive mappings are read before configured ones. -/
theorem make_eq_error_iff {e : OverrideError} :
    make (.ofTexts explicit) (.ofTexts directive) builtins = .error e ↔
      ∃ e', (FirstFailure (fun entry e => JavaType.guess entry.2 = .error e) directive.entries e' ∨
          (∀ entry ∈ directive.entries, ∃ type, JavaType.guess entry.2 = .ok type) ∧
          FirstFailure (fun entry e => JavaType.guess entry.2 = .error e) explicit.entries e') ∧
        .configuration e' = e := by
  rw [make, bind_eq_error, Overrides.read_ofTexts_eq_error_iff]
  simp only [bind_eq_error, Overrides.read_ofTexts_eq_error_iff, pure, Except.pure, reduceCtorEq,
    and_false, exists_false, or_false]
  rw [← Overrides.exists_read_ofTexts_iff]
  constructor
  · intro h
    rcases h with ⟨e', he', rfl⟩ | ⟨o, ho, e', he', rfl⟩
    · exact ⟨e', .inl he', rfl⟩
    · exact ⟨e', .inr ⟨⟨o, ho⟩, he'⟩, rfl⟩
  · intro h
    obtain ⟨e', he', rfl⟩ := h
    rcases he' with he' | ⟨⟨o, ho⟩, he'⟩
    · exact .inl ⟨e', he', rfl⟩
    · exact .inr ⟨o, ho, e', he', rfl⟩

/-- There is a table of texts unless one of them is no class name. -/
theorem make_error_of_texts {explicit directive : Json.Table} (hexplicit : explicit.HasTextsOnly)
    (hdirective : directive.HasTextsOnly) {e : OverrideError}
    (h : make explicit directive builtins = .error e) : ∃ e', e = .configuration e' := by
  rcases bind_eq_error.mp h with h | ⟨_, -, h⟩
  · exact Overrides.read_error_of_texts hdirective h
  · rcases bind_eq_error.mp h with h | ⟨_, -, h⟩
    · exact Overrides.read_error_of_texts hexplicit h
    · cases h

theorem make_eq_ok_iff {explicit directive : Json.Table} {t : OverrideTable} :
    make explicit directive builtins = .ok t ↔
      ∃ d e, Overrides.read directive = .ok d ∧ Overrides.read explicit = .ok e ∧
        t = ⟨e, d, builtins, ((OrderedMap.ofList (builtins.common.entries.map fun entry =>
          (.text entry.1, entry.2))).insertAll d.types).insertAll e.types⟩ := by
  simp only [make, bind_eq_ok, pure, Except.pure, Except.ok.injEq]
  constructor
  · intro h
    obtain ⟨d, hd, e, he, rfl⟩ := h
    exact ⟨d, e, hd, he, rfl⟩
  · intro h
    obtain ⟨d, e, hd, he, rfl⟩ := h
    exact ⟨d, hd, e, he, rfl⟩

/-- Names may be told from other keys. -/
theorem get?_ofList_text (m : OrderedMap String JavaType) (name : String) :
    (OrderedMap.ofList (m.entries.map fun e => (Json.Key.text e.1, e.2))).get? (.text name) =
      m.get? name := by
  have hnodup : ((m.entries.map fun e => (Json.Key.text e.1, e.2)).map Prod.fst).Nodup := by
    rw [List.map_map]
    exact List.pairwise_map.mpr ((List.pairwise_map.mp m.nodup_keys).imp
      fun hne heq => hne (Json.Key.text.inj heq))
  rw [OrderedMap.get?_ofList hnodup]
  exact (lookup_map_key (fun _ _ => Json.Key.text.inj) (fun _ type => type) ..).trans Option.map_id'

/-- Whatever a table is made of, its layers are the class names that could be read, the configured
ones first, and the common built-in scalars. -/
theorem exists_read_of_make {explicit directive : Json.Table} {t : OverrideTable}
    (h : make explicit directive builtins = .ok t) :
    ∃ d e, Overrides.read directive = .ok d ∧ Overrides.read explicit = .ok e ∧ ∀ name,
      t.lookup name = (e.types.lookup (.text name)).or
        ((d.types.lookup (.text name)).or (builtins.common.get? name)) := by
  obtain ⟨d, e, hd, he, rfl⟩ := make_eq_ok_iff.mp h
  refine ⟨d, e, hd, he, fun name => ?_⟩
  rw [lookup, get?, OrderedMap.get?_insertAll _ e.nodup_types,
    OrderedMap.get?_insertAll _ d.nodup_types, get?_ofList_text]

/-- A name stands for what is guessed from its class name, the one in the first table if both have
one. -/
theorem lookup_of_mapsTo {explicit directive : Json.Table} {t : OverrideTable}
    (h : make explicit directive builtins = .ok t) {name text : String}
    (hmaps : explicit.MapsTo name text ∨
      explicit.get? (.text name) = none ∧ directive.MapsTo name text) :
    ∃ type, JavaType.guess text = .ok type ∧ t.lookup name = some type := by
  obtain ⟨d, e, hd, he, hlayers⟩ := exists_read_of_make h
  rcases hmaps with hmaps | ⟨hno, hmaps⟩
  · obtain ⟨type, htype, hlookup⟩ := Overrides.lookup_types_of_mapsTo he hmaps
    exact ⟨type, htype, by rw [hlayers, hlookup, Option.some_or]⟩
  · obtain ⟨type, htype, hlookup⟩ := Overrides.lookup_types_of_mapsTo hd hmaps
    refine ⟨type, htype, ?_⟩
    rw [hlayers, Overrides.lookup_types_of_none he hno, hlookup, Option.none_or, Option.some_or]

/-- The table maps a name as the first layer does that has the name. -/
theorem lookup_make {t : OverrideTable}
    (h : make (.ofTexts explicit) (.ofTexts directive) builtins = .ok t) (name : String) :
    t.lookup name = ((explicit.get? name).bind fun text => (JavaType.guess text).toOption).or
      (((directive.get? name).bind fun text => (JavaType.guess text).toOption).or
        (builtins.common.get? name)) := by
  obtain ⟨d, e, hd, he, hlookup⟩ := exists_read_of_make h
  rw [hlookup, Overrides.lookup_types_read hd, Overrides.lookup_types_read he]

section

variable {t : OverrideTable} (h : make (.ofTexts explicit) (.ofTexts directive) builtins = .ok t)
  {name text : String}
include h

theorem lookup_make_of_explicit (hget : explicit.get? name = some text) :
    ∃ type, JavaType.guess text = .ok type ∧ t.lookup name = some type :=
  lookup_of_mapsTo h (.inl (Json.Table.mapsTo_ofTexts_iff.mpr hget))

theorem lookup_make_of_directive (hno : explicit.get? name = none)
    (hget : directive.get? name = some text) :
    ∃ type, JavaType.guess text = .ok type ∧ t.lookup name = some type := by
  refine lookup_of_mapsTo h (.inr ⟨?_, Json.Table.mapsTo_ofTexts_iff.mpr hget⟩)
  rw [Json.Table.get?_ofTexts, hno]
  rfl

theorem lookup_make_of_none (hexplicit : explicit.get? name = none)
    (hdirective : directive.get? name = none) : t.lookup name = builtins.common.get? name := by
  rw [lookup_make h, hexplicit, hdirective]
  rfl

end

end OverrideTable

end TypeAtlas
