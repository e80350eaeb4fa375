import TypeAtlas.Schema.Parse

/-!
# Parsed schemas

A schema can hold a definition under a name that is not its own. Those that come from a document
(`IsParsed`), read as a text or not, do not: `IsParsed.keyed`. In them looking a name up and looking
for a definition of that name come to the same (`Keyed.mem_types_iff`, `Keyed.isObjectType_iff`), and
no two definitions share a name (`Keyed.nodup_names`).
-/

namespace TypeAtlas.Schema

/-- Whether a schema comes from the definitions at the top of a document. -/
def IsParsed (s : Schema) : Prop := ∃ ds, s = ofDefinitions ds

theorem isParsed_of_parse {text : String} {s : Schema} (h : parse text = .ok s) : s.IsParsed := by
  unfold parse at h
  split at h
  · exact ⟨[], (Except.ok.inj h).symm⟩
  · unfold parseDocument at h
    cases hd : GraphQL.parseDocument text with
    | error e => rw [hd] at h; cases h
    | ok ds => rw [hd] at h; exact ⟨ds, (Except.ok.inj h).symm⟩

/-- Whether every definition stands under its own name. -/
def Keyed (s : Schema) : Prop := ∀ name d, s.get? name = some d → d.name = name

theorem keyed_empty : empty.Keyed := fun _ _ h => by cases h

theorem Keyed.add {s : Schema} (h : s.Keyed) (d : TypeDefinition) : (s.add d).Keyed := by
  intro name e he
  rw [get?_add] at he
  split at he
  · rename_i hname
    cases hd : s.get? d.name <;> rw [hd] at he <;> cases he <;> exact hname.symm
  · exact h name e he

theorem Keyed.addAll {s : Schema} (h : s.Keyed) (ds : List TypeDefinition) : (s.addAll ds).Keyed := by
  induction ds generalizing s with
  | nil => exact h
  | cons d ds ih => exact ih (h.add d)

theorem IsParsed.keyed {s : Schema} (h : s.IsParsed) : s.Keyed := by
  obtain ⟨ds, rfl⟩ := h
  exact keyed_empty.addAll _

namespace Keyed

variable {s : Schema} (h : s.Keyed)
include h

theorem mem_types_iff {d : TypeDefinition} : d ∈ s.types ↔ s.get? d.name = some d := by
  rw [types, OrderedMap.values, List.mem_map, get?, OrderedMap.get?_eq_some_iff_mem]
  constructor
  · rintro ⟨⟨name, e⟩, he, rfl⟩
    rw [h name e (s.definitions.get?_eq_some_iff_mem.mpr he)]
    exact he
  · exact fun he => ⟨_, he, rfl⟩

theorem get?_eq_some_iff {name : String} {d : TypeDefinition} :
    s.get? name = some d ↔ d ∈ s.types ∧ d.name = name := by
  constructor
  · intro hd
    have hname := h name d hd
    exact ⟨h.mem_types_iff.mpr (hname ▸ hd), hname⟩
  · rintro ⟨hd, rfl⟩
    exact h.mem_types_iff.mp hd

theorem isObjectType_iff (name : String) :
    s.isObjectType name = true ↔ ∃ d ∈ s.types, d.name = name ∧ d.kind = .object := by
  rw [isObjectType, Option.any_eq_true]
  simp only [h.get?_eq_some_iff, decide_eq_true_eq, and_assoc]

theorem names_eq_keys : s.types.map (·.name) = s.definitions.keys := by
  rw [types, OrderedMap.values, List.map_map, OrderedMap.keys]
  refine List.map_congr_left fun e he => ?_
  exact h e.1 e.2 (s.definitions.get?_eq_some_iff_mem.mpr he)

theorem nodup_types_names : (s.types.map (·.name)).Nodup := by
  rw [h.names_eq_keys]
  exact s.definitions.nodup_keys

theorem nodup_names (kind : GraphQL.TypeKind) : ((s.ofKind kind).map (·.name)).Nodup :=
  h.nodup_types_names.sublist (List.filter_sublist.map TypeDefinition.name)

end Keyed

end TypeAtlas.Schema
