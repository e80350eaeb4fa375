import Mathlib.Data.List.Basic
import Mathlib.Data.List.Nodup
import TypeAtlas.Proofs.Schema.Parsed

/-!
# Adding and merging definitions

Of all definitions that share a name the first gives the kind, and each gives its directives, in
order (`joined`). Names are in the order in which they first occur:

* `Keyed.get?_addAll`, `get?_ofDefinitions`: what stands under a name after definitions were added;
* `keys_addAll`: the names after definitions were added;
* `ofDefinitions_append`, `ofDefinitions_flatMap`: the definitions of several documents give the
  schemas of each, merged in order;
* `keys_foldl_merge`, `get?_foldl_merge`: names and definitions of merged schemas.
-/

namespace TypeAtlas.Schema

open GraphQL (TypeKind)

/-- The definitions of a name as one. -/
def joined (name : String) : List TypeDefinition → Option TypeDefinition
  | [] => none
  | d :: rest => some ⟨name, d.kind, (d :: rest).flatMap (·.directives)⟩

/-- Definitions may be joined one part after the other. -/
theorem joined_toList_append (name : String) (ds es : List TypeDefinition) :
    joined name ((joined name ds).toList ++ es) = joined name (ds ++ es) := by
  cases ds with
  | nil => rfl
  | cons d ds =>
    show some (TypeDefinition.mk name d.kind
      ((d :: ds).flatMap (·.directives) ++ es.flatMap (·.directives))) = _
    rw [← List.flatMap_append]
    rfl

/-- The definitions that have a name. -/
def named (name : String) (ds : List TypeDefinition) : List TypeDefinition :=
  ds.filter (·.name = name)

theorem named_append (name : String) (ds es : List TypeDefinition) :
    named name (ds ++ es) = named name ds ++ named name es := List.filter_append ds es

namespace Keyed

variable {s : Schema} (h : s.Keyed)
include h

theorem joined_get? (name : String) : joined name (s.get? name).toList = s.get? name := by
  cases hget : s.get? name with
  | none => rfl
  | some d =>
    obtain rfl := h name d hget
    show some (TypeDefinition.mk d.name d.kind (d.directives ++ [])) = some d
    rw [List.append_nil]

theorem get?_add (d : TypeDefinition) (name : String) :
    (s.add d).get? name = joined name ((s.get? name).toList ++ named name [d]) := by
  rw [Schema.get?_add]
  split
  · rename_i hname
    subst hname
    have hd : named d.name [d] = [d] := List.filter_cons_of_pos (decide_eq_true rfl)
    rw [hd]
    cases s.get? d.name with
    | none =>
      show some d = some (TypeDefinition.mk d.name d.kind (d.directives ++ []))
      rw [List.append_nil]
    | some e =>
      show some (e.extend d) =
        some (TypeDefinition.mk d.name e.kind (e.directives ++ (d.directives ++ [])))
      rw [List.append_nil]
      rfl
  · rename_i hname
    have hd : named name [d] = [] := List.filter_cons_of_neg (by simpa using Ne.symm hname)
    rw [hd, List.append_nil, h.joined_get?]

/-- What stands under a name after definitions were added, one after the other. -/
theorem get?_addAll (ds : List TypeDefinition) (name : String) :
    (s.addAll ds).get? name = joined name ((s.get? name).toList ++ named name ds) := by
  induction ds generalizing s with
  | nil =>
    rw [named, List.filter_nil, List.append_nil, h.joined_get?]
    rfl
  | cons d ds ih =>
    show ((s.add d).addAll ds).get? name = joined name (_ ++ named name ([d] ++ ds))
    rw [ih (h.add d), h.get?_add, joined_toList_append, named_append, List.append_assoc]

end Keyed

theorem TypeDefinition.ofSyntax?_eq_some_iff {node : GraphQL.Definition} {d : TypeDefinition} :
    ofSyntax? node = some d ↔ definitionKind? node = some d.kind ∧ node.name? = some d.name ∧
      d.directives = node.directives.map Directive.ofSyntax := by
  simp only [ofSyntax?, Option.bind_eq_bind, Option.bind_eq_some_iff, Option.pure_def,
    Option.some.injEq]
  constructor
  · rintro ⟨kind, hkind, name, hname, rfl⟩
    exact ⟨hkind, hname, rfl⟩
  · rintro ⟨hkind, hname, hdirectives⟩
    exact ⟨_, hkind, _, hname, by rw [← hdirectives]⟩

theorem get?_ofDefinitions (ds : List GraphQL.Definition) (name : String) :
    (ofDefinitions ds).get? name =
      joined name (named name (ds.filterMap TypeDefinition.ofSyntax?)) :=
  keyed_empty.get?_addAll _ name

/-! ## Keys -/

theorem keys_add (s : Schema) (d : TypeDefinition) : (s.add d).definitions.keys =
    if d.name ∈ s.definitions.keys then s.definitions.keys else s.definitions.keys ++ [d.name] :=
  OrderedMap.keys_insert ..

/-- New names are appended where they occur first. -/
theorem keys_addAll (s : Schema) (ds : List TypeDefinition) : (s.addAll ds).definitions.keys =
    s.definitions.keys ++ ((ds.map (·.name)).removeAll s.definitions.keys).eraseDups := by
  rw [← foldl_appendNew, List.foldl_map, addAll]
  refine (List.foldl_hom (fun s : Schema => s.definitions.keys) ?_).symm
  exact fun s d => (keys_add s d).symm

theorem keys_addAll_empty (ds : List TypeDefinition) :
    (empty.addAll ds).definitions.keys = (ds.map (·.name)).eraseDups := by
  have hnone : (ds.map (·.name)).removeAll empty.definitions.keys = ds.map (·.name) :=
    List.filter_eq_self.mpr fun _ _ => rfl
  rw [keys_addAll, hnone]
  rfl

/-! ## Merging parts -/

theorem contains_add (s : Schema) (d : TypeDefinition) {name : String}
    (h : name ∈ s.definitions.keys) : name ∈ (s.add d).definitions.keys := by
  rw [keys_add]
  split
  · exact h
  · exact List.mem_append_left _ h

/-- A definition of a name that is present may be added before one of another name. -/
theorem add_comm (s : Schema) {d e : TypeDefinition} (h : e.name ∈ s.definitions.keys)
    (hne : d.name ≠ e.name) : (s.add d).add e = (s.add e).add d := by
  have hd : (s.add e).get? d.name = s.get? d.name := by rw [get?_add, if_neg hne]
  have he : (s.add d).get? e.name = s.get? e.name := by rw [get?_add, if_neg hne.symm]
  show (Schema.mk (OrderedMap.insert _ e.name _)) = Schema.mk (OrderedMap.insert _ d.name _)
  rw [hd, he]
  exact congrArg Schema.mk (OrderedMap.insert_comm hne h _ _)

theorem addAll_add_comm (s : Schema) {ds : List TypeDefinition} {e : TypeDefinition}
    (h : e.name ∈ s.definitions.keys) (hne : ∀ d ∈ ds, d.name ≠ e.name) :
    (s.addAll ds).add e = (s.add e).addAll ds := by
  induction ds generalizing s with
  | nil => rfl
  | cons d ds ih =>
    rw [List.forall_mem_cons] at hne
    show ((s.add d).addAll ds).add e = ((s.add e).add d).addAll ds
    rw [ih _ (contains_add s d h) hne.2, add_comm s h hne.1]

theorem addAll_append (s : Schema) (ds es : List TypeDefinition) :
    s.addAll (ds ++ es) = (s.addAll ds).addAll es := List.foldl_append

/-- What adding a definition does to the entries: it is a new one, or it goes into the one that has
its name. -/
theorem types_add (t : Schema) (d : TypeDefinition) :
    (t.get? d.name = none ∧ (t.add d).types = t.types ++ [d]) ∨
      ∃ e front back, t.get? d.name = some e ∧ t.types = front ++ e :: back ∧
        (t.add d).types = front ++ e.extend d :: back := by
  cases hget : t.get? d.name with
  | none =>
    refine .inl ⟨rfl, ?_⟩
    have hentries := OrderedMap.entries_insert_of_get?_eq_none hget d
    rw [types, OrderedMap.values, add, hget, Option.map_none, Option.getD_none, hentries,
      List.map_append]
    rfl
  | some e =>
    obtain ⟨front, back, hentries, hinsert⟩ := exists_insertEntry_eq hget
    refine .inr ⟨e, front.map Prod.snd, back.map Prod.snd, rfl, ?_, ?_⟩
    · rw [types, OrderedMap.values, hentries, List.map_append, List.map_cons]
    · have hadd : (t.add d).definitions.entries =
          insertEntry d.name (e.extend d) t.definitions.entries := by
        rw [add, hget]
        rfl
      rw [types, OrderedMap.values, hadd, hinsert, List.map_append, List.map_cons]

namespace Keyed

variable {t : Schema} (h : t.Keyed) (s : Schema)
include h

/-- All entries but a given one have other names. -/
theorem name_ne_of_types_eq {e : TypeDefinition} {front back : List TypeDefinition}
    (htypes : t.types = front ++ e :: back) : ∀ x ∈ front ++ back, x.name ≠ e.name := by
  have hnodup := h.nodup_types_names
  rw [htypes, List.map_append, List.map_cons, List.nodup_middle, ← List.map_append] at hnodup
  intro x hx heq
  exact (List.nodup_cons.mp hnodup).1 (List.mem_map.mpr ⟨x, hx, heq⟩)

theorem named_types (name : String) : named name t.types = (t.get? name).toList := by
  cases hget : t.get? name with
  | none =>
    refine List.filter_eq_nil_iff.mpr fun d hd hname => ?_
    rw [← of_decide_eq_true hname, h.mem_types_iff.mp hd] at hget
    cases hget
  | some d =>
    obtain ⟨hd, rfl⟩ := h.get?_eq_some_iff.mp hget
    obtain ⟨front, back, htypes⟩ := List.append_of_mem hd
    have hothers {part : List TypeDefinition} (hpart : part ⊆ front ++ back) :
        named d.name part = [] := by
      refine List.filter_eq_nil_iff.mpr fun x hx hname => ?_
      exact h.name_ne_of_types_eq htypes x (hpart hx) (of_decide_eq_true hname)
    have hself : named d.name (d :: back) = d :: named d.name back :=
      List.filter_cons_of_pos (decide_eq_true rfl)
    rw [htypes, named_append, hself, hothers (List.subset_append_left _ _),
      hothers (List.subset_append_right _ _)]
    rfl

/-- A definition that has gone into an entry may be added after all entries: those after its own have
other names. -/
theorem addAll_types_add (d : TypeDefinition) :
    s.addAll (t.add d).types = (s.addAll t.types).add d := by
  rcases types_add t d with ⟨-, hadd⟩ | ⟨e, front, back, hget, htypes, hadd⟩
  · rw [hadd, addAll_append]
    rfl
  · have hname : e.name = d.name := h d.name e hget
    have hback : ∀ x ∈ back, x.name ≠ d.name := by
      intro x hx
      exact hname ▸ h.name_ne_of_types_eq htypes x (List.mem_append_right front hx)
    have hmem : d.name ∈ ((s.addAll front).add e).definitions.keys := by
      rw [keys_add, hname]
      split
      · assumption
      · exact List.mem_append_right _ List.mem_cons_self
    -- The definition is taken out of its entry and moved over those behind it.
    calc s.addAll (t.add d).types
        = ((s.addAll front).add (e.extend d)).addAll back := by rw [hadd, addAll_append]; rfl
      _ = (((s.addAll front).add e).add d).addAll back := by rw [add_add _ hname.symm]
      _ = (((s.addAll front).add e).addAll back).add d := (addAll_add_comm _ hmem hback).symm
      _ = (s.addAll t.types).add d := by rw [htypes, addAll_append]; rfl

theorem addAll_types_addAll (ds : List TypeDefinition) :
    s.addAll (t.addAll ds).types = (s.addAll t.types).addAll ds := by
  induction ds generalizing t with
  | nil => rfl
  | cons d ds ih =>
    show s.addAll ((t.add d).addAll ds).types = ((s.addAll t.types).add d).addAll ds
    rw [ih (h.add d), h.addAll_types_add]

end Keyed

/-- The definitions of two documents together give the schema of the one merged with that of the
other. -/
theorem ofDefinitions_append (ds es : List GraphQL.Definition) :
    ofDefinitions (ds ++ es) = (ofDefinitions ds).merge (ofDefinitions es) := by
  have hes := keyed_empty.addAll_types_addAll (ofDefinitions ds) (es.filterMap TypeDefinition.ofSyntax?)
  rw [ofDefinitions, List.filterMap_append, addAll_append]
  exact hes.symm

/-- Schemas that are merged one after the other are the entries of all of them, added one after the
other. -/
theorem foldl_merge (s : Schema) (schemas : List Schema) :
    schemas.foldl merge s = s.addAll (schemas.flatMap types) := by
  induction schemas generalizing s with
  | nil => rfl
  | cons t schemas ih =>
    rw [List.foldl_cons, ih, List.flatMap_cons, addAll_append]
    rfl

/-- The definitions of several documents together give the schemas of each, merged in order. -/
theorem ofDefinitions_flatMap {α : Type} (f : α → List GraphQL.Definition) (xs : List α) :
    ofDefinitions (xs.flatMap f) = (xs.map fun x => ofDefinitions (f x)).foldl merge empty := by
  have hfrom (ds : List GraphQL.Definition) : ofDefinitions (ds ++ xs.flatMap f) =
      (xs.map fun x => ofDefinitions (f x)).foldl merge (ofDefinitions ds) := by
    induction xs generalizing ds with
    | nil => rw [List.flatMap_nil, List.append_nil]; rfl
    | cons x xs ih =>
      rw [List.flatMap_cons, ← List.append_assoc, ih, ofDefinitions_append]
      rfl
  exact hfrom []

section

variable {schemas : List Schema} (h : ∀ t ∈ schemas, t.Keyed)
include h

/-- Merged schemas have their names in order of first appearance. -/
theorem keys_foldl_merge : (schemas.foldl merge empty).definitions.keys =
    (schemas.flatMap (·.definitions.keys)).eraseDups := by
  have hnames : (schemas.flatMap types).map (·.name) = schemas.flatMap (·.definitions.keys) := by
    rw [List.map_flatMap]
    exact List.flatMap_congr fun t ht => (h t ht).names_eq_keys
  rw [foldl_merge, keys_addAll_empty, hnames]

/-- Under a name merged schemas have what each of them has, in order. -/
theorem get?_foldl_merge (name : String) :
    (schemas.foldl merge empty).get? name = joined name (schemas.filterMap (·.get? name)) := by
  have hnamed : named name (schemas.flatMap types) = schemas.filterMap (·.get? name) := by
    rw [named, List.filter_flatMap, List.filterMap_eq_flatMap_toList]
    exact List.flatMap_congr fun t ht => (h t ht).named_types name
  rw [foldl_merge, keyed_empty.get?_addAll, hnamed]
  rfl

end

end TypeAtlas.Schema
