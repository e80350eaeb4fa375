import TypeAtlas.Proofs.Schema.Merge

/-!
# The entries of a schema

What the schema of a document has under each name, told from the definitions of the document, and
what the schema of two documents together has, told from the schema of each:

* `TypeDefinition.Gathers`: an entry has the kind of the first definition or extension of its name and
  the directives of all of them, each as it is written (`Directive.Reads`);
* `get?_ofDefinitions_eq_some_iff`: the entries of the schema of a document are those;
* `keys_merge`, `Keyed.get?_merge`: names and definitions of two schemas that are merged;
* `ofDefinitions_entry_per_name`: both for the schema of any document.
-/

namespace TypeAtlas

namespace GraphQL

/-- A part of the definition of a type: its definition or an extension of it. -/
structure TypePart where
  kind : TypeKind
  name : String
  directives : List Directive

/-- The part of a type that a definition at the top of a document is. What is executed, and what
defines the schema or a directive, is none, whatever its name and its directives are. -/
def Definition.typePart? : Definition → Option TypePart
  | objectType name directives | objectTypeExtension name directives =>
    some ⟨.object, name, directives⟩
  | interfaceType name directives | interfaceTypeExtension name directives =>
    some ⟨.interface, name, directives⟩
  | enumType name directives | enumTypeExtension name directives => some ⟨.enum, name, directives⟩
  | scalarType name directives | scalarTypeExtension name directives =>
    some ⟨.scalar, name, directives⟩
  | inputObjectType name directives | inputObjectTypeExtension name directives =>
    some ⟨.input, name, directives⟩
  | unionType name directives | unionTypeExtension name directives => some ⟨.union, name, directives⟩
  | operation _ _ | fragment _ _ | schema _ | schemaExtension _ | directive _ => none

/-- The parts of the type of a name, in order. -/
def partsOf (name : String) (ds : List Definition) : List TypePart :=
  (ds.filterMap (·.typePart?)).filter (·.name = name)

end GraphQL

namespace Schema

open GraphQL (Definition TypePart partsOf)

/-! ## Directives -/

/-- Whether a directive is what is written: under its name, with every argument once, in order of first
appearance and with the value that is written last. -/
structure Directive.Reads (node : GraphQL.Directive) (d : Directive) : Prop where
  name : d.name = node.name
  keys : d.arguments.keys = (node.arguments.map Prod.fst).eraseDups
  argument (key : String) : d.arguments.get? key = node.arguments.reverse.lookup key

theorem Directive.reads_ofSyntax (node : GraphQL.Directive) : Reads node (ofSyntax node) where
  name := rfl
  keys := OrderedMap.keys_ofList node.arguments
  argument key := by
    rw [ofSyntax, OrderedMap.ofList, OrderedMap.get?_insertAll_reverse]
    exact Option.or_none

theorem Directive.reads_iff {node : GraphQL.Directive} {d : Directive} :
    Reads node d ↔ ofSyntax node = d := by
  constructor
  · intro h
    obtain ⟨name, arguments⟩ := d
    have hread := reads_ofSyntax node
    have harguments : (ofSyntax node).arguments = arguments :=
      OrderedMap.ext_get? (hread.keys.trans h.keys.symm) fun key =>
        (hread.argument key).trans (h.argument key).symm
    rw [← harguments, show name = node.name from h.name]
    rfl
  · rintro rfl
    exact reads_ofSyntax node

theorem Directive.forall₂_reads_iff {nodes : List GraphQL.Directive} {ds : List Directive} :
    List.Forall₂ Reads nodes ds ↔ ds = nodes.map ofSyntax := by
  have hreads : Reads = fun node d => ofSyntax node = d :=
    funext fun node => funext fun d => propext reads_iff
  rw [hreads, ← List.forall₂_map_left_iff (R := Eq), List.forall₂_eq_eq_eq, eq_comm]

/-! ## One document -/

theorem joined_eq_map (name : String) (ds : List TypeDefinition) :
    joined name ds = ds.head?.map fun d => ⟨name, d.kind, ds.flatMap (·.directives)⟩ := by
  cases ds <;> rfl

/-- The definition that a part of a type is by itself. -/
def TypeDefinition.ofPart (part : TypePart) : TypeDefinition :=
  ⟨part.name, part.kind, part.directives.map Directive.ofSyntax⟩

theorem TypeDefinition.ofSyntax?_eq_map (node : Definition) :
    ofSyntax? node = node.typePart?.map ofPart := by
  cases node <;> rfl

theorem filterMap_ofSyntax? (ds : List Definition) :
    ds.filterMap TypeDefinition.ofSyntax? = (ds.filterMap (·.typePart?)).map TypeDefinition.ofPart := by
  rw [List.map_filterMap]
  exact List.filterMap_congr fun node _ => TypeDefinition.ofSyntax?_eq_map node

theorem named_filterMap (name : String) (ds : List Definition) :
    named name (ds.filterMap TypeDefinition.ofSyntax?) =
      (partsOf name ds).map TypeDefinition.ofPart := by
  rw [filterMap_ofSyntax?, named, List.filter_map]
  rfl

/-- Of the parts of a type the first gives the kind and each its directives. -/
theorem get?_ofDefinitions_eq_map (name : String) (ds : List Definition) :
    (ofDefinitions ds).get? name = (partsOf name ds).head?.map fun part => ⟨name, part.kind,
      ((partsOf name ds).flatMap (·.directives)).map Directive.ofSyntax⟩ := by
  rw [get?_ofDefinitions, named_filterMap, joined_eq_map, List.head?_map, Option.map_map,
    List.flatMap_map, List.map_flatMap]
  rfl

/-- Whether an entry is what a document says about the type of a name: it has this name, the kind of
the first part of the type and the directives of all its parts, in order. -/
structure TypeDefinition.Gathers (ds : List Definition) (name : String) (d : TypeDefinition) :
    Prop where
  name_eq : d.name = name
  kind : (partsOf name ds).head?.map (·.kind) = some d.kind
  directives : List.Forall₂ Directive.Reads ((partsOf name ds).flatMap (·.directives)) d.directives

theorem get?_ofDefinitions_eq_some_iff {ds : List Definition} {name : String} {d : TypeDefinition} :
    (ofDefinitions ds).get? name = some d ↔ TypeDefinition.Gathers ds name d := by
  rw [get?_ofDefinitions_eq_map, Option.map_eq_some_iff]
  constructor
  · rintro ⟨part, hpart, rfl⟩
    exact ⟨rfl, by rw [hpart]; rfl, Directive.forall₂_reads_iff.mpr rfl⟩
  · intro h
    obtain ⟨part, hpart, hkind⟩ := Option.map_eq_some_iff.mp h.kind
    refine ⟨part, hpart, ?_⟩
    rw [hkind, ← Directive.forall₂_reads_iff.mp h.directives, ← h.name_eq]

/-- The names of a document, each where it occurs first. -/
theorem keys_ofDefinitions (ds : List Definition) : (ofDefinitions ds).definitions.keys =
    ((ds.filterMap (·.typePart?)).map (·.name)).eraseDups := by
  rw [ofDefinitions, keys_addAll_empty, filterMap_ofSyntax?, List.map_map]
  rfl

/-! ## Two schemas -/

theorem eraseDups_of_nodup {names : List String} (h : names.Nodup) : names.eraseDups = names := by
  induction names with
  | nil => rfl
  | cons name names ih =>
    rw [List.nodup_cons] at h
    have hothers : names.filter (!· == name) = names := by
      refine List.filter_eq_self.mpr fun other hother => ?_
      have hne : other ≠ name := fun heq => h.1 (heq ▸ hother)
      simpa using hne
    rw [List.eraseDups_cons, hothers, ih h.2]

namespace Keyed

variable {s t : Schema} (ht : t.Keyed)
include ht

/-- A schema that is merged into another adds the names that the other does not have. -/
theorem keys_merge :
    (s.merge t).definitions.keys = (s.definitions.keys ++ t.definitions.keys).eraseDups := by
  have hkeys : s.definitions.keys.eraseDups = s.definitions.keys :=
    eraseDups_of_nodup s.definitions.nodup_keys
  rw [merge, keys_addAll, ht.names_eq_keys, List.eraseDups_append, hkeys]

/-- Where both schemas have a name, the first gives the kind and both their directives. -/
theorem get?_merge (hs : s.Keyed) (name : String) :
    (s.merge t).get? name = Option.merge TypeDefinition.extend (s.get? name) (t.get? name) := by
  rw [merge, hs.get?_addAll, ht.named_types]
  cases hd : s.get? name with
  | none =>
    rw [Option.merge_none_left]
    exact ht.joined_get? name
  | some d =>
    cases he : t.get? name with
    | none =>
      rw [← hd, Option.merge_none_right, Option.toList_none, List.append_nil]
      exact hs.joined_get? name
    | some e =>
      obtain rfl := ht name e he
      show some (TypeDefinition.mk e.name d.kind (d.directives ++ (e.directives ++ []))) = _
      rw [List.append_nil]
      rfl

end Keyed

/-- The schema of a document has one entry for each name that a definition or extension of a type
has, in order of first appearance. An entry stands under its own name, has the kind of the first
definition or extension of the name and the directives of all of them, in order, each with the
arguments that it is written with. What defines no type adds nothing. Two documents together have the
schema of the one merged with that of the other, and merging follows the same rule: names in order of
first appearance, and under a name that both have the kind of the first and the directives of both. -/
theorem ofDefinitions_entry_per_name (ds : List Definition) :
    (ofDefinitions ds).definitions.keys =
      ((ds.filterMap (·.typePart?)).map (·.name)).eraseDups ∧
    (ofDefinitions ds).types.map (·.name) = (ofDefinitions ds).definitions.keys ∧
    (∀ name d, (ofDefinitions ds).get? name = some d ↔ TypeDefinition.Gathers ds name d) ∧
    ofDefinitions (ds.filter (·.typePart?.isSome)) = ofDefinitions ds ∧
    ∀ es, ofDefinitions (ds ++ es) = (ofDefinitions ds).merge (ofDefinitions es) ∧
      (ofDefinitions (ds ++ es)).definitions.keys =
        ((ofDefinitions ds).definitions.keys ++ (ofDefinitions es).definitions.keys).eraseDups ∧
      ∀ name, (ofDefinitions (ds ++ es)).get? name = Option.merge TypeDefinition.extend
        ((ofDefinitions ds).get? name) ((ofDefinitions es).get? name) := by
  have hkeyed (ds : List Definition) : (ofDefinitions ds).Keyed := IsParsed.keyed ⟨ds, rfl⟩
  refine ⟨keys_ofDefinitions ds, (hkeyed ds).names_eq_keys, fun name d => ?_, ?_, fun es => ?_⟩
  · exact get?_ofDefinitions_eq_some_iff
  · have hothers : (ds.filter (·.typePart?.isSome)).filterMap TypeDefinition.ofSyntax? =
        ds.filterMap TypeDefinition.ofSyntax? := by
      rw [List.filterMap_filter]
      refine List.filterMap_congr fun node _ => ?_
      rw [TypeDefinition.ofSyntax?_eq_map]
      cases node.typePart? <;> rfl
    rw [ofDefinitions, hothers, ofDefinitions]
  · rw [ofDefinitions_append]
    exact ⟨rfl, (hkeyed es).keys_merge, (hkeyed es).get?_merge (hkeyed ds)⟩

/-- An extension before the definition, which is of another kind, with an argument that is written
twice; an operation and a fragment of the same name, with directives of their own. -/
theorem ofDefinitions_of_clashing_kinds :
    let ds : List Definition := [
      .objectTypeExtension "Url" [⟨"a", [("x", .int 1), ("y", .null), ("x", .int 2)]⟩],
      .operation (some "Url") [⟨"b", []⟩], .enumType "Mail" [], .fragment "Mail" [⟨"b", []⟩],
      .scalarType "Url" [⟨"c", []⟩, ⟨"a", [("x", .int 3)]⟩]]
    let url : TypeDefinition := ⟨"Url", .object, [⟨"a", .ofList [("x", .int 2), ("y", .null)]⟩,
      ⟨"c", .empty⟩, ⟨"a", .ofList [("x", .int 3)]⟩]⟩
    (ofDefinitions ds).definitions.keys = ["Url", "Mail"] ∧
      (ofDefinitions ds).get? "Url" = some url ∧
      (ofDefinitions ds).get? "Mail" = some ⟨"Mail", .enum, []⟩ := by
  intro ds url
  obtain ⟨hkeys, -, hentry, -⟩ := ofDefinitions_entry_per_name ds
  have hurl : url.Gathers ds "Url" :=
    ⟨rfl, rfl, Directive.forall₂_reads_iff.mpr rfl⟩
  have hmail : (TypeDefinition.mk "Mail" .enum []).Gathers ds "Mail" := ⟨rfl, rfl, .nil⟩
  exact ⟨hkeys.trans (by decide), (hentry _ _).mpr hurl, (hentry _ _).mpr hmail⟩

end Schema

end TypeAtlas
