import TypeAtlas.Proofs.Schema.Merge
import TypeAtlas.Proofs.Schema.Scan

/-!
# Schemas that differ in order only

Two schemas are alike if they have definitions of the same kinds under the same names, and each pair
of them the same directives in some order:

* `alike_of_perm`: the same definitions in another order give schemas that are alike;
* `Alike.exists_mem_ofKind`, `Alike.isObjectType_eq`: they have the same types;
* `Alike.directiveMappings`: a scan for class names finds the same in them.
-/

namespace TypeAtlas.Schema

open GraphQL (TypeKind)

/-- Whether two definitions differ in the order of their directives only. -/
structure TypeDefinition.Alike (d e : TypeDefinition) : Prop where
  name : d.name = e.name
  kind : d.kind = e.kind
  directives : d.directives.Perm e.directives

namespace TypeDefinition.Alike

variable {d e : TypeDefinition} (h : d.Alike e) {directive argument : String}
include h

theorem symm : e.Alike d := ⟨h.name.symm, h.kind.symm, h.directives.symm⟩

theorem directivesNamed (name : String) : (d.directivesNamed name).Perm (e.directivesNamed name) :=
  h.directives.filter _

theorem gives {text : String} (hgives : d.Gives directive argument text) :
    e.Gives directive argument text := by
  obtain ⟨applied, hone, hargument⟩ := hgives
  have hperm := h.directivesNamed directive
  rw [hone] at hperm
  exact ⟨applied, hperm.symm.eq_singleton, hargument⟩

theorem not_faulty (hd : ∀ error, ¬d.Faulty directive argument error) :
    ∀ error, ¬e.Faulty directive argument error := by
  rw [forall_not_faulty_iff] at hd ⊢
  intro hcarries
  have hne : d.directivesNamed directive ≠ [] := by
    intro hnil
    have hperm := h.directivesNamed directive
    rw [hnil] at hperm
    exact hcarries hperm.nil_eq.symm
  obtain ⟨text, htext⟩ := hd hne
  exact ⟨text, h.gives htext⟩

end TypeDefinition.Alike

/-- Whether two schemas have definitions under the same names that differ in the order of their
directives only. -/
def Alike (s t : Schema) : Prop :=
  ∀ name, Option.Rel TypeDefinition.Alike (s.get? name) (t.get? name)

/-! ## Other orders of the same definitions -/

/-- Definitions of one kind in another order are joined to the same but for the order of the
directives. -/
theorem joined_rel_of_perm {name : String} {ds es : List TypeDefinition} (h : ds.Perm es)
    (hkind : ∀ d ∈ ds, ∀ d' ∈ ds, d.kind = d'.kind) :
    Option.Rel TypeDefinition.Alike (joined name ds) (joined name es) := by
  cases ds with
  | nil =>
    obtain rfl := h.nil_eq
    exact .none
  | cons d ds =>
    cases es with
    | nil => exact absurd h.length_eq (Nat.succ_ne_zero _)
    | cons e es =>
      have he : e ∈ d :: ds := h.mem_iff.mpr List.mem_cons_self
      exact .some ⟨rfl, hkind d List.mem_cons_self e he, h.flatMap_right _⟩

/-- Whether all definitions and extensions that share a name are of one kind. -/
def KindsAgree (ds : List GraphQL.Definition) : Prop :=
  ∀ node ∈ ds, ∀ node' ∈ ds, node.name? = node'.name? →
    ∀ kind ∈ definitionKind? node, ∀ kind' ∈ definitionKind? node', kind = kind'

/-- The same definitions in another order give schemas that are alike, if those that share a name are
of one kind. -/
theorem alike_of_perm {ds es : List GraphQL.Definition} (h : ds.Perm es) (hkind : KindsAgree ds) :
    (ofDefinitions ds).Alike (ofDefinitions es) := by
  intro name
  rw [get?_ofDefinitions, get?_ofDefinitions]
  refine joined_rel_of_perm ((h.filterMap _).filter _) fun d hd d' hd' => ?_
  obtain ⟨hd, hname⟩ := List.mem_filter.mp hd
  obtain ⟨hd', hname'⟩ := List.mem_filter.mp hd'
  obtain ⟨node, hnode, hsyntax⟩ := List.mem_filterMap.mp hd
  obtain ⟨node', hnode', hsyntax'⟩ := List.mem_filterMap.mp hd'
  obtain ⟨hdkind, hdname, -⟩ := TypeDefinition.ofSyntax?_eq_some_iff.mp hsyntax
  obtain ⟨hdkind', hdname', -⟩ := TypeDefinition.ofSyntax?_eq_some_iff.mp hsyntax'
  have hnames : node.name? = node'.name? := by
    rw [hdname, hdname', of_decide_eq_true hname, of_decide_eq_true hname']
  exact hkind node hnode node' hnode' hnames d.kind hdkind d'.kind hdkind'

/-! ## What alike schemas have in common -/

namespace Alike

variable {s t : Schema} (h : s.Alike t)
include h

theorem symm : t.Alike s := by
  intro name
  have hname := h name
  generalize s.get? name = d at hname
  generalize t.get? name = e at hname
  cases hname with
  | some hd => exact .some hd.symm
  | none => exact .none

theorem isObjectType_eq (name : String) : s.isObjectType name = t.isObjectType name := by
  have hname := h name
  rw [isObjectType, isObjectType]
  generalize s.get? name = d at hname
  generalize t.get? name = e at hname
  cases hname with
  | some hd => rw [Option.any_some, Option.any_some, hd.kind]
  | none => rfl

variable (hs : s.Keyed) (ht : t.Keyed)
include hs ht

theorem exists_mem_ofKind {kind : TypeKind} {d : TypeDefinition} (hd : d ∈ s.ofKind kind) :
    ∃ e ∈ t.ofKind kind, d.Alike e := by
  obtain ⟨hd, hkind⟩ := List.mem_filter.mp hd
  have hname := h d.name
  rw [hs.mem_types_iff.mp hd] at hname
  generalize hget : t.get? d.name = found at hname
  cases hname with
  | @some _ e he =>
    refine ⟨e, List.mem_filter.mpr ⟨(ht.get?_eq_some_iff.mp hget).1, ?_⟩, he⟩
    rw [← he.kind]
    exact hkind

theorem not_faulty {directive argument : String}
    (hok : ∀ d ∈ s.ofKind .scalar, ∀ error, ¬d.Faulty directive argument error) :
    ∀ e ∈ t.ofKind .scalar, ∀ error, ¬e.Faulty directive argument error := by
  intro e he
  obtain ⟨d, hd, halike⟩ := h.symm.exists_mem_ofKind ht hs he
  exact halike.symm.not_faulty (hok d hd)

theorem gives {directive argument name text : String}
    (hgives : ∃ d ∈ s.ofKind .scalar, d.name = name ∧ d.Gives directive argument text) :
    ∃ e ∈ t.ofKind .scalar, e.name = name ∧ e.Gives directive argument text := by
  obtain ⟨d, hd, rfl, htext⟩ := hgives
  obtain ⟨e, he, halike⟩ := h.exists_mem_ofKind hs ht hd
  exact ⟨e, he, halike.name.symm, halike.gives htext⟩

/-- A scan for class names finds the same in alike schemas. -/
theorem directiveMappings {directive argument : String} {names : OrderedMap String String}
    (hnames : s.directiveMappings directive argument = .ok names) :
    ∃ names', t.directiveMappings directive argument = .ok names' ∧
      ∀ name, names'.get? name = names.get? name := by
  have hok := h.not_faulty hs ht (classNamesOf_eq_ok_iff.mp hnames).1
  have hnames' : t.directiveMappings directive argument = .ok _ := classNamesOf_eq_ok_iff.mpr ⟨hok, rfl⟩
  refine ⟨_, hnames', fun name => Option.ext fun text => ?_⟩
  rw [get?_classNames (ht.nodup_names .scalar) hnames', get?_classNames (hs.nodup_names .scalar) hnames]
  exact ⟨h.symm.gives ht hs, h.gives hs ht⟩

theorem mappingsFor {directive : Option String} {names : OrderedMap String String}
    (hnames : s.mappingsFor directive = .ok names) :
    ∃ names', t.mappingsFor directive = .ok names' ∧ ∀ name, names'.get? name = names.get? name := by
  cases directive with
  | none =>
    cases hnames
    exact ⟨_, rfl, fun _ => rfl⟩
  | some directive => exact h.directiveMappings hs ht hnames

end Alike

end TypeAtlas.Schema
