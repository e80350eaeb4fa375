import TypeAtlas.Json.Key

/-!
# Tables

A table has values under keys, in the order in which the keys first appeared. A JSON object is a
table, and so is a row of entries of two items each, a key and its value. Of several entries with
one key the last counts, in the place and with the spelling of the first.

* `entries_ofMembers`: members with names of their own are the entries of their table;
* `table_members`: the object with given texts as members is the table of these texts.
-/

namespace TypeAtlas.Json

/-- A value and the key under which it was first given. -/
structure Entry where
  key : Json
  value : Json

/-- Values under keys. -/
abbrev Table := OrderedMap Key Entry

/-- Why a value is no table. -/
inductive NotATable where
  /-- The value, or an entry of it, has no items. -/
  | noItems
  /-- An entry has more or fewer than two items. -/
  | notAPair
  /-- A key is an array or an object. -/
  | noKey
  deriving DecidableEq, Repr

namespace Table

/-- Puts a value under a key, which keeps the spelling that it has. -/
def put (t : Table) (k : Key) (spelling value : Json) : Table :=
  t.insert k ⟨((t.get? k).map (·.key)).getD spelling, value⟩

/-- Puts the value of an entry under its key. -/
def putEntry (t : Table) (entry : Json) : Except NotATable Table :=
  match entry.items? with
  | none => .error .noItems
  | some [key, value] =>
    match key.key? with
    | some k => .ok (t.put k key value)
    | none => .error .noKey
  | some _ => .error .notAPair

/-- The table with values under names. -/
def ofMembers (members : List (Name × Json)) : Table :=
  members.foldl (fun t m => t.put m.1.key m.1.toJson m.2) .empty

/-- The table with texts under texts. -/
def ofTexts (m : OrderedMap String String) : Table :=
  ofMembers (m.entries.map fun e => (e.1, .text e.2))

theorem put_of_get?_eq_none {t : Table} {k : Key} (h : t.get? k = none) (spelling value : Json) :
    t.put k spelling value = t.insert k ⟨spelling, value⟩ := by
  rw [put, h]; rfl

/-- Putting members of new and different names appends them. -/
theorem entries_foldl_put {members : List (Name × Json)} (h : (members.map Prod.fst).Nodup)
    {t : Table} (ht : ∀ m ∈ members, t.get? m.1.key = none) :
    (members.foldl (fun t m => t.put m.1.key m.1.toJson m.2) t).entries =
      t.entries ++ members.map fun m => (m.1.key, ⟨m.1.toJson, m.2⟩) := by
  induction members generalizing t with
  | nil => exact (List.append_nil _).symm
  | cons m members ih =>
    rw [List.map_cons, List.nodup_cons] at h
    have hm := ht m List.mem_cons_self
    rw [List.foldl_cons, put_of_get?_eq_none hm, ih h.2, OrderedMap.entries_insert_of_get?_eq_none hm,
      List.append_assoc, List.singleton_append, List.map_cons]
    intro m' hm'
    have hne : m'.1.key ≠ m.1.key := fun hk =>
      h.1 (Name.key_inj.mp hk ▸ List.mem_map.mpr ⟨m', hm', rfl⟩)
    rw [OrderedMap.get?_insert, if_neg hne]
    exact ht m' (List.mem_cons_of_mem _ hm')

theorem entries_ofMembers {members : List (Name × Json)} (h : (members.map Prod.fst).Nodup) :
    (ofMembers members).entries = members.map fun m => (m.1.key, ⟨m.1.toJson, m.2⟩) :=
  (entries_foldl_put h fun _ _ => rfl).trans (List.nil_append _)

theorem entries_ofTexts (m : OrderedMap String String) :
    (ofTexts m).entries = m.entries.map fun e => (.text e.1, ⟨.text e.1, .text e.2⟩) := by
  have h : ((m.entries.map fun e => (Name.proper e.1, Json.text e.2)).map Prod.fst).Nodup := by
    rw [List.map_map]
    exact List.pairwise_map.mpr ((List.pairwise_map.mp m.nodup_keys).imp fun hne => by simpa using hne)
  rw [ofTexts, entries_ofMembers h, List.map_map]
  rfl

theorem get?_ofTexts (m : OrderedMap String String) (name : String) :
    (ofTexts m).get? (.text name) = (m.get? name).map fun text => ⟨.text name, .text text⟩ := by
  rw [OrderedMap.get?, entries_ofTexts]
  exact lookup_map_key (fun _ _ => Key.text.inj) (fun name text => Entry.mk (.text name) (.text text))
    m.entries name

end Table

/-- The table that a value is. A value that counts as unset is the empty one. -/
def table (value : Json) : Except NotATable Table :=
  if value.isSet then
    match value with
    | object members => .ok (.ofMembers members)
    | value =>
      match value.items? with
      | some entries => entries.foldlM Table.putEntry .empty
      | none => .error .noItems
  else .ok .empty

theorem table_object (members : List (Name × Json)) :
    (object members).table = .ok (.ofMembers members) := by
  cases members <;> rfl

theorem table_members (m : OrderedMap String String) :
    (object (m.entries.map fun e => (e.1, .text e.2))).table = .ok (.ofTexts m) :=
  table_object _

end TypeAtlas.Json
