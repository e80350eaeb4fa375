import TypeAtlas.Fallible

/-!
# Ordered maps

A map that remembers the order in which its keys first appeared. Giving a new value to a key that is
present keeps the place of the key.

* `get?_insert`: reading after a write;
* `keys_insert`, `keys_ofList`: a write appends its key if it is new and else leaves the keys alone;
* `ext_get?`: a map is told by its keys and what is read under each;
* `get?_insertAll_reverse`, `get?_ofList_eq_some_iff`: of several entries with one key the last is
  read back;
* `get?_insertAll`, `entries_ofList`: entries with keys of their own are all read back, in order;
* `mapValues_eq_error_iff`, `entries_mapValues`: the first value that cannot be mapped fails, and if
  there is none each key has its value mapped.
-/

namespace TypeAtlas

/-- Puts a value under a key: in the place of the key if it is present, at the end otherwise. -/
def insertEntry {κ α : Type} [DecidableEq κ] (key : κ) (value : α) : List (κ × α) → List (κ × α)
  | [] => [(key, value)]
  | (k, v) :: rest =>
    if k = key then (key, value) :: rest else (k, v) :: insertEntry key value rest

theorem insertEntry_of_notMem {κ α : Type} [DecidableEq κ] {key : κ} {l : List (κ × α)}
    (h : key ∉ l.map Prod.fst) (value : α) : insertEntry key value l = l ++ [(key, value)] := by
  induction l with
  | nil => rfl
  | cons p rest ih =>
    rw [List.map_cons, List.mem_cons, not_or] at h
    rw [insertEntry, if_neg (Ne.symm h.1), ih h.2, List.cons_append]

theorem map_fst_insertEntry {κ α : Type} [DecidableEq κ] (key : κ) (value : α) (l : List (κ × α)) :
    (insertEntry key value l).map Prod.fst =
      if key ∈ l.map Prod.fst then l.map Prod.fst else l.map Prod.fst ++ [key] := by
  induction l with
  | nil => simp [insertEntry]
  | cons p rest ih =>
    obtain ⟨k, v⟩ := p
    by_cases h : k = key
    · simp [insertEntry, h]
    · simp only [insertEntry, if_neg h, List.map_cons, ih, List.mem_cons, Ne.symm h, false_or]
      split <;> simp

theorem lookup_insertEntry {κ α : Type} [DecidableEq κ] (key k : κ) (value : α)
    (l : List (κ × α)) :
    (insertEntry key value l).lookup k = if k = key then some value else l.lookup k := by
  induction l with
  | nil =>
    by_cases h : k = key
    · simp [insertEntry, h]
    · have hk : (k == key) = false := by simp [h]
      simp [insertEntry, List.lookup_cons, h, hk]
  | cons p rest ih =>
    obtain ⟨k', v⟩ := p
    by_cases h' : k' = key
    · subst h'
      by_cases h : k = k'
      · simp [insertEntry, h]
      · have hk : (k == k') = false := by simp [h]
        simp [insertEntry, List.lookup_cons, h, hk]
    · by_cases h : k = k'
      · subst h
        simp [insertEntry, h']
      · have hk : (k == k') = false := by simp [h]
        simp [insertEntry, h', List.lookup_cons, hk, ih]

/-- Of two writes under one key the second counts. -/
theorem insertEntry_insertEntry {κ α : Type} [DecidableEq κ] (key : κ) (v w : α)
    (l : List (κ × α)) :
    insertEntry key w (insertEntry key v l) = insertEntry key w l := by
  induction l with
  | nil => simp [insertEntry]
  | cons p rest ih =>
    obtain ⟨k, x⟩ := p
    by_cases h : k = key <;> simp [insertEntry, h, ih]

/-- Writes under different keys may change places if one of the keys is present. -/
theorem insertEntry_comm {κ α : Type} [DecidableEq κ] {key key' : κ} (hne : key' ≠ key)
    {l : List (κ × α)} (h : key ∈ l.map Prod.fst) (v w : α) :
    insertEntry key v (insertEntry key' w l) = insertEntry key' w (insertEntry key v l) := by
  induction l with
  | nil => cases h
  | cons p rest ih =>
    obtain ⟨k, x⟩ := p
    rw [List.map_cons, List.mem_cons] at h
    by_cases hk : k = key
    · simp [insertEntry, hk, hne.symm]
    · have hrest := ih (h.resolve_left fun h => hk h.symm)
      by_cases hk' : k = key' <;> simp [insertEntry, hk, hk', hne, hrest]

/-- A write under a key that is present changes its entry only. -/
theorem exists_insertEntry_eq {κ α : Type} [DecidableEq κ] {key : κ} {v : α} {l : List (κ × α)}
    (h : l.lookup key = some v) :
    ∃ front back, l = front ++ (key, v) :: back ∧
      ∀ w, insertEntry key w l = front ++ (key, w) :: back := by
  induction l with
  | nil => cases h
  | cons p rest ih =>
    obtain ⟨k, x⟩ := p
    by_cases hk : k = key
    · subst hk
      rw [List.lookup_cons_self, Option.some.injEq] at h
      subst h
      exact ⟨[], rest, rfl, fun w => if_pos rfl⟩
    · have hkey : (key == k) = false := beq_false_of_ne (Ne.symm hk)
      rw [List.lookup_cons, hkey] at h
      obtain ⟨front, back, rfl, hinsert⟩ := ih h
      refine ⟨(k, x) :: front, back, rfl, fun w => ?_⟩
      rw [insertEntry, if_neg hk, hinsert, List.cons_append]

theorem lookup_eq_none_iff_notMem {κ α : Type} [DecidableEq κ] {key : κ} {l : List (κ × α)} :
    l.lookup key = none ↔ key ∉ l.map Prod.fst := by
  rw [List.lookup_eq_none_iff, List.mem_map]
  constructor
  · rintro h ⟨e, he, rfl⟩
    simpa using h e he
  · intro h e he
    have : key ≠ e.1 := fun hk => h ⟨e, he, hk.symm⟩
    simpa using this

theorem lookup_eq_some_iff_mem {κ α : Type} [DecidableEq κ] {l : List (κ × α)}
    (h : (l.map Prod.fst).Nodup) {key : κ} {value : α} :
    l.lookup key = some value ↔ (key, value) ∈ l := by
  induction l with
  | nil => simp
  | cons e rest ih =>
    obtain ⟨k, v⟩ := e
    rw [List.map_cons, List.nodup_cons] at h
    rw [List.lookup_cons, List.mem_cons, Prod.mk.injEq]
    by_cases hk : key = k
    · subst hk
      have hrest : (key, value) ∉ rest := fun hmem => h.1 (List.mem_map.mpr ⟨_, hmem, rfl⟩)
      simp [hrest, eq_comm]
    · rw [beq_false_of_ne hk, ih h.2]
      simp [hk]

/-- Reading after the keys were renamed, each to a key of its own. -/
theorem lookup_map_key {κ ι α β : Type} [DecidableEq κ] [DecidableEq ι] {f : κ → ι}
    (hf : ∀ a b, f a = f b → a = b) (g : κ → α → β) (l : List (κ × α)) (key : κ) :
    (l.map fun e => (f e.1, g e.1 e.2)).lookup (f key) = (l.lookup key).map (g key) := by
  induction l with
  | nil => rfl
  | cons e rest ih =>
    obtain ⟨k, v⟩ := e
    rw [List.map_cons, List.lookup_cons, List.lookup_cons, ih]
    by_cases hk : key = k
    · simp [hk]
    · have hfk : (f key == f k) = false := by simpa using fun h => hk (hf key k h)
      have hk' : (key == k) = false := by simpa using hk
      rw [hfk, hk']

/-- Reading where the values were mapped and some of them dropped. -/
theorem lookup_filterMap_value {κ α β : Type} [DecidableEq κ] (g : α → Option β)
    {l : List (κ × α)} (h : (l.map Prod.fst).Nodup) (key : κ) :
    (l.filterMap fun e => (g e.2).map (e.1, ·)).lookup key = (l.lookup key).bind g := by
  induction l with
  | nil => rfl
  | cons e rest ih =>
    obtain ⟨k, v⟩ := e
    rw [List.map_cons, List.nodup_cons] at h
    rw [List.filterMap_cons, List.lookup_cons]
    by_cases hk : key = k
    · subst hk
      have hrest : rest.lookup key = none := lookup_eq_none_iff_notMem.mpr h.1
      cases hv : g v <;> simp [ih h.2, hrest, hv]
    · have hk' : (key == k) = false := by simpa using hk
      cases hv : g v <;> simp [List.lookup_cons, ih h.2, hk']

/-- Keys that are kept when some entries are dropped stay different. -/
theorem nodup_map_filterMap {κ α β : Type} {f : α → Option β} {key : α → κ} {key' : β → κ}
    (hkey : ∀ a b, f a = some b → key' b = key a) {l : List α} (h : (l.map key).Nodup) :
    ((l.filterMap f).map key').Nodup := by
  refine List.Sublist.nodup ?_ h
  clear h
  induction l with
  | nil => exact List.Sublist.slnil
  | cons a l ih =>
    rw [List.filterMap_cons]
    cases hf : f a with
    | none => exact ih.cons _
    | some b =>
      rw [List.map_cons, List.map_cons, hkey a b hf]
      exact ih.cons_cons _

/-- Entries with keys of their own are told by the keys in order and what is read under each. -/
theorem eq_of_lookup_eq {κ α : Type} [DecidableEq κ] {l l' : List (κ × α)}
    (h : (l.map Prod.fst).Nodup) (hkeys : l.map Prod.fst = l'.map Prod.fst)
    (hlookup : ∀ key, l.lookup key = l'.lookup key) : l = l' := by
  have hlength : l.length = l'.length := by simpa using congrArg List.length hkeys
  refine List.ext_getElem hlength fun i hi hi' => ?_
  have hkey : l[i].1 = l'[i].1 := by simpa [hi, hi'] using congrArg (·[i]?) hkeys
  have hread : l.lookup l[i].1 = some l[i].2 :=
    (lookup_eq_some_iff_mem h).mpr (List.getElem_mem hi)
  have hread' : l'.lookup l'[i].1 = some l'[i].2 :=
    (lookup_eq_some_iff_mem (hkeys ▸ h)).mpr (List.getElem_mem hi')
  rw [hlookup, hkey, hread'] at hread
  exact Prod.ext hkey (Option.some.inj hread).symm

/-- Appends a key unless it is present. -/
def appendNew {κ : Type} [DecidableEq κ] (keys : List κ) (key : κ) : List κ :=
  if key ∈ keys then keys else keys ++ [key]

/-- Keys that are appended one after the other stand where they occur first. -/
theorem foldl_appendNew {κ : Type} [DecidableEq κ] (seen keys : List κ) :
    keys.foldl appendNew seen = seen ++ (keys.removeAll seen).eraseDups := by
  induction keys generalizing seen with
  | nil => exact (List.append_nil _).symm
  | cons key keys ih =>
    rw [List.foldl_cons, ih, appendNew]
    split
    · rename_i hmem
      have hskip : (key :: keys).removeAll seen = keys.removeAll seen :=
        List.filter_cons_of_neg (by simpa using hmem)
      rw [hskip]
    · rename_i hmem
      have hkeep : (key :: keys).removeAll seen = key :: keys.removeAll seen :=
        List.filter_cons_of_pos (by simpa using hmem)
      have hremove : keys.removeAll (seen ++ [key]) = (keys.removeAll seen).filter (!· == key) := by
        rw [List.removeAll, List.removeAll, List.filter_filter]
        refine List.filter_congr fun x _ => ?_
        rw [Bool.eq_iff_iff]
        simp [and_comm]
      rw [hkeep, hremove, List.eraseDups_cons, List.append_assoc, List.singleton_append]

/-- A map with its keys in order of first appearance. -/
structure OrderedMap (κ α : Type) where
  entries : List (κ × α)
  nodup_keys : (entries.map Prod.fst).Nodup
  deriving DecidableEq

namespace OrderedMap

variable {κ α : Type}

/-- The map with no entries. -/
def empty : OrderedMap κ α := ⟨[], List.nodup_nil⟩

instance : EmptyCollection (OrderedMap κ α) := ⟨empty⟩

instance : Inhabited (OrderedMap κ α) := ⟨empty⟩

/-- The keys in order. -/
def keys (m : OrderedMap κ α) : List κ := m.entries.map Prod.fst

/-- The values in the order of their keys. -/
def values (m : OrderedMap κ α) : List α := m.entries.map Prod.snd

/-- The number of entries. -/
def size (m : OrderedMap κ α) : Nat := m.entries.length

variable [DecidableEq κ]

/-- The value under a key. -/
def get? (m : OrderedMap κ α) (key : κ) : Option α := m.entries.lookup key

/-- Whether a key is present. -/
def contains (m : OrderedMap κ α) (key : κ) : Bool := (m.get? key).isSome

/-- Puts a value under a key: in the place of the key if it is present, at the end otherwise. -/
def insert (m : OrderedMap κ α) (key : κ) (value : α) : OrderedMap κ α where
  entries := insertEntry key value m.entries
  nodup_keys := by
    rw [map_fst_insertEntry]
    split
    · exact m.nodup_keys
    · rename_i h
      exact List.nodup_append.2 ⟨m.nodup_keys, by simp, fun a ha b hb hab =>
        h (by rw [List.mem_singleton] at hb; exact hb ▸ hab ▸ ha)⟩

/-- Writes entries one after the other. -/
def insertAll (m : OrderedMap κ α) (entries : List (κ × α)) : OrderedMap κ α :=
  entries.foldl (fun m e => m.insert e.1 e.2) m

/-- The map that results from writing entries one after the other. -/
def ofList (entries : List (κ × α)) : OrderedMap κ α := insertAll empty entries

/-- The map with another value under each key. The first value in order that has none fails. -/
def mapValues {ε β : Type} (f : α → Except ε β) (m : OrderedMap κ α) :
    Except ε (OrderedMap κ β) :=
  m.entries.foldlM (fun mapped e => do return mapped.insert e.1 (← f e.2)) empty

theorem get?_insert (m : OrderedMap κ α) (key k : κ) (value : α) :
    (m.insert key value).get? k = if k = key then some value else m.get? k :=
  lookup_insertEntry key k value m.entries

theorem keys_insert (m : OrderedMap κ α) (key : κ) (value : α) :
    (m.insert key value).keys = if key ∈ m.keys then m.keys else m.keys ++ [key] :=
  map_fst_insertEntry key value m.entries

theorem get?_eq_some_iff_mem (m : OrderedMap κ α) {key : κ} {value : α} :
    m.get? key = some value ↔ (key, value) ∈ m.entries :=
  lookup_eq_some_iff_mem m.nodup_keys

theorem mem_values_iff (m : OrderedMap κ α) {value : α} :
    value ∈ m.values ↔ ∃ key, m.get? key = some value := by
  simp only [get?_eq_some_iff_mem, values, List.mem_map, Prod.exists, exists_eq_right]

theorem entries_insert_of_get?_eq_none {m : OrderedMap κ α} {key : κ} (h : m.get? key = none)
    (value : α) : (m.insert key value).entries = m.entries ++ [(key, value)] :=
  insertEntry_of_notMem (lookup_eq_none_iff_notMem.mp h) value

/-- New keys are appended where they occur first. -/
theorem keys_insertAll (m : OrderedMap κ α) (entries : List (κ × α)) :
    (m.insertAll entries).keys =
      m.keys ++ ((entries.map Prod.fst).removeAll m.keys).eraseDups := by
  rw [← foldl_appendNew, List.foldl_map]
  exact (List.foldl_hom keys fun m e => (m.keys_insert e.1 e.2).symm).symm

theorem keys_ofList (entries : List (κ × α)) :
    (ofList entries).keys = (entries.map Prod.fst).eraseDups := by
  have hnone : (entries.map Prod.fst).removeAll (empty : OrderedMap κ α).keys =
      entries.map Prod.fst := List.filter_eq_self.mpr fun _ _ => rfl
  rw [ofList, keys_insertAll, hnone]
  rfl

/-- A map is told by its keys in order and what stands under each. -/
theorem ext_get? {m n : OrderedMap κ α} (hkeys : m.keys = n.keys)
    (hget : ∀ key, m.get? key = n.get? key) : m = n := by
  obtain ⟨entries, hnodup⟩ := m
  obtain ⟨entries', hnodup'⟩ := n
  obtain rfl : entries = entries' := eq_of_lookup_eq hnodup hkeys hget
  rfl

/-- Of several entries with one key the last counts. -/
theorem get?_insertAll_reverse (m : OrderedMap κ α) (entries : List (κ × α)) (key : κ) :
    (m.insertAll entries).get? key = (entries.reverse.lookup key).or (m.get? key) := by
  induction entries generalizing m with
  | nil => rfl
  | cons e rest ih =>
    have hrest : m.insertAll (e :: rest) = (m.insert e.1 e.2).insertAll rest := rfl
    have hfirst : (m.insert e.1 e.2).get? key = (List.lookup key [e]).or (m.get? key) := by
      rw [get?_insert, List.lookup_cons]
      by_cases hk : key = e.1
      · rw [if_pos hk, beq_iff_eq.mpr hk]
        rfl
      · rw [if_neg hk, beq_false_of_ne hk]
        rfl
    rw [hrest, ih, hfirst, List.reverse_cons, List.lookup_append, Option.or_assoc]

theorem get?_insertAll (m : OrderedMap κ α) {entries : List (κ × α)}
    (h : (entries.map Prod.fst).Nodup) (key : κ) :
    (m.insertAll entries).get? key = (entries.lookup key).or (m.get? key) := by
  have hlast : entries.reverse.lookup key = entries.lookup key := by
    have hreverse : (entries.reverse.map Prod.fst).Nodup := by
      rw [List.map_reverse]
      exact List.pairwise_reverse.mpr (h.imp Ne.symm)
    refine Option.ext fun value => ?_
    rw [lookup_eq_some_iff_mem h, lookup_eq_some_iff_mem hreverse, List.mem_reverse]
  rw [get?_insertAll_reverse, hlast]

theorem entries_insertAll (m : OrderedMap κ α) {entries : List (κ × α)}
    (h : (entries.map Prod.fst).Nodup) (hm : ∀ e ∈ entries, m.get? e.1 = none) :
    (m.insertAll entries).entries = m.entries ++ entries := by
  induction entries generalizing m with
  | nil => exact (List.append_nil _).symm
  | cons e rest ih =>
    rw [List.map_cons, List.nodup_cons] at h
    have hrest : (m.insertAll (e :: rest)) = (m.insert e.1 e.2).insertAll rest := rfl
    have hnone : ∀ e' ∈ rest, (m.insert e.1 e.2).get? e'.1 = none := by
      intro e' he'
      have hk : e'.1 ≠ e.1 := fun hk => h.1 (hk ▸ List.mem_map.mpr ⟨e', he', rfl⟩)
      rw [get?_insert, if_neg hk]
      exact hm e' (List.mem_cons_of_mem _ he')
    rw [hrest, ih _ h.2 hnone, entries_insert_of_get?_eq_none (hm e List.mem_cons_self),
      List.append_assoc, List.singleton_append]

/-- What a map has under a key was written by the last entry with the key. -/
theorem get?_ofList_eq_some_iff {entries : List (κ × α)} {key : κ} {value : α} :
    (ofList entries).get? key = some value ↔
      ∃ before after, entries = before ++ (key, value) :: after ∧ ∀ e ∈ after, e.1 ≠ key := by
  rw [ofList, get?_insertAll_reverse]
  show (entries.reverse.lookup key).or none = some value ↔ _
  rw [Option.or_none, List.lookup_eq_some_iff]
  constructor
  · rintro ⟨after, before, hentries, hafter⟩
    refine ⟨before.reverse, after.reverse, ?_, fun e he hk => ?_⟩
    · rw [← List.reverse_reverse entries, hentries]
      simp
    · have := hafter e (List.mem_reverse.mp he)
      simp [hk] at this
  · rintro ⟨before, after, rfl, hafter⟩
    refine ⟨after.reverse, before.reverse, by simp, fun e he => ?_⟩
    exact bne_iff_ne.mpr (hafter e (List.mem_reverse.mp he)).symm

/-- A map has the keys that were written. -/
theorem contains_ofList_iff {entries : List (κ × α)} {key : κ} :
    (ofList entries).contains key = true ↔ ∃ value, (key, value) ∈ entries := by
  rw [contains, ofList, get?_insertAll_reverse]
  show ((entries.reverse.lookup key).or none).isSome = true ↔ _
  rw [Option.or_none, Option.isSome_iff_ne_none, ne_eq, lookup_eq_none_iff_notMem,
    Classical.not_not, List.map_reverse, List.mem_reverse, List.mem_map]
  constructor
  · rintro ⟨e, he, rfl⟩
    exact ⟨e.2, he⟩
  · rintro ⟨value, he⟩
    exact ⟨_, he, rfl⟩

/-- The last entry with a key, where the entries are those that the items of a row have. -/
theorem get?_ofList_filterMap_eq_some_iff {β : Type} {f : β → Option (κ × α)} {items : List β}
    {key : κ} {value : α} : (ofList (items.filterMap f)).get? key = some value ↔
      ∃ before item after, items = before ++ item :: after ∧ f item = some (key, value) ∧
        ∀ later ∈ after, ∀ e, f later = some e → e.1 ≠ key := by
  rw [get?_ofList_eq_some_iff]
  constructor
  · rintro ⟨first, last, hentries, hlast⟩
    obtain ⟨front, back, rfl, -, hback⟩ := List.filterMap_eq_append_iff.mp hentries
    obtain ⟨skipped, item, after, rfl, -, hitem, rfl⟩ := List.filterMap_eq_cons_iff.mp hback
    refine ⟨front ++ skipped, item, after, (List.append_assoc ..).symm, hitem, ?_⟩
    intro later hlater e he
    exact hlast e (List.mem_filterMap.mpr ⟨later, hlater, he⟩)
  · rintro ⟨before, item, after, rfl, hitem, hafter⟩
    refine ⟨before.filterMap f, after.filterMap f, ?_, fun e he => ?_⟩
    · rw [List.filterMap_append, List.filterMap_cons_some hitem]
    · obtain ⟨later, hlater, he⟩ := List.mem_filterMap.mp he
      exact hafter later hlater e he

theorem get?_ofList {entries : List (κ × α)} (h : (entries.map Prod.fst).Nodup) (key : κ) :
    (ofList entries).get? key = entries.lookup key := by
  rw [ofList, get?_insertAll _ h]
  exact Option.or_none

theorem entries_ofList {entries : List (κ × α)} (h : (entries.map Prod.fst).Nodup) :
    (ofList entries).entries = entries := by
  rw [ofList, entries_insertAll _ h fun _ _ => rfl]
  exact List.nil_append _

section

variable {ε β : Type} (f : α → Except ε β) (m : OrderedMap κ α)

theorem mapValues_eq_error_iff {e : ε} :
    m.mapValues f = .error e ↔ FirstFailure (fun entry e => f entry.2 = .error e) m.entries e := by
  refine foldlM_eq_error_iff (fun s a e => ?_) ..
  cases f a.2 <;> simp [bind, Except.bind, pure, Except.pure]

theorem mapValues_eq_ok_iff {m' : OrderedMap κ β} :
    m.mapValues f = .ok m' ↔ (∀ entry ∈ m.entries, ∀ e, f entry.2 ≠ .error e) ∧
      m' = ofList (m.entries.filterMap fun entry => (f entry.2).toOption.map (entry.1, ·)) := by
  rw [ofList, insertAll, List.foldl_filterMap]
  refine foldlM_eq_ok_iff (fun s a t h => ?_) (fun s a e => ?_) ..
  · cases hf : f a.2 <;> simp_all [bind, Except.bind, pure, Except.pure, Except.toOption]
  · cases f a.2 <;> simp [bind, Except.bind, pure, Except.pure]

variable {f m}

theorem entries_mapValues {m' : OrderedMap κ β} (h : m.mapValues f = .ok m') :
    m'.entries = m.entries.filterMap fun entry => (f entry.2).toOption.map (entry.1, ·) := by
  obtain ⟨-, rfl⟩ := (mapValues_eq_ok_iff f m).mp h
  refine entries_ofList (nodup_map_filterMap (fun entry entry' he => ?_) m.nodup_keys)
  obtain ⟨-, -, rfl⟩ := Option.map_eq_some_iff.mp he
  rfl

theorem get?_mapValues {m' : OrderedMap κ β} (h : m.mapValues f = .ok m') (key : κ) :
    m'.get? key = (m.get? key).bind fun value => (f value).toOption := by
  rw [get?, entries_mapValues h]
  exact lookup_filterMap_value (fun value => (f value).toOption) m.nodup_keys key

theorem mem_values_mapValues {m' : OrderedMap κ β} (h : m.mapValues f = .ok m') {value : β} :
    value ∈ m'.values ↔ ∃ a ∈ m.values, f a = .ok value := by
  have hoption (a : α) : (f a).toOption = some value ↔ f a = .ok value := by
    cases f a <;> simp [Except.toOption]
  rw [values, entries_mapValues h, values, List.map_filterMap]
  simp only [Option.map_map, Function.comp_def, Option.map_id', List.mem_filterMap, hoption,
    List.mem_map]
  constructor
  · intro h
    obtain ⟨entry, hentry, hvalue⟩ := h
    exact ⟨entry.2, ⟨entry, hentry, rfl⟩, hvalue⟩
  · intro h
    obtain ⟨_, ⟨entry, hentry, rfl⟩, hvalue⟩ := h
    exact ⟨entry, hentry, hvalue⟩

end

/-- Of two writes under one key the second counts. -/
theorem insert_insert (m : OrderedMap κ α) (key : κ) (v w : α) :
    (m.insert key v).insert key w = m.insert key w := by
  simp only [insert, insertEntry_insertEntry]

/-- Writes under different keys may change places if one of the keys is present. -/
theorem insert_comm {m : OrderedMap κ α} {key key' : κ} (hne : key' ≠ key) (h : key ∈ m.keys)
    (v w : α) : (m.insert key' w).insert key v = (m.insert key v).insert key' w := by
  simp only [insert, insertEntry_comm hne h]

end OrderedMap

end TypeAtlas
