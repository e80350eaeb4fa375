import Mathlib.Data.List.Nodup
import TypeAtlas.Files.FileSystem

/-!
# What is below an entry

An entry has others at places below it (`Entry.Has`). If no directory has two children of one name,
its files have one order by place, which is that of `sortedFiles` (`Entry.lists_sortedFiles`). That
order, and where paths lead, say nothing of the order in which directories list their children
(`Entry.Relisted`):

* `Entry.Relisted.sortedFiles_eq`: the files of an entry in the order of their places;
* `FileSystem.Relisted.locate`: a path leads to entries that differ in that order only, or is lost in
  the same way.
-/

namespace TypeAtlas.Files

namespace Entry

/-- What holds of files, and of directories if it holds of their children, holds of all entries. -/
@[elab_as_elim]
theorem induct {motive : Entry → Prop} (file : ∀ content, motive (file content))
    (directory : ∀ children, (∀ child ∈ children, motive child.2) → motive (directory children))
    (entry : Entry) : motive entry :=
  @Entry.rec motive (fun children => ∀ child ∈ children, motive child.2) (fun child => motive child.2)
    file directory (by simp) (fun _ _ hchild hrest => List.forall_mem_cons.mpr ⟨hchild, hrest⟩)
    (fun _ _ h => h) entry

/-! ## Places -/

/-- What an entry has at a place: itself at the place without names, and at a place below a child what
the child has there. -/
inductive Has : Entry → List String → Entry → Prop
  | here (entry : Entry) : Has entry [] entry
  | inChild {children : List (String × Entry)} {name : String} {child entry : Entry}
    {place : List String} (hchild : (name, child) ∈ children) (h : Has child place entry) :
    Has (directory children) (name :: place) entry

theorem allOfChildren_eq_flatMap (children : List (String × Entry)) :
    allOfChildren children =
      children.flatMap fun child => child.2.all.map fun e => (child.1 :: e.1, e.2) := by
  induction children with
  | nil => rw [allOfChildren, List.flatMap_nil]
  | cons child rest ih => rw [allOfChildren, List.flatMap_cons, ih]

theorem mem_allOfChildren_iff {children : List (String × Entry)} {e : List String × Entry} :
    e ∈ allOfChildren children ↔
      ∃ child ∈ children, ∃ e' ∈ child.2.all, (child.1 :: e'.1, e'.2) = e := by
  simp only [allOfChildren_eq_flatMap, List.mem_flatMap, List.mem_map]

theorem mem_all_iff {entry found : Entry} {place : List String} :
    (place, found) ∈ all entry ↔ entry.Has place found := by
  constructor
  · intro h
    induction entry using induct generalizing place with
    | file content =>
      obtain ⟨rfl, rfl⟩ : place = [] ∧ found = file content := by simpa [all] using h
      exact .here _
    | directory children ih =>
      rw [all, List.mem_cons, mem_allOfChildren_iff] at h
      rcases h with h | ⟨child, hchild, e, he, heq⟩
      · obtain ⟨rfl, rfl⟩ := Prod.mk.inj h
        exact .here _
      · obtain ⟨rfl, rfl⟩ := Prod.mk.inj heq
        exact .inChild hchild (ih child hchild he)
  · intro h
    induction h with
    | here entry => cases entry <;> simp [all]
    | inChild hchild _ ih =>
      exact List.mem_cons_of_mem _ (mem_allOfChildren_iff.mpr ⟨_, hchild, _, ih, rfl⟩)

theorem content?_eq_some_iff {entry : Entry} {content : ByteArray} :
    entry.content? = some content ↔ entry = file content := by
  cases entry <;> simp [content?]

theorem mem_files_iff {entry : Entry} {place : List String} {content : ByteArray} :
    (place, content) ∈ files entry ↔ entry.Has place (file content) := by
  rw [files, List.mem_filterMap, ← mem_all_iff]
  constructor
  · rintro ⟨e, he, h⟩
    obtain ⟨c, hc, heq⟩ := Option.map_eq_some_iff.mp h
    obtain ⟨rfl, rfl⟩ := Prod.mk.inj heq
    rwa [← content?_eq_some_iff.mp hc]
  · exact fun h => ⟨_, h, rfl⟩

/-! ## Names of their own -/

/-- Whether the children of every directory have names of their own. -/
inductive DistinctNames : Entry → Prop
  | file (content : ByteArray) : DistinctNames (file content)
  | directory {children : List (String × Entry)} (hnames : (children.map Prod.fst).Nodup)
    (hbelow : ∀ child ∈ children, DistinctNames child.2) : DistinctNames (directory children)

/-- Nothing is listed at two places. -/
theorem DistinctNames.nodup_all {entry : Entry} (h : entry.DistinctNames) :
    (entry.all.map Prod.fst).Nodup := by
  induction h with
  | file content => simp [all]
  | @directory children hnames hbelow ih =>
    rw [all, List.map_cons, List.nodup_cons]
    constructor
    · rw [List.mem_map]
      rintro ⟨e, he, hnil⟩
      obtain ⟨child, -, e', -, rfl⟩ := mem_allOfChildren_iff.mp he
      exact absurd hnil (List.cons_ne_nil _ _)
    · rw [allOfChildren_eq_flatMap, List.map_flatMap, List.nodup_flatMap]
      constructor
      · intro child hchild
        have hcons := (ih child hchild).map (List.cons_injective (a := child.1))
        rwa [List.map_map] at hcons ⊢
      · refine (List.pairwise_map.mp hnames).imp fun {a b} hne => ?_
        intro place ha hb
        simp only [List.map_map, List.mem_map, Function.comp_apply] at ha hb
        obtain ⟨e, -, rfl⟩ := ha
        obtain ⟨e', -, heq⟩ := hb
        exact hne (List.cons.inj heq).1.symm

theorem DistinctNames.nodup_files {entry : Entry} (h : entry.DistinctNames) :
    (entry.files.map Prod.fst).Nodup := by
  refine nodup_map_filterMap (fun e f hf => ?_) h.nodup_all
  obtain ⟨_, -, rfl⟩ := Option.map_eq_some_iff.mp hf
  rfl

/-- Names stay distinct when another entry is put at a place. -/
theorem DistinctNames.put {old entry : Entry} (hold : old.DistinctNames)
    (hentry : entry.DistinctNames) (place : List String) : (old.put entry place).DistinctNames := by
  induction place generalizing old with
  | nil =>
    rw [Entry.put]
    split
    · exact hold
    · exact hentry
  | cons name rest ih =>
    obtain ⟨hnames, hbelow⟩ : (old.children.map Prod.fst).Nodup ∧
        ∀ child ∈ old.children, child.2.DistinctNames := by
      cases hold with
      | file => simp [children]
      | directory hnames hbelow => exact ⟨hnames, hbelow⟩
    have hchild : ((old.child? name).getD emptyDirectory).DistinctNames := by
      cases hfound : old.child? name with
      | none => exact .directory (by simp) (by simp)
      | some child =>
        cases hold with
        | file => cases hfound
        | directory hnames hbelow => exact hbelow _ ((lookup_eq_some_iff_mem hnames).mp hfound)
    have hnodup : ((insertEntry name (((old.child? name).getD emptyDirectory).put entry rest)
        old.children).map Prod.fst).Nodup := by
      rw [map_fst_insertEntry]
      split
      · exact hnames
      · rename_i hnew
        exact (List.concat_eq_append ▸ hnames.concat hnew)
    refine .directory hnodup fun child hmem => ?_
    have hlookup := (lookup_eq_some_iff_mem hnodup).mpr hmem
    rw [lookup_insertEntry] at hlookup
    split at hlookup
    · rw [← Option.some.inj hlookup]
      exact ih hchild
    · exact hbelow child ((lookup_eq_some_iff_mem hnames).mp hlookup)

/-! ## The order of places -/

theorem componentsLe_iff {a b : List String} : Path.componentsLe a b = true ↔ ¬b < a := by
  induction a generalizing b with
  | nil => simp [Path.componentsLe]
  | cons x xs ih =>
    cases b with
    | nil => simp [Path.componentsLe]
    | cons y ys =>
      rw [Path.componentsLe, List.cons_lt_cons_iff]
      split
      · rename_i heq
        simp [ih, heq]
      · rename_i hne
        rw [decide_eq_true_eq, ← String.not_lt, not_congr (or_iff_left fun h => hne h.1.symm)]

/-- The files at or below an entry with their places, in the order of the places. -/
structure Lists (entry : Entry) (files : List (List String × ByteArray)) : Prop where
  mem_iff : ∀ place content, (place, content) ∈ files ↔ entry.Has place (.file content)
  ordered : (files.map Prod.fst).Pairwise (· < ·)

theorem mem_sortedFiles_iff {entry : Entry} {place : List String} {content : ByteArray} :
    (place, content) ∈ entry.sortedFiles ↔ entry.Has place (.file content) :=
  List.mem_mergeSort.trans mem_files_iff

theorem lists_sortedFiles {entry : Entry} (h : entry.DistinctNames) :
    entry.Lists entry.sortedFiles := by
  refine ⟨fun _ _ => mem_sortedFiles_iff, ?_⟩
  have hsorted : (entry.sortedFiles.map Prod.fst).Pairwise fun a b => ¬b < a := by
    refine List.pairwise_map.mpr ((List.pairwise_mergeSort ?_ ?_ entry.files).imp ?_)
    · intro f g k hfg hgk
      rw [componentsLe_iff] at hfg hgk ⊢
      exact List.not_lt.mpr (List.le_trans (List.not_lt.mp hfg) (List.not_lt.mp hgk))
    · intro f g
      rw [Bool.or_eq_true, componentsLe_iff, componentsLe_iff]
      exact (List.le_total f.1 g.1).imp List.not_lt.mpr List.not_lt.mpr
    · exact componentsLe_iff.mp
  -- Sorting leaves equal places beside each other, but there are none.
  have hnodup : (entry.sortedFiles.map Prod.fst).Nodup :=
    ((List.mergeSort_perm _ _).map Prod.fst).nodup_iff.mpr h.nodup_files
  refine (hsorted.and hnodup).imp fun {a b} h => ?_
  exact (List.le_iff_lt_or_eq.mp (List.not_lt.mp h.1)).resolve_right h.2

theorem Lists.nodup {entry : Entry} {files : List (List String × ByteArray)}
    (h : entry.Lists files) : files.Nodup := by
  refine List.Nodup.of_map Prod.fst (h.ordered.imp ?_)
  rintro place _ hlt rfl
  exact List.lt_irrefl _ hlt

theorem Lists.unique {entry : Entry} {files files' : List (List String × ByteArray)}
    (h : entry.Lists files) (h' : entry.Lists files') : files = files' := by
  have hperm : files.Perm files' := (List.perm_ext_iff_of_nodup h.nodup h'.nodup).mpr fun f =>
    (h.mem_iff f.1 f.2).trans (h'.mem_iff f.1 f.2).symm
  have hasymm (f g : List String × ByteArray) (hfg : f.1 < g.1) (hgf : g.1 < f.1) : f = g :=
    absurd hgf (List.lt_asymm hfg)
  exact hperm.eq_of_pairwise (fun f g _ _ => hasymm f g)
    (List.pairwise_map.mp h.ordered) (List.pairwise_map.mp h'.ordered)

/-! ## The order in which children are listed -/

/-- Whether entries differ only in the order in which directories list their children: files have the
same content, and directories children of the same names, of which those of one name differ in that
order only. -/
inductive Relisted : Entry → Entry → Prop
  | file (content : ByteArray) : Relisted (file content) (file content)
  | directory {children children' : List (String × Entry)}
    (hnames : (children.map Prod.fst).Perm (children'.map Prod.fst))
    (hbelow : ∀ name child child', (name, child) ∈ children → (name, child') ∈ children' →
      Relisted child child') : Relisted (directory children) (directory children')

theorem Relisted.symm {entry entry' : Entry} (h : entry.Relisted entry') :
    entry'.Relisted entry := by
  induction h with
  | file content => exact .file content
  | directory hnames _ ih =>
    exact .directory hnames.symm fun name child child' hchild hchild' =>
      ih name child' child hchild' hchild

theorem exists_mem_of_perm {children children' : List (String × Entry)}
    (hnames : (children.map Prod.fst).Perm (children'.map Prod.fst)) {name : String} {child : Entry}
    (h : (name, child) ∈ children) : ∃ child', (name, child') ∈ children' := by
  obtain ⟨⟨_, child'⟩, hchild', rfl⟩ :=
    List.mem_map.mp (hnames.mem_iff.mp (List.mem_map_of_mem h))
  exact ⟨child', hchild'⟩

theorem Relisted.refl {entry : Entry} (h : entry.DistinctNames) : entry.Relisted entry := by
  induction h with
  | file content => exact .file content
  | @directory children hnames _ ih =>
    refine .directory (.refl _) fun name child child' hchild hchild' => ?_
    obtain rfl : child = child' := Option.some.inj <|
      ((lookup_eq_some_iff_mem hnames).mpr hchild).symm.trans
        ((lookup_eq_some_iff_mem hnames).mpr hchild')
    exact ih _ hchild

theorem Relisted.distinctNames {entry entry' : Entry} (h : entry.Relisted entry')
    (hentry : entry.DistinctNames) : entry'.DistinctNames := by
  induction h with
  | file content => exact .file content
  | @directory children children' hperm _ ih =>
    cases hentry with
    | directory hnames hdistinct =>
      refine .directory (hperm.nodup_iff.mp hnames) fun ⟨name, child'⟩ hchild' => ?_
      obtain ⟨child, hchild⟩ := exists_mem_of_perm hperm.symm hchild'
      exact ih name child child' hchild hchild' (hdistinct _ hchild)

theorem Relisted.exists_has {entry entry' found : Entry} {place : List String}
    (h : entry.Relisted entry') (hhas : entry.Has place found) :
    ∃ found', entry'.Has place found' ∧ found.Relisted found' := by
  induction hhas generalizing entry' with
  | here => exact ⟨entry', .here _, h⟩
  | @inChild children name child _ _ hchild _ ih =>
    cases h with
    | directory hperm hbelow =>
      obtain ⟨child', hchild'⟩ := exists_mem_of_perm hperm hchild
      obtain ⟨found', hfound', hrelisted⟩ := ih (hbelow name child child' hchild hchild')
      exact ⟨found', .inChild hchild' hfound', hrelisted⟩

theorem Relisted.has_file {entry entry' : Entry} {place : List String} {content : ByteArray}
    (h : entry.Relisted entry') (hhas : entry.Has place (.file content)) :
    entry'.Has place (.file content) := by
  obtain ⟨found, hfound, hrelisted⟩ := h.exists_has hhas
  cases hrelisted
  exact hfound

theorem Relisted.lists {entry entry' : Entry} (h : entry.Relisted entry')
    {files : List (List String × ByteArray)} (hfiles : entry.Lists files) : entry'.Lists files :=
  ⟨fun place content => (hfiles.mem_iff place content).trans ⟨h.has_file, h.symm.has_file⟩,
    hfiles.ordered⟩

theorem Relisted.sortedFiles_eq {entry entry' : Entry} (h : entry.Relisted entry')
    (hentry : entry.DistinctNames) : entry.sortedFiles = entry'.sortedFiles :=
  (h.lists (lists_sortedFiles hentry)).unique (lists_sortedFiles (h.distinctNames hentry))

end Entry

/-! ## Where paths lead -/

open Entry (DistinctNames Relisted)

/-- Whether two ways lead to entries with distinct names that differ only in the order in which
children are listed, or are lost for the same reason. -/
inductive LeadAlike : Except Lost Entry → Except Lost Entry → Prop
  | found {entry entry' : Entry} (hnames : entry.DistinctNames) (h : entry.Relisted entry') :
    LeadAlike (.ok entry) (.ok entry')
  | lost (why : Lost) : LeadAlike (.error why) (.error why)

/-- Under a name there is nothing in either of two directories with the same names, or a child in both. -/
theorem lookup_relisted {children children' : List (String × Entry)}
    (hnames : (children.map Prod.fst).Nodup)
    (hperm : (children.map Prod.fst).Perm (children'.map Prod.fst)) (name : String) :
    (children.lookup name = none ∧ children'.lookup name = none) ∨
      ∃ child child', (name, child) ∈ children ∧ (name, child') ∈ children' ∧
        children.lookup name = some child ∧ children'.lookup name = some child' := by
  by_cases hname : name ∈ children.map Prod.fst
  · obtain ⟨⟨_, child⟩, hchild, rfl⟩ := List.mem_map.mp hname
    obtain ⟨child', hchild'⟩ := Entry.exists_mem_of_perm hperm hchild
    exact .inr ⟨child, child', hchild, hchild', (lookup_eq_some_iff_mem hnames).mpr hchild,
      (lookup_eq_some_iff_mem (hperm.nodup_iff.mp hnames)).mpr hchild'⟩
  · exact .inl ⟨lookup_eq_none_iff_notMem.mpr hname,
      lookup_eq_none_iff_notMem.mpr fun h => hname (hperm.mem_iff.mpr h)⟩

/-- A walk takes the same turns whatever the order in which children are listed. By induction on the
names: the directories that are left behind stay alike, so that a way back up meets alike ones. -/
theorem walk_relisted {above above' : List Entry} {here here' : Entry}
    (habove : List.Forall₂ (fun e e' => e.DistinctNames ∧ e.Relisted e') above above')
    (hnames : here.DistinctNames) (h : here.Relisted here') (names : List String) :
    LeadAlike (walk above here names) (walk above' here' names) := by
  induction names generalizing above above' here here' with
  | nil =>
    rw [walk, walk]
    exact .found hnames h
  | cons name rest ih =>
    cases h with
    | file content =>
      rw [walk, walk]
      exact .lost _
    | directory hperm hbelow =>
      have hhere := Relisted.directory hperm hbelow
      cases hnames with
      | directory hnodup hdistinct =>
        have hdirectory := DistinctNames.directory hnodup hdistinct
        rw [walk.eq_def above (.directory _) (name :: rest),
          walk.eq_def above' (.directory _) (name :: rest)]
        dsimp only
        by_cases hstay : name = "" ∨ name = "."
        · rw [if_pos hstay, if_pos hstay]
          exact ih habove hdirectory hhere
        rw [if_neg hstay, if_neg hstay]
        by_cases hup : name = ".."
        · rw [if_pos hup, if_pos hup]
          cases habove with
          | nil => exact ih .nil hdirectory hhere
          | cons hfirst hfurther => exact ih hfurther hfirst.1 hfirst.2
        rw [if_neg hup, if_neg hup]
        by_cases hlong : nameLimit < name.utf8ByteSize
        · rw [if_pos hlong, if_pos hlong]
          exact .lost _
        rw [if_neg hlong, if_neg hlong]
        rcases lookup_relisted hnodup hperm name with
          ⟨hnone, hnone'⟩ | ⟨child, child', hchild, hchild', hsome, hsome'⟩
        · rw [hnone, hnone']
          exact .lost _
        · rw [hsome, hsome']
          exact ih (.cons ⟨hdirectory, hhere⟩ habove) (hdistinct _ hchild)
            (hbelow name child child' hchild hchild')

namespace FileSystem

/-- Whether file systems differ only in the order in which directories list their children. -/
structure Relisted (fs fs' : FileSystem) : Prop where
  root : fs.root.Relisted fs'.root
  workingDirectory : fs.workingDirectory = fs'.workingDirectory

theorem Relisted.locate {fs fs' : FileSystem} (h : fs.Relisted fs')
    (hnames : fs.root.DistinctNames) (p : Path) : LeadAlike (fs.locate p) (fs'.locate p) := by
  rw [FileSystem.locate, FileSystem.locate]
  split
  · exact .lost _
  · rw [fromRoot, fromRoot, h.workingDirectory]
    exact walk_relisted .nil hnames h.root _

theorem distinctNames_of_locate {fs : FileSystem} (hnames : fs.root.DistinctNames) {p : Path}
    {entry : Entry} (h : fs.locate p = .ok entry) : entry.DistinctNames := by
  have hsame := Relisted.locate ⟨.refl hnames, rfl⟩ hnames p
  rw [h] at hsame
  cases hsame with
  | found hentry => exact hentry

theorem distinctNames_put {fs : FileSystem} (h : fs.root.DistinctNames) {entry : Entry}
    (hentry : entry.DistinctNames) (p : Path) : (fs.put p entry).root.DistinctNames :=
  h.put hentry _

theorem tooDeep_iff {p : Path} {entry : Entry} :
    tooDeep p entry = true ↔
      ∃ place found, entry.Has place found ∧ pathLimit < (p.below place).spelling.utf8ByteSize := by
  simp only [tooDeep, List.any_eq_true, decide_eq_true_eq, Prod.exists, Entry.mem_all_iff]

theorem tooDeep_relisted {p : Path} {entry entry' : Entry} (h : entry.Relisted entry') :
    tooDeep p entry = tooDeep p entry' := by
  rw [Bool.eq_iff_iff, tooDeep_iff, tooDeep_iff]
  constructor
  · rintro ⟨place, found, hplace, hlong⟩
    obtain ⟨found', hplace', -⟩ := h.exists_has hplace
    exact ⟨place, found', hplace', hlong⟩
  · rintro ⟨place, found', hplace', hlong⟩
    obtain ⟨found, hplace, -⟩ := h.symm.exists_has hplace'
    exact ⟨place, found, hplace, hlong⟩

end FileSystem

end TypeAtlas.Files
