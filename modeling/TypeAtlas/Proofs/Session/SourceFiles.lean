import Mathlib.Data.List.Forall2
import TypeAtlas.Proofs.Files.Text
import TypeAtlas.Proofs.Files.Tree
import TypeAtlas.Proofs.Session.JoinedSources

/-!
# Source files

What a path to schema sources gives (`FileSystem.Gives`): the texts of the files there, in the order
of their places, which is no matter of how directories list their children. Why it may give nothing
(`FileSystem.Fails`). `loadSources_listed`: the text that a configuration loads is what its paths
give and then the texts that it holds itself, on lines of their own, and the first path that fails
decides if there is one.
-/

namespace TypeAtlas

open Files (Entry FileSystem Path)

theorem mapM_eq_ok_iff {ε α β : Type} {f : α → Except ε β} {l : List α} {bs : List β} :
    l.mapM f = .ok bs ↔ List.Forall₂ (fun a b => f a = .ok b) l bs := by
  induction l generalizing bs with
  | nil => simp [pure, Except.pure, eq_comm]
  | cons a l ih =>
    simp only [List.mapM_cons, bind_eq_ok, List.forall₂_cons_left_iff, ih, pure, Except.pure,
      Except.ok.injEq]
    constructor
    · rintro ⟨b, hb, bs', hbs', rfl⟩
      exact ⟨b, bs', hb, hbs', rfl⟩
    · rintro ⟨b, bs', hb, hbs', rfl⟩
      exact ⟨b, hb, bs', hbs', rfl⟩

/-! ## What a path gives -/

namespace Files

namespace FileSystem

/-- Whether a path leads to an entry, and the path to everything below it is not too long. -/
structure Reaches (fs : FileSystem) (path : String) (entry : Entry) : Prop where
  located : fs.locate (Path.parse path) = .ok entry
  withinReach : ∀ place found, entry.Has place found →
    ((Path.parse path).below place).spelling.utf8ByteSize ≤ pathLimit

/-- Whether a path leads to an entry of which every file is UTF-8. -/
def Readable (fs : FileSystem) (path : String) : Prop :=
  ∃ entry, fs.Reaches path entry ∧
    ∀ place content, entry.Has place (.file content) → ∃ source : String, content = source.toUTF8

/-- What a path gives: the text of every file at or below the entry that it leads to, in the order
of their places. -/
def Gives (fs : FileSystem) (path : String) (texts : List String) : Prop :=
  ∃ entry files, fs.Reaches path entry ∧ entry.Lists files ∧
    List.Forall₂ (fun file text => Decodes file.2 text) files texts

/-- Why a path gives nothing. A path that cannot be written leads nowhere, however long it is. -/
inductive Fails (fs : FileSystem) (path : String) : SourceError → Prop
  | missing (hnone : ∀ entry, fs.locate (Path.parse path) ≠ .ok entry)
    (h : fs.locate (Path.parse path) ≠ .error .tooLong ∨ Path.isWritable path = false) :
    Fails fs path (.missing (Path.parse path).spelling)
  | tooLong (hlong : fs.locate (Path.parse path) = .error .tooLong)
    (hwritable : Path.isWritable path = true) : Fails fs path .tooLong
  | outOfReach {entry found : Entry} {place : List String}
    (hentry : fs.locate (Path.parse path) = .ok entry) (hplace : entry.Has place found)
    (hlong : pathLimit < ((Path.parse path).below place).spelling.utf8ByteSize) :
    Fails fs path .tooLong
  | undecodable {entry : Entry} {place : List String} {content : ByteArray}
    (hentry : fs.Reaches path entry) (hfile : entry.Has place (.file content))
    (hnot : ∀ source : String, content ≠ source.toUTF8) : Fails fs path .undecodable

end FileSystem

end Files

theorem textOf_eq_ok_iff {content : ByteArray} {text : String} :
    textOf content = .ok text ↔ Files.Decodes content text := by
  rw [textOf, ← Files.decode?_eq_some_iff]
  cases Files.decode? content <;> simp

theorem textOf_eq_error_iff {content : ByteArray} {e : SourceError} :
    textOf content = .error e ↔ (∀ source : String, content ≠ source.toUTF8) ∧ .undecodable = e := by
  have hnone : Files.decode? content = none ↔ ∀ source : String, content ≠ source.toUTF8 := by
    rw [Files.decode?, Option.map_eq_none_iff, Option.eq_none_iff_forall_ne_some]
    exact forall_congr' fun source => not_congr Files.fromUTF8?_eq_some_iff
  rw [textOf, ← hnone]
  cases Files.decode? content <;> simp

section

variable {fs : FileSystem} {path : String}

theorem textsAt_of_reaches {entry : Entry} (h : fs.Reaches path entry) :
    textsAt fs path = entry.sortedFiles.mapM fun file => textOf file.2 := by
  have hdeep : ¬FileSystem.tooDeep (Path.parse path) entry = true := by
    rw [FileSystem.tooDeep_iff]
    rintro ⟨place, found, hplace, hlong⟩
    exact Nat.not_lt_of_le (h.withinReach place found hplace) hlong
  simp only [textsAt, h.located, if_neg hdeep]

theorem textsAt_of_fails {e : SourceError} (h : fs.Fails path e) : textsAt fs path = .error e := by
  cases h with
  | missing hnone h =>
    cases hlocate : fs.locate (Path.parse path) with
    | ok entry => exact absurd hlocate (hnone entry)
    | error why =>
      cases why with
      | missing => simp only [textsAt, hlocate]
      | notADirectory => simp only [textsAt, hlocate]
      | tooLong =>
        have hunwritable := h.resolve_left fun hnot => hnot hlocate
        simp only [textsAt, hlocate, hunwritable, Bool.false_eq_true, if_false]
  | tooLong hlong hwritable => simp only [textsAt, hlong, if_pos hwritable]
  | outOfReach hentry hplace hlong =>
    have hdeep := FileSystem.tooDeep_iff.mpr ⟨_, _, hplace, hlong⟩
    simp only [textsAt, hentry, if_pos hdeep]
  | undecodable hentry hfile hnot =>
    rw [textsAt_of_reaches hentry, mapM_eq_error_iff]
    -- Some file is at fault, and whichever is read first fails in the same way.
    obtain ⟨e, before, file, after, hfiles, hbefore, hfails⟩ :=
      (@exists_firstFailure_iff _ _ (fun file e => textOf file.2 = .error e) _).mpr
        ⟨_, Entry.mem_sortedFiles_iff.mpr hfile, _, textOf_eq_error_iff.mpr ⟨hnot, rfl⟩⟩
    obtain ⟨-, rfl⟩ := textOf_eq_error_iff.mp hfails
    exact ⟨before, file, after, hfiles, hbefore, hfails⟩

theorem reaches_or_fails (fs : FileSystem) (path : String) :
    (∃ entry, fs.Reaches path entry) ∨ ∃ e, fs.Fails path e := by
  cases hlocate : fs.locate (Path.parse path) with
  | ok entry =>
    by_cases hreach : fs.Reaches path entry
    · exact .inl ⟨entry, hreach⟩
    · refine .inr ⟨.tooLong, ?_⟩
      by_contra hnot
      refine hreach ⟨hlocate, fun place found hplace => Nat.le_of_not_lt fun hlong => hnot ?_⟩
      exact .outOfReach hlocate hplace hlong
  | error why =>
    have hnone (entry : Entry) : fs.locate (Path.parse path) ≠ .ok entry := by
      rw [hlocate]
      exact nofun
    refine .inr ?_
    cases hwritable : Path.isWritable path with
    | false => exact ⟨_, .missing hnone (.inr hwritable)⟩
    | true =>
      by_cases hlong : why = .tooLong
      · exact ⟨_, .tooLong (hlong ▸ hlocate) hwritable⟩
      · exact ⟨_, .missing hnone (.inl fun h => hlong (Except.error.inj (hlocate.symm.trans h)))⟩

theorem readable_iff : fs.Readable path ↔ ∀ e, ¬fs.Fails path e := by
  constructor
  · rintro ⟨entry, hreach, hutf8⟩ e hfails
    cases hfails with
    | missing hnone => exact hnone entry hreach.located
    | tooLong hlong => cases hreach.located.symm.trans hlong
    | outOfReach hentry hplace hlong =>
      cases hreach.located.symm.trans hentry
      exact Nat.not_lt_of_le (hreach.withinReach _ _ hplace) hlong
    | undecodable hentry hfile hnot =>
      cases hreach.located.symm.trans hentry.located
      obtain ⟨source, hsource⟩ := hutf8 _ _ hfile
      exact hnot source hsource
  · intro hnone
    obtain ⟨entry, hreach⟩ := (reaches_or_fails fs path).resolve_right fun ⟨e, h⟩ => hnone e h
    refine ⟨entry, hreach, fun place content hfile => ?_⟩
    by_contra hnot
    exact hnone _ (.undecodable hreach hfile (not_exists.mp hnot))

theorem textsAt_eq_error_iff {e : SourceError} : textsAt fs path = .error e ↔ fs.Fails path e := by
  refine ⟨fun h => ?_, textsAt_of_fails⟩
  rcases reaches_or_fails fs path with ⟨entry, hreach⟩ | ⟨e', hfails⟩
  · rw [textsAt_of_reaches hreach, mapM_eq_error_iff] at h
    obtain ⟨before, ⟨place, content⟩, after, hfiles, -, hfails⟩ := h
    obtain ⟨hnot, rfl⟩ := textOf_eq_error_iff.mp hfails
    have hfile : (place, content) ∈ entry.sortedFiles :=
      hfiles ▸ List.mem_append_right before List.mem_cons_self
    exact .undecodable hreach (Entry.mem_sortedFiles_iff.mp hfile) hnot
  · cases h.symm.trans (textsAt_of_fails hfails)
    exact hfails

theorem textsAt_eq_ok_iff (hnames : fs.root.DistinctNames) {texts : List String} :
    textsAt fs path = .ok texts ↔ fs.Gives path texts := by
  have hsorted {entry : Entry} (h : fs.Reaches path entry) : entry.Lists entry.sortedFiles :=
    Entry.lists_sortedFiles (FileSystem.distinctNames_of_locate hnames h.located)
  constructor
  · intro h
    rcases reaches_or_fails fs path with ⟨entry, hreach⟩ | ⟨e, hfails⟩
    · rw [textsAt_of_reaches hreach, mapM_eq_ok_iff] at h
      exact ⟨entry, _, hreach, hsorted hreach, h.imp fun _ _ => textOf_eq_ok_iff.mp⟩
    · cases h.symm.trans (textsAt_of_fails hfails)
  · rintro ⟨entry, files, hreach, hlists, hdecoded⟩
    rw [textsAt_of_reaches hreach, (hsorted hreach).unique hlists, mapM_eq_ok_iff]
    exact hdecoded.imp fun _ _ => textOf_eq_ok_iff.mpr

/-! ## Directories that list their children in another order -/

theorem textsAt_relisted {fs' : FileSystem} (h : fs.Relisted fs')
    (hnames : fs.root.DistinctNames) : textsAt fs path = textsAt fs' path := by
  have halike := h.locate hnames (Path.parse path)
  simp only [textsAt]
  generalize fs.locate (Path.parse path) = way at halike ⊢
  generalize fs'.locate (Path.parse path) = way' at halike ⊢
  cases halike with
  | lost why => rfl
  | found hentry hrelisted =>
    simp only [FileSystem.tooDeep_relisted hrelisted, hrelisted.sortedFiles_eq hentry]

end

/-! ## The sources that a configuration names -/

section

variable {fs : FileSystem} {c : Config} {paths inline : List String}

/-- The sources of a configuration that names texts only. -/
theorem loadSources_eq (hfiles : c.get? .schemaFiles = some (.array (paths.map .text)))
    (hinline : c.get? .schemas = some (.array (inline.map .text))) :
    loadSources fs c = do
      let groups ← paths.mapM (textsAt fs)
      return String.intercalate "\n" (groups.flatten ++ inline) := by
  rw [loadSources, sourceItems_of_array hfiles, sourceItems_of_array hinline]
  have hgroups : (paths.map Json.text).mapM (fileTexts fs) = paths.mapM (textsAt fs) := by
    rw [List.mapM_map]
    rfl
  show (do
    let files ← (paths.map Json.text).mapM (fileTexts fs)
    let inline ← (inline.map Json.text).mapM sourceText
    return String.intercalate "\n" (files.flatten ++ inline)) = _
  rw [hgroups, mapM_sourceText]
  rfl

theorem textsAt_of_emptyDirectory {path : String}
    (h : fs.locate (Path.parse path) = .ok .emptyDirectory) : textsAt fs path = .ok [] := by
  have hreach : fs.Reaches path .emptyDirectory := by
    refine ⟨h, fun place found hplace => ?_⟩
    cases hplace with
    | inChild hchild _ => cases hchild
    | here =>
      rw [FileSystem.locate] at h
      split at h
      · cases h
      · rw [Path.below, List.append_nil]
        exact Nat.le_of_not_lt ‹_›
  rw [textsAt_of_reaches hreach]
  simp [Entry.sortedFiles, Entry.files, Entry.emptyDirectory, Entry.all, Entry.allOfChildren,
    Entry.content?, pure, Except.pure]

/-- A path without texts can be left out. -/
theorem loadSources_without {path : String} {before after : List String}
    (hpaths : paths = before ++ path :: after) (hnone : textsAt fs path = .ok [])
    (hfiles : c.get? .schemaFiles = some (.array (paths.map .text)))
    (hinline : c.get? .schemas = some (.array (inline.map .text))) :
    loadSources fs (c.put .schemaFiles (.array ((before ++ after).map .text))) =
      loadSources fs c := by
  have hfiles' : (c.put .schemaFiles (.array ((before ++ after).map .text))).get? .schemaFiles =
      some (.array ((before ++ after).map .text)) := by
    rw [Config.get?_put, if_pos rfl]
  have hinline' : (c.put .schemaFiles (.array ((before ++ after).map .text))).get? .schemas =
      some (.array (inline.map .text)) := by
    rw [Config.get?_put, if_neg (by decide), hinline]
  rw [loadSources_eq hfiles' hinline', loadSources_eq hfiles hinline, hpaths, List.mapM_append,
    List.mapM_append, List.mapM_cons, hnone]
  cases before.mapM (textsAt fs) with
  | error e => rfl
  | ok groups =>
    cases after.mapM (textsAt fs) with
    | error e => rfl
    | ok groups' =>
      show Except.ok (String.intercalate "\n" ((groups ++ groups').flatten ++ inline)) =
        .ok (String.intercalate "\n" ((groups ++ [] :: groups').flatten ++ inline))
      rw [List.flatten_append, List.flatten_append, List.flatten_cons, List.nil_append]

theorem firstFailure_fails {e : SourceError} :
    FirstFailure (fun path e => textsAt fs path = .error e) paths e ↔
      FirstFailure fs.Fails paths e := by
  have hfails : (fun path e => textsAt fs path = .error e) = fs.Fails :=
    funext fun _ => funext fun _ => propext textsAt_eq_error_iff
  rw [hfails]

/-- The text that a configuration loads from a tree in which no directory has two children of one name.
It can be loaded if every path leads to an entry, which is not out of reach and of which every file
is UTF-8. Then it has, on lines of their own, for each path in order the texts of all files at or below
it, once each and in the order of their places, and after them the texts that the configuration holds
itself. Else the first path that fails decides: nothing that comes after it matters. The order in
which directories list their children is no matter either, and a directory without children might as
well not be named. -/
theorem loadSources_listed (hnames : fs.root.DistinctNames)
    (hfiles : c.get? .schemaFiles = some (.array (paths.map .text)))
    (hinline : c.get? .schemas = some (.array (inline.map .text))) :
    ((∃ text, loadSources fs c = .ok text) ↔ ∀ path ∈ paths, fs.Readable path) ∧
      (∀ text, loadSources fs c = .ok text ↔ ∃ groups, List.Forall₂ fs.Gives paths groups ∧
        String.intercalate "\n" (groups.flatten ++ inline) = text) ∧
      (∀ e, loadSources fs c = .error e ↔ FirstFailure fs.Fails paths e) ∧
      (∀ fs', fs.Relisted fs' → loadSources fs' c = loadSources fs c) ∧
      ∀ before path after, paths = before ++ path :: after →
        fs.locate (Path.parse path) = .ok .emptyDirectory →
        loadSources fs (c.put .schemaFiles (.array ((before ++ after).map .text))) =
          loadSources fs c := by
  have herror : ∀ e, loadSources fs c = .error e ↔ FirstFailure fs.Fails paths e := by
    intro e
    rw [loadSources_eq hfiles hinline, bind_eq_error, mapM_eq_error_iff, firstFailure_fails]
    exact or_iff_left fun ⟨_, _, h⟩ => nomatch h
  have hok : ∀ text, loadSources fs c = .ok text ↔ ∃ groups, List.Forall₂ fs.Gives paths groups ∧
      String.intercalate "\n" (groups.flatten ++ inline) = text := by
    intro text
    rw [loadSources_eq hfiles hinline, bind_eq_ok]
    refine exists_congr fun groups => and_congr ?_ ?_
    · simp only [mapM_eq_ok_iff, textsAt_eq_ok_iff hnames]
    · simp [pure, Except.pure]
  refine ⟨?_, hok, herror, fun fs' h => ?_, fun before path after hpaths hempty => ?_⟩
  · simp only [exists_eq_ok_iff, ne_eq, herror, forall_not_firstFailure_iff, readable_iff]
  · rw [loadSources_eq hfiles hinline, loadSources_eq hfiles hinline,
      funext fun path => @textsAt_relisted fs path fs' h hnames]
  · exact loadSources_without hpaths (textsAt_of_emptyDirectory hempty) hfiles hinline

end

/-- The place below a directory comes first that is smaller component by component, although the text
of its path is greater, and a path that leads nowhere is told before what comes after it. -/
theorem loadSources_by_component :
    let empty : FileSystem := ⟨.emptyDirectory, []⟩
    let fs := ((empty.put (Path.parse "s/a.graphql") (.file "type A\r\n".toUTF8)).put
      (Path.parse "s/a/b") (.file "scalar B".toUTF8)).put (Path.parse "bad") (.file ⟨#[0xff]⟩)
    let config (paths : List String) : Config :=
      (Config.standard.put .schemaFiles (.array (paths.map .text))).put .schemas
        (.array [.text "scalar C"])
    fs.root.DistinctNames ∧
      loadSources fs (config ["s"]) = .ok "scalar B\ntype A\n\nscalar C" ∧
      loadSources fs (config ["s", "none", "bad"]) = .error (.missing "none") := by
  intro empty fs config
  let first := "scalar B".toUTF8
  let second := "type A\r\n".toUTF8
  let directory : Entry :=
    .directory [("a.graphql", .file second), ("a", .directory [("b", .file first)])]
  have hnames : fs.root.DistinctNames := by
    refine FileSystem.distinctNames_put (FileSystem.distinctNames_put
      (FileSystem.distinctNames_put ?_ (.file _) _) (.file _) _) (.file _) _
    exact .directory .nil nofun
  have hreach : fs.Reaches "s" directory := by
    have hshort : ∀ place ∈ directory.all.map Prod.fst,
        ((Path.parse "s").below place).spelling.utf8ByteSize ≤ Files.pathLimit := by
      decide +kernel
    refine ⟨rfl, fun place found hplace => hshort place ?_⟩
    exact List.mem_map_of_mem (f := Prod.fst) (Entry.mem_all_iff.mpr hplace)
  have hlists : directory.Lists [(["a", "b"], first), (["a.graphql"], second)] := by
    refine ⟨fun place content => Iff.trans ?_ Entry.mem_files_iff, by decide⟩
    show _ ↔ (place, content) ∈ [(["a.graphql"], second), (["a", "b"], first)]
    rw [List.mem_pair, List.mem_pair, or_comm]
  have hgives : fs.Gives "s" ["scalar B", "type A\n"] :=
    ⟨directory, _, hreach, hlists, .cons ⟨"scalar B", rfl, by decide +kernel⟩
      (.cons ⟨"type A\r\n", rfl, by decide +kernel⟩ .nil)⟩
  constructor
  · exact hnames
  constructor
  · obtain ⟨-, hok, -⟩ := @loadSources_listed fs (config ["s"]) ["s"] ["scalar C"] hnames rfl rfl
    exact (hok _).mpr ⟨[["scalar B", "type A\n"]], .cons hgives .nil, by decide +kernel⟩
  · obtain ⟨-, -, herror, -⟩ := @loadSources_listed fs (config ["s", "none", "bad"])
      ["s", "none", "bad"] ["scalar C"] hnames rfl rfl
    refine (herror _).mpr ⟨["s"], "none", ["bad"], rfl, ?_, .missing nofun (.inl nofun)⟩
    intro path hpath e hfails
    rw [List.mem_singleton.mp hpath] at hfails
    cases ((textsAt_eq_ok_iff hnames).mpr hgives).symm.trans (textsAt_of_fails hfails)

theorem parse_of_notMem {cs : List Char} (hslash : '/' ∉ cs) (hempty : String.ofList cs ≠ "")
    (hpoint : String.ofList cs ≠ ".") :
    Path.parse (String.ofList cs) = ⟨"", [String.ofList cs]⟩ := by
  have hslashes : cs.takeWhile (· = '/') = [] := by
    cases cs with
    | nil => rfl
    | cons c cs =>
      have hc : c ≠ '/' := fun h => hslash (h ▸ List.mem_cons_self)
      simp [hc]
  have hsteps : Path.literalSteps (String.ofList cs) = [String.ofList cs] := by
    rw [Path.literalSteps, String.toList_ofList, List.splitOn_eq_singleton hslash, List.map_singleton]
  rw [Path.parse, hsteps, String.toList_ofList, hslashes]
  simp [Path.anchorOf, hempty, hpoint]

/-- There is nothing at a path of one name that takes more bytes than a name may, but that is not what
is told of it. -/
theorem loadSources_name_too_long :
    let name := String.ofList (List.replicate 256 'x')
    let fs : FileSystem := ⟨.directory [("a", .file "x".toUTF8)], []⟩
    (∀ entry, fs.locate (Path.parse name) ≠ .ok entry) ∧
      loadSources fs (Config.standard.put .schemaFiles (.array [.text name])) = .error .tooLong := by
  intro name fs
  have hparse : Path.parse name = ⟨"", [name]⟩ :=
    parse_of_notMem (by decide) (by decide +kernel) (by decide +kernel)
  have hlocate : fs.locate (Path.parse name) = .error .tooLong := by
    rw [hparse, FileSystem.locate, if_neg (by decide +kernel)]
    show Files.walk [] fs.root [name] = _
    rw [Files.walk, if_neg (by decide +kernel), if_neg (by decide +kernel),
      if_pos (by decide +kernel)]
  have hwritable : Path.isWritable name = true := by
    rw [Path.isWritable, String.toList_ofList]
    decide
  clear_value name
  constructor
  · intro entry hentry
    cases hlocate.symm.trans hentry
  · have hfails := textsAt_of_fails (.tooLong hlocate hwritable)
    rw [@loadSources_eq fs _ [name] [] rfl rfl]
    exact bind_eq_error.mpr (.inl (mapM_eq_error_iff.mpr ⟨[], name, [], rfl, by simp, hfails⟩))

end TypeAtlas
