import TypeAtlas.Proofs.GraphQL.Definitions
import TypeAtlas.Proofs.GraphQL.Scan
import TypeAtlas.Proofs.Schema.Merge
import TypeAtlas.Proofs.Session.Scanned
import TypeAtlas.Proofs.Text.Trimming

/-!
# Joined sources

The sources of a schema are read as one text, on lines of their own. This gives what reading each of
them and merging the schemas gives, as no source changes how the next begins:

* `GraphQL.reads_flatMap`: the definitions in the tokens of several texts;
* `Schema.parse_intercalate`: the schema that joined texts define;
* `Schema.ofSources_joined`: the schema of the sources that a configuration names.
-/

namespace TypeAtlas

open Files (FileSystem)

namespace GraphQL

/-! ## The definitions in joined texts -/

theorem parseDocument_eq_ok_iff {source : String} {ds : List Definition} :
    parseDocument source = .ok ds ↔
      (scan source.toList).2 = none ∧ Parser.document (tokens source.toList) = .ok (ds, []) := by
  rw [parseDocument, parseWith_eq_ok_iff]
  refine and_congr_right fun _ => ⟨fun ⟨rest, h⟩ => ?_, fun h => ⟨[], h⟩⟩
  rwa [Parser.rest_eq_nil_of_document h] at h

/-- Whether tokens are those of definitions one after the other, or there are none of either. -/
def Reads (ts : List Token) (ds : List Definition) : Prop :=
  (ts = [] ∧ ds = []) ∨ Parser.document ts = .ok (ds, [])

theorem Reads.append {ts us : List Token} {ds es : List Definition} (h : Reads ts ds)
    (h' : Reads us es) (hbrace : ts = [] ∨ us.head? ≠ some (.punctuator .braceL)) :
    Reads (ts ++ us) (ds ++ es) := by
  rcases h with ⟨rfl, rfl⟩ | h
  · exact h'
  rcases h' with ⟨rfl, rfl⟩ | h'
  · rw [List.append_nil, List.append_nil]
    exact .inr h
  · rcases hbrace with rfl | hbrace
    · exact absurd h (Parser.document_nil_ne_ok _)
    · exact .inr (Parser.document_append h h' hbrace)

/-- The definitions in a text. A text that is no document has none. -/
def definitionsIn (text : String) : List Definition := (parseDocument text).toOption.getD []

/-- Whether a text has nothing but spaces, tabs and line ends. -/
def isBlankSource (text : String) : Bool := text.toList.all [' ', '\t', '\n', '\r'].contains

/-- Whether tokens can be read up to the end of a text, and are those of its definitions. -/
structure Readable (text : String) : Prop where
  scan : (scan text.toList).2 = none
  reads : Reads (tokens text.toList) (definitionsIn text)

theorem scan_of_isBlankSource {text : String} (h : isBlankSource text = true) :
    scan text.toList = ([], none) := by
  have hignored : [' ', '\t', '\n', '\r'].all Lexer.isIgnored = true := by decide
  refine scan_of_forall_isIgnored fun c hc => List.all_eq_true.mp hignored c ?_
  exact List.contains_iff_mem.mp (List.all_eq_true.mp h c hc)

theorem tokens_of_isBlankSource {text : String} (h : isBlankSource text = true) :
    tokens text.toList = [] := by
  rw [tokens, scan_of_isBlankSource h]
  rfl

theorem readable_of_parseDocument {text : String} {ds : List Definition}
    (h : parseDocument text = .ok ds) : definitionsIn text = ds ∧ Readable text := by
  have hds : definitionsIn text = ds := by
    rw [definitionsIn, h]
    rfl
  obtain ⟨hscan, hdocument⟩ := parseDocument_eq_ok_iff.mp h
  exact ⟨hds, hscan, .inr (hds.symm ▸ hdocument)⟩

theorem readable_of_isBlankSource {text : String} (h : isBlankSource text = true) :
    definitionsIn text = [] ∧ Readable text := by
  have hscan := scan_of_isBlankSource h
  have hds : definitionsIn text = [] := by
    cases hparse : parseDocument text with
    | error e =>
      rw [definitionsIn, hparse]
      rfl
    | ok ds =>
      have hdocument := (parseDocument_eq_ok_iff.mp hparse).2
      rw [tokens_of_isBlankSource h] at hdocument
      exact absurd hdocument (Parser.document_nil_ne_ok _)
  exact ⟨hds, by rw [hscan], .inl ⟨tokens_of_isBlankSource h, hds⟩⟩

/-- The definitions of texts are read one after the other, if only the first that has any begins with
a brace. -/
theorem reads_flatMap {texts : List String} (h : ∀ text ∈ texts, Readable text)
    (hbrace : ∀ text ∈ (texts.dropWhile isBlankSource).tail,
      (tokens text.toList).head? ≠ some (.punctuator .braceL)) :
    Reads (texts.flatMap fun text => tokens text.toList) (texts.flatMap definitionsIn) := by
  induction texts with
  | nil => exact .inl ⟨rfl, rfl⟩
  | cons text texts ih =>
    rw [List.forall_mem_cons] at h
    rw [List.flatMap_cons, List.flatMap_cons]
    rw [List.dropWhile_cons] at hbrace
    split at hbrace
    · rename_i hblank
      exact h.1.reads.append (ih h.2 hbrace) (.inl (tokens_of_isBlankSource hblank))
    · have hrest : ∀ text ∈ (texts.dropWhile isBlankSource).tail, text ∈ texts := fun text htext =>
        (List.dropWhile_sublist _).mem (List.mem_of_mem_tail htext)
      refine h.1.reads.append (ih h.2 fun text htext => hbrace text (hrest text htext)) (.inr ?_)
      rw [List.head?_flatMap]
      intro hhead
      obtain ⟨next, hnext, hhead⟩ := List.exists_of_findSome?_eq_some hhead
      exact hbrace next hnext hhead

/-- The document of texts on lines of their own has the definitions of each, if there are any. -/
theorem parseDocument_intercalate {texts : List String} (h : ∀ text ∈ texts, Readable text)
    (hbrace : ∀ text ∈ (texts.dropWhile isBlankSource).tail,
      (tokens text.toList).head? ≠ some (.punctuator .braceL))
    {text : String} (htext : text ∈ texts) (hne : tokens text.toList ≠ []) :
    parseDocument (String.intercalate "\n" texts) = .ok (texts.flatMap definitionsIn) := by
  have hscan : ∀ part ∈ texts.map String.toList, (scan part).2 = none := by
    intro part hpart
    obtain ⟨text, htext, rfl⟩ := List.mem_map.mp hpart
    exact (h text htext).scan
  have hnotNil : (texts.flatMap fun text => tokens text.toList) ≠ [] := fun hnil =>
    hne (List.flatMap_eq_nil_iff.mp hnil text htext)
  have hdocument := (reads_flatMap h hbrace).resolve_left fun hnil => hnotNil hnil.1
  obtain ⟨hjoined, htokens⟩ := tokens_intercalate hscan
  rw [parseDocument_eq_ok_iff, String.toList_intercalate]
  rw [List.flatMap_map] at htokens
  exact ⟨hjoined, (congrArg Parser.document htokens).trans hdocument⟩

end GraphQL

namespace Schema

open GraphQL (tokens isBlankSource definitionsIn Readable)

/-! ## The schema of joined texts -/

theorem isBlank_of_isBlankSource {text : String} (h : isBlankSource text = true) :
    ∀ c ∈ text.toList, Text.isBlank c = true := by
  have hblank : [' ', '\t', '\n', '\r'].all Text.isBlank = true := by decide
  refine fun c hc => List.all_eq_true.mp hblank c ?_
  exact List.contains_iff_mem.mp (List.all_eq_true.mp h c hc)

theorem parse_of_isBlankSource {text : String} (h : isBlankSource text = true) :
    parse text = .ok empty := by
  rw [parse, Text.trimChars_eq_nil_iff.mpr (isBlank_of_isBlankSource h)]
  rfl

theorem parse_eq_ok_iff_of_trim_ne {text : String} {s : Schema} (h : Text.trim text ≠ "") :
    parse text = .ok s ↔ ∃ ds, GraphQL.parseDocument text = .ok ds ∧ ofDefinitions ds = s := by
  rw [ne_eq, Text.trim_eq_empty_iff, ← Text.trimChars_eq_nil_iff] at h
  rw [parse, if_neg (by simpa using h), parseDocument]
  cases GraphQL.parseDocument text with
  | error e => exact iff_of_false nofun fun ⟨_, hds, _⟩ => nomatch hds
  | ok ds =>
    show Except.ok (ofDefinitions ds) = .ok s ↔ _
    simp

/-- Whether a text is blank or defines a schema by itself. -/
def IsSource (text : String) : Prop :=
  isBlankSource text = true ∨ Text.trim text ≠ "" ∧ ∃ s, parse text = .ok s

theorem IsSource.parse_eq {text : String} (h : IsSource text) :
    parse text = .ok (ofDefinitions (definitionsIn text)) ∧ Readable text := by
  rcases h with h | ⟨hne, s, hs⟩
  · obtain ⟨hds, hreadable⟩ := GraphQL.readable_of_isBlankSource h
    rw [parse_of_isBlankSource h, hds]
    exact ⟨rfl, hreadable⟩
  · obtain ⟨ds, hparse, rfl⟩ := (parse_eq_ok_iff_of_trim_ne hne).mp hs
    obtain ⟨hds, hreadable⟩ := GraphQL.readable_of_parseDocument hparse
    exact ⟨hds.symm ▸ hs, hreadable⟩

section

variable {texts : List String}

/-- The text of blank sources is blank. -/
theorem isBlankSource_intercalate (h : ∀ text ∈ texts, isBlankSource text = true) :
    isBlankSource (String.intercalate "\n" texts) = true := by
  refine List.all_eq_true.mpr fun c hc => ?_
  rw [String.toList_intercalate] at hc
  rcases Text.mem_intercalate hc with hc | ⟨_, hpart, hc⟩
  · cases List.mem_singleton.mp hc
    rfl
  · obtain ⟨text, htext, rfl⟩ := List.mem_map.mp hpart
    exact List.all_eq_true.mp (h text htext) c hc

theorem trim_intercalate_ne {text : String} (htext : text ∈ texts) (h : Text.trim text ≠ "") :
    Text.trim (String.intercalate "\n" texts) ≠ "" := by
  rw [ne_eq, Text.trim_eq_empty_iff] at h ⊢
  refine fun hall => h fun c hc => hall c ?_
  rw [String.toList_intercalate]
  exact Text.mem_intercalate_of_mem (List.mem_map.mpr ⟨text, htext, rfl⟩) hc

variable (h : ∀ text ∈ texts, IsSource text)
include h

theorem parse_intercalate_eq (hbrace : ∀ text ∈ (texts.dropWhile isBlankSource).tail,
      (tokens text.toList).head? ≠ some (.punctuator .braceL)) :
    parse (String.intercalate "\n" texts) = .ok (ofDefinitions (texts.flatMap definitionsIn)) := by
  -- Blank texts are no document, but they are blank together.
  by_cases hblank : ∀ text ∈ texts, isBlankSource text = true
  · have hnone : texts.flatMap definitionsIn = [] := by
      refine List.flatMap_eq_nil_iff.mpr fun text htext => ?_
      exact (GraphQL.readable_of_isBlankSource (hblank text htext)).1
    rw [parse_of_isBlankSource (isBlankSource_intercalate hblank), hnone]
    rfl
  · obtain ⟨text, hnot⟩ := Classical.not_forall.mp hblank
    obtain ⟨htext, hnot⟩ := Classical.not_imp.mp hnot
    obtain ⟨hne, s, hs⟩ := (h text htext).resolve_left hnot
    have hnotNil : tokens text.toList ≠ [] := by
      intro hnil
      obtain ⟨ds, hparse, -⟩ := (parse_eq_ok_iff_of_trim_ne hne).mp hs
      have hdocument := (GraphQL.parseDocument_eq_ok_iff.mp hparse).2
      rw [hnil] at hdocument
      exact GraphQL.Parser.document_nil_ne_ok _ hdocument
    have hreadable : ∀ text ∈ texts, Readable text := fun text htext => (h text htext).parse_eq.2
    have hparse := GraphQL.parseDocument_intercalate hreadable hbrace htext hnotNil
    exact (parse_eq_ok_iff_of_trim_ne (trim_intercalate_ne htext hne)).mpr ⟨_, hparse, rfl⟩

/-- The schema of texts on lines of their own is the one that results from reading each of them and
merging the schemas in order. -/
theorem parse_intercalate (hbrace : ∀ text ∈ (texts.dropWhile isBlankSource).tail,
      (tokens text.toList).head? ≠ some (.punctuator .braceL)) :
    ∃ schemas, texts.mapM parse = .ok schemas ∧
      parse (String.intercalate "\n" texts) = .ok (schemas.foldl merge empty) ∧
      (schemas.foldl merge empty).definitions.keys =
        (schemas.flatMap (·.definitions.keys)).eraseDups ∧
      ∀ name, (schemas.foldl merge empty).get? name =
        joined name (schemas.filterMap (·.get? name)) := by
  have hkeyed : ∀ t ∈ texts.map fun text => ofDefinitions (definitionsIn text), t.Keyed := by
    intro t ht
    obtain ⟨text, -, rfl⟩ := List.mem_map.mp ht
    exact IsParsed.keyed ⟨_, rfl⟩
  have hschemas : texts.mapM parse = .ok (texts.map fun text => ofDefinitions (definitionsIn text)) :=
    mapM_eq_ok_map fun text htext => (h text htext).parse_eq.1
  refine ⟨_, hschemas, ?_, keys_foldl_merge hkeyed, get?_foldl_merge hkeyed⟩
  rw [parse_intercalate_eq h hbrace, ofDefinitions_flatMap]

end

end Schema

/-! ## The sources of a configuration -/

/-- The texts that a configuration names: those of the files, then those that it holds itself. -/
def sourceTexts (fs : FileSystem) (c : Config) : Except SourceError (List String) := do
  let files ← (← sourceItems c .schemaFiles).mapM (fileTexts fs)
  let inline ← (← sourceItems c .schemas).mapM sourceText
  return files.flatten ++ inline

theorem loadSources_eq_ok_iff {fs : FileSystem} {c : Config} {text : String} :
    loadSources fs c = .ok text ↔
      ∃ texts, sourceTexts fs c = .ok texts ∧ String.intercalate "\n" texts = text := by
  simp only [loadSources, sourceTexts, bind_eq_ok, pure, Except.pure, Except.ok.injEq]
  constructor
  · rintro ⟨items, hitems, files, hfiles, items', hitems', inline, hinline, rfl⟩
    exact ⟨_, ⟨items, hitems, files, hfiles, items', hitems', inline, hinline, rfl⟩, rfl⟩
  · rintro ⟨_, ⟨items, hitems, files, hfiles, items', hitems', inline, hinline, rfl⟩, rfl⟩
    exact ⟨items, hitems, files, hfiles, items', hitems', inline, hinline, rfl⟩

theorem sourceItems_of_array {c : Config} {field : Config.Field} {items : List Json}
    (h : c.get? field = some (.array items)) : sourceItems c field = .ok items := by
  rw [sourceItems, Config.get, h]
  rfl

theorem mapM_sourceText (texts : List String) : (texts.map Json.text).mapM sourceText = .ok texts := by
  rw [List.mapM_map]
  exact (mapM_eq_ok_map fun _ _ => rfl).trans (congrArg Except.ok (List.map_id texts))

/-- A configuration may hold any texts. -/
theorem sourceTexts_of_schemas {fs : FileSystem} {c : Config} {texts : List String}
    (hfiles : c.get? .schemaFiles = some (.array []))
    (htexts : c.get? .schemas = some (.array (texts.map .text))) : sourceTexts fs c = .ok texts := by
  rw [sourceTexts, sourceItems_of_array hfiles, sourceItems_of_array htexts]
  show ((texts.map Json.text).mapM sourceText >>= fun inline => pure ([] ++ inline)) = _
  rw [mapM_sourceText]
  rfl

namespace Schema

open GraphQL (tokens isBlankSource)

/-- Take sources of which each is blank, that is, has nothing but spaces, tabs and line ends, or defines
a schema by itself. If of those that are not blank only the first may begin with a brace, they define
a schema together: the one that results from merging the schemas of each in order. It has the names
of all of them in order of first appearance, and under a name the kind that the first of them has
there and the directives of all, in order. -/
theorem ofSources_joined {fs : FileSystem} {c : Config} {texts : List String}
    (hload : sourceTexts fs c = .ok texts) (h : ∀ text ∈ texts, IsSource text)
    (hbrace : ∀ text ∈ (texts.dropWhile isBlankSource).tail,
      (tokens text.toList).head? ≠ some (.punctuator .braceL)) :
    ∃ schemas, texts.mapM parse = .ok schemas ∧
      ofSources fs c = .ok (schemas.foldl merge empty) ∧
      (schemas.foldl merge empty).definitions.keys =
        (schemas.flatMap (·.definitions.keys)).eraseDups ∧
      ∀ name, (schemas.foldl merge empty).get? name =
        joined name (schemas.filterMap (·.get? name)) := by
  obtain ⟨schemas, hschemas, hparse, hkeys, hget⟩ := parse_intercalate h hbrace
  refine ⟨schemas, hschemas, ofSources_eq_ok_iff.mpr ⟨_, ?_, hparse⟩, hkeys, hget⟩
  exact loadSources_eq_ok_iff.mpr ⟨texts, hload, rfl⟩

/-- Sources that end in a comment or in a definition that could go on, one that is blank, one that begins
with a description, and one that extends what the first defines. -/
theorem ofSources_each_on_its_own :
    let texts := ["scalar Url # of a page", " \r\n", "union Media = Show",
      "\"A show.\" type Show", "extend scalar Url @javaType(name: \"java.net.URL\")"]
    let config := Config.standard.put .schemas (.array (texts.map .text))
    ∃ s, ofSources ⟨.emptyDirectory, []⟩ config = .ok s ∧
      s.definitions.keys = ["Url", "Media", "Show"] ∧
      (s.get? "Url").map (·.directives.map (·.name)) = some ["javaType"] := by
  intro texts config
  have hload : sourceTexts ⟨.emptyDirectory, []⟩ config = .ok texts := sourceTexts_of_schemas rfl rfl
  have hparse : ∀ text ∈ texts, isBlankSource text = true ∨
      Text.trim text ≠ "" ∧ (parse text).toOption.isSome = true := by decide +kernel
  have hsource : ∀ text ∈ texts, IsSource text := by
    refine fun text htext => (hparse text htext).imp_right fun ⟨hne, hsome⟩ => ⟨hne, ?_⟩
    cases hs : parse text with
    | ok s => exact ⟨s, rfl⟩
    | error e =>
      rw [hs] at hsome
      cases hsome
  have hbrace : ∀ text ∈ (texts.dropWhile isBlankSource).tail,
      (tokens text.toList).head? ≠ some (.punctuator .braceL) := by decide +kernel
  obtain ⟨schemas, hschemas, hjoined, hkeys, hget⟩ := ofSources_joined hload hsource hbrace
  have hfound : (texts.mapM parse).toOption.map (fun schemas =>
      ((schemas.flatMap (·.definitions.keys)).eraseDups,
        (joined "Url" (schemas.filterMap (·.get? "Url"))).map (·.directives.map (·.name)))) =
      some (["Url", "Media", "Show"], some ["javaType"]) := by decide +kernel
  rw [hschemas] at hfound
  obtain ⟨hnames, hdirectives⟩ := Prod.mk.inj (Option.some.inj hfound)
  exact ⟨_, hjoined, hkeys.trans hnames, by rw [hget, hdirectives]⟩

end Schema

end TypeAtlas
