import TypeAtlas.Java.Guess
import TypeAtlas.Proofs.Text.Trimming

/-!
# Class names and their types

A class name is a primitive keyword or a row of segments (`IsClassName`). Reading it and writing the
type that it stands for undo each other:

* `segments_intercalate`: identifiers that are joined by points are read as its segments;
* `className?_segments_iff`: segments name exactly the classes that are spelled by them;
* `JavaType.IsNamedBy`: which type a text names, given by how types are spelled. `guess_eq_ok_iff`
  says that this is what guessing finds;
* `guess_inverts_spelling`: which texts are class names, and which types have one.
-/

namespace TypeAtlas.Java

open Text (isIdentifier trim)

/-- Whether a text has the form of a class name: a keyword, or identifiers of which one begins with
an upper-case letter. -/
inductive IsClassName : String → Prop
  | keyword (kind : Primitive) : IsClassName kind.keyword
  | segments {parts : List String} (hparts : ∀ p ∈ parts, isIdentifier p.toList = true)
    (hupper : ∃ p ∈ parts, beginsUpper p.toList = true) :
    IsClassName (String.intercalate "." parts)

namespace ClassName

/-- Whether a class is spelled by segments, of which the first that begins with an upper-case letter
is the outermost name. -/
structure IsSegmented (c : ClassName) : Prop where
  package : ∃ parts : List String, c.package = .text (String.intercalate "." parts) ∧
    ∀ p ∈ parts, isIdentifier p.toList = true ∧ beginsUpper p.toList = false
  names : ∀ n ∈ c.names, isIdentifier n.toList = true
  outermost : beginsUpper c.outermost.toList = true

/-- The class that wraps a primitive. -/
def wrapper (kind : Primitive) : ClassName := ⟨.text langPackage, kind.wrapperName, []⟩

end ClassName

namespace JavaType

/-- Whether there is a class name for a type. -/
def IsNameable : JavaType → Prop
  | primitive _ => True
  | boxed _ => True
  | declared c => c.IsSegmented ∧ ∀ kind, c ≠ .wrapper kind
  | parameterized _ _ => False
  | wildcard _ => False

/-- Whether a text names a type. -/
inductive IsNamedBy : JavaType → String → Prop
  | keyword (kind : Primitive) : IsNamedBy (primitive kind) kind.keyword
  | className {c : ClassName} (h : c.IsSegmented) : IsNamedBy c.toType c.spelling

end JavaType

/-! ## Segments -/

theorem point_notMem_of_isIdentifier {cs : List Char} (h : isIdentifier cs = true) : '.' ∉ cs :=
  fun hmem => Text.ne_point_of_isContinue (Text.isContinue_of_isIdentifier h _ hmem) rfl

theorem ne_empty_of_isIdentifier {s : String} (h : isIdentifier s.toList = true) : s ≠ "" := by
  rintro rfl
  cases h

theorem segments_intercalate {parts : List String}
    (h : ∀ p ∈ parts, isIdentifier p.toList = true) (hne : parts ≠ []) :
    segments (String.intercalate "." parts).toList = parts.map String.toList := by
  rw [String.toList_intercalate]
  refine List.splitOn_intercalate '.' ?_ (by simpa using hne)
  intro cs hcs
  obtain ⟨p, hp, rfl⟩ := List.mem_map.mp hcs
  exact point_notMem_of_isIdentifier (h p hp)

/-- Whatever the segments of a text are, joined they are the text. -/
theorem eq_intercalate_of_segments {text : String} {parts : List String}
    (h : segments text.toList = parts.map String.toList) : text = String.intercalate "." parts := by
  rw [← String.toList_inj, String.toList_intercalate, ← h]
  exact (List.intercalate_splitOn '.').symm

theorem map_toList_map_ofList (parts : List (List Char)) :
    (parts.map String.ofList).map String.toList = parts := by
  rw [List.map_map]
  exact List.map_id'' (fun _ => String.toList_ofList) parts

theorem map_ofList_map_toList (parts : List String) :
    (parts.map String.toList).map String.ofList = parts := by
  rw [List.map_map]
  exact List.map_id'' (fun _ => String.ofList_toList) parts

/-- Where a class is named by segments, the package ends before the first that begins with an
upper-case letter. -/
theorem exists_package_of_className? {parts : List (List Char)} {c : ClassName}
    (h : className? parts = some c) : ∃ package : List String,
      parts = (package ++ c.names).map String.toList ∧
      c.package = .text (String.intercalate "." package) ∧
      (∀ p ∈ package, isIdentifier p.toList = true ∧ beginsUpper p.toList = false) ∧
      (∀ n ∈ c.names, isIdentifier n.toList = true) ∧ beginsUpper c.outermost.toList = true := by
  unfold className? at h
  split at h
  · rename_i hall
    rw [List.all_eq_true] at hall
    split at h
    · cases h
    · rename_i outermost nested hdrop
      cases h
      have hsplit := @List.takeWhile_append_dropWhile _ (!beginsUpper ·) parts
      rw [hdrop] at hsplit
      refine ⟨(parts.takeWhile (!beginsUpper ·)).map String.ofList, ?_, rfl, ?_, ?_, ?_⟩
      · rw [List.map_append, map_toList_map_ofList, ClassName.names, List.map_cons,
          map_toList_map_ofList, String.toList_ofList, hsplit]
      · intro p hp
        obtain ⟨cs, hcs, rfl⟩ := List.mem_map.mp hp
        rw [String.toList_ofList]
        have hlower := List.all_eq_true.mp List.all_takeWhile cs hcs
        exact ⟨hall cs ((List.takeWhile_sublist _).mem hcs), by simpa using hlower⟩
      · intro n hn
        have hmem : n.toList ∈ outermost :: nested := by
          rw [← map_toList_map_ofList (outermost :: nested)]
          exact List.mem_map_of_mem hn
        exact hall _ (hsplit ▸ List.mem_append_right _ hmem)
      · rw [String.toList_ofList]
        have hhead := List.head?_dropWhile_not (!beginsUpper ·) parts
        rw [hdrop] at hhead
        simpa using hhead
  · cases h

section

variable {package : List String} (hlower : ∀ p ∈ package, beginsUpper p.toList = false)
  {c : ClassName} (hupper : beginsUpper c.outermost.toList = true)
include hlower hupper

theorem takeWhile_segments : ((package ++ c.names).map String.toList).takeWhile (!beginsUpper ·) =
    package.map String.toList := by
  rw [List.map_append, List.takeWhile_append_of_pos, ClassName.names, List.map_cons,
    List.takeWhile_cons_of_neg, List.append_nil]
  · simpa using hupper
  · simpa using hlower

theorem dropWhile_segments : ((package ++ c.names).map String.toList).dropWhile (!beginsUpper ·) =
    c.outermost.toList :: c.nested.map String.toList := by
  rw [List.map_append, List.dropWhile_append_of_pos, ClassName.names, List.map_cons,
    List.dropWhile_cons_of_neg]
  · simpa using hupper
  · simpa using hlower

end

/-- A row of segments names a class if it is the package and the names of the class. -/
theorem className?_eq_some_iff {parts : List (List Char)} {c : ClassName} :
    className? parts = some c ↔ ∃ package : List String,
      parts = (package ++ c.names).map String.toList ∧
      c.package = .text (String.intercalate "." package) ∧
      (∀ p ∈ package, isIdentifier p.toList = true ∧ beginsUpper p.toList = false) ∧
      (∀ n ∈ c.names, isIdentifier n.toList = true) ∧ beginsUpper c.outermost.toList = true := by
  refine ⟨exists_package_of_className?, ?_⟩
  rintro ⟨package, rfl, hpackage, hparts, hnames, hupper⟩
  have hall : ((package ++ c.names).map String.toList).all isIdentifier = true := by
    rw [List.all_map, List.all_append, Bool.and_eq_true, List.all_eq_true, List.all_eq_true]
    exact ⟨fun p hp => (hparts p hp).1, hnames⟩
  have hlower : ∀ p ∈ package, beginsUpper p.toList = false := fun p hp => (hparts p hp).2
  rw [className?, if_pos hall, dropWhile_segments hlower hupper, takeWhile_segments hlower hupper]
  dsimp only
  rw [map_ofList_map_toList, map_ofList_map_toList, String.ofList_toList, ← hpackage]

theorem exists_className? {parts : List String}
    (hparts : ∀ p ∈ parts, isIdentifier p.toList = true)
    (hupper : ∃ p ∈ parts, beginsUpper p.toList = true) :
    ∃ c, className? (parts.map String.toList) = some c := by
  have hall : (parts.map String.toList).all isIdentifier = true := by
    rw [List.all_map]
    exact List.all_eq_true.mpr hparts
  rw [className?, if_pos hall]
  split
  · rename_i hdrop
    obtain ⟨p, hp, hpupper⟩ := hupper
    have hlower := List.dropWhile_eq_nil_iff.mp hdrop p.toList (List.mem_map_of_mem hp)
    rw [hpupper] at hlower
    cases hlower
  · exact ⟨_, rfl⟩

/-! ## How classes are spelled -/

/-- A class is spelled by the segments of its package and its names. -/
theorem ClassName.spelling_eq_intercalate {c : ClassName} {package : List String}
    (hpackage : c.package = .text (String.intercalate "." package)) (hne : ∀ p ∈ package, p ≠ "") :
    c.spelling = String.intercalate "." (package ++ c.names) := by
  unfold spelling
  rw [hpackage]
  cases package with
  | nil => rfl
  | cons p ps =>
    have hset : (Json.text (String.intercalate "." (p :: ps))).isSet = true := by
      refine bne_iff_ne.mpr fun hempty => hne p List.mem_cons_self ?_
      cases ps with
      | nil => rwa [String.intercalate_singleton] at hempty
      | cons q ps =>
        rw [String.intercalate_cons_cons, String.append_eq_empty_iff,
          String.append_eq_empty_iff] at hempty
        exact hempty.1.1
    rw [if_pos hset]
    exact (String.intercalate_append_of_ne_nil (List.cons_ne_nil _ _) (List.cons_ne_nil _ _)).symm

namespace ClassName

theorem IsSegmented.exists_segments {c : ClassName} (h : c.IsSegmented) :
    ∃ package : List String, c.package = .text (String.intercalate "." package) ∧
      (∀ p ∈ package, isIdentifier p.toList = true ∧ beginsUpper p.toList = false) ∧
      (∀ p ∈ package ++ c.names, isIdentifier p.toList = true) ∧
      c.spelling = String.intercalate "." (package ++ c.names) := by
  obtain ⟨package, hpackage, hlower⟩ := h.package
  refine ⟨package, hpackage, hlower, ?_, ?_⟩
  · exact List.forall_mem_append.mpr ⟨fun p hp => (hlower p hp).1, h.names⟩
  · exact spelling_eq_intercalate hpackage fun p hp => ne_empty_of_isIdentifier (hlower p hp).1

end ClassName

/-- The segments of a text name a class exactly if the class is spelled by them. -/
theorem className?_segments_iff {text : String} {c : ClassName} :
    className? (segments text.toList) = some c ↔ c.IsSegmented ∧ c.spelling = text := by
  constructor
  · intro h
    obtain ⟨package, hparts, hpackage, hlower, hnames, hupper⟩ := className?_eq_some_iff.mp h
    refine ⟨⟨⟨package, hpackage, hlower⟩, hnames, hupper⟩, ?_⟩
    rw [eq_intercalate_of_segments hparts]
    refine ClassName.spelling_eq_intercalate hpackage fun p hp => ?_
    exact ne_empty_of_isIdentifier (hlower p hp).1
  · rintro ⟨h, rfl⟩
    obtain ⟨package, hpackage, hlower, hall, hspelling⟩ := h.exists_segments
    have hne : package ++ c.names ≠ [] :=
      List.append_ne_nil_of_right_ne_nil _ (List.cons_ne_nil _ _)
    refine className?_eq_some_iff.mpr ⟨package, ?_, hpackage, hlower, h.names, h.outermost⟩
    rw [hspelling]
    exact segments_intercalate hall hne

namespace ClassName

theorem toType_wrapper (kind : Primitive) : (wrapper kind).toType = .boxed kind := by
  rw [toType, wrapper, Primitive.ofWrapperName?_wrapperName]
  rfl

theorem toType_of_forall_ne {c : ClassName} (h : ∀ kind, c ≠ wrapper kind) :
    c.toType = .declared c := by
  unfold toType
  split
  · rename_i kind hkind
    refine if_neg fun hlang => h kind ?_
    obtain ⟨package, outermost, nested⟩ := c
    obtain ⟨rfl, rfl⟩ := hlang
    rw [wrapper, Primitive.wrapperName_of_ofWrapperName? hkind]
  · rfl

/-- A class is spelled like the type that it is. -/
theorem spelling_toType (c : ClassName) : c.toType.spelling = c.spelling := by
  by_cases h : ∃ kind, c = wrapper kind
  · obtain ⟨kind, rfl⟩ := h
    rw [toType_wrapper]
    cases kind <;> rfl
  · rw [toType_of_forall_ne fun kind hkind => h ⟨kind, hkind⟩]
    rfl

theorem isSegmented_wrapper (kind : Primitive) : (wrapper kind).IsSegmented where
  package := ⟨["java", "lang"], rfl, by decide +kernel⟩
  names := by cases kind <;> decide +kernel
  outermost := by cases kind <;> decide +kernel

namespace IsSegmented

variable {c : ClassName} (h : c.IsSegmented)
include h

theorem forall_mem_spelling :
    ∀ x ∈ c.spelling.toList, x = '.' ∨ Text.Identifier.isContinue x = true := by
  obtain ⟨package, -, -, hall, hspelling⟩ := h.exists_segments
  intro x hx
  rw [hspelling, String.toList_intercalate] at hx
  rcases Text.mem_intercalate hx with hx | ⟨cs, hcs, hx⟩
  · exact .inl (List.mem_singleton.mp hx)
  · obtain ⟨p, hp, rfl⟩ := List.mem_map.mp hcs
    exact .inr (Text.isContinue_of_isIdentifier (hall p hp) x hx)

/-- No keyword is the spelling of a class, for it has no segment that begins with an upper-case
letter. -/
theorem spelling_ne_keyword (kind : Primitive) : c.spelling ≠ kind.keyword := by
  intro hkeyword
  obtain ⟨package, hparts, -, -, -, hupper⟩ :=
    className?_eq_some_iff.mp (className?_segments_iff.mpr ⟨h, hkeyword⟩)
  have hlower : ∀ cs ∈ segments kind.keyword.toList, beginsUpper cs = false := by
    cases kind <;> decide +kernel
  have hmem : c.outermost.toList ∈ segments kind.keyword.toList := by
    rw [hparts]
    exact List.mem_map_of_mem (List.mem_append_right _ List.mem_cons_self)
  exact absurd hupper (Bool.eq_false_iff.mp (hlower _ hmem))

end IsSegmented

end ClassName

/-! ## What is guessed -/

namespace JavaType

variable {type : JavaType} {name text : String}

theorem guess_eq (text : String) : guess text =
    match Primitive.ofKeyword? (trim text) with
    | some kind => .ok (primitive kind)
    | none =>
      match className? (segments (trim text).toList) with
      | some c => .ok c.toType
      | none => .error (.notAClassName text) := by
  cases hkind : Primitive.ofKeyword? (trim text) with
  | some kind => simp only [guess, hkind]
  | none => cases hname : className? (segments (trim text).toList) <;> simp only [guess, hkind, hname]

/-- Guessing finds the type that the trimmed text names. -/
theorem guess_eq_ok_iff : guess text = .ok type ↔ type.IsNamedBy (trim text) := by
  constructor
  · intro h
    rw [guess_eq] at h
    split at h
    · rename_i kind hkind
      cases h
      rw [← Primitive.keyword_of_ofKeyword? hkind]
      exact .keyword kind
    · split at h
      · rename_i c hc
        cases h
        obtain ⟨hc, hspelling⟩ := className?_segments_iff.mp hc
        rw [← hspelling]
        exact .className hc
      · cases h
  · intro h
    rw [guess_eq]
    generalize trim text = name at h
    cases h with
    | keyword kind => rw [Primitive.ofKeyword?_keyword]
    | @className c h =>
      -- Keywords are looked for first, but no class is spelled like one.
      have hkeyword : Primitive.ofKeyword? c.spelling = none := by
        refine Option.eq_none_iff_forall_ne_some.mpr fun kind hkind => ?_
        exact h.spelling_ne_keyword kind (Primitive.keyword_of_ofKeyword? hkind).symm
      simp only [hkeyword, className?_segments_iff.mpr ⟨h, rfl⟩]

theorem eq_notAClassName_of_guess {e : ConfigurationError} (h : guess text = .error e) :
    e = .notAClassName text := by
  rw [guess_eq] at h
  split at h
  · cases h
  · split at h
    · cases h
    · cases h
      rfl

theorem IsNamedBy.spelling_eq (h : type.IsNamedBy name) : type.spelling = name := by
  cases h with
  | keyword kind => rfl
  | @className c h => exact c.spelling_toType

/-- A text that names a type has points and the characters of identifiers only. -/
theorem IsNamedBy.forall_mem (h : type.IsNamedBy name) :
    ∀ x ∈ name.toList, x = '.' ∨ Text.Identifier.isContinue x = true := by
  cases h with
  | keyword kind =>
    have hall : (kind.keyword.toList.all fun x =>
        x = '.' || Text.Identifier.isContinue x) = true := by
      cases kind <;> decide +kernel
    intro x hx
    simpa using List.all_eq_true.mp hall x hx
  | className h => exact h.forall_mem_spelling

theorem IsNamedBy.trim_eq (h : type.IsNamedBy name) : trim name = name := by
  refine Text.trim_eq_self fun x hx => ?_
  rcases h.forall_mem x hx with rfl | hx
  · decide
  · exact Text.isBlank_eq_false_of_isContinue hx

theorem exists_isNamedBy_iff : (∃ type : JavaType, type.IsNamedBy name) ↔ IsClassName name := by
  constructor
  · rintro ⟨type, h⟩
    cases h with
    | keyword kind => exact .keyword kind
    | @className c h =>
      obtain ⟨package, -, -, hall, hspelling⟩ := h.exists_segments
      rw [hspelling]
      exact .segments hall
        ⟨c.outermost, List.mem_append_right _ List.mem_cons_self, h.outermost⟩
  · intro h
    cases h with
    | keyword kind => exact ⟨_, .keyword kind⟩
    | @segments parts hparts hupper =>
      have hne : parts ≠ [] := by
        rintro rfl
        obtain ⟨p, hp, -⟩ := hupper
        cases hp
      obtain ⟨c, hc⟩ := exists_className? hparts hupper
      rw [← segments_intercalate hparts hne] at hc
      obtain ⟨hsegmented, hspelling⟩ := className?_segments_iff.mp hc
      exact ⟨c.toType, hspelling ▸ .className hsegmented⟩

/-- The types that a text names are those that there is a class name for. -/
theorem IsNamedBy.isNameable (h : type.IsNamedBy name) : type.IsNameable := by
  cases h with
  | keyword kind => exact trivial
  | @className c h =>
    by_cases hwrapper : ∃ kind, c = .wrapper kind
    · obtain ⟨kind, rfl⟩ := hwrapper
      rw [ClassName.toType_wrapper]
      exact trivial
    · have hne : ∀ kind, c ≠ .wrapper kind := fun kind hkind => hwrapper ⟨kind, hkind⟩
      rw [ClassName.toType_of_forall_ne hne]
      exact ⟨h, hne⟩

theorem IsNameable.isNamedBy_spelling (h : type.IsNameable) : type.IsNamedBy type.spelling := by
  cases type with
  | primitive kind => exact .keyword kind
  | boxed kind =>
    rw [← ClassName.toType_wrapper, ClassName.spelling_toType]
    exact .className (ClassName.isSegmented_wrapper kind)
  | declared c =>
    rw [← ClassName.toType_of_forall_ne h.2, ClassName.spelling_toType]
    exact .className h.1
  | parameterized raw argument => exact h.elim
  | wildcard bound => exact h.elim

theorem guess_spelling_iff : guess type.spelling = .ok type ↔ type.IsNameable := by
  rw [guess_eq_ok_iff]
  constructor
  · exact fun h => h.isNameable
  · intro h
    have hnamed := h.isNamedBy_spelling
    rwa [hnamed.trim_eq]

/-- What is guessed depends on the trimmed text, which is how the type is spelled. -/
theorem spelling_of_guess (h : guess text = .ok type) : type.spelling = trim text :=
  (guess_eq_ok_iff.mp h).spelling_eq

theorem guess_spelling_of_guess (h : guess text = .ok type) : guess type.spelling = .ok type :=
  guess_spelling_iff.mpr (guess_eq_ok_iff.mp h).isNameable

theorem guess_congr {text' : String} (htrim : trim text' = trim text) (h : guess text = .ok type) :
    guess text' = .ok type := by
  rw [guess_eq_ok_iff, htrim]
  exact guess_eq_ok_iff.mp h

/-- A text is read as a type exactly if, without the blanks around it, it is a keyword or a row of
identifiers of which one begins with an upper-case letter; the error about any other quotes it with
its blanks. The type is spelled like the trimmed text and is read back from its spelling, so two
texts name one type exactly if they are the same but for the blanks around them. A type is read back
from its spelling exactly if it is a primitive, a wrapper, or another class whose package is made of
identifiers that do not begin with an upper-case letter, and whose names are identifiers of which the
outermost does. -/
theorem guess_inverts_spelling :
    (∀ text,
      ((∃ type, guess text = .ok type) ↔ IsClassName (trim text)) ∧
      (¬IsClassName (trim text) → guess text = .error (.notAClassName text) ∧
        (ConfigurationError.notAClassName text).message =
          "Couldn't make a guess for '" ++ text ++ "'") ∧
      ∀ type, guess text = .ok type →
        type.spelling = trim text ∧ guess type.spelling = .ok type ∧
        ∀ text' type', guess text' = .ok type' → (type' = type ↔ trim text' = trim text)) ∧
    ∀ type : JavaType, guess type.spelling = .ok type ↔ type.IsNameable := by
  have hexists (text : String) : (∃ type, guess text = .ok type) ↔ IsClassName (trim text) := by
    simp only [guess_eq_ok_iff, exists_isNamedBy_iff]
  refine ⟨fun text => ⟨hexists text, ?_, ?_⟩, fun type => guess_spelling_iff⟩
  · intro hno
    refine ⟨?_, rfl⟩
    cases hguess : guess text with
    | ok type => exact absurd ((hexists text).mp ⟨type, hguess⟩) hno
    | error e => rw [eq_notAClassName_of_guess hguess]
  · intro type h
    refine ⟨spelling_of_guess h, guess_spelling_of_guess h, ?_⟩
    intro text' type' h'
    constructor
    · rintro rfl
      exact (spelling_of_guess h').symm.trans (spelling_of_guess h)
    · intro htrim
      exact Except.ok.inj (h'.symm.trans (guess_congr htrim h))

/-- The names after the outermost class may begin as they like. An array has no class name. -/
theorem guess_inner_class :
    let inner : JavaType := declared ⟨.text "a", "Outer", ["inner"]⟩
    guess "\t a.Outer.inner " = .ok inner ∧ inner.spelling = trim "\t a.Outer.inner " ∧
      guess inner.spelling = .ok inner ∧ guess "int[]" = .error (.notAClassName "int[]") := by
  intro inner
  obtain ⟨htexts, -⟩ := guess_inverts_spelling
  have hinner : guess "\t a.Outer.inner " = .ok inner := by decide +kernel
  obtain ⟨-, -, hread⟩ := htexts "\t a.Outer.inner "
  obtain ⟨hspelling, hback, -⟩ := hread inner hinner
  obtain ⟨hclass, hfault, -⟩ := htexts "int[]"
  have hno : ¬IsClassName (trim "int[]") := by
    intro h
    obtain ⟨type, htype⟩ := hclass.mpr h
    have hnone : (guess "int[]").toOption = none := by decide +kernel
    rw [htype] at hnone
    cases hnone
  exact ⟨hinner, hspelling, hback, (hfault hno).1⟩

end JavaType

end TypeAtlas.Java
