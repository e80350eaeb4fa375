import TypeAtlas.Proofs.Java.Spelling
import TypeAtlas.Proofs.Override.Layers
import TypeAtlas.Resolver

/-!
# Which types are written as strings

The class names of a table are compared with types by how these are spelled. A class name that could
be read is spelled, but for the blanks around it, like the one type that it names, so the comparison
finds a type exactly if a class name stands for it:

* `Overrides.mem_classNames_read`: the class names of the overrides are the texts of their table;
* `spelling_mem_mappedNames_iff`: a type that has a class name is found by its spelling exactly if
  one of the class names of the table stands for it. Generic classes and wildcards never are;
* `isStringInput_mono`: more class names, however many blanks are around them, make more types
  strings;
* `isStringInput_iff_configured`: which types are strings.
-/

namespace TypeAtlas

open Java (JavaType Primitive stringType)
open Text (trim)

/-- Whether a table has a text under some key. -/
def Json.Table.HasText (t : Json.Table) (text : String) : Prop := ∃ e ∈ t.values, e.value = .text text

theorem Json.Table.hasText_ofTexts {m : OrderedMap String String} {text : String} :
    (Table.ofTexts m).HasText text ↔ ∃ name, m.get? name = some text := by
  simp only [HasText, OrderedMap.values, entries_ofTexts, List.map_map, List.mem_map,
    OrderedMap.get?_eq_some_iff_mem]
  constructor
  · rintro ⟨_, ⟨⟨name, text'⟩, hmem, rfl⟩, hvalue⟩
    cases hvalue
    exact ⟨name, hmem⟩
  · rintro ⟨name, hmem⟩
    exact ⟨_, ⟨⟨name, text⟩, hmem, rfl⟩, rfl⟩

namespace Overrides

variable {t : Json.Table} {o : Overrides} (h : Overrides.read t = .ok o)
include h

theorem exists_guess_of_hasText {text : String} (htext : t.HasText text) :
    ∃ type, JavaType.guess text = .ok type := by
  obtain ⟨entry, hentry, hvalue⟩ := htext
  exact exists_guess_of_mem h hentry hvalue

theorem mem_classNames_read {text : String} : text ∈ o.classNames ↔ t.HasText text := by
  rw [classNames, List.mem_map]
  simp only [OrderedMap.mem_values_mapValues h, Override.read_eq_ok_iff]
  constructor
  · rintro ⟨_, ⟨entry, hentry, text', type, hvalue, -, rfl⟩, rfl⟩
    exact ⟨entry, hentry, hvalue⟩
  · intro htext
    obtain ⟨type, htype⟩ := exists_guess_of_hasText h htext
    obtain ⟨entry, hentry, hvalue⟩ := htext
    exact ⟨_, ⟨entry, hentry, text, type, hvalue, htype, rfl⟩, rfl⟩

end Overrides

namespace Java.JavaType

variable {type : JavaType}

/-- A type that there is a class name for has packages that are texts. -/
theorem IsNameable.all_packages (h : type.IsNameable) {p : Json → Bool}
    (hp : ∀ text, p (.text text) = true) : type.packages.all p = true := by
  cases type with
  | primitive kind => rfl
  | boxed kind => rfl
  | declared c =>
    obtain ⟨package, hpackage, -⟩ := h.1.package
    rw [packages, hpackage, List.all_cons, hp, List.all_nil, Bool.true_and]
  | parameterized raw argument => exact h.elim
  | wildcard bound => exact h.elim

theorem IsNameable.isKey (h : type.IsNameable) : type.isKey = true := h.all_packages fun _ => rfl

end Java.JavaType

namespace OverrideTable

/-! ## Spellings and class names -/

section

variable {explicit directive : Json.Table} {builtins : Builtins} {t : OverrideTable}
  (h : make explicit directive builtins = .ok t)
include h

theorem exists_guess_of_hasText {text : String} (htext : explicit.HasText text ∨ directive.HasText text) :
    ∃ type, JavaType.guess text = .ok type := by
  obtain ⟨d, e, hd, he, -⟩ := make_eq_ok_iff.mp h
  rcases htext with htext | htext
  · exact Overrides.exists_guess_of_hasText he htext
  · exact Overrides.exists_guess_of_hasText hd htext

theorem mem_mappedNames_iff {name : String} : name ∈ t.mappedNames ↔
    ∃ text, (explicit.HasText text ∨ directive.HasText text) ∧ trim text = name := by
  obtain ⟨d, e, hd, he, rfl⟩ := make_eq_ok_iff.mp h
  rw [mappedNames, List.mem_map]
  simp only [List.mem_append, Overrides.mem_classNames_read he, Overrides.mem_classNames_read hd]

/-- A type that is read back from its spelling is found by it exactly if a class name stands for
the type. -/
theorem spelling_mem_mappedNames_iff {type : JavaType}
    (htype : JavaType.guess type.spelling = .ok type) : type.spelling ∈ t.mappedNames ↔
      ∃ text, (explicit.HasText text ∨ directive.HasText text) ∧ JavaType.guess text = .ok type := by
  rw [mem_mappedNames_iff h]
  constructor
  · intro hmem
    obtain ⟨text, htext, htrim⟩ := hmem
    obtain ⟨type', htype'⟩ := exists_guess_of_hasText h htext
    have hspelling : type'.spelling = type.spelling :=
      (JavaType.spelling_of_guess htype').trans htrim
    have hback := JavaType.guess_spelling_of_guess htype'
    rw [hspelling] at hback
    cases htype.symm.trans hback
    exact ⟨text, htext, htype'⟩
  · intro hguess
    obtain ⟨text, htext, hguess⟩ := hguess
    exact ⟨text, htext, (JavaType.spelling_of_guess hguess).symm⟩

/-- Every class name of a table names a type. -/
theorem exists_isNamedBy_of_mem {name : String} (hname : name ∈ t.mappedNames) :
    ∃ type : JavaType, type.IsNamedBy name := by
  obtain ⟨text, htext, rfl⟩ := (mem_mappedNames_iff h).mp hname
  obtain ⟨type, htype⟩ := exists_guess_of_hasText h htext
  exact ⟨type, JavaType.guess_eq_ok_iff.mp htype⟩

theorem spelling_parameterized_notMem (raw : Java.ClassName) (argument : JavaType) :
    (JavaType.parameterized raw argument).spelling ∉ t.mappedNames := by
  intro hname
  obtain ⟨type, htype⟩ := exists_isNamedBy_of_mem h hname
  exact htype.ne_spelling_parameterized raw argument rfl

theorem spelling_wildcard_notMem (bound : JavaType) :
    (JavaType.wildcard bound).spelling ∉ t.mappedNames := by
  intro hname
  obtain ⟨type, htype⟩ := exists_isNamedBy_of_mem h hname
  exact htype.ne_spelling_wildcard bound rfl

theorem builtinTypes_make : t.builtinTypes = builtins.common.values := by
  obtain ⟨_, _, -, -, rfl⟩ := make_eq_ok_iff.mp h
  rfl

end

/-! ## Strings -/

theorem mem_nonStringTypes_iff {type : JavaType} : type ∈ Resolver.nonStringTypes ↔
    ∃ kind ∈ [Primitive.int, .double, .boolean], type = .primitive kind ∨ type = .boxed kind := by
  simp only [Resolver.nonStringTypes, List.mem_cons, List.not_mem_nil, or_false, exists_eq_or_imp,
    exists_eq_left]
  grind

/-- The standard built-in scalars are no numbers or booleans, so only these are excluded. -/
theorem isStringInput_eq_true_iff {explicit directive : Json.Table} {t : OverrideTable}
    (h : make explicit directive .standard = .ok t) {type : JavaType} :
    t.isStringInput type = true ↔ type ∉ Resolver.nonStringTypes ∧
      (type = stringType ∨ type ∈ Builtins.standardCommon.values ∨ type.spelling ∈ t.mappedNames) := by
  have hbuiltin : ∀ type ∈ Builtins.standardCommon.values, type ∉ Resolver.nonStringTypes := by
    decide +kernel
  have hstring : stringType ∉ Resolver.nonStringTypes := by decide +kernel
  have hcommon : t.builtinTypes = Builtins.standardCommon.values := builtinTypes_make h
  rw [isStringInput, hcommon]
  split
  · rename_i hmem
    have hmem : type.spelling ∈ t.mappedNames := List.contains_iff_mem.mp hmem
    simp [hmem]
  · rename_i hmem
    have hmem : type.spelling ∉ t.mappedNames := fun hin => hmem (List.contains_iff_mem.mpr hin)
    simp only [hmem, or_false, Bool.or_eq_true, decide_eq_true_eq, List.contains_iff_mem]
    constructor
    · rintro (rfl | hin)
      · exact ⟨hstring, .inl rfl⟩
      · exact ⟨hbuiltin type hin, .inr hin⟩
    · exact fun hin => hin.2

/-- The standard built-in scalars are classes, so a type without a name of its own is a string only if
it is found by its spelling. -/
theorem isStringInput_eq_false {explicit directive : Json.Table} {t : OverrideTable}
    (h : make explicit directive .standard = .ok t) {type : JavaType}
    (hclass : type.simpleName? = none) (hname : type.spelling ∉ t.mappedNames) :
    t.isStringInput type = false := by
  have hcommon : ∀ type ∈ Builtins.standardCommon.values, type.simpleName? ≠ none := by
    decide +kernel
  refine Bool.eq_false_iff.mpr fun htrue => ?_
  obtain ⟨-, rfl | hmem | hmem⟩ := (isStringInput_eq_true_iff h).mp htrue
  · cases hclass
  · exact hcommon type hmem hclass
  · exact hname hmem

/-- Class names that a table has in addition, and blanks around class names, make no type less of a
string. -/
theorem isStringInput_mono {explicit directive explicit' directive' : Json.Table}
    {t t' : OverrideTable} (h : make explicit directive .standard = .ok t)
    (h' : make explicit' directive' .standard = .ok t')
    (hmore : ∀ text, explicit.HasText text ∨ directive.HasText text →
      ∃ text', (explicit'.HasText text' ∨ directive'.HasText text') ∧ trim text' = trim text)
    {type : JavaType} (htype : t.isStringInput type = true) : t'.isStringInput type = true := by
  obtain ⟨hnumber, hmem⟩ := (isStringInput_eq_true_iff h).mp htype
  refine (isStringInput_eq_true_iff h').mpr ⟨hnumber, hmem.imp_right (Or.imp_right fun hname => ?_)⟩
  obtain ⟨text, htext, htrim⟩ := (mem_mappedNames_iff h).mp hname
  obtain ⟨text', htext', htrim'⟩ := hmore text htext
  exact (mem_mappedNames_iff h').mpr ⟨text', htext', htrim'.trans htrim⟩

/-- For a generic class or a wildcard, too, the comparison of spellings finds what stands for it, which
is nothing. -/
theorem spelling_mem_mappedNames_iff_of_class {explicit directive : Json.Table}
    {builtins : Builtins} {t : OverrideTable} (h : make explicit directive builtins = .ok t)
    {type : JavaType} (htype : ∀ c, type = .declared c → JavaType.guess c.spelling = .ok type) :
    type.spelling ∈ t.mappedNames ↔
      ∃ text, (explicit.HasText text ∨ directive.HasText text) ∧ JavaType.guess text = .ok type := by
  have hgeneric : (¬type.IsNameable) →
      ¬∃ text, (explicit.HasText text ∨ directive.HasText text) ∧ JavaType.guess text = .ok type := by
    rintro hno ⟨text, -, hguess⟩
    exact hno (JavaType.guess_eq_ok_iff.mp hguess).isNameable
  cases type with
  | primitive kind => exact spelling_mem_mappedNames_iff h (JavaType.guess_spelling_iff.mpr trivial)
  | boxed kind => exact spelling_mem_mappedNames_iff h (JavaType.guess_spelling_iff.mpr trivial)
  | declared c => exact spelling_mem_mappedNames_iff h (htype c rfl)
  | parameterized raw argument =>
    exact iff_of_false (spelling_parameterized_notMem h raw argument) (hgeneric id)
  | wildcard bound => exact iff_of_false (spelling_wildcard_notMem h bound) (hgeneric id)

/-- Take a table with the standard built-in scalars, and a type that is no class or a class that is
read back from its spelling. Values of the type are written as strings exactly if it is neither a
number nor a boolean, and is `java.lang.String`, a common scalar, or what some class name stands for
that is configured or on a scalar. That a class name stands for such a type is what the comparison
of spellings finds. Generic classes and wildcards are never written as strings; with more class
names no type ceases to be, and blanks around class names make no difference. -/
theorem isStringInput_iff_configured {explicit directive : Json.Table} {t : OverrideTable}
    (h : make explicit directive .standard = .ok t) :
    (∀ type, (∀ c, type = .declared c → JavaType.guess c.spelling = .ok type) →
      (t.isStringInput type = true ↔
        (∀ kind ∈ [Primitive.int, .double, .boolean], type ≠ .primitive kind ∧ type ≠ .boxed kind) ∧
        (type = stringType ∨ (∃ name, Builtins.standardCommon.get? name = some type) ∨
          ∃ text, (explicit.HasText text ∨ directive.HasText text) ∧
            JavaType.guess text = .ok type)) ∧
      (type.spelling ∈ t.mappedNames ↔ ∃ text,
        (explicit.HasText text ∨ directive.HasText text) ∧ JavaType.guess text = .ok type)) ∧
    (∀ type : JavaType, JavaType.guess type.spelling = .ok type →
      t.isStringInput? type = some (t.isStringInput type)) ∧
    (∀ raw argument, t.isStringInput (.parameterized raw argument) = false) ∧
    (∀ bound, t.isStringInput (.wildcard bound) = false) ∧
    ∀ explicit' directive' t', make explicit' directive' .standard = .ok t' →
      ((∀ text, explicit.HasText text ∨ directive.HasText text →
          explicit'.HasText text ∨ directive'.HasText text) →
        ∀ type, t.isStringInput type = true → t'.isStringInput type = true) ∧
      ((∀ name, (∃ text, (explicit.HasText text ∨ directive.HasText text) ∧ trim text = name) ↔
          ∃ text, (explicit'.HasText text ∨ directive'.HasText text) ∧ trim text = name) →
        ∀ type, t'.isStringInput type = t.isStringInput type) := by
  refine ⟨fun type htype => ⟨?_, spelling_mem_mappedNames_iff_of_class h htype⟩, ?_, ?_, ?_, ?_⟩
  · have hnumber : type ∉ Resolver.nonStringTypes ↔
        ∀ kind ∈ [Primitive.int, .double, .boolean],
          type ≠ .primitive kind ∧ type ≠ .boxed kind := by
      rw [mem_nonStringTypes_iff]
      simp only [not_exists, not_and, not_or, ne_eq]
    rw [isStringInput_eq_true_iff h, hnumber, OrderedMap.mem_values_iff,
      spelling_mem_mappedNames_iff_of_class h htype]
  · intro type htype
    have hkey : type.isKey = true := (JavaType.guess_spelling_iff.mp htype).isKey
    rw [isStringInput?, if_pos hkey]
  · intro raw argument
    exact isStringInput_eq_false h rfl (spelling_parameterized_notMem h raw argument)
  · intro bound
    exact isStringInput_eq_false h rfl (spelling_wildcard_notMem h bound)
  · intro explicit' directive' t' h'
    constructor
    · intro hmore type
      exact isStringInput_mono h h' fun text htext => ⟨text, hmore text htext, rfl⟩
    · intro hsame type
      refine Bool.eq_iff_iff.mpr ⟨?_, ?_⟩
      · exact isStringInput_mono h' h fun text htext => (hsame (trim text)).mpr ⟨text, htext, rfl⟩
      · exact isStringInput_mono h h' fun text htext => (hsame (trim text)).mp ⟨text, htext, rfl⟩

/-- A class that is configured with blanks around it is a string, and so is one that only a hidden
directive names, but a number is none although it is configured. -/
theorem isStringInput_of_hidden_directive :
    let explicit : Json.Table := .ofTexts (.ofList [("Url", " java.net.URI "), ("Count", "int")])
    let directive : Json.Table := .ofTexts (.ofList [("Url", "java.net.URL")])
    ∃ t, make explicit directive .standard = .ok t ∧
      t.isStringInput (Builtins.classType "java.net" "URI") = true ∧
      t.isStringInput (Builtins.classType "java.net" "URL") = true ∧
      t.isStringInput (.primitive .int) = false := by
  intro explicit directive
  obtain ⟨t, ht⟩ : ∃ t, make explicit directive .standard = .ok t := ⟨_, rfl⟩
  obtain ⟨hiff, -⟩ := isStringInput_iff_configured ht
  refine ⟨t, ht, ?_, ?_, ?_⟩
  · refine (hiff _ ?_).1.mpr ⟨by decide, .inr (.inr ⟨" java.net.URI ", .inl ?_, rfl⟩)⟩
    · rintro _ ⟨⟩
      rfl
    · exact ⟨_, List.mem_cons_self, rfl⟩
  · refine (hiff _ ?_).1.mpr ⟨by decide, .inr (.inr ⟨"java.net.URL", .inr ?_, rfl⟩)⟩
    · rintro _ ⟨⟩
      rfl
    · exact ⟨_, List.mem_cons_self, rfl⟩
  · refine Bool.eq_false_iff.mpr fun htrue => ?_
    have hnumber := ((hiff (.primitive .int) fun _ h => by cases h).1.mp htrue).1
    exact (hnumber .int List.mem_cons_self).1 rfl

end OverrideTable

end TypeAtlas
