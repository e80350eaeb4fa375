import TypeAtlas.Proofs.Java.ClassName

/-!
# Types that are told apart by their spelling

A type is canonical if it is made of primitives and of classes that are read back from their spelling,
with no primitive inside. The spelling of such a type can be read in one way only, for class names
have none of the characters that generic classes and wildcards are spelled with:

* `IsNamedBy.ne_spelling_parameterized`, `IsNamedBy.ne_spelling_wildcard`: no class name is spelled
  like a generic class or a wildcard;
* `IsReadBack`: the types that have a class name;
* `spelling_parameterized_inj`: the class and the argument of a generic class are found in its
  spelling;
* `IsCanonical.eq_of_spelling_eq`: canonical types with one spelling are one type.
-/

namespace TypeAtlas.Java

namespace JavaType

/-- Whether a type is read back from its spelling. -/
def IsReadBack (type : JavaType) : Prop := guess type.spelling = .ok type

/-- Whether a type is canonical: a primitive or wrapper, a class that is read back from its spelling,
a generic class of this kind with a canonical argument, or a wildcard with a canonical bound. Neither
argument nor bound is a primitive. -/
inductive IsCanonical : JavaType → Prop
  | primitive (kind : Primitive) : IsCanonical (primitive kind)
  | boxed (kind : Primitive) : IsCanonical (boxed kind)
  | declared {c : ClassName} (h : (declared c).IsReadBack) : IsCanonical (declared c)
  | parameterized {raw : ClassName} {argument : JavaType}
    (hraw : (declared raw).IsReadBack) (hargument : IsCanonical argument)
    (hreference : ∀ kind, argument ≠ primitive kind) : IsCanonical (parameterized raw argument)
  | wildcard {bound : JavaType} (hbound : IsCanonical bound)
    (hreference : ∀ kind, bound ≠ primitive kind) : IsCanonical (wildcard bound)

variable {type type' argument argument' bound : JavaType} {raw raw' : ClassName} {name : String}

theorem isReadBack_iff : type.IsReadBack ↔ type.IsNameable := guess_spelling_iff

theorem isReadBack_primitive (kind : Primitive) : (primitive kind).IsReadBack :=
  isReadBack_iff.mpr trivial

theorem isReadBack_boxed (kind : Primitive) : (boxed kind).IsReadBack := isReadBack_iff.mpr trivial

theorem not_isReadBack_parameterized (raw : ClassName) (argument : JavaType) :
    ¬(parameterized raw argument).IsReadBack := fun h => isReadBack_iff.mp h

theorem not_isReadBack_wildcard (bound : JavaType) : ¬(wildcard bound).IsReadBack := fun h =>
  isReadBack_iff.mp h

/-- A class is read back if the segments of its spelling name it, and it is no wrapper. -/
theorem isReadBack_declared_iff {c : ClassName} : (declared c).IsReadBack ↔
    className? (segments c.spelling.toList) = some c ∧ c.toType = declared c := by
  have hwrapper : (∀ kind, c ≠ .wrapper kind) ↔ c.toType = declared c := by
    constructor
    · exact ClassName.toType_of_forall_ne
    · rintro htype kind rfl
      rw [ClassName.toType_wrapper] at htype
      cases htype
  rw [className?_segments_iff, and_iff_left rfl, ← hwrapper]
  exact isReadBack_iff

instance decidableIsReadBack : (type : JavaType) → Decidable type.IsReadBack
  | primitive kind => isTrue (isReadBack_primitive kind)
  | boxed kind => isTrue (isReadBack_boxed kind)
  | declared _ => decidable_of_iff _ isReadBack_declared_iff.symm
  | parameterized raw argument => isFalse (not_isReadBack_parameterized raw argument)
  | wildcard bound => isFalse (not_isReadBack_wildcard bound)

/-- Types that are read back are told apart by their spelling. -/
theorem IsReadBack.eq_of_eq (h : type.IsReadBack) (h' : type'.IsReadBack)
    (heq : type.spelling = type'.spelling) : type = type' := by
  rw [IsReadBack, heq] at h
  exact Except.ok.inj (h.symm.trans h')

/-! ## Spellings that no class name has -/

theorem toList_spelling_parameterized (raw : ClassName) (argument : JavaType) :
    (parameterized raw argument).spelling.toList =
      raw.spelling.toList ++ '<' :: (argument.spelling.toList ++ ['>']) := by
  show (raw.spelling ++ "<" ++ argument.spelling ++ ">").toList = _
  simp [String.toList_append]

theorem toList_spelling_wildcard (bound : JavaType) : (wildcard bound).spelling.toList =
    '?' :: (" extends ".toList ++ bound.spelling.toList) := by
  show ("? extends " ++ bound.spelling).toList = _
  rw [String.toList_append]
  rfl

/-- Class names have no angle brackets. -/
theorem IsNamedBy.bracket_notMem (h : type.IsNamedBy name) : '<' ∉ name.toList := fun hmem =>
  absurd (h.forall_mem _ hmem) (by decide +kernel)

/-- Class names have no question marks. -/
theorem IsNamedBy.questionMark_notMem (h : type.IsNamedBy name) : '?' ∉ name.toList := fun hmem =>
  absurd (h.forall_mem _ hmem) (by decide +kernel)

theorem IsNamedBy.ne_spelling_parameterized (h : type.IsNamedBy name) (raw : ClassName)
    (argument : JavaType) : name ≠ (parameterized raw argument).spelling := by
  rintro rfl
  refine h.bracket_notMem ?_
  rw [toList_spelling_parameterized]
  exact List.mem_append_right _ List.mem_cons_self

theorem IsNamedBy.ne_spelling_wildcard (h : type.IsNamedBy name) (bound : JavaType) :
    name ≠ (wildcard bound).spelling := by
  rintro rfl
  refine h.questionMark_notMem ?_
  rw [toList_spelling_wildcard]
  exact List.mem_cons_self

theorem IsReadBack.isNamedBy_spelling (h : type.IsReadBack) : type.IsNamedBy type.spelling :=
  (isReadBack_iff.mp h).isNamedBy_spelling

/-! ## Spellings of generic classes -/

section

variable (h : (declared raw).IsReadBack)
include h

/-- The spelling of a generic class begins with that of its class, a wildcard with a question mark. -/
theorem spelling_parameterized_ne_wildcard (argument bound : JavaType) :
    (parameterized raw argument).spelling ≠ (wildcard bound).spelling := by
  intro heq
  have hmark : '?' ∉ raw.spelling.toList := h.isNamedBy_spelling.questionMark_notMem
  have hlist := congrArg String.toList heq
  rw [toList_spelling_parameterized, toList_spelling_wildcard] at hlist
  cases hraw : raw.spelling.toList with
  | nil =>
    rw [hraw] at hlist
    cases hlist
  | cons x rest =>
    rw [hraw] at hlist
    have hx : x = '?' := List.head_eq_of_cons_eq hlist
    rw [hraw, hx] at hmark
    exact hmark List.mem_cons_self

/-- The class ends at the first angle bracket. -/
theorem takeWhile_spelling_parameterized (argument : JavaType) :
    (parameterized raw argument).spelling.toList.takeWhile (· != '<') = raw.spelling.toList := by
  have hclass : '<' ∉ raw.spelling.toList := h.isNamedBy_spelling.bracket_notMem
  have hbracket : ∀ x ∈ raw.spelling.toList, (x != '<') = true := fun x hx =>
    bne_iff_ne.mpr (ne_of_mem_of_not_mem hx hclass)
  rw [toList_spelling_parameterized, List.takeWhile_append_of_pos hbracket]
  simp

/-- The class and the argument of a generic class are found in its spelling. -/
theorem spelling_parameterized_inj (h' : (declared raw').IsReadBack)
    (heq : (parameterized raw argument).spelling = (parameterized raw' argument').spelling) :
    raw = raw' ∧ argument.spelling = argument'.spelling := by
  have hspelling : raw.spelling = raw'.spelling := by
    rw [← String.toList_inj, ← takeWhile_spelling_parameterized h argument, heq,
      takeWhile_spelling_parameterized h' argument']
  have hraw : raw = raw' := declared.inj (h.eq_of_eq h' hspelling)
  refine ⟨hraw, ?_⟩
  have hlist := congrArg String.toList heq
  rw [toList_spelling_parameterized, toList_spelling_parameterized, hspelling] at hlist
  have hargument := List.append_cancel_right (List.cons.inj (List.append_cancel_left hlist)).2
  exact String.toList_inj.mp hargument

end

theorem spelling_wildcard_inj {bound bound' : JavaType} :
    (wildcard bound).spelling = (wildcard bound').spelling ↔ bound.spelling = bound'.spelling :=
  String.append_right_inj _

/-! ## Canonical types -/

theorem IsReadBack.isCanonical (h : type.IsReadBack) : type.IsCanonical := by
  cases type with
  | primitive kind => exact .primitive kind
  | boxed kind => exact .boxed kind
  | declared c => exact .declared h
  | parameterized raw argument => exact absurd h (not_isReadBack_parameterized raw argument)
  | wildcard bound => exact absurd h (not_isReadBack_wildcard bound)

/-- What is read back from its spelling has the spelling to itself among the canonical types. -/
theorem IsReadBack.eq_of_isCanonical (h : type.IsReadBack) (h' : type'.IsCanonical)
    (heq : type.spelling = type'.spelling) : type = type' := by
  have hnamed : type.IsNamedBy type.spelling := h.isNamedBy_spelling
  cases h' with
  | primitive kind => exact h.eq_of_eq (isReadBack_primitive kind) heq
  | boxed kind => exact h.eq_of_eq (isReadBack_boxed kind) heq
  | declared h' => exact h.eq_of_eq h' heq
  | parameterized => exact absurd heq (hnamed.ne_spelling_parameterized _ _)
  | wildcard => exact absurd heq (hnamed.ne_spelling_wildcard _)

/-- A canonical type is read back, or it is a generic class or a wildcard around another. -/
theorem IsCanonical.isReadBack_or (h : type.IsCanonical) :
    type.IsReadBack ∨
      (∃ raw argument, type = .parameterized raw argument ∧ (JavaType.declared raw).IsReadBack ∧
        argument.IsCanonical) ∨
      ∃ bound, type = .wildcard bound ∧ bound.IsCanonical := by
  cases h with
  | primitive kind => exact .inl (isReadBack_primitive kind)
  | boxed kind => exact .inl (isReadBack_boxed kind)
  | declared h => exact .inl h
  | parameterized hraw hargument => exact .inr (.inl ⟨_, _, rfl, hraw, hargument⟩)
  | wildcard hbound => exact .inr (.inr ⟨_, rfl, hbound⟩)

/-- Canonical types with one spelling are one type. By induction on the first: what is not read back by
itself is a generic class or a wildcard, whose spelling shows which of the two it is, and the spelling
of what stands inside. -/
theorem IsCanonical.eq_of_spelling_eq (h : type.IsCanonical) (h' : type'.IsCanonical)
    (heq : type.spelling = type'.spelling) : type = type' := by
  induction h generalizing type' with
  | primitive kind => exact (isReadBack_primitive kind).eq_of_isCanonical h' heq
  | boxed kind => exact (isReadBack_boxed kind).eq_of_isCanonical h' heq
  | declared h => exact h.eq_of_isCanonical h' heq
  | parameterized hraw hargument hreference ih =>
    rcases h'.isReadBack_or with hread | ⟨raw', argument', rfl, hraw', hargument'⟩ | ⟨bound, rfl, -⟩
    · have hcanonical := IsCanonical.parameterized hraw hargument hreference
      exact (hread.eq_of_isCanonical hcanonical heq.symm).symm
    · obtain ⟨rfl, hspelling⟩ := spelling_parameterized_inj hraw hraw' heq
      rw [ih hargument' hspelling]
    · exact absurd heq (spelling_parameterized_ne_wildcard hraw _ _)
  | wildcard hbound hreference ih =>
    rcases h'.isReadBack_or with hread | ⟨raw, argument, rfl, hraw, -⟩ | ⟨bound', rfl, hbound'⟩
    · have hcanonical := IsCanonical.wildcard hbound hreference
      exact (hread.eq_of_isCanonical hcanonical heq.symm).symm
    · exact absurd heq.symm (spelling_parameterized_ne_wildcard hraw _ _)
    · rw [ih hbound' (spelling_wildcard_inj.mp heq)]

end JavaType

end TypeAtlas.Java
