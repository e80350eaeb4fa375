import Mathlib.Data.List.TakeWhile
import TypeAtlas.Text.Blank
import TypeAtlas.Text.Identifier

/-!
# What trimming leaves alone

Trimming takes blank characters only, so it leaves nothing of a text exactly if all of it is blank
(`trimChars_eq_nil_iff`), and everything if none of it is (`trimChars_eq_self`). The characters of
identifiers are neither blank nor points, which is read off the ranges of both classes.
-/

namespace TypeAtlas.Text

/-! ## Classes that have nothing in common -/

/-- Whether no range of one list meets a range of the other. -/
def areApart (ranges others : List (Nat × Nat)) : Bool :=
  ranges.all fun r => others.all fun o => r.2 < o.1 || o.2 < r.1

theorem inRanges_eq_false_of_areApart {ranges others : List (Nat × Nat)}
    (h : areApart ranges others = true) {n : Nat} (hn : inRanges ranges n = true) :
    inRanges others n = false := by
  refine Bool.eq_false_iff.mpr fun ho => ?_
  obtain ⟨r, hr, hlow, hhigh⟩ := exists_of_inRanges hn
  obtain ⟨o, ho, hlow', hhigh'⟩ := exists_of_inRanges ho
  have hapart := List.all_eq_true.mp (List.all_eq_true.mp h r hr) o ho
  simp only [Bool.or_eq_true, decide_eq_true_eq] at hapart
  omega

/-- The class of a character that may stand in an identifier has nothing in common with one that is
apart from its ranges. -/
theorem inRanges_eq_false_of_isContinue {others : List (Nat × Nat)}
    (hstart : areApart Identifier.startRanges others = true)
    (hextra : areApart Identifier.extraRanges others = true) {c : Char}
    (hc : Identifier.isContinue c = true) : inRanges others c.toNat = false := by
  rcases Bool.or_eq_true _ _ ▸ hc with h | h
  · exact inRanges_eq_false_of_areApart hstart h
  · exact inRanges_eq_false_of_areApart hextra h

theorem isBlank_eq_false_of_isContinue {c : Char} (hc : Identifier.isContinue c = true) :
    isBlank c = false :=
  inRanges_eq_false_of_isContinue (by decide +kernel) (by decide +kernel) hc

theorem ne_point_of_isContinue {c : Char} (hc : Identifier.isContinue c = true) : c ≠ '.' := by
  rintro rfl
  exact absurd hc (by decide +kernel)

/-! ## Identifiers -/

theorem isContinue_of_isIdentifier {cs : List Char} (h : isIdentifier cs = true) :
    ∀ c ∈ cs, Identifier.isContinue c = true := by
  cases cs with
  | nil => exact fun c hc => by cases hc
  | cons c cs =>
    rw [isIdentifier, Bool.and_eq_true, List.all_eq_true] at h
    refine List.forall_mem_cons.mpr ⟨?_, h.2⟩
    rw [Identifier.isContinue, h.1, Bool.true_or]

/-! ## Joined texts -/

theorem mem_intercalate {α : Type} {sep : List α} {parts : List (List α)} {x : α}
    (h : x ∈ sep.intercalate parts) : x ∈ sep ∨ ∃ p ∈ parts, x ∈ p := by
  induction parts with
  | nil => cases h
  | cons p parts ih =>
    cases parts with
    | nil =>
      rw [List.intercalate_singleton] at h
      exact .inr ⟨p, List.mem_cons_self, h⟩
    | cons q parts =>
      rw [List.intercalate_cons_cons, List.mem_append, List.mem_append] at h
      rcases h with (h | h) | h
      · exact .inr ⟨p, List.mem_cons_self, h⟩
      · exact .inl h
      · exact (ih h).imp_right fun ⟨q', hq, hx⟩ => ⟨q', List.mem_cons_of_mem _ hq, hx⟩

theorem mem_intercalate_of_mem {α : Type} {sep : List α} {parts : List (List α)} {p : List α} {x : α}
    (hp : p ∈ parts) (hx : x ∈ p) : x ∈ sep.intercalate parts := by
  induction parts with
  | nil => cases hp
  | cons q parts ih =>
    cases parts with
    | nil =>
      obtain rfl := List.mem_singleton.mp hp
      rwa [List.intercalate_singleton]
    | cons r parts =>
      rw [List.intercalate_cons_cons]
      rcases List.mem_cons.mp hp with rfl | hp
      · exact List.mem_append_left _ (List.mem_append_left _ hx)
      · exact List.mem_append_right _ (ih hp)

/-! ## Trimming -/

theorem trimEnd_eq_nil_iff {cs : List Char} : trimEnd cs = [] ↔ ∀ c ∈ cs, isBlank c = true := by
  rw [trimEnd, List.reverse_eq_nil_iff, List.dropWhile_eq_nil_iff]
  exact ⟨fun h c hc => h c (List.mem_reverse.mpr hc), fun h c hc => h c (List.mem_reverse.mp hc)⟩

theorem trimChars_eq_nil_iff {cs : List Char} :
    trimChars cs = [] ↔ ∀ c ∈ cs, isBlank c = true := by
  rw [trimChars, trimEnd_eq_nil_iff]
  constructor
  · intro h c hc
    rw [← @List.takeWhile_append_dropWhile _ isBlank cs, List.mem_append] at hc
    rcases hc with hc | hc
    · exact List.all_eq_true.mp (List.all_takeWhile) c hc
    · exact h c hc
  · intro h c hc
    exact h c ((List.dropWhile_sublist _).mem hc)

/-- Trimming leaves nothing of a text if it is blank. -/
theorem trim_eq_empty_iff {text : String} :
    trim text = "" ↔ ∀ c ∈ text.toList, isBlank c = true := by
  rw [← trimChars_eq_nil_iff, trim, ← String.toList_inj, String.toList_ofList]
  rfl

theorem dropWhile_isBlank_eq_self {cs : List Char} (h : ∀ c ∈ cs, isBlank c = false) :
    cs.dropWhile isBlank = cs := by
  cases cs with
  | nil => rfl
  | cons c cs => rw [List.dropWhile_cons, h c List.mem_cons_self]; rfl

theorem trimChars_eq_self {cs : List Char} (h : ∀ c ∈ cs, isBlank c = false) :
    trimChars cs = cs := by
  have hreverse : ∀ c ∈ cs.reverse, isBlank c = false := fun c hc => h c (List.mem_reverse.mp hc)
  rw [trimChars, trimEnd, dropWhile_isBlank_eq_self h, dropWhile_isBlank_eq_self hreverse,
    List.reverse_reverse]

theorem trim_eq_self {text : String} (h : ∀ c ∈ text.toList, isBlank c = false) :
    trim text = text := by
  rw [trim, trimChars_eq_self h, String.ofList_toList]

end TypeAtlas.Text
