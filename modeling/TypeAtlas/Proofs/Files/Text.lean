import TypeAtlas.Files.Text

/-!
# The text in a file

Bytes stand for a text if they are UTF-8, and the text has the lines of what they encode on lines of
its own (`Decodes`, `decode?_eq_some_iff`).
-/

namespace TypeAtlas

namespace Text

theorem lines_ne_nil (cs : List Char) : lines cs ≠ [] := by
  fun_induction lines cs with
  | case1 => exact List.cons_ne_nil _ _
  | case2 => exact List.cons_ne_nil _ _
  | case3 => exact List.cons_ne_nil _ _
  | case4 c cs =>
    cases lines cs <;> exact List.cons_ne_nil _ _

theorem intercalate_cons_of_ne_nil {line : List Char} {rest : List (List Char)} (h : rest ≠ []) :
    ['\n'].intercalate (line :: rest) = line ++ '\n' :: ['\n'].intercalate rest := by
  obtain ⟨next, further, rfl⟩ := List.exists_cons_of_ne_nil h
  simp

theorem intercalate_consLine {c : Char} {ls : List (List Char)} (h : ls ≠ []) :
    ['\n'].intercalate (consLine c ls) = c :: ['\n'].intercalate ls := by
  obtain ⟨line, rest, rfl⟩ := List.exists_cons_of_ne_nil h
  cases rest <;> simp [consLine]

/-- A text with line feeds has its lines one after the other. -/
theorem withLineFeeds_eq_intercalate (cs : List Char) :
    withLineFeeds cs = ['\n'].intercalate (lines cs) := by
  fun_induction lines cs with
  | case1 => rfl
  | case2 cs ih =>
    rw [withLineFeeds, ih, intercalate_cons_of_ne_nil (lines_ne_nil cs), List.nil_append]
  | case3 c cs hpair hend ih =>
    have hfeed : (if c = '\r' then '\n' else c) = '\n' := by
      rw [isLineEnd, Bool.or_eq_true, decide_eq_true_eq, decide_eq_true_eq] at hend
      split
      · rfl
      · exact hend.resolve_right ‹_›
    rw [withLineFeeds, ih, intercalate_cons_of_ne_nil (lines_ne_nil cs), List.nil_append, hfeed]
    exact hpair
  | case4 c cs hpair hend ih =>
    have hkept : c ≠ '\r' := by
      rintro rfl
      exact hend rfl
    rw [withLineFeeds, ih, intercalate_consLine (lines_ne_nil cs), if_neg hkept]
    exact hpair

end Text

namespace Files

/-- Whether bytes are those of a text in UTF-8, and what is read is that text with its lines ended by
line feeds. -/
def Decodes (content : ByteArray) (text : String) : Prop :=
  ∃ source : String, content = source.toUTF8 ∧
    text.toList = ['\n'].intercalate (Text.lines source.toList)

theorem fromUTF8?_eq_some_iff {content : ByteArray} {source : String} :
    String.fromUTF8? content = some source ↔ content = source.toUTF8 := by
  rw [String.fromUTF8?, String.toUTF8_eq_toByteArray]
  constructor
  · intro h
    split at h
    · rw [← Option.some.inj h]
      rfl
    · cases h
  · rintro rfl
    rw [dif_pos source.isValidUTF8]
    rfl

theorem decode?_eq_some_iff {content : ByteArray} {text : String} :
    decode? content = some text ↔ Decodes content text := by
  rw [decode?, Option.map_eq_some_iff]
  refine exists_congr fun source => and_congr fromUTF8?_eq_some_iff ?_
  rw [Text.withLineFeeds_eq_intercalate, String.ext_iff, String.toList_ofList, eq_comm]

end Files

end TypeAtlas
