/-!
# Sets of code points

A property of characters is given as a list of ranges of code points, in increasing order and
with both ends included. `inRanges` decides membership, `inAlternating` decides it for ranges of
which only every second code point counts.
-/

namespace TypeAtlas.Text

/-- Whether `n` lies in one of the ranges. They are sorted, so the search ends at the first range
that begins after `n`. -/
def inRanges : List (Nat × Nat) → Nat → Bool
  | [], _ => false
  | (low, high) :: rest, n =>
    if n < low then false else if n ≤ high then true else inRanges rest n

/-- Whether `n` lies in one of the ranges at an even distance from its beginning. -/
def inAlternating : List (Nat × Nat) → Nat → Bool
  | [], _ => false
  | (low, high) :: rest, n =>
    if n < low then false else if n ≤ high then (n - low) % 2 == 0 else inAlternating rest n

/-- A member lies between the ends of some range. -/
theorem exists_of_inRanges {ranges : List (Nat × Nat)} {n : Nat} (h : inRanges ranges n = true) :
    ∃ r ∈ ranges, r.1 ≤ n ∧ n ≤ r.2 := by
  induction ranges with
  | nil => simp [inRanges] at h
  | cons r rest ih =>
    obtain ⟨low, high⟩ := r
    simp only [inRanges] at h
    split at h
    · simp at h
    · split at h
      · exact ⟨(low, high), by simp, by omega, by assumption⟩
      · obtain ⟨r, hr, hn⟩ := ih h
        exact ⟨r, by simp [hr], hn⟩

end TypeAtlas.Text
