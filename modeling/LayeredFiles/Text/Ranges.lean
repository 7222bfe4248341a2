/-
Module: LayeredFiles.Text.Ranges
Layer: Text
Purpose: membership of a code point in a table of closed ranges. The tables of the character classes
  are lists of such ranges in ascending order; a reader stops at the first range that lies beyond the
  code point.
Main exports: inRanges
-/

namespace LayeredFiles.Text

/-- A code point belongs to an ascending list of closed ranges when one of them holds it. The search
    ends at the first range that begins beyond the code point. -/
def inRanges : List (Nat × Nat) → Nat → Bool
  | [], _ => false
  | (first, last) :: rest, n =>
    if n < first then false else if n ≤ last then true else inRanges rest n

/-- A code point that is found lies in one of the ranges. -/
theorem exists_range_of_inRanges {ranges : List (Nat × Nat)} {n : Nat}
    (h : inRanges ranges n = true) : ∃ r ∈ ranges, r.1 ≤ n ∧ n ≤ r.2 := by
  induction ranges with
  | nil => simp [inRanges] at h
  | cons r rest ih =>
    obtain ⟨first, last⟩ := r
    simp only [inRanges] at h
    split at h
    · simp at h
    · split at h
      · exact ⟨(first, last), by simp, by simp; omega⟩
      · obtain ⟨r, hr, hn⟩ := ih h
        exact ⟨r, by simp [hr], hn⟩

end LayeredFiles.Text
