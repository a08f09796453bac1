/-!
Sets of characters given as a standard gives them: as closed ranges of code points, in increasing
order. A look-up walks the ranges and stops at the first one that does not lie below the character.
The main statement: as the ranges are in order, nothing is missed by stopping there.
-/

namespace SqlLexer.Text

/-- Closed ranges of code points, each given by its first and last one. -/
abbrev CodePoints := List (Nat × Nat)

namespace CodePoints

/-- Whether the ranges are disjoint, in increasing order, and begin at `bound` or above it. -/
def isOrderedFrom (bound : Nat) : CodePoints → Bool
  | [] => true
  | (first, last) :: ranges =>
    decide (bound ≤ first ∧ first ≤ last) && isOrderedFrom (last + 1) ranges

theorem le_of_isOrderedFrom {bound : Nat} {ranges : CodePoints} {range : Nat × Nat}
    (h : isOrderedFrom bound ranges = true) (hmem : range ∈ ranges) : bound ≤ range.1 := by
  induction ranges generalizing bound with
  | nil => simp at hmem
  | cons head ranges ih =>
      obtain ⟨first, last⟩ := head
      simp only [isOrderedFrom, Bool.and_eq_true, decide_eq_true_eq] at h
      rcases List.mem_cons.1 hmem with rfl | hmem
      · exact h.1.1
      · have := ih h.2 hmem
        omega

/-- The code point `n` lies in one of the ranges. -/
def Covers (ranges : CodePoints) (n : Nat) : Prop :=
  ∃ range ∈ ranges, range.1 ≤ n ∧ n ≤ range.2

/-- Looks the code point `n` up in the ranges. -/
def contains (n : Nat) : CodePoints → Bool
  | [] => false
  | (first, last) :: ranges => if n ≤ last then first ≤ n else contains n ranges

/-- Among ordered ranges the look-up finds the code points of all ranges, and no others. -/
theorem contains_iff {n bound : Nat} {ranges : CodePoints}
    (h : isOrderedFrom bound ranges = true) : contains n ranges = true ↔ ranges.Covers n := by
  induction ranges generalizing bound with
  | nil => simp [contains, Covers]
  | cons head ranges ih =>
      obtain ⟨first, last⟩ := head
      simp only [isOrderedFrom, Bool.and_eq_true, decide_eq_true_eq] at h
      rw [contains]
      split
      case isTrue hle =>
        rw [decide_eq_true_eq]
        constructor
        · intro hfirst
          exact ⟨(first, last), by simp, hfirst, hle⟩
        · rintro ⟨range, hmem, hrange⟩
          rcases List.mem_cons.1 hmem with rfl | hmem
          · exact hrange.1
          · have := le_of_isOrderedFrom h.2 hmem
            omega
      case isFalse hlt =>
        rw [ih h.2]
        constructor
        · rintro ⟨range, hmem, hrange⟩
          exact ⟨range, by simp [hmem], hrange⟩
        · rintro ⟨range, hmem, hrange⟩
          rcases List.mem_cons.1 hmem with rfl | hmem
          · exact absurd hrange.2 hlt
          · exact ⟨range, hmem, hrange⟩

end CodePoints

end SqlLexer.Text
