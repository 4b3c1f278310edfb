/-!
# Character sets by ranges

A set of characters written as closed ranges of code points.
-/

namespace BoundSql.Text

/-- Membership in one of the closed ranges. -/
def inRanges (ranges : List (Nat × Nat)) (c : Char) : Bool :=
  ranges.any fun r => r.1 ≤ c.toNat && c.toNat ≤ r.2

theorem inRanges_append (r s : List (Nat × Nat)) (c : Char) :
    inRanges (r ++ s) c = (inRanges r c || inRanges s c) := by
  simp [inRanges]

theorem inRanges_iff {ranges : List (Nat × Nat)} {c : Char} :
    inRanges ranges c = true ↔ ∃ r ∈ ranges, r.1 ≤ c.toNat ∧ c.toNat ≤ r.2 := by
  simp [inRanges]

end BoundSql.Text
