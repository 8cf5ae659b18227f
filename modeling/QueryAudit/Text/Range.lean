/-!
# Ranges of characters

A class of characters is given as a table of closed ranges of code points. The tables of this
folder are those of version 14 of the Unicode character database, read off once and for all.
-/

namespace QueryAudit.Text

/-- Whether some range of the table holds the character. -/
def inRanges (ranges : List (Nat × Nat)) (c : Char) : Bool :=
  ranges.any fun r => decide (r.1 ≤ c.toNat) && decide (c.toNat ≤ r.2)

theorem inRanges_eq_true_iff (ranges : List (Nat × Nat)) (c : Char) :
    inRanges ranges c = true ↔ ∃ r ∈ ranges, r.1 ≤ c.toNat ∧ c.toNat ≤ r.2 := by
  simp [inRanges, List.any_eq_true]

end QueryAudit.Text
