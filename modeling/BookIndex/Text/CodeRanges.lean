/-!
# CodeRanges — sets of code points

A property of characters is kept as the list of the inclusive ranges of code points that have it.
`CodeRanges.contains` is membership; `contains_iff` reads it as "some range holds the code point".
-/

namespace BookIndex.Text

/-- A set of code points, as inclusive ranges. -/
abbrev CodeRanges := List (Nat × Nat)

namespace CodeRanges

/-- Some range holds `n`. -/
def contains (rs : CodeRanges) (n : Nat) : Bool :=
  rs.any fun r => decide (r.1 ≤ n) && decide (n ≤ r.2)

@[simp] theorem contains_nil (n : Nat) : contains [] n = false := rfl

theorem contains_iff {rs : CodeRanges} {n : Nat} :
    contains rs n = true ↔ ∃ r ∈ rs, r.1 ≤ n ∧ n ≤ r.2 := by
  simp [contains]

end CodeRanges

end BookIndex.Text
