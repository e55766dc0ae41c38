import BookIndex.Heading

/-!
# Heading.Walk — walks over trees of any depth

Counting the headings of a tree and comparing two trees keep the headings that are still to visit
in a list, so that a chain of a hundred thousand subheadings costs no recursion.
`totalLen_eq_size` ties the count to the size of the tree.
-/

namespace BookIndex.Heading

/-- The headings counted so far and those of the forests that are still to visit. -/
def countAll (toVisit : List Heading) (count : Nat) : Nat :=
  match toVisit with
  | [] => count
  | h :: rest => countAll (h.children ++ rest) (count + 1)
termination_by sizeAll toVisit
decreasing_by simp [sizeAll, size_eq]

/-- The number of headings in the tree. -/
def totalLen (h : Heading) : Nat :=
  countAll [h] 0

theorem countAll_eq (toVisit : List Heading) (count : Nat) :
    countAll toVisit count = count + sizeAll toVisit := by
  fun_induction countAll toVisit count with
  | case1 => simp [sizeAll]
  | case2 count h rest ih =>
    rw [ih]
    simp only [sizeAll, sizeAll_append, size_eq]
    omega

/-- The walk counts every heading once. -/
theorem totalLen_eq_size (h : Heading) : h.totalLen = h.size := by
  simp [totalLen, countAll_eq, sizeAll]

/-- The two headings agree, their subheadings apart: in their level, and in the numbers of their
pages and subheadings. -/
def alike (a b : Heading) : Bool :=
  decide (a.level = b.level) && a.pages.length == b.pages.length &&
    a.children.length == b.children.length

/-- The subheadings that meet in a comparison are among those of the first forest. -/
theorem sizeAll_zip_le (hs gs : List Heading) :
    sizeAll ((hs.zip gs).map (·.1)) ≤ sizeAll hs := by
  induction hs generalizing gs with
  | nil => simp
  | cons h hs ih =>
    cases gs with
    | nil => simp [sizeAll]
    | cons g gs =>
      have := ih gs
      simp only [List.zip_cons_cons, List.map_cons, sizeAll]
      omega

/-- All pairs of trees that are still to compare have the same shape. -/
def sameAll (toCompare : List (Heading × Heading)) : Bool :=
  match toCompare with
  | [] => true
  | (a, b) :: rest =>
    if alike a b then sameAll (a.children.zip b.children ++ rest) else false
termination_by sizeAll (toCompare.map (·.1))
decreasing_by
  have := sizeAll_zip_le a.children b.children
  simp only [List.map_append, List.map_cons, sizeAll_append, sizeAll, size_eq]
  omega

/-- The trees have the same headings in the same places with as many pages each. -/
def sameShape (a b : Heading) : Bool :=
  sameAll [(a, b)]

end BookIndex.Heading
