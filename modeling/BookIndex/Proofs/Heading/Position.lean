import BookIndex.Heading.Merge
import Mathlib.Data.List.Basic

/-!
# Heading.Position — the headings of a tree by where they stand

A position says which subheading to take at each step down, counted from zero.  Filing a page opens
headings behind their siblings only, so a heading keeps its position once it has one, and two
headings with the same levels are told apart by it.

`mem_rows_iff` says that the rows of a tree are the headings at its positions.
-/

namespace BookIndex.Heading

/-- The heading at a position. -/
def at? : List Nat → Heading → Option Heading
  | [], h => some h
  | i :: rest, h => h.children[i]?.bind (at? rest)

/-- The levels on the way to a position, from the first below `h` to that of the heading there. -/
def path? : List Nat → Heading → Option (List Level)
  | [], _ => some []
  | i :: rest, h => h.children[i]?.bind fun child => (path? rest child).map (child.level :: ·)

/-- The pages of the heading at a position, none if there is no heading. -/
def pagesAt (position : List Nat) (h : Heading) : List PageRef :=
  ((h.at? position).map pages).getD []

/-- The position of the last heading at this depth below `h`. -/
def lastPosition : Nat → Heading → List Nat
  | 0, _ => []
  | depth + 1, h =>
    match h.children.getLast? with
    | none => []
    | some last => (h.children.length - 1) :: lastPosition depth last

@[simp] theorem at?_nil (h : Heading) : h.at? [] = some h := rfl

theorem at?_cons (i : Nat) (rest : List Nat) (h : Heading) :
    h.at? (i :: rest) = h.children[i]?.bind (at? rest) := rfl

@[simp] theorem path?_nil (h : Heading) : h.path? [] = some [] := rfl

theorem path?_cons (i : Nat) (rest : List Nat) (h : Heading) :
    h.path? (i :: rest) =
      h.children[i]?.bind fun child => (path? rest child).map (child.level :: ·) := rfl

@[simp] theorem pagesAt_nil (h : Heading) : h.pagesAt [] = h.pages := rfl

theorem lastPosition_succ_concat (depth : Nat) (level : Level) (pages : List PageRef)
    (earlier : List Heading) (last : Heading) :
    lastPosition (depth + 1) ⟨level, pages, earlier ++ [last]⟩ =
      earlier.length :: lastPosition depth last := by
  simp [lastPosition]

theorem pagesAt_cons_of_some {i : Nat} {h child : Heading} (hi : h.children[i]? = some child)
    (rest : List Nat) : h.pagesAt (i :: rest) = child.pagesAt rest := by
  simp [pagesAt, at?_cons, hi]

theorem pagesAt_cons_of_none {i : Nat} {h : Heading} (hi : h.children[i]? = none)
    (rest : List Nat) : h.pagesAt (i :: rest) = [] := by
  simp [pagesAt, at?_cons, hi]

theorem pagesAt_of_at? {position : List Nat} {h g : Heading} (hg : h.at? position = some g) :
    h.pagesAt position = g.pages := by
  simp [pagesAt, hg]

/-- Where there are pages there is a heading. -/
theorem exists_at?_of_pagesAt_ne_nil {position : List Nat} {h : Heading}
    (hp : h.pagesAt position ≠ []) : ∃ g, h.at? position = some g := by
  cases hg : h.at? position with
  | none => simp [pagesAt, hg] at hp
  | some g => exact ⟨g, rfl⟩

/-- Going down along two positions, one after the other. -/
theorem at?_append (first second : List Nat) (h : Heading) :
    h.at? (first ++ second) = (h.at? first).bind (at? second) := by
  induction first generalizing h with
  | nil => rfl
  | cons i first ih =>
    simp only [List.cons_append, at?_cons]
    cases h.children[i]? with
    | none => rfl
    | some child => exact ih child

theorem pagesAt_append {first : List Nat} {h g : Heading} (hg : h.at? first = some g)
    (second : List Nat) : h.pagesAt (first ++ second) = g.pagesAt second := by
  simp [pagesAt, at?_append, hg]

theorem exists_at?_of_path? {position : List Nat} {h : Heading} {path : List Level}
    (hp : h.path? position = some path) : ∃ g, h.at? position = some g := by
  induction position generalizing h path with
  | nil => exact ⟨h, rfl⟩
  | cons i rest ih =>
    obtain ⟨child, hchild, hrest⟩ := Option.bind_eq_some_iff.1 hp
    obtain ⟨below, hbelow, -⟩ := Option.map_eq_some_iff.1 hrest
    obtain ⟨g, hg⟩ := ih hbelow
    exact ⟨g, by simp [at?_cons, hchild, hg]⟩

theorem length_of_path? {position : List Nat} {h : Heading} {path : List Level}
    (hp : h.path? position = some path) : path.length = position.length := by
  induction position generalizing h path with
  | nil =>
    obtain rfl : [] = path := by simpa using hp
    rfl
  | cons i rest ih =>
    obtain ⟨child, -, hrest⟩ := Option.bind_eq_some_iff.1 hp
    obtain ⟨below, hbelow, rfl⟩ := Option.map_eq_some_iff.1 hrest
    simp [ih hbelow]

/-- The way to a position begins with the ways to those above it. -/
theorem path?_take {position : List Nat} {h : Heading} {path : List Level}
    (hp : h.path? position = some path) (k : Nat) :
    h.path? (position.take k) = some (path.take k) := by
  induction position generalizing h path k with
  | nil =>
    obtain rfl : [] = path := by simpa using hp
    simp
  | cons i rest ih =>
    obtain ⟨child, hchild, hrest⟩ := Option.bind_eq_some_iff.1 hp
    obtain ⟨below, hbelow, rfl⟩ := Option.map_eq_some_iff.1 hrest
    cases k with
    | zero => simp
    | succ k => simp [path?_cons, hchild, ih hbelow]

/-! ### Rows -/

theorem mem_rowsAll_iff {depth : Nat} {forest : List Heading} {row : Nat × Heading} :
    row ∈ rowsAll depth forest ↔ ∃ h ∈ forest, row ∈ rows depth h := by
  induction forest with
  | nil => simp [rowsAll]
  | cons h forest ih => simp [rowsAll, ih]

theorem rows_eq (depth : Nat) (h : Heading) :
    rows depth h = (depth, h) :: rowsAll (depth + 1) h.children := by
  cases h
  rw [rows]

/-- What stands at a position has a row, as deep as the position is long. -/
theorem mem_rows_of_at? {position : List Nat} {h g : Heading} (hg : h.at? position = some g)
    (depth : Nat) : (depth + position.length, g) ∈ rows depth h := by
  induction position generalizing h depth with
  | nil =>
    obtain rfl : h = g := by simpa using hg
    simp [rows_eq]
  | cons i rest ih =>
    obtain ⟨child, hchild, hrest⟩ := Option.bind_eq_some_iff.1 hg
    have hmem := ih hrest (depth + 1)
    rw [rows_eq, List.length_cons, show depth + (rest.length + 1) = depth + 1 + rest.length by omega]
    exact List.mem_cons_of_mem _
      (mem_rowsAll_iff.2 ⟨child, List.mem_of_getElem? hchild, hmem⟩)

mutual

/-- Every row of a tree stands at a position, which is as long as the row is deep. -/
theorem exists_at?_of_mem_rows {depth : Nat} {row : Nat × Heading} : ∀ {h : Heading},
    row ∈ rows depth h → ∃ position, h.at? position = some row.2 ∧ row.1 = depth + position.length
  | ⟨level, pages, children⟩, hrow => by
    rw [rows, List.mem_cons] at hrow
    rcases hrow with rfl | hrow
    · exact ⟨[], rfl, rfl⟩
    · obtain ⟨i, child, rest, hchild, hg, hd⟩ := exists_at?_of_mem_rowsAll hrow
      exact ⟨i :: rest, by simp [at?_cons, hchild, hg], by rw [hd, List.length_cons]; omega⟩

theorem exists_at?_of_mem_rowsAll {depth : Nat} {row : Nat × Heading} : ∀ {forest : List Heading},
    row ∈ rowsAll depth forest → ∃ (i : Nat) (child : Heading) (position : List Nat),
      forest[i]? = some child ∧ child.at? position = some row.2 ∧
        row.1 = depth + position.length
  | [], hrow => by simp [rowsAll] at hrow
  | h :: forest, hrow => by
    rw [rowsAll, List.mem_append] at hrow
    rcases hrow with hrow | hrow
    · obtain ⟨position, hg, hd⟩ := exists_at?_of_mem_rows hrow
      exact ⟨0, h, position, rfl, hg, hd⟩
    · obtain ⟨i, child, position, hchild, hg, hd⟩ := exists_at?_of_mem_rowsAll hrow
      exact ⟨i + 1, child, position, hchild, hg, hd⟩

end

/-- The rows of a tree are the headings at its positions. -/
theorem mem_rows_iff {depth : Nat} {row : Nat × Heading} {h : Heading} : row ∈ rows depth h ↔
    ∃ position, h.at? position = some row.2 ∧ row.1 = depth + position.length := by
  constructor
  · exact exists_at?_of_mem_rows
  · rintro ⟨position, hg, hd⟩
    have hmem := mem_rows_of_at? hg depth
    rwa [← hd] at hmem

/-- The rows below a heading are the headings at its positions, its own apart. -/
theorem mem_rowsAll_children_iff {depth : Nat} {row : Nat × Heading} {h : Heading} :
    row ∈ rowsAll depth h.children ↔
      ∃ i rest, h.at? (i :: rest) = some row.2 ∧ row.1 = depth + rest.length := by
  constructor
  · intro hrow
    obtain ⟨i, child, rest, hchild, hg, hd⟩ := exists_at?_of_mem_rowsAll hrow
    exact ⟨i, rest, by simp [at?_cons, hchild, hg], hd⟩
  · rintro ⟨i, rest, hg, hd⟩
    obtain ⟨child, hchild, hrest⟩ := Option.bind_eq_some_iff.1 hg
    exact mem_rowsAll_iff.2
      ⟨child, List.mem_of_getElem? hchild, mem_rows_iff.2 ⟨rest, hrest, hd⟩⟩

end BookIndex.Heading
