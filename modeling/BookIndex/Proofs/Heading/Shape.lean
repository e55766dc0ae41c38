import BookIndex.Heading.Walk
import Mathlib

/-!
# Heading.Shape — what the walks over trees compute

The walks keep headings of different depths in one list.  What they compute is told by recursion on the
tree: the size of a tree is that of its subheadings and one more, and two trees have the same shape if
they agree in an outline, the tree with the number of pages in the place of the pages (`sameAll_iff`).
So having the same shape is an equivalence, and it tells pages apart by their number only.
-/

namespace BookIndex

/-- A tree of headings with the number of pages in the place of the pages. -/
inductive Outline where
  | node (level : Level) (pageCount : Nat) (children : List Outline)

namespace Heading

mutual

/-- The tree without its pages, but with their numbers. -/
def outline : Heading → Outline
  | ⟨level, pages, children⟩ => .node level pages.length (outlineAll children)

/-- The trees of a forest without their pages. -/
def outlineAll : List Heading → List Outline
  | [] => []
  | h :: rest => outline h :: outlineAll rest

end

theorem outlineAll_eq_map (hs : List Heading) : outlineAll hs = hs.map outline := by
  induction hs with
  | nil => rfl
  | cons h hs ih => rw [outlineAll, ih, List.map_cons]

theorem sizeAll_eq_sum (hs : List Heading) : sizeAll hs = (hs.map size).sum := by
  induction hs with
  | nil => rfl
  | cons h hs ih => rw [sizeAll, ih, List.map_cons, List.sum_cons]

/-- Forests have the same outlines if they have as many trees and those that meet have the same outline. -/
theorem outlineAll_eq_iff {hs gs : List Heading} : outlineAll hs = outlineAll gs ↔
    hs.length = gs.length ∧ ∀ pair ∈ hs.zip gs, pair.1.outline = pair.2.outline := by
  rw [outlineAll_eq_map, outlineAll_eq_map, ← List.forall₂_eq_eq_eq, List.forall₂_map_left_iff,
    List.forall₂_map_right_iff, List.forall₂_iff_zip, Prod.forall]

/-- Two trees have the same outline if they are alike and their subheadings that meet have the same
outline. -/
theorem outline_eq_iff {a b : Heading} : a.outline = b.outline ↔
    alike a b = true ∧ ∀ pair ∈ a.children.zip b.children, pair.1.outline = pair.2.outline := by
  obtain ⟨level, pages, children⟩ := a
  obtain ⟨level', pages', children'⟩ := b
  simp only [outline, alike, Outline.node.injEq, outlineAll_eq_iff, Bool.and_eq_true,
    decide_eq_true_eq, beq_iff_eq, and_assoc]

/-- The walk compares the outlines of all pairs that are still to compare. -/
theorem sameAll_iff (toCompare : List (Heading × Heading)) :
    sameAll toCompare = true ↔ ∀ pair ∈ toCompare, pair.1.outline = pair.2.outline := by
  fun_induction sameAll toCompare with
  | case1 => simp
  | case2 a b rest halike ih =>
    rw [ih, List.forall_mem_append, List.forall_mem_cons, outline_eq_iff, halike]
    simp
  | case3 a b rest hdiffer =>
    rw [List.forall_mem_cons, outline_eq_iff]
    simp [hdiffer]

theorem sameShape_iff {a b : Heading} : sameShape a b = true ↔ a.outline = b.outline := by
  rw [sameShape, sameAll_iff, List.forall_mem_singleton]

/-- Two headings are alike if they agree in their parts. -/
theorem alike_iff {a b : Heading} : alike a b = true ↔
    a.level.key = b.level.key ∧ a.level.sortKey = b.level.sortKey ∧
      a.pages.length = b.pages.length ∧ a.children.length = b.children.length := by
  obtain ⟨⟨key, sortKey⟩, pages, children⟩ := a
  obtain ⟨⟨key', sortKey'⟩, pages', children'⟩ := b
  simp only [alike, Level.mk.injEq, Bool.and_eq_true, decide_eq_true_eq, beq_iff_eq, and_assoc]

/-- Trees have the same shape if they are alike and their subheadings have the same shape in turn. -/
theorem sameShape_iff_children {a b : Heading} : sameShape a b = true ↔
    alike a b = true ∧ List.Forall₂ (fun c d => sameShape c d = true) a.children b.children := by
  rw [sameShape_iff, outline_eq_iff, List.forall₂_iff_zip]
  constructor
  · rintro ⟨halike, hchildren⟩
    obtain ⟨-, -, -, hlength⟩ := alike_iff.1 halike
    exact ⟨halike, hlength, fun hmem => sameShape_iff.2 (hchildren _ hmem)⟩
  · rintro ⟨halike, -, hchildren⟩
    exact ⟨halike, fun pair hmem => sameShape_iff.1 (hchildren hmem)⟩

/-- The walks compute what recursion on the tree does.  A tree has one heading more than its subheadings
together.  Two trees have the same shape if their keys, their sort keys and the numbers of their pages and
of their subheadings agree, and their subheadings have the same shape one by one.  This is an equivalence,
and nothing but the outlines of the trees matters for it. -/
theorem walks_recursive :
    (∀ h : Heading, h.totalLen = 1 + (h.children.map totalLen).sum) ∧
      (∀ a b : Heading, sameShape a b = true ↔
        a.level.key = b.level.key ∧ a.level.sortKey = b.level.sortKey ∧
          a.pages.length = b.pages.length ∧ a.children.length = b.children.length ∧
          List.Forall₂ (fun c d => sameShape c d = true) a.children b.children) ∧
      Equivalence (fun a b => sameShape a b = true) ∧
      ∀ a b : Heading, sameShape a b = true ↔ a.outline = b.outline := by
  refine ⟨?_, ?_, ?_, fun _ _ => sameShape_iff⟩
  · intro h
    rw [show totalLen = size from funext totalLen_eq_size, size_eq, sizeAll_eq_sum, Nat.add_comm]
  · intro a b
    rw [sameShape_iff_children, alike_iff]
    simp only [and_assoc]
  · constructor
    · exact fun a => sameShape_iff.2 rfl
    · exact fun h => sameShape_iff.2 (sameShape_iff.1 h).symm
    · exact fun h h' => sameShape_iff.2 ((sameShape_iff.1 h).trans (sameShape_iff.1 h'))

end Heading

end BookIndex
