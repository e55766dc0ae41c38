import BookIndex.Proofs.Fragment.Leaves
import BookIndex.Proofs.Fragment.Placeholder
import Mathlib.Data.List.Basic

/-!
# Fragment.Filled — what filling a placeholder does to the leaves

A fragment holds a placeholder where one is among its leaves.  Filling the first one puts the characters
of the text in the place of that leaf and leaves all others as they are, so there is one placeholder less.
-/

namespace BookIndex

/-! ### Placeholders among the leaves -/

theorem Leaf.pageNumber_notMem_ofText (s : String) : Leaf.pageNumber ∉ Leaf.ofText s := by
  simp [Leaf.ofText]

mutual

theorem Inline.hasPageNumber_iff : ∀ node : Inline,
    node.hasPageNumber = true ↔ Leaf.pageNumber ∈ node.leaves
  | .text s => by simp [Inline.hasPageNumber, Inline.leaves, Leaf.pageNumber_notMem_ofText]
  | .command _ args => by
    rw [Inline.hasPageNumber, Inline.leaves]
    exact Fragment.hasPageNumberArgs_iff args
  | .group body => by
    rw [Inline.hasPageNumber, Inline.leaves]
    exact Fragment.hasPageNumber_iff body
  | .pageNumber => by simp [Inline.hasPageNumber, Inline.leaves]

/-- A fragment holds a placeholder exactly if one is among its leaves. -/
theorem Fragment.hasPageNumber_iff : ∀ f : Fragment,
    Fragment.hasPageNumber f = true ↔ Leaf.pageNumber ∈ Fragment.leaves f
  | [] => by simp [Fragment.hasPageNumber, Fragment.leaves]
  | node :: rest => by
    have hnode := Inline.hasPageNumber_iff node
    have hrest := Fragment.hasPageNumber_iff rest
    rw [Fragment.hasPageNumber, Fragment.leaves, Bool.or_eq_true, List.mem_append, hnode, hrest]

theorem Fragment.hasPageNumberArgs_iff : ∀ args : List Fragment,
    Fragment.hasPageNumberArgs args = true ↔ Leaf.pageNumber ∈ Fragment.leavesArgs args
  | [] => by simp [Fragment.hasPageNumberArgs, Fragment.leavesArgs]
  | arg :: rest => by
    have harg := Fragment.hasPageNumber_iff arg
    have hrest := Fragment.hasPageNumberArgs_iff rest
    rw [Fragment.hasPageNumberArgs, Fragment.leavesArgs, Bool.or_eq_true, List.mem_append, harg, hrest]

end

/-- The number of placeholders of a fragment, at any depth. -/
def Fragment.placeholders (f : Fragment) : Nat :=
  (Fragment.leaves f).count .pageNumber

theorem Fragment.hasPageNumber_eq_false_iff {f : Fragment} :
    Fragment.hasPageNumber f = false ↔ Fragment.placeholders f = 0 := by
  rw [placeholders, List.count_eq_zero, ← hasPageNumber_iff, Bool.not_eq_true]

/-! ### Filling -/

/-- The second leaves are the first ones with the first placeholder turned into the text `s`. -/
def Leaf.Filled (s : String) (ls ms : List Leaf) : Prop :=
  ∃ before after, ls = before ++ .pageNumber :: after ∧ .pageNumber ∉ before ∧
    ms = before ++ Leaf.ofText s ++ after

namespace Leaf.Filled

variable {s : String} {ls ms : List Leaf}

theorem append_left {ks : List Leaf} (hks : Leaf.pageNumber ∉ ks) (h : Filled s ls ms) :
    Filled s (ks ++ ls) (ks ++ ms) := by
  obtain ⟨before, after, rfl, hbefore, rfl⟩ := h
  exact ⟨ks ++ before, after, by simp, by simp [hks, hbefore], by simp⟩

theorem append_right (h : Filled s ls ms) (ks : List Leaf) : Filled s (ls ++ ks) (ms ++ ks) := by
  obtain ⟨before, after, rfl, hbefore, rfl⟩ := h
  exact ⟨before, after ++ ks, by simp, hbefore, by simp⟩

/-- Filling takes one placeholder away and no other. -/
theorem count_eq (h : Filled s ls ms) : ls.count .pageNumber = ms.count .pageNumber + 1 := by
  obtain ⟨before, after, rfl, -, rfl⟩ := h
  have htext : (Leaf.ofText s).count .pageNumber = 0 :=
    List.count_eq_zero.2 (pageNumber_notMem_ofText s)
  rw [List.count_append, List.count_cons_self, List.count_append, List.count_append, htext]
  omega

end Leaf.Filled

theorem Inline.notMem_leaves {node : Inline} (h : node.hasPageNumber = false) :
    Leaf.pageNumber ∉ node.leaves := by
  rw [← hasPageNumber_iff, h]
  exact Bool.false_ne_true

theorem Fragment.notMem_leaves {f : Fragment} (h : Fragment.hasPageNumber f = false) :
    Leaf.pageNumber ∉ Fragment.leaves f := by
  rw [← hasPageNumber_iff, h]
  exact Bool.false_ne_true

mutual

theorem Inline.FirstFilled.filled_leaves {s : String} {node node' : Inline} :
    Inline.FirstFilled s node node' → Leaf.Filled s node.leaves node'.leaves
  | .pageNumber => ⟨[], [], rfl, by simp, by simp [Inline.leaves]⟩
  | .command h => h.filled_leavesArgs
  | .group h => h.filled_leaves

/-- Filling the first placeholder of a fragment fills the first one among its leaves. -/
theorem Fragment.FirstFilled.filled_leaves {s : String} {f g : Fragment} :
    Fragment.FirstFilled s f g → Leaf.Filled s (Fragment.leaves f) (Fragment.leaves g)
  | .head rest h => h.filled_leaves.append_right (Fragment.leaves rest)
  | .tail hnode h => h.filled_leaves.append_left (Inline.notMem_leaves hnode)

theorem Fragment.FirstFilledArgs.filled_leavesArgs {s : String} {as bs : List Fragment} :
    Fragment.FirstFilledArgs s as bs →
      Leaf.Filled s (Fragment.leavesArgs as) (Fragment.leavesArgs bs)
  | .head rest h => h.filled_leaves.append_right (Fragment.leavesArgs rest)
  | .tail harg h => h.filled_leavesArgs.append_left (Fragment.notMem_leaves harg)

end

/-- Filling leaves one placeholder less. -/
theorem Fragment.placeholders_of_fill? {s : String} {f g : Fragment}
    (h : Fragment.fill? s f = some g) : Fragment.placeholders f = Fragment.placeholders g + 1 :=
  (Fragment.firstFilled_of_fill?_eq_some h).filled_leaves.count_eq

end BookIndex
