import BookIndex.Proofs.Columns.Order
import Mathlib.Data.List.Pairwise

/-!
# Columns.Partition — every item in its place, and every column counted

No more columns are opened than there may be, so those in use and the empty ones behind them are as
many as were asked for (`length_split`).  The columns in use come first (`pairwise_split`).
-/

namespace BookIndex.Columns

variable {α : Type} (weight : α → Nat) (cols : Nat) (items : List α)

theorem length_fill_le {cols : Nat} (hcols : 0 < cols) (goal : UInt64) :
    (fill weight cols goal items).length ≤ cols := by
  have hopened := length_after_filling_lt weight goal hcols items
  have hlength : (fill weight cols goal items).length + _ = _ := length_fill_add
  omega

theorem length_split : (split weight cols items).length = max cols 1 := by
  have hle := length_fill_le weight items (show 0 < max cols 1 by omega)
    (target weight (max cols 1) items)
  rw [split_eq, List.length_append, List.length_replicate]
  omega

/-- After an empty column there are only empty ones. -/
theorem pairwise_split :
    (split weight cols items).Pairwise fun before after => before = [] → after = [] := by
  rw [split_eq, List.pairwise_append]
  refine ⟨?_, ?_, ?_⟩
  · refine List.pairwise_of_forall_mem_list ?_
    intro before hbefore after _ hempty
    exact absurd hempty (mem_fill_iff.1 hbefore).2
  · exact List.pairwise_replicate.2 (.inr fun hempty => hempty)
  · intro before _ after hafter _
    exact List.eq_of_mem_replicate hafter

/-- A split has as many columns as are asked for, or one if none are.  They hold the items in their
order, and those that hold none come last.  That is so whatever the weights are, also where their sum
wraps around. -/
theorem split_partitions : (split weight cols items).length = max cols 1 ∧
    (split weight cols items).flatten = items ∧
    (split weight cols items).Pairwise fun before after => before = [] → after = [] :=
  ⟨length_split weight cols items, flatten_split weight cols items, pairwise_split weight cols items⟩

end BookIndex.Columns
