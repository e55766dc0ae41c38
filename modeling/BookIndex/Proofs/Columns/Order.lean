import BookIndex.Columns
import Mathlib.Tactic.SplitIfs

/-!
# Columns.Order — columns hold the items in their order

An item goes to the front of the open column, or to the front of a new one before all others.  So
read from left to right the columns are the items placed so far (`flatten_filling`), and the empty
columns that `split` drops and adds do not matter to that.  No more columns are opened than there may
be (`length_after_filling_lt`).  None of this depends on what the items weigh.
-/

namespace BookIndex.Columns

variable {α : Type} (weight : α → Nat)

/-! ### Columns under way -/

section Filling

variable (cols : Nat) (goal : UInt64)

/-- The columns under way after these items. -/
def filling (items : List α) : Filling α :=
  items.foldr (step weight cols goal) start

theorem flatten_step (item : α) (s : Filling α) :
    ((step weight cols goal item s).column :: (step weight cols goal item s).after).flatten =
      item :: (s.column :: s.after).flatten := by
  unfold step
  dsimp only
  split_ifs <;> simp

theorem flatten_filling (items : List α) :
    ((filling weight cols goal items).column :: (filling weight cols goal items).after).flatten =
      items := by
  induction items with
  | nil => rfl
  | cons item items ih =>
    rw [filling, List.foldr_cons, flatten_step]
    exact congrArg (item :: ·) ih

/-- A column is opened only if there may be another one. -/
theorem length_after_step_lt {item : α} {s : Filling α} (hs : s.after.length < cols) :
    (step weight cols goal item s).after.length < cols := by
  unfold step
  dsimp only
  split_ifs with hlast hover hmeets
  · exact hs
  · exact Nat.lt_of_not_le hlast
  · exact Nat.lt_of_not_le hlast
  · exact hs

theorem length_after_filling_lt {cols : Nat} (hcols : 0 < cols) (items : List α) :
    (filling weight cols goal items).after.length < cols := by
  induction items with
  | nil => exact hcols
  | cons item items ih => exact length_after_step_lt weight cols goal ih

end Filling

/-! ### Columns in use -/

section InUse

variable {weight} {cols : Nat} {goal : UInt64} {items : List α}

theorem mem_fill_iff {column : List α} : column ∈ fill weight cols goal items ↔
    column ∈ (filling weight cols goal items).column :: (filling weight cols goal items).after ∧
      column ≠ [] := by
  rw [fill, filling, List.mem_filter]
  simp

/-- The columns that were opened are those in use and those left empty. -/
theorem length_fill_add : (fill weight cols goal items).length +
    ((filling weight cols goal items).column ::
      (filling weight cols goal items).after).countP List.isEmpty =
    (filling weight cols goal items).after.length + 1 := by
  have hparts := List.length_eq_countP_add_countP List.isEmpty
    (l := (filling weight cols goal items).column :: (filling weight cols goal items).after)
  have hused : (fill weight cols goal items).length =
      ((filling weight cols goal items).column ::
        (filling weight cols goal items).after).countP fun column => decide ¬ column.isEmpty = true := by
    rw [fill, ← List.countP_eq_length_filter]
    exact List.countP_congr fun column _ => by simp
  rw [hused, Nat.add_comm, ← hparts, List.length_cons]

end InUse

variable (cols : Nat) (items : List α)

theorem split_eq : split weight cols items =
    fill weight (max cols 1) (target weight (max cols 1) items) items ++
      List.replicate (max cols 1 -
        (fill weight (max cols 1) (target weight (max cols 1) items) items).length) [] := rfl

/-- Reading the columns from left to right gives back the items. -/
theorem flatten_split : (split weight cols items).flatten = items := by
  have hfilled : (fill weight (max cols 1) (target weight (max cols 1) items) items).flatten =
      items := by
    unfold fill
    rw [List.flatten_filter_not_isEmpty]
    exact flatten_filling weight _ _ items
  rw [split_eq, List.flatten_append, hfilled]
  simp

end BookIndex.Columns
