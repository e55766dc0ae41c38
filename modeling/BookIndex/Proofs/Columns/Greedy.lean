import BookIndex.Proofs.Columns.Targets
import Mathlib.Data.List.Chain

/-!
# Columns.Greedy — a column takes all it can

A column is left when it meets the target, or when the item before it would lift it above the target.
So as long as no sum wraps around, every column in use but the first one is full: it keeps the target, and
with one item more it would not, unless it meets the target as it is (`isChain_full_split`).

The items still to come stand before the open column, and that column may be empty.  Then the column
after it met the target, so it is full whatever item comes to stand before it.
-/

namespace BookIndex.Columns

variable {α : Type}

section Target

variable {weight : α → Nat} {cols target : Nat}

/-- The column can take none of the items before it. -/
structure Full (weight : α → Nat) (target : Nat) (before column : List α) : Prop where
  within : Within weight target column
  /-- It meets the target, or the item just before it would lift it above. -/
  takes_no_more : total weight column = target ∨
    ∃ item ∈ before.getLast?, target < weight item + total weight column

theorem Full.of_meets {column : List α} (hmeets : total weight column = target)
    (before : List α) : Full weight target before column :=
  ⟨.of_le (Nat.le_of_eq hmeets), .inl hmeets⟩

/-- An item in front of those before the column is not the one just before it. -/
theorem Full.cons {before column : List α} (h : Full weight target before column) (item : α) :
    Full weight target (item :: before) column := by
  refine ⟨h.within, h.takes_no_more.imp_right ?_⟩
  rintro ⟨last, hlast, hover⟩
  refine ⟨last, ?_, hover⟩
  rw [List.getLast?_cons, hlast]
  rfl

theorem isChain_full_cons {column : List α} {columns : List (List α)}
    (h : (column :: columns).IsChain (Full weight target)) (item : α) :
    ((item :: column) :: columns).IsChain (Full weight target) := by
  rw [List.isChain_cons] at h ⊢
  exact ⟨fun next hnext => (h.1 next hnext).cons item, h.2⟩

/-- The columns in use that have been left. -/
def Filling.leftInUse (s : Filling α) : List (List α) :=
  s.after.filter fun column => !column.isEmpty

/-- One item more keeps the columns full, the open one apart. -/
theorem Placed.isChain_full {item : α} {s s' : Filling α} (hs : Kept weight cols target s)
    (h : Placed weight cols target item s s')
    (hfull : (s.column :: s.leftInUse).IsChain (Full weight target)) :
    (s'.column :: s'.leftInUse).IsChain (Full weight target) := by
  have hitem := isChain_full_cons hfull item
  cases h with
  | absorbed _ => exact hitem
  | joined _ _ => exact hitem
  | opened hmore hover =>
    by_cases hempty : s.column = []
    · -- The empty column is passed over, and the item stands before those after it.
      simpa [Filling.leftInUse, hempty] using hitem
    · have hcolumn : Full weight target [item] s.column :=
        ⟨hs.column_within hmore, .inr ⟨item, rfl, hover⟩⟩
      have hchain := List.isChain_cons_cons.2 ⟨hcolumn, hfull⟩
      simpa [Filling.leftInUse, hempty] using hchain
  | met _ hmeets =>
    have hcolumn : Full weight target [] (item :: s.column) := .of_meets hmeets []
    have hchain := List.isChain_cons_cons.2 ⟨hcolumn, hitem⟩
    simpa [Filling.leftInUse] using hchain

variable {goal : UInt64} {items : List α}

theorem isChain_full_filling (hfit : total weight items < UInt64.size) :
    ((filling weight cols goal items).column :: (filling weight cols goal items).leftInUse).IsChain
      (Full weight goal.toNat) := by
  induction items with
  | nil => exact List.isChain_singleton []
  | cons item items ih =>
    have hrest : total weight items < UInt64.size := total_lt_of_cons hfit
    exact (placed_filling_cons cols goal hfit).isChain_full (kept_filling cols goal hrest) (ih hrest)

theorem fill_eq (items : List α) : fill weight cols goal items =
    if !(filling weight cols goal items).column.isEmpty then
      (filling weight cols goal items).column :: (filling weight cols goal items).leftInUse
    else (filling weight cols goal items).leftInUse := by
  unfold fill
  rw [List.filter_cons]
  rfl

theorem isChain_full_fill (hfit : total weight items < UInt64.size) :
    (fill weight cols goal items).IsChain (Full weight goal.toNat) := by
  have hchain : ((filling weight cols goal items).column ::
      (filling weight cols goal items).leftInUse).IsChain (Full weight goal.toNat) :=
    isChain_full_filling hfit
  rw [fill_eq]
  split
  · exact hchain
  · exact hchain.tail

end Target

/-- Let the weights add up to a number of 64 bits.  Every column in use but the first one weighs no more
than the target or holds a single item.  It meets the target, or the last item of the column before would
lift it above. -/
theorem isChain_full_split (weight : α → Nat) (cols : Nat) (items : List α)
    (hfit : total weight items < UInt64.size) :
    (split weight cols items).IsChain fun before column => column ≠ [] →
      (total weight column ≤ total weight items / max cols 1 ∨ ∃ item, column = [item]) ∧
      (total weight column = total weight items / max cols 1 ∨ ∃ item ∈ before.getLast?,
        total weight items / max cols 1 < weight item + total weight column) := by
  have hfill : (fill weight (max cols 1) (target weight (max cols 1) items) items).IsChain
      (Full weight (total weight items / max cols 1)) := by
    rw [← toNat_target hfit]
    exact isChain_full_fill hfit
  rw [split_eq]
  refine List.IsChain.append ?used ?empty ?joint
  case used =>
    refine hfill.imp fun before column h hne => ⟨?_, h.takes_no_more⟩
    by_cases hlength : 1 < column.length
    · exact .inl (h.within hlength)
    · have hpos := List.length_pos_iff.2 hne
      exact .inr (List.length_eq_one_iff.1 (by omega))
  case empty =>
    exact List.isChain_replicate_of_rel _ fun hne => absurd rfl hne
  case joint =>
    intro before _ column hcolumn hne
    exact absurd (List.eq_of_mem_replicate (List.mem_of_mem_head? hcolumn)) hne

/-- The last column and the one before it could not take another item, and the first one takes the rest,
which is more than the target. -/
theorem isChain_full_split_rest : total id [6, 3, 3, 2] < UInt64.size ∧
    split id 3 [6, 3, 3, 2] = [[6, 3], [3], [2]] ∧
    [[6, 3], [3], [2]].IsChain fun before column => column ≠ [] →
      (total id column ≤ total id [6, 3, 3, 2] / max 3 1 ∨ ∃ item, column = [item]) ∧
      (total id column = total id [6, 3, 3, 2] / max 3 1 ∨ ∃ item ∈ before.getLast?,
        total id [6, 3, 3, 2] / max 3 1 < id item + total id column) := by
  have hfit : total id [6, 3, 3, 2] < UInt64.size := by decide
  have hsplit : split id 3 [6, 3, 3, 2] = [[6, 3], [3], [2]] := by decide
  exact ⟨hfit, hsplit, hsplit ▸ isChain_full_split id 3 [6, 3, 3, 2] hfit⟩

/-- Where the weights do not fit, a column may take items until its sum is zero again. -/
example : split id 3 [6, 2 ^ 63, 2 ^ 63] = [[6], [2 ^ 63, 2 ^ 63], []] := by
  decide

end BookIndex.Columns
