/-!
# Columns — a list in columns of similar weight

`split` fills columns from the end of a list.  The target weight of a column is the total weight
over the number of columns.  An item that would lift a column above the target starts the next one,
and a column that meets the target is left; the last column to be started takes all that remains.
Read from left to right the columns hold the items in their order, and empty columns stand at the
end.

Weights are taken as numbers of 64 bits and added without a check, so what does not fit wraps
around.
-/

namespace BookIndex

namespace Columns

variable {α : Type}

/-- Columns under way: the open column, those after it, and the weight of the open one. -/
structure Filling (α : Type) where
  column : List α
  after : List (List α)
  weight : UInt64

/-- Before the first item. -/
def start : Filling α := ⟨[], [], 0⟩

/-- The columns after one more item, which stands before all others. -/
def step (weight : α → Nat) (cols : Nat) (target : UInt64) (item : α) (s : Filling α) : Filling α :=
  let own := UInt64.ofNat (weight item)
  let sum := s.weight + own
  if cols ≤ s.after.length + 1 then ⟨item :: s.column, s.after, sum⟩
  else if target < sum then ⟨[item], s.column :: s.after, own⟩
  else if sum = target then ⟨[], (item :: s.column) :: s.after, 0⟩
  else ⟨item :: s.column, s.after, sum⟩

/-- The columns that hold items, in reading order. -/
def fill (weight : α → Nat) (cols : Nat) (target : UInt64) (items : List α) : List (List α) :=
  let s := items.foldr (step weight cols target) start
  (s.column :: s.after).filter fun column => !column.isEmpty

/-- The sum of the weights. -/
def sum (weight : α → Nat) : List α → UInt64
  | [] => 0
  | item :: items => UInt64.ofNat (weight item) + sum weight items

/-- The weight that a column should have. -/
def target (weight : α → Nat) (cols : Nat) (items : List α) : UInt64 :=
  UInt64.ofNat ((sum weight items).toNat / cols)

/-- The items in `cols` columns, or in one if `cols` is zero. -/
def split (weight : α → Nat) (cols : Nat) (items : List α) : List (List α) :=
  let cols := max cols 1
  let filled := fill weight cols (target weight cols items) items
  filled ++ List.replicate (cols - filled.length) []

theorem fill_nil (weight : α → Nat) (cols : Nat) (target : UInt64) :
    fill weight cols target [] = [] := rfl

/-- No items leave all columns empty. -/
theorem split_nil (weight : α → Nat) (cols : Nat) :
    split weight cols [] = List.replicate (max cols 1) [] := by
  simp [split, fill_nil]

end Columns

end BookIndex
