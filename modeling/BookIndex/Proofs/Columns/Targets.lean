import BookIndex.Proofs.Columns.Order
import Mathlib.Tactic.ByContra

/-!
# Columns.Targets — which columns outweigh the target

Where the weights of all items add up to a number of 64 bits, no sum wraps around, and a column weighs
what its items do (`total`).  `Placed` spells out the four things that one more item can do then.  A
column that has been left holds a single item or weighs no more than the target, and only the last column
that may be opened takes more (`Kept`).  So where a column of several items outweighs the target, all
columns have been opened.

That does not mean that all of them are in use.  An item heavier than the target that comes to an empty
column opens the next one, and the empty column counts as opened though it stays empty.  `passedOver`
counts such columns: as long as there are more empty columns than these, no column of several items
outweighs the target.
-/

namespace BookIndex.Columns

variable {α : Type}

/-! ### Sums that fit -/

/-- The weight of all items together, however large. -/
def total (weight : α → Nat) : List α → Nat
  | [] => 0
  | item :: items => weight item + total weight items

section Total

variable (weight : α → Nat)

@[simp] theorem total_nil : total weight [] = 0 := rfl

@[simp] theorem total_cons (item : α) (items : List α) :
    total weight (item :: items) = weight item + total weight items := rfl

theorem total_append (items items' : List α) :
    total weight (items ++ items') = total weight items + total weight items' := by
  induction items with
  | nil => simp
  | cons item items ih => rw [List.cons_append, total_cons, total_cons, ih, Nat.add_assoc]

/-- The items of the open column weigh no more than all items. -/
theorem total_column_le (cols : Nat) (goal : UInt64) (items : List α) :
    total weight (filling weight cols goal items).column ≤ total weight items := by
  have hflatten := congrArg (total weight) (flatten_filling weight cols goal items)
  rw [List.flatten_cons, total_append] at hflatten
  omega

variable {weight} {items : List α}

theorem total_lt_of_cons {item : α} (hfit : total weight (item :: items) < UInt64.size) :
    total weight items < UInt64.size :=
  Nat.lt_of_le_of_lt (Nat.le_add_left _ _) hfit

variable (hfit : total weight items < UInt64.size)

include hfit

theorem toNat_sum : (sum weight items).toNat = total weight items := by
  induction items with
  | nil => rfl
  | cons item items ih =>
    have hitems := ih (total_lt_of_cons hfit)
    rw [total_cons] at hfit ⊢
    rw [sum, UInt64.toNat_add, UInt64.toNat_ofNat_of_lt' (by omega), hitems, Nat.mod_eq_of_lt hfit]

theorem toNat_target (cols : Nat) : (target weight cols items).toNat = total weight items / cols := by
  have hle := Nat.div_le_self (total weight items) cols
  rw [target, toNat_sum hfit, UInt64.toNat_ofNat_of_lt' (by omega)]

end Total

section Target

/-! ### One item more -/

/-- What an item does to columns under way. -/
inductive Placed (weight : α → Nat) (cols target : Nat) (item : α) (s : Filling α) :
    Filling α → Prop
  /-- No other column may be opened. -/
  | absorbed : cols ≤ s.after.length + 1 →
    Placed weight cols target item s ⟨item :: s.column, s.after, s.weight + .ofNat (weight item)⟩
  /-- The item is too heavy for the open column and starts the next one. -/
  | opened : s.after.length + 1 < cols → target < total weight (item :: s.column) →
    Placed weight cols target item s ⟨[item], s.column :: s.after, .ofNat (weight item)⟩
  /-- The item makes the open column meet the target, so the column is left. -/
  | met : s.after.length + 1 < cols → total weight (item :: s.column) = target →
    Placed weight cols target item s ⟨[], (item :: s.column) :: s.after, 0⟩
  /-- There is still room in the open column. -/
  | joined : s.after.length + 1 < cols → total weight (item :: s.column) < target →
    Placed weight cols target item s ⟨item :: s.column, s.after, s.weight + .ofNat (weight item)⟩

variable {weight : α → Nat} {cols : Nat}

/-- If the open column weighs what its items do, and still does with one item more, then nothing wraps
around. -/
theorem toNat_weight_add {item : α} {s : Filling α} (hs : s.weight.toNat = total weight s.column)
    (hfit : total weight (item :: s.column) < UInt64.size) :
    (s.weight + .ofNat (weight item)).toNat = total weight (item :: s.column) := by
  rw [total_cons] at hfit ⊢
  rw [UInt64.toNat_add, UInt64.toNat_ofNat_of_lt' (by omega), hs, Nat.add_comm, Nat.mod_eq_of_lt hfit]

theorem placed_step {goal : UInt64} {item : α} {s : Filling α}
    (hs : s.weight.toNat = total weight s.column)
    (hfit : total weight (item :: s.column) < UInt64.size) :
    Placed weight cols goal.toNat item s (step weight cols goal item s) := by
  have hsum := toNat_weight_add hs hfit
  unfold step
  dsimp only
  split_ifs with hlast hover hmeets
  · exact .absorbed hlast
  · rw [UInt64.lt_iff_toNat_lt, hsum] at hover
    exact .opened (by omega) hover
  · rw [← UInt64.toNat_inj, hsum] at hmeets
    exact .met (by omega) hmeets
  · rw [UInt64.lt_iff_toNat_lt, hsum] at hover
    rw [← UInt64.toNat_inj, hsum] at hmeets
    exact .joined (by omega) (by omega)

/-! ### What is kept of the target -/

variable {target : Nat}

/-- The column holds a single item, or it weighs no more than the target. -/
def Within (weight : α → Nat) (target : Nat) (column : List α) : Prop :=
  1 < column.length → total weight column ≤ target

theorem within_nil : Within weight target [] :=
  fun h => absurd h (by simp)

theorem within_singleton (item : α) : Within weight target [item] :=
  fun h => absurd h (by simp)

theorem Within.of_le {column : List α} (h : total weight column ≤ target) :
    Within weight target column :=
  fun _ => h

/-- What holds of columns under way. -/
structure Kept (weight : α → Nat) (cols target : Nat) (s : Filling α) : Prop where
  weight_eq : s.weight.toNat = total weight s.column
  after_within : ∀ column ∈ s.after, Within weight target column
  /-- The open column keeps the target too, unless it is the last one. -/
  column_within : s.after.length + 1 < cols → Within weight target s.column

theorem Kept.of_placed {item : α} {s s' : Filling α} (hs : Kept weight cols target s)
    (hfit : total weight (item :: s.column) < UInt64.size)
    (h : Placed weight cols target item s s') : Kept weight cols target s' := by
  obtain ⟨hweight, hafter, hcolumn⟩ := hs
  have hsum := toNat_weight_add hweight hfit
  cases h with
  | absorbed hlast => exact ⟨hsum, hafter, fun hmore => absurd hmore (Nat.not_lt.2 hlast)⟩
  | opened hmore _ =>
    have hown : (UInt64.ofNat (weight item)).toNat = weight item := by
      rw [total_cons] at hfit
      exact UInt64.toNat_ofNat_of_lt' (by omega)
    refine ⟨hown, ?_, fun _ => within_singleton item⟩
    exact List.forall_mem_cons.2 ⟨hcolumn hmore, hafter⟩
  | met hmore hmeets =>
    refine ⟨rfl, ?_, fun _ => within_nil⟩
    exact List.forall_mem_cons.2 ⟨.of_le (Nat.le_of_eq hmeets), hafter⟩
  | joined hmore hroom => exact ⟨hsum, hafter, fun _ => .of_le (Nat.le_of_lt hroom)⟩

/-! ### From item to item -/

section Run

variable {item : α} {items : List α}

/-- The items of the open column fit with the item that comes next. -/
theorem total_cons_column_lt (cols : Nat) (goal : UInt64)
    (hfit : total weight (item :: items) < UInt64.size) :
    total weight (item :: (filling weight cols goal items).column) < UInt64.size := by
  have hle := total_column_le weight cols goal items
  rw [total_cons] at hfit ⊢
  omega

theorem kept_filling (cols : Nat) (goal : UInt64) (hfit : total weight items < UInt64.size) :
    Kept weight cols goal.toNat (filling weight cols goal items) := by
  induction items with
  | nil => exact ⟨rfl, List.forall_mem_nil _, fun _ => within_nil⟩
  | cons item items ih =>
    have hkept := ih (total_lt_of_cons hfit)
    have hnext := total_cons_column_lt cols goal hfit
    exact hkept.of_placed hnext (placed_step hkept.weight_eq hnext)

theorem placed_filling_cons (cols : Nat) (goal : UInt64)
    (hfit : total weight (item :: items) < UInt64.size) :
    Placed weight cols goal.toNat item (filling weight cols goal items)
      (filling weight cols goal (item :: items)) :=
  placed_step (kept_filling cols goal (total_lt_of_cons hfit)).weight_eq
    (total_cons_column_lt cols goal hfit)

end Run

/-! ### Columns that are passed over -/

/-- Only an item heavier than the target leaves an empty column. -/
theorem Placed.countP_isEmpty_le {item : α} {s s' : Filling α}
    (h : Placed weight cols target item s s') : s'.after.countP List.isEmpty ≤
      s.after.countP List.isEmpty + if target < weight item then 1 else 0 := by
  cases h with
  | absorbed _ => exact Nat.le_add_right ..
  | opened _ hover =>
    rw [List.countP_cons]
    refine Nat.add_le_add_left ?_ _
    by_cases hempty : s.column = []
    · have hheavy : target < weight item := by simpa [hempty] using hover
      simp [hempty, hheavy]
    · simp [hempty]
  | met _ _ => simp
  | joined _ _ => exact Nat.le_add_right ..

theorem countP_isEmpty_filling_le {goal : UInt64} {items : List α}
    (hfit : total weight items < UInt64.size) :
    (filling weight cols goal items).after.countP List.isEmpty ≤
      items.countP (goal.toNat < weight ·) := by
  induction items with
  | nil => simp [filling, start]
  | cons item items ih =>
    have hstep := (placed_filling_cons cols goal hfit).countP_isEmpty_le
    rw [List.countP_cons]
    simp only [decide_eq_true_eq]
    exact Nat.le_trans hstep (Nat.add_le_add_right (ih (total_lt_of_cons hfit)) _)

end Target

/-! ### Columns in use -/

/-- The number of columns that `split` opens and leaves empty. -/
def passedOver (weight : α → Nat) (cols : Nat) (items : List α) : Nat :=
  (filling weight (max cols 1) (target weight (max cols 1) items) items).after.countP List.isEmpty

/-- The columns that are not in use are empty. -/
theorem countP_isEmpty_split (weight : α → Nat) (cols : Nat) (items : List α) :
    (split weight cols items).countP List.isEmpty =
      max cols 1 - (fill weight (max cols 1) (target weight (max cols 1) items) items).length := by
  have hused : (fill weight (max cols 1) (target weight (max cols 1) items) items).countP
      List.isEmpty = 0 := by
    rw [List.countP_eq_zero]
    intro column hcolumn
    simpa using (mem_fill_iff.1 hcolumn).2
  rw [split_eq, List.countP_append, hused, Nat.zero_add, List.countP_replicate]
  rfl

/-- Where a column of several items outweighs the goal, all columns were opened: they are those in use and
those passed over. -/
theorem length_fill_add_of_not_within {weight : α → Nat} {cols : Nat} (hcols : 0 < cols) {goal : UInt64}
    {items column : List α} (hfit : total weight items < UInt64.size)
    (hcolumn : column ∈ fill weight cols goal items) (hover : ¬ Within weight goal.toNat column) :
    (fill weight cols goal items).length + (filling weight cols goal items).after.countP List.isEmpty =
      cols := by
  have hkept := kept_filling cols goal hfit
  obtain ⟨hmem, hne⟩ := mem_fill_iff.1 hcolumn
  -- Of the columns that were opened only the last one can outweigh the goal.
  have hopen : (filling weight cols goal items).column = column := by
    rcases List.mem_cons.1 hmem with rfl | hafter
    · rfl
    · exact absurd (hkept.after_within column hafter) hover
  have hlast : (filling weight cols goal items).after.length + 1 = cols := by
    by_contra hmore
    have hlength := length_after_filling_lt weight goal hcols items
    exact hover (hopen ▸ hkept.column_within (by omega))
  have hlength : (fill weight cols goal items).length + _ = _ := length_fill_add
  rwa [hlast, List.countP_cons, hopen, if_neg (by simpa using hne)] at hlength

/-- In that case the empty columns of the split are those passed over. -/
theorem countP_isEmpty_split_of_not_within {weight : α → Nat} {cols : Nat} {items column : List α}
    (hfit : total weight items < UInt64.size) (hcolumn : column ∈ split weight cols items)
    (hover : ¬ Within weight (target weight (max cols 1) items).toNat column) :
    (split weight cols items).countP List.isEmpty = passedOver weight cols items := by
  have hfill : column ∈ fill weight (max cols 1) (target weight (max cols 1) items) items := by
    rw [split_eq, List.mem_append] at hcolumn
    refine hcolumn.resolve_right fun h => hover ?_
    rw [List.eq_of_mem_replicate h]
    exact within_nil
  have hlength := length_fill_add_of_not_within (show 0 < max cols 1 by omega) hfit hfill hover
  rw [countP_isEmpty_split, passedOver]
  omega

/-- Let the weights add up to a number of 64 bits.  As long as more columns are empty than were passed
over, no column of several items outweighs the target.  A column is passed over only for an item that is
heavier than the target by itself. -/
theorem within_target_of_free_column (weight : α → Nat) (cols : Nat) (items : List α)
    (hfit : total weight items < UInt64.size) :
    passedOver weight cols items ≤ items.countP (total weight items / max cols 1 < weight ·) ∧
      (passedOver weight cols items < (split weight cols items).countP List.isEmpty →
        ∀ column ∈ split weight cols items, 1 < column.length →
          total weight column ≤ total weight items / max cols 1) := by
  rw [← toNat_target hfit]
  constructor
  · exact countP_isEmpty_filling_le hfit
  · intro hfree column hcolumn
    by_contra hover
    rw [countP_isEmpty_split_of_not_within hfit hcolumn hover] at hfree
    exact Nat.lt_irrefl _ hfree

/-- One column is passed over for the last item, and two are empty. -/
theorem within_target_of_free_column_heavy : total id [1, 1, 9] < UInt64.size ∧
    passedOver id 4 [1, 1, 9] < (split id 4 [1, 1, 9]).countP List.isEmpty ∧
      [1, 1] ∈ split id 4 [1, 1, 9] ∧ total id [1, 1] ≤ 11 / 4 := by
  have hfit : total id [1, 1, 9] < UInt64.size := by decide
  have hfree : passedOver id 4 [1, 1, 9] < (split id 4 [1, 1, 9]).countP List.isEmpty := by decide
  have hcolumn : [1, 1] ∈ split id 4 [1, 1, 9] := by decide
  have hwithin := (within_target_of_free_column id 4 [1, 1, 9] hfit).2 hfree [1, 1] hcolumn (by decide)
  exact ⟨hfit, hfree, hcolumn, hwithin⟩

/-- A column that is passed over is not used again, not even where the last column has several items
and outweighs the target. -/
theorem overflows_beside_free_column : ¬ ∀ (weight : Nat → Nat) (cols : Nat) (items : List Nat),
    total weight items < UInt64.size → (∀ item ∈ items, 0 < weight item) →
      [] ∈ split weight cols items → ∀ column ∈ split weight cols items, 1 < column.length →
        total weight column ≤ total weight items / max cols 1 := by
  intro hall
  have hcolumns : split id 2 [1, 5] = [[1, 5], []] := by decide
  have hle := hall id 2 [1, 5] (by decide) (by decide) (by simp [hcolumns]) [1, 5] (by simp [hcolumns])
    (by decide)
  have hover : total id [1, 5] / max 2 1 < total id [1, 5] := by decide
  exact Nat.not_lt.2 hle hover

end BookIndex.Columns
