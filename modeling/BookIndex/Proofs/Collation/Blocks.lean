import BookIndex.Proofs.Collation.Sorted

/-!
# Collation.Blocks — sorted entries stand in blocks

Entries whose ordering keys begin with the same levels stand together, since what is between two such
entries begins with these levels too.  Such a block opens with the entries that have no further levels,
in the order in which they were given, whatever the weights of the collation are.
-/

namespace BookIndex

open Std

/-! ### Parts of a list in order -/

section Lists

variable {α : Type} {R : α → α → Prop} {xs : List α}

/-- In a list in order, what has a property stands together if all between has it too. -/
theorem exists_append_filter_append (p : α → Bool) (hsorted : xs.Pairwise R)
    (hbetween : ∀ {x y z}, R x y → R y z → p x = true → p z = true → p y = true) :
    ∃ before after, xs = before ++ xs.filter p ++ after ∧
      ∀ x, x ∈ before ∨ x ∈ after → p x = false := by
  induction xs with
  | nil => exact ⟨[], [], rfl, by simp⟩
  | cons x xs ih =>
    obtain ⟨hx, hxs⟩ := List.pairwise_cons.1 hsorted
    obtain ⟨before, after, heq, hout⟩ := ih hxs
    cases hp : p x with
    | false =>
      refine ⟨x :: before, after, ?_, ?_⟩
      · rw [List.filter_cons_of_neg (by simp [hp]), List.cons_append, List.cons_append, ← heq]
      · intro y hy
        rw [List.mem_cons, or_assoc] at hy
        exact hy.elim (fun h => h ▸ hp) (hout y)
    | true =>
      rw [List.filter_cons_of_pos hp]
      cases hfilter : xs.filter p with
      | nil =>
        refine ⟨[], xs, rfl, fun y hy => ?_⟩
        have hy' : y ∈ xs := by simpa using hy
        exact Bool.eq_false_iff.2 (List.filter_eq_nil_iff.1 hfilter y hy')
      | cons z more =>
        -- Nothing stands before the block, since it would stand between `x` and `z`.
        have hbefore : before = [] := by
          refine List.eq_nil_iff_forall_not_mem.2 fun y hy => ?_
          have hz : z ∈ xs ∧ p z = true := List.mem_filter.1 (hfilter ▸ List.mem_cons_self ..)
          have hyz : R y z := by
            rw [heq, hfilter, List.append_assoc, List.pairwise_append] at hxs
            exact hxs.2.2 y hy z (by simp)
          have hxy : R x y := hx y (by rw [heq]; simp [hy])
          have hpy := hbetween hxy hyz hp hz.2
          rw [hout y (.inl hy)] at hpy
          exact Bool.false_ne_true hpy
        subst hbefore
        refine ⟨[], after, ?_, hout⟩
        rw [← hfilter]
        exact congrArg (x :: ·) heq

/-- What has a property comes first if all before it has it too. -/
theorem eq_filter_append_filter {p : α → Bool}
    (hsorted : xs.Pairwise fun x y => p y = true → p x = true) :
    xs = xs.filter p ++ xs.filter (!p ·) := by
  induction xs with
  | nil => rfl
  | cons x xs ih =>
    obtain ⟨hx, hxs⟩ := List.pairwise_cons.1 hsorted
    cases hp : p x with
    | true =>
      rw [List.filter_cons_of_pos hp, List.filter_cons_of_neg (by simp [hp]), List.cons_append,
        ← ih hxs]
    | false =>
      have hnone : ∀ y ∈ xs, p y = false := by
        intro y hy
        cases hpy : p y with
        | false => rfl
        | true => exact absurd (hx y hy hpy) (by simp [hp])
      have hfirst : xs.filter p = [] := List.filter_eq_nil_iff.2 fun y hy => by simp [hnone y hy]
      have hrest : xs.filter (!p ·) = xs := List.filter_eq_self.2 fun y hy => by simp [hnone y hy]
      rw [List.filter_cons_of_neg (by simp [hp]), List.filter_cons_of_pos (by simp [hp]), hfirst, hrest,
        List.nil_append]

end Lists

namespace Entry

variable (collation : Collation)

/-- The ordering keys of the entry begin with these. -/
def Begins (first : List LevelKey) (entry : Entry) : Bool :=
  first.isPrefixOf (entry.orderKey collation)

variable {collation}

theorem begins_iff {first : List LevelKey} {entry : Entry} :
    Begins collation first entry = true ↔ first <+: entry.orderKey collation := by
  rw [Begins, List.isPrefixOf_iff_prefix]

/-- What is between two entries of a block belongs to it. -/
theorem begins_of_between {first : List LevelKey} {a b c : Entry}
    (hab : (cmp collation a b).isLE) (hbc : (cmp collation b c).isLE)
    (ha : Begins collation first a = true) (hc : Begins collation first c = true) :
    Begins collation first b = true := by
  rw [begins_iff, List.prefix_iff_eq_take] at ha hc ⊢
  rw [take_eq_of_between hab hbc (ha.symm.trans hc), ← ha]

variable (collation)

/-- Entries with equal ordering keys keep the order in which they were given. -/
theorem filter_sort (key : List LevelKey) (entries : List Entry) :
    (sort collation entries).filter (·.orderKey collation = key) =
      entries.filter (·.orderKey collation = key) := by
  rw [sort_eq_mergeSort]
  refine filter_mergeSort (isLE_cmp_trans collation) (isLE_cmp_total collation) (fun a b ha hb => ?_) entries
  exact isLE_cmp_of_orderKey_eq collation (of_decide_eq_true ha) (of_decide_eq_true hb)

/-- In a block the entries that have no further levels come first. -/
theorem exists_block (first : List LevelKey) (entries : List Entry) : ∃ deeper,
    (sort collation entries).filter (Begins collation first) =
        entries.filter (·.orderKey collation = first) ++ deeper ∧
      ∀ entry ∈ deeper, first <+: entry.orderKey collation ∧ entry.orderKey collation ≠ first := by
  have hordered : ((sort collation entries).filter (Begins collation first)).Pairwise fun a b =>
      decide (b.orderKey collation = first) = true → decide (a.orderKey collation = first) = true := by
    refine List.pairwise_filter.2 ((pairwise_sort collation entries).imp fun {a b} hab ha _ hb => ?_)
    rw [decide_eq_true_eq] at hb ⊢
    rw [cmp, hb] at hab
    have hsame := eq_of_isLE_compare_of_prefix hab (begins_iff.1 ha)
    exact hsame.symm
  have hfirst : ((sort collation entries).filter (Begins collation first)).filter
      (·.orderKey collation = first) = entries.filter (·.orderKey collation = first) := by
    rw [← filter_sort collation first entries, List.filter_filter]
    refine List.filter_congr fun entry _ => ?_
    by_cases hkey : entry.orderKey collation = first
    · simp [hkey, Begins]
    · simp [hkey]
  refine ⟨((sort collation entries).filter (Begins collation first)).filter
    (fun entry => !decide (entry.orderKey collation = first)), ?_, fun entry hentry => ?_⟩
  · rw [← hfirst]
    exact eq_filter_append_filter hordered
  · obtain ⟨hblock, hne⟩ := List.mem_filter.1 hentry
    exact ⟨begins_iff.1 (List.mem_filter.1 hblock).2, by simpa using hne⟩

/-- Sorting gives the entries in order.  For any ordering keys to begin with, the entries that begin so
stand in one block, and in it those with no further levels come first, in the order in which they were
given. -/
theorem sort_blocks (entries : List Entry) :
    (sort collation entries).Perm entries ∧
      (sort collation entries).Pairwise (fun a b => cmp collation a b ≠ .gt) ∧
      ∀ first : List LevelKey, ∃ before deeper after,
        sort collation entries =
            before ++ (entries.filter (·.orderKey collation = first) ++ deeper) ++ after ∧
          (∀ entry ∈ deeper, first <+: entry.orderKey collation ∧ entry.orderKey collation ≠ first) ∧
          ∀ entry, entry ∈ before ∨ entry ∈ after → ¬ first <+: entry.orderKey collation := by
  have hsorted := pairwise_sort collation entries
  refine ⟨sort_perm collation entries, hsorted.imp fun h => ?_, fun first => ?_⟩
  · exact Ordering.isLE_iff_ne_gt.1 h
  · obtain ⟨before, after, heq, hout⟩ := exists_append_filter_append (Begins collation first) hsorted
      begins_of_between
    obtain ⟨deeper, hblock, hdeeper⟩ := exists_block collation first entries
    refine ⟨before, deeper, after, ?_, hdeeper, fun entry hentry hbegins => ?_⟩
    · rw [← hblock]
      exact heq
    · have hfalse := hout entry hentry
      rw [begins_iff.2 hbegins] at hfalse
      exact absurd hfalse.symm Bool.false_ne_true

end Entry

end BookIndex
