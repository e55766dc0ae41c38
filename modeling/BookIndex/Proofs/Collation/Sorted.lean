import BookIndex.Collation.Order
import Mathlib.Data.List.Basic

/-!
# Collation.Sorted — what sorting entries gives

`Entry.sort` is the library's stable sort by the order of entries (`sort_eq_mergeSort`), so its
result is in order, and entries between two that agree in their first ordering keys agree with them
(`take_eq_of_between`).
-/

namespace BookIndex

open Std

/-! ### Lists in lexicographic order -/

section Lists

variable {α : Type} [Ord α] [LawfulEqOrd α]

theorem isLE_compare_cons_iff {x y : α} {xs ys : List α} :
    (compare (x :: xs) (y :: ys)).isLE ↔ compare x y = .lt ∨ x = y ∧ (compare xs ys).isLE := by
  rw [List.compare_cons_cons, Ordering.isLE_then_iff_or, LawfulEqOrd.compare_eq_iff_eq]

theorem isLE_compare_head {x y : α} {xs ys : List α} (hle : (compare (x :: xs) (y :: ys)).isLE) :
    (compare x y).isLE := by
  rcases isLE_compare_cons_iff.1 hle with hlt | ⟨rfl, -⟩
  · rw [hlt]
    rfl
  · rw [ReflOrd.compare_self]
    rfl

theorem isLE_compare_tail {x : α} {xs ys : List α} (hle : (compare (x :: xs) (x :: ys)).isLE) :
    (compare xs ys).isLE := by
  rcases isLE_compare_cons_iff.1 hle with hlt | ⟨-, hrest⟩
  · rw [ReflOrd.compare_self] at hlt
    cases hlt
  · exact hrest

/-- A list stands before those that go on from it. -/
theorem eq_of_isLE_compare_of_prefix {xs ys : List α} (hle : (compare xs ys).isLE)
    (hbegins : ys <+: xs) : ys = xs := by
  induction ys generalizing xs with
  | nil => exact (List.isLE_compare_nil_right.1 hle).symm
  | cons y ys ih =>
    obtain ⟨more, rfl⟩ := hbegins
    have hrest : ys = ys ++ more := ih (isLE_compare_tail hle) (List.prefix_append ys more)
    rw [List.cons_append, ← hrest]

variable [TransOrd α]

/-- What stands between two lists begins as they both do. -/
theorem take_eq_of_between {k : Nat} {xs ys zs : List α} (hxy : (compare xs ys).isLE)
    (hyz : (compare ys zs).isLE) (hxz : xs.take k = zs.take k) : ys.take k = xs.take k := by
  induction k generalizing xs ys zs with
  | zero => rfl
  | succ k ih =>
    cases zs with
    | nil =>
      obtain rfl := List.isLE_compare_nil_right.1 hyz
      obtain rfl := List.isLE_compare_nil_right.1 hxy
      rfl
    | cons z zs =>
      cases xs with
      | nil => simp at hxz
      | cons x xs =>
        obtain ⟨rfl, hrest⟩ := List.cons.inj hxz
        cases ys with
        | nil => simp [List.compare_cons_nil] at hxy
        | cons y ys =>
          rw [isLE_compare_cons_iff] at hxy hyz
          rcases hxy with hlt | ⟨rfl, hxy⟩
          · rcases hyz with hlt' | ⟨rfl, -⟩
            · exact absurd (TransCmp.lt_trans hlt hlt') (by rw [ReflOrd.compare_self]; decide)
            · rw [ReflOrd.compare_self] at hlt
              cases hlt
          · rcases hyz with hlt' | ⟨-, hyz⟩
            · rw [ReflOrd.compare_self] at hlt'
              cases hlt'
            · rw [List.take_succ_cons, List.take_succ_cons, ih hxy hyz hrest]

end Lists

/-- What ties keeps its order in a stable sort. -/
theorem filter_mergeSort {α : Type} {le : α → α → Bool} {p : α → Bool}
    (htrans : ∀ a b c, le a b = true → le b c = true → le a c = true)
    (htotal : ∀ a b, (le a b || le b a) = true)
    (hties : ∀ a b, p a = true → p b = true → le a b = true) (xs : List α) :
    (xs.mergeSort le).filter p = xs.filter p := by
  have hsorted : (xs.filter p).Pairwise fun a b => le a b = true :=
    List.pairwise_filter.2 (List.pairwise_of_forall hties)
  have hsub := (List.sublist_mergeSort htrans htotal hsorted List.filter_sublist).filter p
  rw [List.filter_filter] at hsub
  simp only [Bool.and_self] at hsub
  exact (hsub.eq_of_length (((List.mergeSort_perm xs le).filter p).length_eq).symm).symm

namespace Entry

variable (collation : Collation)

theorem sort_eq_mergeSort (entries : List Entry) :
    sort collation entries = entries.mergeSort fun a b => (cmp collation a b).isLE := by
  have hmap : (entries.mergeSort fun a b => (cmp collation a b).isLE).map
      (fun entry => (entry.orderKey collation, entry)) =
      (entries.map fun entry => (entry.orderKey collation, entry)).mergeSort
        fun a b => (compare a.1 b.1).isLE :=
    List.map_mergeSort fun a _ b _ => rfl
  rw [sort, ← hmap, List.map_map]
  exact List.map_id _

theorem isLE_cmp_trans (a b c : Entry) (hab : (cmp collation a b).isLE)
    (hbc : (cmp collation b c).isLE) : (cmp collation a c).isLE :=
  TransOrd.isLE_trans hab hbc

theorem isLE_cmp_total (a b : Entry) :
    ((cmp collation a b).isLE || (cmp collation b a).isLE) = true := by
  have hswap : cmp collation b a = (cmp collation a b).swap := OrientedOrd.eq_swap
  rw [hswap]
  cases cmp collation a b <;> rfl

/-- Entries with equal ordering keys are in order either way. -/
theorem isLE_cmp_of_orderKey_eq {key : List LevelKey} {a b : Entry} (ha : a.orderKey collation = key)
    (hb : b.orderKey collation = key) : (cmp collation a b).isLE := by
  rw [cmp, ha, hb, ReflOrd.compare_self]
  rfl

/-- Sorted entries are in order. -/
theorem pairwise_sort (entries : List Entry) :
    (sort collation entries).Pairwise fun a b => (cmp collation a b).isLE := by
  rw [sort_eq_mergeSort]
  exact List.pairwise_mergeSort (isLE_cmp_trans collation) (isLE_cmp_total collation) entries

theorem mem_sort {entries : List Entry} {entry : Entry} :
    entry ∈ sort collation entries ↔ entry ∈ entries :=
  (sort_perm collation entries).mem_iff

end Entry

end BookIndex
