import BookIndex.Proofs.Collation.Sorted
import Mathlib.Data.List.FinRange

/-!
# Collation.Rearranged — sorting forgets how entries were mixed

`Entry.order` lists the numbers of entries, their positions in a list, in index order.  One entry stands
before another there if its ordering keys are smaller, or if they are equal and its number is smaller
(`Entry.Before`).  There is only one such arrangement, so all that the order of a list decides is the
order of entries that compare equal: if it is kept (`Entry.Rearranges`), the list can be rearranged
without an effect on the sorted list.
-/

namespace BookIndex

open Std

namespace Entry

variable (collation : Collation) (entries : List Entry)

/-- The numbers of the entries in index order. -/
def order : List (Fin entries.length) :=
  (List.finRange entries.length).mergeSort fun i j =>
    (cmp collation (entries.get i) (entries.get j)).isLE

/-- Entry number `i` stands before entry number `j`: by its ordering keys, or by its number where these
are equal. -/
def Before (i j : Fin entries.length) : Prop :=
  cmp collation (entries.get i) (entries.get j) = .lt ∨
    cmp collation (entries.get i) (entries.get j) = .eq ∧ i < j

theorem map_get_order : (order collation entries).map entries.get = sort collation entries := by
  have hmap : (order collation entries).map entries.get =
      ((List.finRange entries.length).map entries.get).mergeSort fun a b => (cmp collation a b).isLE :=
    List.map_mergeSort fun i _ j _ => rfl
  rw [hmap, List.map_get_finRange, sort_eq_mergeSort]

theorem perm_order : (order collation entries).Perm (List.finRange entries.length) :=
  List.mergeSort_perm _ _

theorem nodup_order : (order collation entries).Nodup :=
  (perm_order collation entries).nodup_iff.2 (List.nodup_finRange _)

theorem mem_order (i : Fin entries.length) : i ∈ order collation entries :=
  (perm_order collation entries).mem_iff.2 (List.mem_finRange i)

theorem pairwise_isLE_order : (order collation entries).Pairwise fun i j =>
    (cmp collation (entries.get i) (entries.get j)).isLE := by
  refine List.pairwise_mergeSort ?_ ?_ _
  · exact fun _ _ _ => isLE_cmp_trans collation _ _ _
  · exact fun _ _ => isLE_cmp_total collation _ _

variable {collation entries}

theorem Before.asymm {i j : Fin entries.length} (hij : Before collation entries i j) :
    ¬ Before collation entries j i := by
  have hswap : cmp collation (entries.get j) (entries.get i) =
      (cmp collation (entries.get i) (entries.get j)).swap := OrientedOrd.eq_swap
  unfold Before at hij ⊢
  rw [hswap]
  rintro (hlt | ⟨heq, hji⟩)
  · rcases hij with hlt' | ⟨heq', -⟩
    · exact absurd hlt (by rw [hlt']; decide)
    · exact absurd hlt (by rw [heq']; decide)
  · rcases hij with hlt' | ⟨-, hij⟩
    · exact absurd heq (by rw [hlt']; decide)
    · exact Nat.lt_asymm hij hji

/-- The numbers of entries that tie with one entry stand in index order as they are counted. -/
theorem filter_order (key : List LevelKey) :
    (order collation entries).filter (fun i => (entries.get i).orderKey collation = key) =
      (List.finRange entries.length).filter fun i => (entries.get i).orderKey collation = key := by
  refine filter_mergeSort ?_ ?_ (fun i j hi hj => ?_) _
  · exact fun _ _ _ => isLE_cmp_trans collation _ _ _
  · exact fun _ _ => isLE_cmp_total collation _ _
  · exact isLE_cmp_of_orderKey_eq collation (of_decide_eq_true hi) (of_decide_eq_true hj)

/-- In index order each entry stands before all later ones. -/
theorem pairwise_order (collation : Collation) (entries : List Entry) :
    (order collation entries).Pairwise (Before collation entries) := by
  refine List.pairwise_iff_forall_sublist.2 fun {i j} hsub => ?_
  have hle : (cmp collation (entries.get i) (entries.get j)).isLE :=
    List.pairwise_iff_forall_sublist.1 (pairwise_isLE_order collation entries) hsub
  rcases Ordering.isLE_iff_eq_lt_or_eq_eq.1 hle with hlt | heq
  · exact .inl hlt
  · -- Both tie with the second, so they stand as they are counted.
    refine .inr ⟨heq, ?_⟩
    have hkeys : (entries.get i).orderKey collation = (entries.get j).orderKey collation :=
      LawfulEqOrd.eq_of_compare heq
    have hties := hsub.filter fun k => (entries.get k).orderKey collation = (entries.get j).orderKey collation
    rw [filter_order, List.filter_eq_self.2 (by simpa using hkeys)] at hties
    exact List.pairwise_iff_forall_sublist.1 (List.pairwise_lt_finRange _)
      (hties.trans List.filter_sublist)

/-- The place of entry number `i` in index order. -/
def rank (collation : Collation) (entries : List Entry) (i : Fin entries.length) : Nat :=
  (order collation entries).idxOf i

theorem rank_lt (i : Fin entries.length) : rank collation entries i < (sort collation entries).length := by
  rw [← map_get_order, List.length_map]
  exact List.idxOf_lt_length_iff.2 (mem_order collation entries i)

/-- An entry is told by its place in index order. -/
theorem rank_eq_of_getElem? {i : Fin entries.length} {k : Nat}
    (hk : (order collation entries)[k]? = some i) : rank collation entries i = k := by
  obtain ⟨hlt, rfl⟩ := List.getElem?_eq_some_iff.1 hk
  exact (nodup_order collation entries).idxOf_getElem k hlt

theorem getElem?_order_rank (i : Fin entries.length) :
    (order collation entries)[rank collation entries i]? = some i := by
  have hlt : rank collation entries i < (order collation entries).length :=
    List.idxOf_lt_length_iff.2 (mem_order collation entries i)
  rw [List.getElem?_eq_getElem hlt]
  exact congrArg some (List.getElem_idxOf hlt)

/-! ### Rearranged lists -/

/-- `σ` takes each entry of one list to the same entry in another list, and entries that compare equal
keep their order. -/
structure Rearranges (collation : Collation) (as bs : List Entry) (σ : Fin as.length ≃ Fin bs.length) :
    Prop where
  get_eq : ∀ i, bs.get (σ i) = as.get i
  lt : ∀ i j, i < j → cmp collation (as.get i) (as.get j) = .eq → σ i < σ j

variable {as bs : List Entry} {σ : Fin as.length ≃ Fin bs.length}

theorem Rearranges.before (h : Rearranges collation as bs σ) {i j : Fin as.length}
    (hij : Before collation as i j) : Before collation bs (σ i) (σ j) := by
  rw [Before, h.get_eq, h.get_eq]
  exact hij.imp_right fun ⟨heq, hlt⟩ => ⟨heq, h.lt i j hlt heq⟩

/-- The index order of the rearranged list is the rearranged index order. -/
theorem Rearranges.order_eq (h : Rearranges collation as bs σ) :
    order collation bs = (order collation as).map σ := by
  have hperm : (order collation bs).Perm ((order collation as).map σ) := by
    refine (List.perm_ext_iff_of_nodup (nodup_order collation bs)
      ((nodup_order collation as).map σ.injective)).2 fun j => ?_
    exact iff_of_true (mem_order collation bs j)
      (List.mem_map.2 ⟨σ.symm j, mem_order collation as _, σ.apply_symm_apply j⟩)
  have hbefore : ((order collation as).map σ).Pairwise (Before collation bs) :=
    List.pairwise_map.2 ((pairwise_order collation as).imp h.before)
  exact hperm.eq_of_pairwise (fun i j _ _ hij hji => absurd hji hij.asymm) (pairwise_order collation bs)
    hbefore

theorem Rearranges.rank_eq (h : Rearranges collation as bs σ) (i : Fin as.length) :
    rank collation bs (σ i) = rank collation as i := by
  apply rank_eq_of_getElem?
  rw [h.order_eq, List.getElem?_map, getElem?_order_rank]
  rfl

theorem Rearranges.sort_eq (h : Rearranges collation as bs σ) :
    sort collation bs = sort collation as := by
  rw [← map_get_order, ← map_get_order, h.order_eq, List.map_map]
  exact List.map_congr_left fun i _ => h.get_eq i

end Entry

end BookIndex
