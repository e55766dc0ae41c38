import BookIndex.Group
import BookIndex.Proofs.Columns.Order
import Mathlib.Data.List.SplitBy

/-!
# Group.Members — groups are the runs of neighbours with one label

With the label of its group beside each heading, the groups are the forest cut wherever the label
changes (`map_labelled_ofForest`).  So groups hold the headings in their order, none is empty, each has
the label of all its members, and the next group has another label.
-/

namespace BookIndex.Group

/-- The members, each with the label of the group. -/
def labelled (g : Group) : List (Label × Heading) :=
  g.members.map (g.label, ·)

/-- A run of headings with one label becomes a group of these headings. -/
theorem map_labelled_ofRun? (config : Config) {run : List (Label × Heading)} (hne : run ≠ [])
    (hlabels : run.IsChain fun a b => a.1 = b.1) :
    (ofRun? config run).map labelled = some run := by
  cases run with
  | nil => exact absurd rfl hne
  | cons first rest =>
    obtain ⟨label, h⟩ := first
    have hpairs : ((label, h) :: rest).Pairwise fun a b => a.1 = b.1 :=
      List.isChain_iff_pairwise.1 hlabels
    have hrest : (rest.map (·.2)).map (label, ·) = rest := by
      rw [List.map_map]
      refine (List.map_congr_left fun p hp => ?_).trans (List.map_id _)
      exact Prod.ext ((List.pairwise_cons.1 hpairs).1 p hp) rfl
    simp only [ofRun?, Option.map_some, labelled, members, Columns.flatten_split, List.map_cons, hrest]

variable {config : Config} {collation : Collation} {forest : List Heading}

theorem map_labelled_ofForest (config : Config) (collation : Collation) (forest : List Heading) :
    (ofForest config collation forest).map labelled =
      (forest.map fun h => (Label.ofSortKey config collation h.level.sortKey, h)).splitBy
        fun a b => a.1 == b.1 := by
  unfold ofForest
  dsimp only
  rw [List.map_filterMap]
  refine (List.filterMap_eq_map_iff_forall_eq_some.2 fun run hrun => ?_).trans (List.map_id _)
  refine map_labelled_ofRun? config (List.ne_nil_of_mem_splitBy hrun) ?_
  exact (List.isChain_of_mem_splitBy hrun).imp fun a b h => beq_iff_eq.1 h

/-- Reading the groups in turn, column by column, gives back the forest. -/
theorem flatMap_members_ofForest (config : Config) (collation : Collation) (forest : List Heading) :
    (ofForest config collation forest).flatMap members = forest := by
  have hmembers : members = List.map Prod.snd ∘ labelled := by
    funext g
    simp [labelled, Function.comp_def]
  rw [List.flatMap_def, hmembers, ← List.map_map, map_labelled_ofForest, ← List.map_flatten,
    List.flatten_splitBy, List.map_map]
  exact List.map_id _

/-- No group is empty. -/
theorem members_ne_nil {g : Group} (hg : g ∈ ofForest config collation forest) : g.members ≠ [] := by
  have hrun : labelled g ∈ (ofForest config collation forest).map labelled := List.mem_map_of_mem hg
  rw [map_labelled_ofForest] at hrun
  exact fun hnil => List.ne_nil_of_mem_splitBy hrun (by rw [labelled, hnil]; rfl)

/-- Each member of a group has the label of the group. -/
theorem ofSortKey_eq_label {g : Group} (hg : g ∈ ofForest config collation forest) {h : Heading}
    (hh : h ∈ g.members) : Label.ofSortKey config collation h.level.sortKey = g.label := by
  have hmem : (g.label, h) ∈ ((ofForest config collation forest).map labelled).flatten :=
    List.mem_flatten.2 ⟨labelled g, List.mem_map_of_mem hg, List.mem_map_of_mem hh⟩
  rw [map_labelled_ofForest, List.flatten_splitBy, List.mem_map] at hmem
  obtain ⟨h', -, heq⟩ := hmem
  obtain ⟨hlabel, rfl⟩ := Prod.mk.inj heq
  exact hlabel

/-- Neighbouring groups have different labels. -/
theorem isChain_label_ne (config : Config) (collation : Collation) (forest : List Heading) :
    (ofForest config collation forest).IsChain fun g g' => g.label ≠ g'.label := by
  have hchain := List.isChain_getLast_head_splitBy (fun a b : Label × Heading => a.1 == b.1)
    (forest.map fun h => (Label.ofSortKey config collation h.level.sortKey, h))
  rw [← map_labelled_ofForest, List.isChain_map] at hchain
  have hlabel : ∀ (g : Group), ∀ p ∈ labelled g, p.1 = g.label := by
    intro g p hp
    obtain ⟨h, -, rfl⟩ := List.mem_map.1 hp
    rfl
  refine hchain.imp fun g g' ⟨hg, hg', hdiffer⟩ => ?_
  rw [hlabel g _ (List.getLast_mem hg), hlabel g' _ (List.head_mem hg')] at hdiffer
  exact fun heq => by simp [heq] at hdiffer

end BookIndex.Group
