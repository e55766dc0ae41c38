import BookIndex.Proofs.Columns.Partition
import BookIndex.Proofs.Group.Members

/-!
# Group.Titles — groups are the runs of neighbours with one title

A group has one title and one anchor for all its members.  A letter is a single character, so no letter
is spelled like the title of the symbols or of the underscore, and the title of a label tells its anchor
(`Label.ofTitle_ofSortKey`).  So it is the same to cut a forest where the title changes and where the
label does.
-/

namespace BookIndex

namespace Label

/-- The label with this title. -/
def ofTitle (title : String) : Label :=
  if title = underscore.title then underscore else ⟨title, title⟩

theorem ofTitle_ofLetter (config : Config) (letter : String) :
    ofTitle (ofLetter config letter).title = ofLetter config letter := by
  unfold ofLetter
  split_ifs with hgroup hunderscore
  · have hne : letter ≠ underscore.title := by
      rintro rfl
      have hnone : config.isGroupLetter underscore.title = false := rfl
      rw [hnone] at hgroup
      exact absurd hgroup Bool.false_ne_true
    rw [ofTitle, if_neg hne]
  · rfl
  · rfl

/-- A label is told by its title. -/
theorem ofTitle_ofSortKey (config : Config) (collation : Collation) (sortKey : String) :
    ofTitle (ofSortKey config collation sortKey).title = ofSortKey config collation sortKey := by
  unfold ofSortKey
  split
  · rfl
  · exact ofTitle_ofLetter config _

end Label

namespace Group

variable {config : Config} {collation : Collation} {forest : List Heading}

theorem ofTitle_label {g : Group} (hg : g ∈ ofForest config collation forest) :
    Label.ofTitle g.label.title = g.label := by
  obtain ⟨h, hh⟩ := List.exists_mem_of_ne_nil _ (members_ne_nil hg)
  rw [← ofSortKey_eq_label hg hh, Label.ofTitle_ofSortKey]

/-- Neighbouring groups have different titles. -/
theorem isChain_title_ne (config : Config) (collation : Collation) (forest : List Heading) :
    (ofForest config collation forest).IsChain fun g g' => g.label.title ≠ g'.label.title := by
  refine (isChain_label_ne config collation forest).imp_of_mem_imp fun g g' hg hg' hlabel => ?_
  intro htitle
  exact hlabel (by rw [← ofTitle_label hg, htitle, ofTitle_label hg'])

/-- Groups are cut where the title changes. -/
theorem map_members_ofForest (config : Config) (collation : Collation) (forest : List Heading) :
    (ofForest config collation forest).map members = forest.splitBy fun h h' =>
      (Label.ofSortKey config collation h.level.sortKey).title ==
        (Label.ofSortKey config collation h'.level.sortKey).title := by
  refine (List.splitBy_eq_iff.2 ⟨?_, ?_, ?_, ?_⟩).symm
  · rw [← List.flatMap_def, flatMap_members_ofForest]
  · intro hnil
    obtain ⟨g, hg, hempty⟩ := List.mem_map.1 hnil
    exact members_ne_nil hg hempty
  · intro run hrun
    obtain ⟨g, hg, rfl⟩ := List.mem_map.1 hrun
    refine (List.pairwise_of_forall_mem_list fun h hh h' hh' => ?_).isChain
    rw [ofSortKey_eq_label hg hh, ofSortKey_eq_label hg hh']
    exact beq_self_eq_true _
  · refine (List.isChain_map _).2 ?_
    refine (isChain_title_ne config collation forest).imp_of_mem_imp fun g g' hg hg' htitle => ?_
    refine ⟨members_ne_nil hg, members_ne_nil hg', ?_⟩
    rw [ofSortKey_eq_label hg (List.getLast_mem _), ofSortKey_eq_label hg' (List.head_mem _)]
    exact beq_eq_false_iff_ne.2 htitle

/-- A heading weighs as much as it has headings below it and itself. -/
theorem columns_eq {g : Group} (hg : g ∈ ofForest config collation forest) :
    g.columns = Columns.split Heading.size config.columns g.members := by
  obtain ⟨run, -, hrun⟩ := List.mem_filterMap.1 hg
  cases run with
  | nil => exact absurd hrun (by simp [ofRun?])
  | cons first rest =>
    obtain ⟨label, h⟩ := first
    obtain rfl := Option.some.inj hrun
    have hweight : Heading.totalLen = Heading.size := funext Heading.totalLen_eq_size
    simp only [members, Columns.flatten_split, hweight]

/-- The groups of a forest are the runs of neighbours with one title, in order, and every heading is in
one of them.  No group is empty, its title and anchor are those of all its members, and neighbouring
groups have different titles.  A group has as many columns as the configuration asks for, or one if it
asks for none, and a member weighs as much as it has headings in its tree. -/
theorem batches_by_title (config : Config) (collation : Collation) (forest : List Heading) :
    (ofForest config collation forest).flatMap members = forest ∧
      (ofForest config collation forest).map members = forest.splitBy (fun h h' =>
        (Label.ofSortKey config collation h.level.sortKey).title ==
          (Label.ofSortKey config collation h'.level.sortKey).title) ∧
      (∀ g ∈ ofForest config collation forest, g.members ≠ [] ∧
        (∀ h ∈ g.members, Label.ofSortKey config collation h.level.sortKey = g.label) ∧
        g.columns.length = max config.columns 1 ∧
        g.columns = Columns.split Heading.size config.columns g.members) ∧
      (ofForest config collation forest).IsChain fun g g' => g.label.title ≠ g'.label.title := by
  refine ⟨flatMap_members_ofForest config collation forest,
    map_members_ofForest config collation forest, ?_, isChain_title_ne config collation forest⟩
  intro g hg
  refine ⟨members_ne_nil hg, fun h hh => ofSortKey_eq_label hg hh, ?_, columns_eq hg⟩
  rw [columns_eq hg, Columns.length_split]

end Group

end BookIndex
