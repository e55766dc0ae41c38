import BookIndex.Proofs.Group.Members
import BookIndex.View

/-!
# View.Nodes — the headings that a view shows

The nodes of a view are its headings at every depth, group after group and column after column.  They
are the rows of the forest, each with its pages looked up (`nodes_ofIndex`), so the pages of a view
are those of the index.
-/

namespace BookIndex

namespace HeadingView

mutual

/-- The headings of a tree, each before its subheadings. -/
def nodes : HeadingView → List HeadingView
  | ⟨key, markup, sortKey, pages, children⟩ =>
    ⟨key, markup, sortKey, pages, children⟩ :: nodesAll children

/-- The headings of a forest, each before its subheadings. -/
def nodesAll : List HeadingView → List HeadingView
  | [] => []
  | h :: rest => nodes h ++ nodesAll rest

end

mutual

/-- The headings shown for a tree are those of its rows. -/
theorem nodes_ofHeading (ds : Destinations) (depth : Nat) : ∀ h : Heading,
    nodes (ofHeading ds h) = (Heading.rows depth h).map fun row => ofHeading ds row.2
  | ⟨level, pages, children⟩ => by
    have ih := nodesAll_ofForest ds (depth + 1) children
    rw [Heading.rows, List.map_cons, ← ih, ofHeading, nodes]

theorem nodesAll_ofForest (ds : Destinations) (depth : Nat) : ∀ forest : List Heading,
    nodesAll (ofForest ds forest) = (Heading.rowsAll depth forest).map fun row => ofHeading ds row.2
  | [] => rfl
  | h :: forest => by
    have hh := nodes_ofHeading ds depth h
    have ih := nodesAll_ofForest ds depth forest
    rw [ofForest, nodesAll, hh, ih, Heading.rowsAll, List.map_append]

end

theorem pages_ofHeading (ds : Destinations) (h : Heading) :
    (ofHeading ds h).pages = h.pages.map (.ofPage ds) := by
  cases h
  rw [ofHeading]

end HeadingView

namespace View

/-- The headings that a view shows, at every depth over all groups and columns. -/
def nodes (view : View) : List HeadingView :=
  HeadingView.nodesAll (view.groups.flatMap fun g => g.columns.flatten)

/-- The pages that a view shows. -/
def pages (view : View) : List PageView :=
  view.nodes.flatMap (·.pages)

/-- A view shows the rows of the forest. -/
theorem nodes_ofIndex (engine : Engine) (ds : Destinations) (index : Index) :
    (ofIndex engine ds index).nodes =
      (Heading.rowsAll 0 index.forest).map fun row => HeadingView.ofHeading ds row.2 := by
  have hcolumns (g : Group) : (GroupView.ofGroup ds g).columns.flatten =
      g.members.map (HeadingView.ofHeading ds) := by
    have hmap : HeadingView.ofForest ds = List.map (HeadingView.ofHeading ds) :=
      funext (HeadingView.ofForest_eq_map ds)
    rw [GroupView.ofGroup, Group.members, List.map_flatten, hmap]
  have hforest : ((ofIndex engine ds index).groups.flatMap fun g => g.columns.flatten) =
      index.forest.map (HeadingView.ofHeading ds) := by
    conv_rhs => rw [← Group.flatMap_members_ofForest engine.config engine.collation index.forest]
    rw [ofIndex, List.flatMap_map, List.map_flatMap]
    simp only [hcolumns]
    rfl
  rw [nodes, hforest, ← HeadingView.ofForest_eq_map]
  exact HeadingView.nodesAll_ofForest ds 0 index.forest

/-- A view shows the pages of the forest. -/
theorem pages_ofIndex (engine : Engine) (ds : Destinations) (index : Index) :
    (ofIndex engine ds index).pages =
      ((Heading.rowsAll 0 index.forest).flatMap (·.2.pages)).map (.ofPage ds) := by
  rw [pages, nodes_ofIndex, List.flatMap_map, List.map_flatMap]
  simp only [HeadingView.pages_ofHeading]

end View

end BookIndex
