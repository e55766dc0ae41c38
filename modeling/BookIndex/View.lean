import BookIndex.Index

/-!
# View — an index as it is shown

A view holds the texts that a reader of an index sees, and refers to nothing else: the places of the
document are looked up, and each page shows what was attached to its place last.
-/

namespace BookIndex

/-- A mention as it is shown. -/
structure PageView where
  id : String
  label : Option String
  url : Option String
  kind : EntryKind
  text : String
deriving DecidableEq, Repr

/-- The mention with what the table says of its place. -/
def PageView.ofPage (ds : Destinations) (page : PageRef) : PageView :=
  let place := page.place ds
  ⟨place.id, place.label, page.url ds, page.kind, place.reading⟩

/-- A heading as it is shown. -/
structure HeadingView where
  key : String
  markup : Fragment
  sortKey : String
  pages : List PageView
  children : List HeadingView

namespace HeadingView

mutual

/-- The heading with its pages and subheadings. -/
def ofHeading (ds : Destinations) : Heading → HeadingView
  | ⟨level, pages, children⟩ =>
    ⟨level.key.reading, level.key, level.sortKey, pages.map (.ofPage ds), ofForest ds children⟩

/-- The headings of a forest. -/
def ofForest (ds : Destinations) : List Heading → List HeadingView
  | [] => []
  | h :: rest => ofHeading ds h :: ofForest ds rest

end

theorem ofForest_eq_map (ds : Destinations) (forest : List Heading) :
    ofForest ds forest = forest.map (ofHeading ds) := by
  induction forest with
  | nil => rw [ofForest, List.map_nil]
  | cons h rest ih => rw [ofForest, ih, List.map_cons]

end HeadingView

/-- A letter group as it is shown. -/
structure GroupView where
  label : Label
  columns : List (List HeadingView)

/-- The group with the headings of its columns. -/
def GroupView.ofGroup (ds : Destinations) (g : Group) : GroupView :=
  ⟨g.label, g.columns.map (HeadingView.ofForest ds)⟩

/-- An index as it is shown. -/
structure View where
  title : String
  kind : IndexKind
  /-- The name of the document. -/
  source : Option String
  /-- The number of entries. -/
  entries : Nat
  groups : List GroupView

/-- The index with the places that its pages point at. -/
def View.ofIndex (engine : Engine) (ds : Destinations) (index : Index) : View :=
  ⟨index.title, index.kind, none, index.entryCount, (index.groups engine).map (.ofGroup ds)⟩

/-- The view of the document of this name. -/
def View.withSource (view : View) (name : String) : View :=
  { view with source := some name }

end BookIndex
