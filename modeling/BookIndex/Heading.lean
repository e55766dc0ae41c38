import BookIndex.Destination
import BookIndex.Entry

/-!
# Heading — the tree of an index

A heading has a level to show and order by, the pages that mention it in order, and its subheadings.
An index is a forest of headings.
-/

namespace BookIndex

/-- A mention of a heading: the kind of its entry and the place that it points at. -/
structure PageRef where
  kind : EntryKind
  /-- The position in the table of places. -/
  destination : Nat
deriving DecidableEq, Repr

namespace PageRef

/-- The place that the mention points at. -/
def place (page : PageRef) (ds : Destinations) : Destination :=
  ds.place page.destination

/-- Where the mention leads; a cross reference leads nowhere. -/
def url (page : PageRef) (ds : Destinations) : Option String :=
  if page.kind.isCrossReference then none else (page.place ds).url

end PageRef

/-- A heading with its mentions and its subheadings. -/
structure Heading where
  level : Level
  pages : List PageRef
  children : List Heading

namespace Heading

/-- The markup of the key and the anchors of the pages. -/
def display (h : Heading) (ds : Destinations) : String :=
  let ids := ", ".intercalate (h.pages.map fun page => (page.place ds).id)
  h.level.key.source ++ " --> [" ++ ids ++ "]"

mutual

/-- The number of headings in the tree. -/
def size : Heading → Nat
  | ⟨_, _, children⟩ => sizeAll children + 1

/-- The number of headings in the forest. -/
def sizeAll : List Heading → Nat
  | [] => 0
  | h :: rest => size h + sizeAll rest

end

theorem size_eq (h : Heading) : h.size = sizeAll h.children + 1 := by
  cases h
  rw [size]

@[simp] theorem sizeAll_append (hs gs : List Heading) :
    sizeAll (hs ++ gs) = sizeAll hs + sizeAll gs := by
  induction hs with
  | nil => simp [sizeAll]
  | cons h hs ih => simp [sizeAll, ih, Nat.add_assoc]

mutual

/-- The headings of a tree with their depths, each before its subheadings. -/
def rows (depth : Nat) : Heading → List (Nat × Heading)
  | ⟨level, pages, children⟩ => (depth, ⟨level, pages, children⟩) :: rowsAll (depth + 1) children

/-- The headings of a forest with their depths, each before its subheadings. -/
def rowsAll (depth : Nat) : List Heading → List (Nat × Heading)
  | [] => []
  | h :: rest => rows depth h ++ rowsAll depth rest

end

end Heading

end BookIndex
