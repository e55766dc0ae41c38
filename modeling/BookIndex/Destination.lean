import BookIndex.Fragment.Text

/-!
# Destination — the places that an index points at

A document keeps its places in a table, and an entry names one by its position there, so entries
can share a place.  The page numbers that an index gives out are attached to the places, the newest
last.
-/

namespace BookIndex

/-- A place in a document. -/
structure Destination where
  /-- Its anchor, unique in the document. -/
  id : String
  /-- Where it is, such as the title of its section. -/
  label : Option String
  url : Option String
  /-- What is attached to it. -/
  content : List Fragment

namespace Destination

/-- The place that stands for one that the table does not have. -/
def nowhere : Destination := ⟨"", none, none, []⟩

/-- The place with one more fragment attached. -/
def attach (d : Destination) (f : Fragment) : Destination :=
  { d with content := d.content ++ [f] }

/-- What a reader sees of the fragment attached last. -/
def reading (d : Destination) : String :=
  match d.content.getLast? with
  | none => ""
  | some f => f.reading

end Destination

/-- The places of a document, in the order in which they were made. -/
abbrev Destinations := Array Destination

namespace Destinations

/-- The place at this position. -/
def place (ds : Destinations) (i : Nat) : Destination :=
  ds.getD i .nowhere

/-- The table with a fragment attached to one place. -/
def attach (ds : Destinations) (attachment : Nat × Fragment) : Destinations :=
  ds.modify attachment.1 (·.attach attachment.2)

/-- The table with every fragment attached to its place, one after the other. -/
def attachAll (ds : Destinations) (attachments : List (Nat × Fragment)) : Destinations :=
  attachments.foldl attach ds

@[simp] theorem attachAll_nil (ds : Destinations) : attachAll ds [] = ds := rfl

theorem attachAll_concat (ds : Destinations) (attachments : List (Nat × Fragment))
    (attachment : Nat × Fragment) :
    attachAll ds (attachments ++ [attachment]) = attach (attachAll ds attachments) attachment := by
  simp [attachAll]

@[simp] theorem size_attach (ds : Destinations) (attachment : Nat × Fragment) :
    (ds.attach attachment).size = ds.size := by
  simp [attach]

end Destinations

end BookIndex
