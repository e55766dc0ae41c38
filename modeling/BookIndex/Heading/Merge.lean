import BookIndex.Destination
import BookIndex.Fragment.PageNumber
import BookIndex.Heading

/-!
# Heading.Merge — from entries to a forest

Entries are filed one after the other.  An entry shares the headings of the levels that it has in
common with the entry before it, which are always the last headings of the forest, and opens new
ones for its other levels.  Its page goes to the heading of its last level, and the place of that
page among the pages of the heading, counted from one, is its page number.

The number is attached to the place that the entry points at: in the format of the entry, where the
first placeholder becomes the number, or by itself where there is no placeholder.

An entry without levels has no heading; its page is counted apart and belongs to no heading.
-/

namespace BookIndex

/-- The number of leading levels that two entries have in common. -/
def Level.common : List Level → List Level → Nat
  | a :: as, b :: bs => if a = b then common as bs + 1 else 0
  | _, _ => 0

namespace Heading

variable {α : Type}

/-- The list with `f` applied to its last member. -/
def mapLast (f : α → α) : List α → List α
  | [] => []
  | [a] => [f a]
  | a :: b :: rest => a :: mapLast f (b :: rest)

/-- New headings for these levels, each below the one before, with a page at the last. -/
def branch (page : PageRef) : Level → List Level → Heading
  | level, [] => ⟨level, [page], []⟩
  | level, next :: rest => ⟨level, [], [branch page next rest]⟩

/-- The tree with a page filed under these levels, of which the first `shared` are those of its last
headings. -/
def file (page : PageRef) : Nat → List Level → Heading → Heading
  | _, [], h => { h with pages := h.pages ++ [page] }
  | 0, level :: rest, h => { h with children := h.children ++ [branch page level rest] }
  | shared + 1, _ :: rest, h => { h with children := mapLast (file page shared rest) h.children }

/-- The last heading at this depth below `h`. -/
def lastAt : Nat → Heading → Heading
  | 0, h => h
  | depth + 1, h =>
    match h.children.getLast? with
    | none => h
    | some child => lastAt depth child

end Heading

/-- Entries being filed. -/
structure Merge where
  /-- The forest, as the subheadings of a heading that is not shown. -/
  root : Heading
  /-- The levels of the entry before. -/
  previous : List Level
  /-- What is attached to which place, the newest first. -/
  attached : List (Nat × Fragment)

namespace Merge

/-- Before the first entry. -/
def start : Merge := ⟨⟨⟨[], ""⟩, [], []⟩, [], []⟩

/-- How an entry shows its page number. -/
def number (entry : Entry) (n : Nat) : Fragment :=
  let digits := toString n
  ((entry.format.bind (Fragment.fill? digits))).getD (Fragment.ofText digits)

/-- The forest after one more entry. -/
def step (s : Merge) (entry : Entry) : Merge :=
  let shared := Level.common s.previous entry.levels
  let root := s.root.file ⟨entry.kind, entry.destination⟩ shared entry.levels
  let n := (root.lastAt entry.depth).pages.length
  ⟨root, entry.levels, (entry.destination, number entry n) :: s.attached⟩

/-- All entries filed in turn. -/
def ofEntries (entries : List Entry) : Merge :=
  entries.foldl step start

/-- The headings filed so far. -/
def forest (s : Merge) : List Heading :=
  s.root.children

/-- What the entries attach to which place, in their order. -/
def attachments (s : Merge) : List (Nat × Fragment) :=
  s.attached.reverse

@[simp] theorem ofEntries_nil : ofEntries [] = start := rfl

theorem ofEntries_concat (entries : List Entry) (entry : Entry) :
    ofEntries (entries ++ [entry]) = step (ofEntries entries) entry := by
  simp [ofEntries]

end Merge

end BookIndex
