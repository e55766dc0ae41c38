import BookIndex.Collation
import BookIndex.Entry

/-!
# Collation.Order — the order of entries

Entries are compared level by level: by the weights of the sort key, then by the weights of the key
text, then by the markup of the key.  Where one entry ends first it comes first, so a heading stands
before its subheadings.  The order is total and transitive, and sorting keeps entries that compare
equal in the order they had.
-/

namespace BookIndex

open Std

/-- What a level is ordered by. -/
structure LevelKey where
  sortWeights : List Nat
  keyWeights : List Nat
  source : String
deriving DecidableEq

namespace LevelKey

/-- The ordering key of a level. -/
def ofLevel (collation : Collation) (l : Level) : LevelKey :=
  ⟨collation.weights l.sortKey, collation.weights l.key.textContent, l.key.source⟩

/-- Weights first, of the sort key and then of the key; the markup decides between equals. -/
def cmp (a b : LevelKey) : Ordering :=
  (compare a.sortWeights b.sortWeights).then
    ((compare a.keyWeights b.keyWeights).then (compare a.source b.source))

instance : Ord LevelKey := ⟨cmp⟩

instance : TransOrd LevelKey :=
  inferInstanceAs (TransCmp (compareLex (compareOn sortWeights)
    (compareLex (compareOn keyWeights) (compareOn source))))

theorem cmp_eq_eq {a b : LevelKey} : cmp a b = .eq ↔
    a.sortWeights = b.sortWeights ∧ a.keyWeights = b.keyWeights ∧ a.source = b.source := by
  simp only [cmp, Ordering.then_eq_eq, LawfulEqCmp.compare_eq_iff_eq]

instance : LawfulEqOrd LevelKey where
  eq_of_compare {a b} h := by
    obtain ⟨_, _, _⟩ := cmp_eq_eq.1 h
    cases a
    cases b
    simp_all

end LevelKey

namespace Entry

/-- What an entry is ordered by: the ordering keys of its levels. -/
def orderKey (collation : Collation) (entry : Entry) : List LevelKey :=
  entry.levels.map (.ofLevel collation)

/-- The place of `a` beside `b`. -/
def cmp (collation : Collation) (a b : Entry) : Ordering :=
  compare (a.orderKey collation) (b.orderKey collation)

/-- The entries in order; entries that compare equal keep their places. -/
def sort (collation : Collation) (entries : List Entry) : List Entry :=
  let keyed := entries.map fun entry => (entry.orderKey collation, entry)
  (keyed.mergeSort fun a b => (compare a.1 b.1).isLE).map (·.2)

/-- Sorting neither loses nor repeats an entry. -/
theorem sort_perm (collation : Collation) (entries : List Entry) :
    (sort collation entries).Perm entries := by
  have h := (List.mergeSort_perm (entries.map fun entry => (entry.orderKey collation, entry))
    fun a b => (compare a.1 b.1).isLE).map (·.2)
  simpa [sort, Function.comp_def] using h

end Entry

end BookIndex
