import BookIndex.Proofs.Document.Entries
import BookIndex.Proofs.Heading.Sharing
import BookIndex.Text.Spellings

/-!
# Document.Digest — the headings of the index of a document

The entries of a document have levels and places of their own, so what holds of merging sorted
entries holds of its index.  Entries share a heading with the entry before them in order, and with no
other.  So a level that another one ties with can come back and open a second heading, and this is the
only way in which siblings have equal levels.
-/

namespace BookIndex

open Heading

section OfText

variable [Text.Romanizer]

/-- The index of the document of this text. -/
def Index.ofText (config : Config) (text : String) : Index :=
  .ofEntries (.ofConfig config) (Document.ofText .standard text).kind
    (Document.ofText .standard text).entries

/-- The places of the document of this text, with what its index attaches to them. -/
def Index.placesOfText (config : Config) (text : String) : Destinations :=
  (Document.ofText .standard text).places.attachAll (Index.ofText config text).attachments

/-- The view of a text shows its index. -/
theorem View.ofText_eq (config : Config) (text : String) : View.ofText config text =
    .ofIndex (.ofConfig config) (Index.placesOfText config text) (Index.ofText config text) := rfl

/-- The entries of the document of this text, in index order. -/
def Index.entriesOfText (config : Config) (text : String) : List Entry :=
  Entry.sort config.collation (Document.ofText .standard text).entries

end OfText

namespace Index

section Entries

variable [Text.Romanizer] (config : Config) (text : String)

theorem forest_ofText :
    (ofText config text).forest = (Merge.ofEntries (entriesOfText config text)).forest := rfl

theorem perm_entriesOfText :
    (entriesOfText config text).Perm (Document.ofText .standard text).entries :=
  Entry.sort_perm _ _

theorem pairwise_entriesOfText :
    (entriesOfText config text).Pairwise fun a b => (Entry.cmp config.collation a b).isLE :=
  Entry.pairwise_sort _ _

theorem levels_ne_nil {entry : Entry} (hentry : entry ∈ entriesOfText config text) :
    entry.levels ≠ [] :=
  Document.levels_ne_nil _ _ ((perm_entriesOfText config text).mem_iff.1 hentry)

/-- No two entries share a place. -/
theorem nodup_destinations : ((entriesOfText config text).map (·.destination)).Nodup :=
  ((perm_entriesOfText config text).map (·.destination)).nodup_iff.2
    (Document.nodup_destinations _ _)

end Entries

/-- A text that asks for one heading before and after another one that ties with it. -/
def parted : String :=
  "\\index\x7bA@x\x7d\\index\x7ba@x\x7d\\index\x7bA@x\x7d"

/-- Where a level ties with another one, siblings can have equal levels. -/
theorem equal_siblings : ¬ ∀ config text, ∀ siblings ∈ families (ofText config text).forest,
    (siblings.map (·.level)).Nodup := by
  intro hall
  have hnodup := hall .standard parted _ (List.mem_cons_self ..)
  have hlevels : (ofText .standard parted).forest.map (·.level) =
      [⟨[.text "x"], "A"⟩, ⟨[.text "x"], "a"⟩, ⟨[.text "x"], "A"⟩] := by
    cbv
  rw [hlevels] at hnodup
  simp at hnodup

/-- What two entries, in index order, that begin with the same `n` levels have in common. -/
structure Sharing (collation : Collation) (entries : List Entry) (forest : List Heading) (n : Nat)
    (p q : Fin entries.length) : Prop where
  /-- They have the heading of these levels in common exactly where all entries between them begin
  with these levels. -/
  together_iff : Together forest n (entries.get p).page (entries.get q).page ↔
    ∀ r, p ≤ r → r ≤ q → (entries.get r).levels.take n = (entries.get p).levels.take n
  /-- The entries between them at least tie with these levels. -/
  orderKey_eq : ∀ r, p ≤ r → r ≤ q →
    ((entries.get r).orderKey collation).take n = ((entries.get p).orderKey collation).take n

/-- Siblings with equal levels are parted by another level, and by such as tie with theirs only.
Entries that begin with the same levels share a heading as far as no such level comes between them. -/
theorem siblings_and_sharing [Text.Romanizer] (config : Config) (text : String) :
    (∀ siblings ∈ families (ofText config text).forest, ∀ before between after a b,
      siblings = before ++ a :: (between ++ b :: after) → a.level = b.level →
        (∃ c ∈ between, c.level ≠ a.level) ∧ ∀ c ∈ between,
          LevelKey.ofLevel config.collation c.level = .ofLevel config.collation a.level) ∧
      ∀ (p q : Fin (entriesOfText config text).length) (n : Nat), p ≤ q → 0 < n →
        n ≤ ((entriesOfText config text).get p).depth →
        ((entriesOfText config text).get q).levels.take n =
          ((entriesOfText config text).get p).levels.take n →
        Sharing config.collation (entriesOfText config text) (ofText config text).forest n p q := by
  have hsorted := pairwise_entriesOfText config text
  have hplaces := nodup_destinations config text
  constructor
  · intro siblings hsiblings before between after a b heq hlevel
    have hall : ∀ siblings ∈ families (ofText config text).forest,
        Rising config.collation (siblings.map (·.level)) :=
      forall_mem_families_children (Merge.inOrder_of_pairwise hsorted).ascending
    have hrising := hall siblings hsiblings
    rw [heq] at hrising
    simp only [List.map_append, List.map_cons, ← hlevel] at hrising
    obtain ⟨⟨level, hmem, hne⟩, htie⟩ := hrising.between
    obtain ⟨c, hc, rfl⟩ := List.mem_map.1 hmem
    exact ⟨⟨c, hc, hne⟩, fun c hc => htie c.level (List.mem_map_of_mem hc)⟩
  · intro p q n hpq hpos hn heq
    have htogether := Merge.together_iff hsorted hplaces hpq q.2 hpos hn
    constructor
    case together_iff =>
      exact htogether.trans
        ⟨fun h r hpr hrq => h r hpr hrq, fun h r hpr hrq => h ⟨r, by omega⟩ hpr hrq⟩
    case orderKey_eq =>
      exact fun r hpr hrq => Merge.take_orderKey_eq_of_between hsorted hpr hrq q.2 heq

/-- The first and the last entry of that text begin with the same level, and share no heading. -/
theorem siblings_and_sharing_parted : ∃ p q : Fin (entriesOfText .standard parted).length,
    ((entriesOfText .standard parted).get q).levels = ((entriesOfText .standard parted).get p).levels ∧
      ¬ Together (ofText .standard parted).forest 1 ((entriesOfText .standard parted).get p).page
        ((entriesOfText .standard parted).get q).page := by
  have hlevels : (entriesOfText .standard parted).map (·.levels) =
      [[⟨[.text "x"], "A"⟩], [⟨[.text "x"], "a"⟩], [⟨[.text "x"], "A"⟩]] := by
    cbv
  have hlength : (entriesOfText .standard parted).length = 3 := by
    simpa using congrArg List.length hlevels
  have hlevel (i : Nat) (hi : i < (entriesOfText .standard parted).length) :
      [[⟨[.text "x"], "A"⟩], [⟨[.text "x"], "a"⟩], [⟨[.text "x"], "A"⟩]][i]? =
        some (entriesOfText .standard parted)[i].levels := by
    rw [← hlevels, List.getElem?_map, List.getElem?_eq_getElem hi, Option.map_some]
  have hfirst := Option.some.inj (hlevel 0 (by omega))
  have hsecond := Option.some.inj (hlevel 1 (by omega))
  have hthird := Option.some.inj (hlevel 2 (by omega))
  refine ⟨⟨0, by omega⟩, ⟨2, by omega⟩, hthird.symm.trans hfirst, ?_⟩
  have hsharing := (siblings_and_sharing .standard parted).2 ⟨0, by omega⟩ ⟨2, by omega⟩ 1
    (by simp) Nat.one_pos (by simp [Entry.depth, ← hfirst]) (by simp [← hfirst, ← hthird])
  rw [hsharing.together_iff]
  intro hall
  have hmiddle := hall ⟨1, by omega⟩ (by simp) (by simp)
  simp [← hfirst, ← hsecond] at hmiddle

end Index

end BookIndex
