import BookIndex.Proofs.Collation.Sorted
import BookIndex.Proofs.Heading.Merging
import BookIndex.Text.Spellings
import Mathlib

/-!
# Heading.Sorted — what merging sorted entries gives

An entry in order never goes back to a heading above the one before it, since a heading comes before
its subheadings (`Level.NotAfter.onward`).  So its page is the last one of the forest, and a heading that it
opens comes behind siblings with ordering keys that are no greater (`Rising`).  `InOrder` is the
invariant of the run: merging a sorted list gives a forest that reads as that list.
-/

namespace BookIndex

open Std

/-! ### Levels in order -/

/-- In the order of entries, the first levels do not come after the second. -/
def Level.NotAfter (collation : Collation) (as bs : List Level) : Prop :=
  (compare (as.map (LevelKey.ofLevel collation)) (bs.map (LevelKey.ofLevel collation))).isLE

variable {collation : Collation}

theorem Level.notAfter_nil (levels : List Level) : Level.NotAfter collation [] levels :=
  List.isLE_compare_nil_left

theorem Level.NotAfter.tail {level : Level} {as bs : List Level}
    (h : Level.NotAfter collation (level :: as) (level :: bs)) : Level.NotAfter collation as bs :=
  isLE_compare_tail h

/-- What comes in order does not go back to a level above. -/
theorem Level.NotAfter.onward {previous levels : List Level}
    (h : Level.NotAfter collation previous levels) : Level.Onward previous levels := by
  intro hbegins
  have hkeys := eq_of_isLE_compare_of_prefix h (hbegins.map (LevelKey.ofLevel collation))
  have hlength := congrArg List.length hkeys
  rw [List.length_map, List.length_map] at hlength
  exact hbegins.eq_of_length hlength

/-- The ordering key of the first level is not above that of the second. -/
def Level.KeyLE (collation : Collation) (a b : Level) : Prop :=
  (compare (LevelKey.ofLevel collation a) (.ofLevel collation b)).isLE

instance : Trans (Level.KeyLE collation) (Level.KeyLE collation) (Level.KeyLE collation) :=
  ⟨TransOrd.isLE_trans⟩

/-- Neighbours differ, and the ordering keys never fall. -/
def Rising (collation : Collation) (levels : List Level) : Prop :=
  levels.IsChain fun a b => a ≠ b ∧ Level.KeyLE collation a b

/-- The next level comes behind the last one if it is another, and does not come before it. -/
theorem Rising.concat {earlier as bs : List Level} {last next : Level}
    (hrising : Rising collation (earlier ++ [last])) (hne : last ≠ next)
    (hle : Level.NotAfter collation (last :: as) (next :: bs)) :
    Rising collation (earlier ++ [last] ++ [next]) := by
  have hkeys : Level.KeyLE collation last next := isLE_compare_head hle
  rw [Rising, List.isChain_append]
  refine ⟨hrising, List.isChain_singleton _, ?_⟩
  simp [hne, hkeys]

namespace Heading

/-- The subheadings of a heading are in order. -/
def Ascending (collation : Collation) (h : Heading) : Prop :=
  Rising collation (h.children.map (·.level))

variable {page : PageRef} {previous levels : List Level} {h h' : Heading} {position : List Nat}

/-- In order, siblings stay in order. -/
theorem Filed.ascending (hf : Filed page previous levels h position h')
    (hends : Ends (·.children = []) previous h) (hle : Level.NotAfter collation previous levels)
    (hall : Everywhere (Ascending collation) h) : Everywhere (Ascending collation) h' := by
  induction hf with
  | here previous level pages children =>
    obtain ⟨hsiblings, hchildren⟩ := everywhere_iff.1 hall
    exact everywhere_iff.2 ⟨hsiblings, hchildren⟩
  | @opened previous _ first _ new level pages children hne hnew ih =>
    obtain ⟨hsiblings, hchildren⟩ := everywhere_iff.1 hall
    have hbare : Everywhere (Ascending collation) ⟨first, [], []⟩ :=
      everywhere_iff.2 ⟨List.isChain_nil, by simp⟩
    refine everywhere_concat_iff.2 ⟨?_, hchildren, ih rfl (Level.notAfter_nil _) hbare⟩
    cases previous with
    | nil =>
      obtain rfl : children = [] := hends
      exact List.isChain_singleton _
    | cons level' previous =>
      obtain ⟨earlier, last, rfl, rfl, -⟩ := hends.exists_last
      have hdiffer : last.level ≠ first := by simpa using hne
      rw [Ascending, List.map_append, List.map_singleton] at hsiblings
      rw [Ascending, List.map_append, List.map_append, List.map_singleton, List.map_singleton,
        hnew.level_eq]
      exact hsiblings.concat hdiffer hle
  | deeper level pages earlier hlast ih =>
    obtain ⟨hsiblings, hchildren, hold⟩ := everywhere_concat_iff.1 hall
    refine everywhere_concat_iff.2 ⟨?_, hchildren, ih (ends_cons.1 hends).2 hle.tail hold⟩
    rw [Ascending, List.map_append, List.map_singleton] at hsiblings ⊢
    rwa [hlast.level_eq]

end Heading

namespace Merge

open Heading

/-- What holds after merging entries in order. -/
structure InOrder (collation : Collation) (entries : List Entry) : Prop where
  /-- The heading of the last entry has no subheadings. -/
  ends : (ofEntries entries).root.Ends (·.children = []) (ofEntries entries).previous
  /-- The pages of the forest are those of the entries. -/
  mentions_eq :
    (ofEntries entries).root.mentions [] = entries.map fun entry => (entry.levels, entry.page)
  /-- Siblings are in order everywhere. -/
  ascending : Everywhere (Ascending collation) (ofEntries entries).root

/-- The entry before does not come after the next one. -/
theorem notAfter_previous {entries : List Entry} {entry : Entry}
    (hsorted : (entries ++ [entry]).Pairwise fun a b => (Entry.cmp collation a b).isLE) :
    Level.NotAfter collation (ofEntries entries).previous entry.levels := by
  rcases List.eq_nil_or_concat' entries with rfl | ⟨earlier, last, rfl⟩
  · exact Level.notAfter_nil _
  · rw [previous_ofEntries_concat]
    exact (List.pairwise_append.1 hsorted).2.2 last (by simp) entry (by simp)

theorem inOrder_of_pairwise {entries : List Entry}
    (hsorted : entries.Pairwise fun a b => (Entry.cmp collation a b).isLE) :
    InOrder collation entries := by
  induction entries using List.reverseRecOn with
  | nil => exact ⟨rfl, rfl, everywhere_iff.2 ⟨List.isChain_nil, by simp [start]⟩⟩
  | append_singleton entries entry ih =>
    -- The heading of the entry before has no subheadings, so the new page is the last one.
    obtain ⟨hends, hmentions, hascending⟩ := ih (List.pairwise_append.1 hsorted).1
    obtain ⟨position, hf⟩ := filed_ofEntries_concat entries entry
    have hle := notAfter_previous hsorted
    constructor
    case ends =>
      rw [previous_ofEntries_concat]
      exact hf.ends_leaf hends hle.onward
    case mentions_eq =>
      rw [hf.mentions_eq hends hle.onward, hmentions, List.map_append]
      rfl
    case ascending => exact hf.ascending hends hle hascending

/-- The forest reads from top to bottom as the list of entries. -/
theorem InOrder.mentionsAll_eq {entries : List Entry}
    (hinv : InOrder collation entries) (hlevels : ∀ entry ∈ entries, entry.levels ≠ []) :
    mentionsAll [] (ofEntries entries).forest =
      entries.map fun entry => (entry.levels, entry.page) := by
  have hmentions := hinv.mentions_eq
  rwa [Heading.mentions_eq, pages_root_ofEntries hlevels, List.map_nil, List.nil_append] at hmentions

/-- Sorting and merging entries gives a forest that reads from top to bottom as the sorted list: each
page stands below the levels of its entry, in the order of the entries.  There is no heading without
pages and subheadings, and no two neighbouring siblings have the same level. -/
theorem merge_rebuilds_sorted (collation : Collation) (entries : List Entry)
    (hlevels : ∀ entry ∈ entries, entry.levels ≠ []) :
    mentionsAll [] (ofEntries (Entry.sort collation entries)).forest =
        (Entry.sort collation entries).map (fun entry => (entry.levels, entry.page)) ∧
      (∀ row ∈ rowsAll 0 (ofEntries (Entry.sort collation entries)).forest,
        row.2.children = [] → row.2.pages ≠ []) ∧
      ∀ siblings ∈ families (ofEntries (Entry.sort collation entries)).forest,
        siblings.IsChain fun a b => a.level ≠ b.level := by
  have hinv := inOrder_of_pairwise (Entry.pairwise_sort collation entries)
  refine ⟨?_, ?_, ?_⟩
  · exact hinv.mentionsAll_eq fun entry hentry => hlevels entry ((Entry.mem_sort collation).1 hentry)
  · exact forall_mem_rowsAll_children (everywhere_nonempty_ofEntries _)
  · refine forall_mem_families_children
      (fun position g hg => ?_ : Everywhere (fun g => g.children.IsChain _) _)
    have hchain := hinv.ascending position g hg
    rw [Ascending, Rising, List.isChain_map] at hchain
    exact hchain.imp fun a b hab => hab.1

/-- Entries whose sort keys differ in case only.  In order, the heading of the second comes first, then
one that ties with it, and only then the first one, below a heading like that of the second. -/
def tied : List Entry :=
  let upper : Level := ⟨[.text "x"], "A"⟩
  let lower : Level := ⟨[.text "x"], "a"⟩
  [⟨[upper, lower], none, .normal, 0⟩, ⟨[upper], none, .normal, 1⟩, ⟨[lower], none, .see, 2⟩]

theorem merge_rebuilds_sorted_tied : (∀ entry ∈ tied, entry.levels ≠ []) ∧
    mentionsAll [] (ofEntries (Entry.sort (.ofKinds .caseFold .identity) tied)).forest =
      [([⟨[.text "x"], "A"⟩], ⟨.normal, 1⟩), ([⟨[.text "x"], "a"⟩], ⟨.see, 2⟩),
        ([⟨[.text "x"], "A"⟩, ⟨[.text "x"], "a"⟩], ⟨.normal, 0⟩)] := by
  have hlevels : ∀ entry ∈ tied, entry.levels ≠ [] := by simp [tied]
  refine ⟨hlevels, (merge_rebuilds_sorted (.ofKinds .caseFold .identity) tied hlevels).1.trans ?_⟩
  cbv

end Merge

end BookIndex
