import BookIndex.Index
import BookIndex.Proofs.Collation.Rearranged
import BookIndex.Proofs.Heading.Merging
import BookIndex.Text.Spellings

/-!
# Index.Rearranged — an index does not tell in which order its entries were added

A digest files entries in index order.  What it gives an entry, a page at a heading and a number, is told
by the place of the entry in that order (`Builder.slot`, `Builder.attachments_digest`).  So collected
entries can be rearranged as long as those that compare equal keep their order: the index stays the same,
and each entry keeps its page and its number.
-/

namespace BookIndex

theorem Merge.slot_congr {as bs : List Entry} (h : as = bs) {k : Fin as.length} {l : Fin bs.length}
    (hkl : (k : Nat) = l) : slot as k = slot bs l := by
  subst h
  rw [Fin.ext hkl]

namespace Builder

/-- Where the page of entry number `i` comes to stand in the index of the collected entries: at which
heading, and behind how many of its pages. -/
def slot (collation : Collation) (b : Builder) (i : Fin b.entries.length) : List Nat × Nat :=
  Merge.slot (Entry.sort collation b.entries) ⟨Entry.rank collation b.entries i, Entry.rank_lt i⟩

/-- What the index attaches to the places for the collected entries, in index order: the number of each
page, in the format of its entry. -/
theorem attachments_digest (b : Builder) (engine : Engine) (kind : IndexKind) :
    (b.digest engine kind).1.attachments = (Entry.order engine.collation b.entries).map fun i =>
      ((b.entries.get i).destination,
        Merge.number (b.entries.get i) ((b.slot engine.collation i).2 + 1)) := by
  have hdigest : (b.digest engine kind).1.attachments =
      (Merge.ofEntries (Entry.sort engine.collation b.entries)).attachments := rfl
  rw [hdigest, Merge.attachments_eq]
  have hsort := Entry.map_get_order engine.collation b.entries
  apply List.ext_getElem
  · rw [List.length_map, List.length_map, List.length_finRange, ← hsort, List.length_map]
  · intro k hk hk'
    rw [List.length_map] at hk'
    have hrank : Entry.rank engine.collation b.entries (Entry.order engine.collation b.entries)[k] = k :=
      Entry.rank_eq_of_getElem? (List.getElem?_eq_getElem hk')
    have hentry : (Entry.sort engine.collation b.entries)[k]? =
        some (b.entries.get (Entry.order engine.collation b.entries)[k]) := by
      rw [← hsort, List.getElem?_map, List.getElem?_eq_getElem hk', Option.map_some]
    obtain ⟨hlt, hentry⟩ := List.getElem?_eq_some_iff.1 hentry
    have hslot : Merge.slot (Entry.sort engine.collation b.entries) ⟨k, hlt⟩ =
        b.slot engine.collation (Entry.order engine.collation b.entries)[k] :=
      Merge.slot_congr rfl hrank.symm
    simp only [List.getElem_map, List.getElem_finRange]
    simp [hentry, hslot]

/-- Digesting collected entries in another order gives the same index, with the same number for the page
of each entry, if entries that compare equal keep their order. -/
theorem digest_of_rearranges (engine : Engine) (kind : IndexKind) {a b : Builder}
    {σ : Fin a.entries.length ≃ Fin b.entries.length}
    (h : Entry.Rearranges engine.collation a.entries b.entries σ) :
    a.drain engine.collation = b.drain engine.collation ∧
      a.digest engine kind = b.digest engine kind ∧
      (∀ i, a.slot engine.collation i = b.slot engine.collation (σ i)) ∧
      (a.digest engine kind).1.attachments = (Entry.order engine.collation a.entries).map fun i =>
        ((a.entries.get i).destination,
          Merge.number (a.entries.get i) ((a.slot engine.collation i).2 + 1)) := by
  have hsort := h.sort_eq
  refine ⟨?_, ?_, fun i => ?_, attachments_digest a engine kind⟩
  · rw [drain, drain, hsort]
  · rw [digest, digest, Index.ofEntries, Index.ofEntries, hsort]
  · exact Merge.slot_congr hsort.symm (h.rank_eq i).symm

/-- Entries of which the second and the third compare equal where case is ignored. -/
def mixed : Builder :=
  ((empty.add ⟨[⟨[.text "b"], "b"⟩], none, .normal, 0⟩).add
    ⟨[⟨[.text "x"], "A"⟩], none, .normal, 1⟩).add ⟨[⟨[.text "x"], "a"⟩], none, .see, 2⟩

/-- The same entries, with the first of them between the other two. -/
def remixed : Builder :=
  ((empty.add ⟨[⟨[.text "x"], "A"⟩], none, .normal, 1⟩).add
    ⟨[⟨[.text "b"], "b"⟩], none, .normal, 0⟩).add ⟨[⟨[.text "x"], "a"⟩], none, .see, 2⟩

theorem digest_of_rearranges_mixed :
    Entry.Rearranges (.ofKinds .caseFold .identity) mixed.entries remixed.entries
      (Equiv.swap (0 : Fin 3) (1 : Fin 3)) ∧
    mixed.digest ⟨.standard, .ofKinds .caseFold .identity⟩ .command =
      remixed.digest ⟨.standard, .ofKinds .caseFold .identity⟩ .command := by
  have hsame : ∀ i : Fin 3,
      remixed.entries.get (Equiv.swap (0 : Fin 3) 1 i) = mixed.entries.get i := by
    intro i
    match i with
    | 0 => rfl
    | 1 => rfl
    | 2 => rfl
  have hties : ∀ i j : Fin 3, i < j →
      Entry.cmp (.ofKinds .caseFold .identity) (mixed.entries.get i) (mixed.entries.get j) = .eq →
        Equiv.swap (0 : Fin 3) 1 i < Equiv.swap (0 : Fin 3) 1 j := by
    decide +kernel
  have h : Entry.Rearranges (.ofKinds .caseFold .identity) mixed.entries remixed.entries
      (Equiv.swap (0 : Fin 3) (1 : Fin 3)) :=
    ⟨hsame, hties⟩
  exact ⟨h, (digest_of_rearranges ⟨.standard, .ofKinds .caseFold .identity⟩ .command h).2.1⟩

end Builder

end BookIndex
