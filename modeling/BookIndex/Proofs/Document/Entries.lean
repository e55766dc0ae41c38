import BookIndex.Document
import BookIndex.Proofs.Entry.Levels

/-!
# Document.Entries — the entries of a document and their places

Entry number `i` of a document points at place number `i`, which has an anchor of its own, so no two
entries share a place.
-/

namespace BookIndex

/-- No two numbers have one anchor. -/
theorem Occurrence.anchor_injective : Function.Injective Occurrence.anchor := by
  intro m n hmn
  have hlist := congrArg String.toList hmn
  rw [anchor, anchor, String.toList_append, String.toList_append] at hlist
  have hdigits : m.repr.toList = n.repr.toList := List.append_cancel_left hlist
  rw [Nat.toList_repr, Nat.toList_repr] at hdigits
  have hvalue := congrArg (Nat.ofDigitChars 10 · 0) hdigits
  simpa using hvalue

namespace Document

variable (e : Expander) (s : Scan)

theorem levels_ne_nil {entry : Entry} (hentry : entry ∈ (ofScan e s).entries) :
    entry.levels ≠ [] := by
  obtain ⟨i, hi, rfl⟩ := List.mem_mapIdx.1 hentry
  exact Entry.levels_ofTokens_ne_nil e _ i

/-- Entries point at places in turn. -/
theorem map_destination_entries :
    (ofScan e s).entries.map (·.destination) = List.range (ofScan e s).entries.length := by
  apply List.ext_getElem
  · simp
  · intro i hi hi'
    simp [ofScan, Occurrence.entry, Entry.destination_ofTokens]

theorem nodup_destinations : ((ofScan e s).entries.map (·.destination)).Nodup := by
  rw [map_destination_entries]
  exact List.nodup_range

theorem destination_eq_of_getElem? {i : Nat} {entry : Entry}
    (hentry : (ofScan e s).entries[i]? = some entry) : entry.destination = i := by
  obtain ⟨hi, rfl⟩ := List.getElem?_eq_some_iff.1 hentry
  have hmap : ((ofScan e s).entries.map (·.destination))[i]? =
      some (ofScan e s).entries[i].destination := by
    rw [List.getElem?_map, List.getElem?_eq_getElem hi, Option.map_some]
  rw [map_destination_entries, List.getElem?_range hi] at hmap
  exact (Option.some.inj hmap).symm

/-- An entry is told by its place. -/
theorem getElem?_destination {entry : Entry} (hentry : entry ∈ (ofScan e s).entries) :
    (ofScan e s).entries[entry.destination]? = some entry := by
  obtain ⟨i, hi⟩ := List.mem_iff_getElem?.1 hentry
  rwa [destination_eq_of_getElem? e s hi]

theorem destination_lt {entry : Entry} (hentry : entry ∈ (ofScan e s).entries) :
    entry.destination < (ofScan e s).places.size := by
  rw [size_places_ofScan]
  exact (List.getElem?_eq_some_iff.1 (getElem?_destination e s hentry)).1

theorem place_places {i : Nat} (hi : i < s.occurrences.length) :
    (ofScan e s).places.place i = Occurrence.place e i s.occurrences[i] := by
  simp [ofScan, Destinations.place, Array.getD, hi]

/-- The place of an entry has an anchor of its own, and nothing is attached to it. -/
theorem place_destination {entry : Entry} (hentry : entry ∈ (ofScan e s).entries) : ∃ label,
    (ofScan e s).places.place entry.destination =
      ⟨Occurrence.anchor (entry.destination + 1), label,
        some ("#" ++ Occurrence.anchor (entry.destination + 1)), []⟩ := by
  have hi : entry.destination < s.occurrences.length := by
    have hlt := destination_lt e s hentry
    rw [size_places_ofScan] at hlt
    simpa [ofScan] using hlt
  exact ⟨_, place_places e s hi⟩

end Document

end BookIndex
