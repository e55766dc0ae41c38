import BookIndex.Proofs.Fragment.Placeholder
import BookIndex.Proofs.Heading.Merging

/-!
# Heading.Numbering — page numbers and the places they are attached to

Merging attaches one fragment for every entry, in the order of the list, behind all that a place had
before; a place that no entry points at keeps what it had.  The number in the fragment is the place
of the page among the pages of its heading (`Numbered`), for lists in any order.
-/

namespace BookIndex

/-! ### Attaching to a table -/

namespace Destinations

theorem place_attach (ds : Destinations) (attachment : Nat × Fragment) {i : Nat} (hi : i < ds.size) :
    (ds.attach attachment).place i =
      if attachment.1 = i then (ds.place i).attach attachment.2 else ds.place i := by
  simp [place, attach, Array.getD, hi, Array.getElem_modify]

@[simp] theorem size_attachAll (ds : Destinations) (attachments : List (Nat × Fragment)) :
    (ds.attachAll attachments).size = ds.size := by
  induction attachments using List.reverseRecOn with
  | nil => rfl
  | append_singleton attachments attachment ih => rw [attachAll_concat, size_attach, ih]

/-- A place gets what is attached to it, in order, and keeps all else. -/
theorem place_attachAll (ds : Destinations) (attachments : List (Nat × Fragment)) {i : Nat}
    (hi : i < ds.size) :
    (ds.attachAll attachments).place i = { ds.place i with
      content := (ds.place i).content ++
        (attachments.filter fun attachment => attachment.1 = i).map (·.2) } := by
  induction attachments using List.reverseRecOn with
  | nil => simp
  | append_singleton attachments attachment ih =>
    rw [attachAll_concat, place_attach _ _ (by rwa [size_attachAll]), ih]
    by_cases h : attachment.1 = i
    · simp [h, Destination.attach]
    · simp [h]

end Destinations

/-! ### Fragments of page numbers -/

/-- How the entry shows a page number: in its format, where the first placeholder becomes the number,
or by itself where there is no placeholder. -/
inductive Entry.Shows (entry : Entry) (digits : String) : Fragment → Prop
  | filled {format f : Fragment} : entry.format = some format →
    Fragment.FirstFilled digits format f → Entry.Shows entry digits f
  | alone : (∀ format, entry.format = some format → Fragment.hasPageNumber format = false) →
    Entry.Shows entry digits [.text digits]

namespace Merge

/-- A number by itself is a text. -/
theorem ofText_toString (n : Nat) : Fragment.ofText (toString n) = [.text (toString n)] :=
  Fragment.ofText_of_ne Nat.repr_ne_empty

theorem number_eq (entry : Entry) (n : Nat) : number entry n =
    (entry.format.bind (Fragment.fill? (toString n))).getD (Fragment.ofText (toString n)) := rfl

theorem number_of_format_eq_none {entry : Entry} (h : entry.format = none) (n : Nat) :
    number entry n = [.text (toString n)] := by
  rw [number_eq, h, Option.bind_none, Option.getD_none, ofText_toString]

theorem shows_number (entry : Entry) (n : Nat) : entry.Shows (toString n) (number entry n) := by
  cases hformat : entry.format with
  | none =>
    rw [number_of_format_eq_none hformat]
    exact .alone (by simp [hformat])
  | some format =>
    rw [number_eq, hformat, Option.bind_some]
    cases hfill : Fragment.fill? (toString n) format with
    | some f =>
      rw [Option.getD_some]
      exact .filled hformat (Fragment.firstFilled_of_fill?_eq_some hfill)
    | none =>
      rw [Option.getD_none, ofText_toString]
      refine .alone fun other hother => ?_
      obtain rfl : format = other := Option.some.inj (hformat.symm.trans hother)
      exact Fragment.hasPageNumber_eq_false_of_fill? hfill

/-- What is attached to one place, in order. -/
theorem map_filter_attachments (entries : List Entry) (i : Nat) :
    ((ofEntries entries).attachments.filter fun attachment => attachment.1 = i).map (·.2) =
      ((List.finRange entries.length).filter fun k => (entries.get k).destination = i).map
        fun k => number (entries.get k) ((slot entries k).2 + 1) := by
  rw [attachments_eq, List.filter_map, List.map_map]
  rfl

/-- Where no two entries share a place, each place gets one fragment. -/
theorem place_attachAll_of_nodup (ds : Destinations) {entries : List Entry}
    (hplaces : (entries.map (·.destination)).Nodup) (k : Fin entries.length)
    (hk : (entries.get k).destination < ds.size) :
    (ds.attachAll (ofEntries entries).attachments).place (entries.get k).destination =
      (ds.place (entries.get k).destination).attach (number (entries.get k) ((slot entries k).2 + 1)) := by
  have hfilter : ((List.finRange entries.length).filter fun l =>
      (entries.get l).destination = (entries.get k).destination) = [k] := by
    have hcongr : ∀ l ∈ List.finRange entries.length,
        decide ((entries.get l).destination = (entries.get k).destination) = decide (l = k) := by
      intro l _
      rw [decide_eq_decide]
      exact ⟨fun heq => eq_of_destination_eq hplaces heq, fun heq => heq ▸ rfl⟩
    rw [List.filter_congr hcongr, List.filter_eq,
      List.count_eq_one_of_mem (List.nodup_finRange _) (List.mem_finRange k)]
    rfl
  rw [Destinations.place_attachAll _ _ hk, map_filter_attachments, hfilter]
  rfl

/-- What the entries of a list leave at the pages of the forest and at the places of a table, where
`slot k` says at which position the page of entry number `k` stands, and behind how many others, and
`shown k` is the fragment that the entry attaches. -/
structure Numbered (ds : Destinations) (entries : List Entry)
    (slot : Fin entries.length → List Nat × Nat) (shown : Fin entries.length → Fragment) : Prop where
  /-- The levels on the way to the page are those of the entry. -/
  path_eq : ∀ k : Fin entries.length,
    (ofEntries entries).root.path? (slot k).1 = some (entries.get k).levels
  /-- The page comes to its slot with the entry, and stays there. -/
  page_eq : ∀ k : Fin entries.length, ∀ n ≤ entries.length,
    ((ofEntries (entries.take n)).root.pagesAt (slot k).1)[(slot k).2]? =
      if k < n then some (entries.get k).page else none
  /-- There are no other pages. -/
  exists_slot_eq : ∀ position, ∀ j < ((ofEntries entries).root.pagesAt position).length,
    position ≠ [] ∧ ∃ k, slot k = (position, j)
  /-- The fragment shows the slot, counted from one. -/
  shows : ∀ k : Fin entries.length, (entries.get k).Shows (toString ((slot k).2 + 1)) (shown k)
  size_eq : (ds.attachAll (ofEntries entries).attachments).size = ds.size
  /-- A place gets the fragments of the entries that point at it, in order, and keeps all else. -/
  place_eq : ∀ i < ds.size, (ds.attachAll (ofEntries entries).attachments).place i =
    { ds.place i with content := (ds.place i).content ++
        ((List.finRange entries.length).filter fun k => (entries.get k).destination = i).map shown }

/-- Merging numbers the pages of any list of entries, sorted or not. -/
theorem attaches_page_numbers (ds : Destinations) (entries : List Entry)
    (hlevels : ∀ entry ∈ entries, entry.levels ≠ []) :
    ∃ slot shown, Numbered ds entries slot shown := by
  refine ⟨slot entries, fun k => number (entries.get k) ((slot entries k).2 + 1), ?_⟩
  constructor
  case path_eq => exact path?_home
  case page_eq => exact fun k n hn => pagesAt_slot k hn
  case exists_slot_eq =>
    intro position j hj
    constructor
    · rintro rfl
      rw [Heading.pagesAt_nil, pages_root_ofEntries hlevels] at hj
      simp at hj
    · exact exists_slot_of_lt hj
  case shows => exact fun k => shows_number _ _
  case size_eq => exact Destinations.size_attachAll _ _
  case place_eq =>
    intro i hi
    rw [Destinations.place_attachAll _ _ hi, map_filter_attachments]

/-- Entries that are not in order: the second stands at a heading that has a subheading by then, the
third comes back below it, and the first and the last point at one place. -/
def unordered : List Entry :=
  let a : Level := ⟨[.text "a"], "a"⟩
  let b : Level := ⟨[.text "b"], "b"⟩
  [⟨[a, b], none, .normal, 0⟩, ⟨[a], some [.command "textbf" [[.pageNumber]]], .normal, 1⟩,
    ⟨[a, b], none, .see, 1⟩, ⟨[b], none, .normal, 2⟩, ⟨[a, b], none, .normal, 0⟩]

theorem attaches_page_numbers_unordered : (∀ entry ∈ unordered, entry.levels ≠ []) ∧
    ∃ slot shown, Numbered #[.nowhere, .nowhere, .nowhere] unordered slot shown :=
  have hlevels : ∀ entry ∈ unordered, entry.levels ≠ [] := by simp [unordered]
  ⟨hlevels, attaches_page_numbers _ _ hlevels⟩

end Merge

end BookIndex
