import BookIndex.Proofs.Heading.Listing
import Mathlib.Data.List.Induction
import Mathlib.Data.List.Nodup

/-!
# Heading.Merging — what merging a list of entries does

Each entry of a list is one filing (`filed_ofEntries_concat`), so the run over a list is told by the
runs over its prefixes.  `slot entries k` is where the page of entry number `k` comes to stand: the
position of its heading, and the number of pages that are there before it.  It gets the page at that
moment and never loses it (`pagesAt_slot`), every page stands at such a slot (`exists_slot`), and the
number that the entry attaches is the slot counted from one (`attachments_eq`).
-/

namespace BookIndex

/-- The mention that an entry is. -/
def Entry.page (entry : Entry) : PageRef := ⟨entry.kind, entry.destination⟩

namespace Merge

open Heading

/-! ### One entry more -/

theorem previous_ofEntries_concat (entries : List Entry) (entry : Entry) :
    (ofEntries (entries ++ [entry])).previous = entry.levels := by
  rw [ofEntries_concat, step]

theorem filed_step {s : Merge} (hends : s.root.Ends (fun _ => True) s.previous) (entry : Entry) :
    ∃ position, Filed entry.page s.previous entry.levels s.root position (step s entry).root :=
  filed_file entry.page hends entry.levels

/-- The last headings have the levels of the last entry. -/
theorem ends_ofEntries (entries : List Entry) :
    (ofEntries entries).root.Ends (fun _ => True) (ofEntries entries).previous := by
  induction entries using List.reverseRecOn with
  | nil => trivial
  | append_singleton entries entry ih =>
    obtain ⟨position, hf⟩ := filed_step ih entry
    rw [previous_ofEntries_concat, ofEntries_concat]
    exact hf.ends

theorem filed_ofEntries_concat (entries : List Entry) (entry : Entry) :
    ∃ position, Filed entry.page (ofEntries entries).previous entry.levels (ofEntries entries).root
      position (ofEntries (entries ++ [entry])).root := by
  rw [ofEntries_concat]
  exact filed_step (ends_ofEntries entries) entry

/-- The page number is the number of pages of the heading, the new one included. -/
theorem attachments_step_eq {s : Merge} {entry : Entry} {position : List Nat}
    (hf : Filed entry.page s.previous entry.levels s.root position (step s entry).root) :
    (step s entry).attachments = s.attachments ++
      [(entry.destination, number entry ((s.root.pagesAt position).length + 1))] := by
  have hlast : ((step s entry).root.lastAt entry.depth).pages =
      s.root.pagesAt position ++ [entry.page] := by
    have hpages := hf.pagesAt_eq position
    rwa [if_pos rfl, pagesAt_of_at? hf.at?_position] at hpages
  have hnew : (step s entry).attachments = s.attachments ++
      [(entry.destination, number entry ((step s entry).root.lastAt entry.depth).pages.length)] := by
    simp [step, attachments]
  rw [hnew, hlast, List.length_append, List.length_singleton]

/-- Where no entry is without levels, the heading that is not shown has no pages. -/
theorem pages_root_ofEntries {entries : List Entry}
    (hlevels : ∀ entry ∈ entries, entry.levels ≠ []) : (ofEntries entries).root.pages = [] := by
  induction entries using List.reverseRecOn with
  | nil => rfl
  | append_singleton entries entry ih =>
    obtain ⟨position, hf⟩ := filed_ofEntries_concat entries entry
    have hne : position ≠ [] := by
      rintro rfl
      have hpath := hf.path?_position
      exact hlevels entry (by simp) (Option.some.inj hpath).symm
    have hpages := hf.pagesAt_eq []
    rw [if_neg (Ne.symm hne)] at hpages
    simpa [ih fun e he => hlevels e (List.mem_append_left _ he)] using hpages

/-- Every heading has pages or subheadings. -/
theorem everywhere_nonempty_ofEntries (entries : List Entry) :
    ∀ child ∈ (ofEntries entries).forest,
      Everywhere (fun g => g.children = [] → g.pages ≠ []) child := by
  induction entries using List.reverseRecOn with
  | nil => simp [forest, start]
  | append_singleton entries entry ih =>
    obtain ⟨position, hf⟩ := filed_ofEntries_concat entries entry
    exact (everywhere_iff.1 (hf.everywhere_nonempty ih)).2

/-! ### Slots -/

variable (entries : List Entry)

/-- The position of the heading that gets the page of entry number `k`. -/
def home (k : Fin entries.length) : List Nat :=
  (ofEntries (entries.take (k + 1))).root.lastPosition (entries.get k).depth

/-- Where the page of entry number `k` comes to stand: at which heading, and behind how many of its
pages. -/
def slot (k : Fin entries.length) : List Nat × Nat :=
  (home entries k, ((ofEntries (entries.take k)).root.pagesAt (home entries k)).length)

/-- The step of entry number `k`. -/
theorem filed_take (k : Fin entries.length) :
    Filed (entries.get k).page (ofEntries (entries.take k)).previous (entries.get k).levels
      (ofEntries (entries.take k)).root (home entries k) (ofEntries (entries.take (k + 1))).root := by
  have htake : entries.take (k + 1) = entries.take k ++ [(entries.get k)] :=
    List.take_succ_eq_append_getElem k.2
  obtain ⟨position, hf⟩ := filed_ofEntries_concat (entries.take k) (entries.get k)
  rw [← htake] at hf
  have hhome : home entries k = position := hf.lastPosition_eq
  rwa [hhome]

variable {entries}

theorem pagesAt_take_succ (k : Fin entries.length) (p : List Nat) :
    (ofEntries (entries.take (k + 1))).root.pagesAt p =
      (ofEntries (entries.take k)).root.pagesAt p ++
        if p = home entries k then [(entries.get k).page] else [] :=
  (filed_take entries k).pagesAt_eq p

/-- Pages are only ever added at the end of a heading's pages. -/
theorem pagesAt_take_isPrefix {n m : Nat} (hnm : n ≤ m) (hm : m ≤ entries.length) (p : List Nat) :
    (ofEntries (entries.take n)).root.pagesAt p <+: (ofEntries (entries.take m)).root.pagesAt p := by
  induction m, hnm using Nat.le_induction with
  | base => exact List.prefix_refl _
  | succ m _ ih =>
    refine (ih (by omega)).trans ?_
    rw [pagesAt_take_succ ⟨m, hm⟩ p]
    exact List.prefix_append _ _

theorem path?_take {n m : Nat} (hnm : n ≤ m) (hm : m ≤ entries.length) {p : List Nat}
    {path : List Level} (hp : (ofEntries (entries.take n)).root.path? p = some path) :
    (ofEntries (entries.take m)).root.path? p = some path := by
  induction m, hnm using Nat.le_induction with
  | base => exact hp
  | succ m _ ih => exact (filed_take entries ⟨m, hm⟩).path?_of_path? (ih (by omega))

/-- The levels on the way to the heading are those of the entry. -/
theorem path?_home (k : Fin entries.length) :
    (ofEntries entries).root.path? (home entries k) = some (entries.get k).levels := by
  have hpath := path?_take (Nat.succ_le_of_lt k.2) le_rfl (filed_take entries k).path?_position
  rwa [List.take_length] at hpath

/-- The page of entry number `k` comes to its slot with that entry, and stays there. -/
theorem pagesAt_slot (k : Fin entries.length) {n : Nat} (hn : n ≤ entries.length) :
    ((ofEntries (entries.take n)).root.pagesAt (slot entries k).1)[(slot entries k).2]? =
      if k < n then some (entries.get k).page else none := by
  by_cases hk : k < n
  · rw [if_pos hk]
    obtain ⟨later, hlater⟩ := pagesAt_take_isPrefix (Nat.succ_le_of_lt hk) hn (slot entries k).1
    rw [← hlater, Nat.succ_eq_add_one, pagesAt_take_succ]
    simp [slot]
  · rw [if_neg hk]
    exact List.getElem?_eq_none (pagesAt_take_isPrefix (Nat.le_of_not_lt hk) (Nat.le_of_lt k.2) _).length_le

/-- Every page stands at the slot of an entry. -/
theorem exists_slot {n : Nat} (hn : n ≤ entries.length) {p : List Nat} {j : Nat}
    (hj : j < ((ofEntries (entries.take n)).root.pagesAt p).length) :
    ∃ k : Fin entries.length, k < n ∧ slot entries k = (p, j) := by
  induction n with
  | zero =>
    cases p with
    | nil => simp [start] at hj
    | cons i rest => simp [start, pagesAt, at?_cons] at hj
  | succ n ih =>
    rw [pagesAt_take_succ ⟨n, hn⟩ p, List.length_append] at hj
    -- The page was there before entry number `n`, or it came with that entry.
    rcases Nat.lt_or_ge j ((ofEntries (entries.take n)).root.pagesAt p).length with hlt | hge
    · obtain ⟨k, hk, hslot⟩ := ih (by omega) hlt
      exact ⟨k, by omega, hslot⟩
    · have hp : p = home entries ⟨n, hn⟩ := by
        by_contra hne
        simp [hne] at hj
        omega
      refine ⟨⟨n, hn⟩, Nat.lt_succ_self n, ?_⟩
      simp only [if_pos hp, List.length_singleton] at hj
      exact Prod.ext hp.symm (by simp only [slot, ← hp]; omega)

theorem exists_slot_of_lt {p : List Nat} {j : Nat}
    (hj : j < ((ofEntries entries).root.pagesAt p).length) :
    ∃ k : Fin entries.length, slot entries k = (p, j) := by
  have hall : j < ((ofEntries (entries.take entries.length)).root.pagesAt p).length := by
    rwa [List.take_length]
  obtain ⟨k, -, hk⟩ := exists_slot le_rfl hall
  exact ⟨k, hk⟩

theorem getElem?_pagesAt_slot (k : Fin entries.length) :
    ((ofEntries entries).root.pagesAt (slot entries k).1)[(slot entries k).2]? =
      some (entries.get k).page := by
  have hpage := pagesAt_slot k le_rfl
  rwa [List.take_length, if_pos k.2] at hpage

/-- Where no two entries share a place, an entry is told by its place. -/
theorem eq_of_destination_eq (hplaces : (entries.map (·.destination)).Nodup)
    {k l : Fin entries.length} (heq : (entries.get k).destination = (entries.get l).destination) :
    k = l := by
  have hk : (k : Nat) < (entries.map (·.destination)).length := by simp
  have hl : (l : Nat) < (entries.map (·.destination)).length := by simp
  have hmap : (entries.map (·.destination))[(k : Nat)] = (entries.map (·.destination))[(l : Nat)] := by
    simpa using heq
  exact Fin.ext ((List.Nodup.getElem_inj_iff hplaces).1 hmap)

theorem take_succ_finRange {n k : Nat} (hk : k < n) :
    (List.finRange n).take (k + 1) = (List.finRange n).take k ++ [⟨k, hk⟩] := by
  rw [List.take_succ_eq_append_getElem (by rw [List.length_finRange]; exact hk)]
  simp

/-- Every entry attaches its place among the pages of its heading, counted from one. -/
theorem attachments_eq (entries : List Entry) :
    (ofEntries entries).attachments = (List.finRange entries.length).map fun k =>
      ((entries.get k).destination, number (entries.get k) ((slot entries k).2 + 1)) := by
  suffices h : ∀ n ≤ entries.length, (ofEntries (entries.take n)).attachments =
      ((List.finRange entries.length).take n).map fun k =>
        ((entries.get k).destination, number (entries.get k) ((slot entries k).2 + 1)) by
    have hall := h entries.length le_rfl
    rwa [List.take_length, List.take_of_length_le (by simp)] at hall
  intro n hn
  induction n with
  | zero => rfl
  | succ n ih =>
    have htake : entries.take (n + 1) = entries.take n ++ [entries[n]] :=
      List.take_succ_eq_append_getElem hn
    have hf := filed_take entries ⟨n, hn⟩
    simp only [List.get_eq_getElem] at hf
    rw [htake, ofEntries_concat] at hf
    rw [htake, ofEntries_concat, attachments_step_eq hf, ih (by omega), take_succ_finRange hn,
      List.map_append]
    rfl

end Merge

end BookIndex
