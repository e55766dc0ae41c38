import BookIndex.Proofs.Heading.Numbering
import Mathlib

/-!
# Heading.Unsorted — what merging entries in any order gives

Entries that are not in order climb up and down, and come back to headings that have subheadings by
then.  Still a filing adds one mention to the listing of the tree (`Filed.mentions_perm`), and opens a
heading for each level beyond those in common with the entry before (`Filed.size_add`).  So a run files
the page of every entry once, below the levels of the entry, and the forest has as many headings as the
entries open.
-/

namespace BookIndex

theorem Level.common_le_length (as bs : List Level) : Level.common as bs ≤ bs.length := by
  induction as generalizing bs with
  | nil => exact Nat.zero_le _
  | cons a as ih =>
    cases bs with
    | nil => exact Nat.zero_le _
    | cons b bs =>
      by_cases heq : a = b
      · subst heq
        rw [Level.common_cons_self, List.length_cons]
        exact Nat.succ_le_succ (ih bs)
      · rw [Level.common_cons_of_ne heq]
        exact Nat.zero_le _

namespace Heading.Filed

variable {page : PageRef} {previous levels : List Level} {h h' : Heading} {position : List Nat}

/-- The page is one mention more, somewhere in the listing. -/
theorem mentions_perm (hf : Filed page previous levels h position h') (path : List Level) :
    (h'.mentions path).Perm ((path ++ levels, page) :: h.mentions path) := by
  induction hf generalizing path with
  | here previous level pages children =>
    simp only [mentions, List.map_append, List.map_singleton, List.append_nil, List.append_assoc,
      List.singleton_append]
    exact List.perm_middle
  | @opened _ rest first _ new level pages children _ hnew ih =>
    have hopened : new.mentions (path ++ [first]) = [(path ++ first :: rest, page)] := by
      refine List.perm_singleton.1 ?_
      simpa [mentions, mentionsAll] using ih (path ++ [first])
    rw [Heading.mentions_eq, Heading.mentions_eq, mentionsAll_append, mentionsAll_singleton,
      hnew.level_eq, hopened, ← List.append_assoc]
    exact List.perm_append_singleton _ _
  | @deeper _ levels last last' _ level pages earlier hlast ih =>
    have hbelow : (last'.mentions (path ++ [last.level])).Perm
        ((path ++ last.level :: levels, page) :: last.mentions (path ++ [last.level])) := by
      simpa using ih (path ++ [last.level])
    rw [Heading.mentions_eq, Heading.mentions_eq, mentionsAll_append, mentionsAll_append,
      mentionsAll_singleton, mentionsAll_singleton, hlast.level_eq, ← List.append_assoc, ← List.append_assoc]
    exact (hbelow.append_left _).trans List.perm_middle

/-- A heading is opened for each level that is not in common. -/
theorem size_add (hf : Filed page previous levels h position h') :
    h'.size + Level.common previous levels = h.size + levels.length := by
  induction hf with
  | here previous level pages children => simp [size_eq]
  | @opened previous _ first _ _ level pages children hne hnew ih =>
    have hcommon : ∀ rest, Level.common previous (first :: rest) = 0 := by
      intro rest
      cases previous with
      | nil => rfl
      | cons l previous => exact Level.common_cons_of_ne (by simpa using hne) _ _
    have hbare : (⟨first, [], []⟩ : Heading).size = 1 := rfl
    rw [Level.common_nil_left, hbare] at ih
    rw [hcommon, size_eq, size_eq, sizeAll_append, List.length_cons]
    simp only [sizeAll]
    omega
  | deeper level pages earlier hlast ih =>
    rw [Level.common_cons_self, size_eq, size_eq, sizeAll_append, sizeAll_append, List.length_cons]
    simp only [sizeAll]
    omega

end Heading.Filed

namespace Merge

open Heading

/-- The listing has a mention for each entry, below its levels. -/
theorem mentions_root_perm (entries : List Entry) :
    ((ofEntries entries).root.mentions []).Perm
      (entries.map fun entry => (entry.levels, entry.page)) := by
  induction entries using List.reverseRecOn with
  | nil => exact List.Perm.refl _
  | append_singleton entries entry ih =>
    obtain ⟨position, hf⟩ := filed_ofEntries_concat entries entry
    refine (hf.mentions_perm []).trans ?_
    rw [List.map_append, List.map_singleton, List.nil_append]
    exact (ih.cons _).trans (List.perm_append_singleton _ _).symm

/-- The headings that a run opens, where the entries follow one with the levels `s.previous`. -/
theorem size_foldl_step {s : Merge} (hends : s.root.Ends (fun _ => True) s.previous)
    (entries : List Entry) : (entries.foldl step s).root.size = s.root.size +
      (List.zipWith (fun previous entry => entry.depth - Level.common previous entry.levels)
        (s.previous :: entries.map (·.levels)) entries).sum := by
  induction entries generalizing s with
  | nil => rfl
  | cons entry entries ih =>
    obtain ⟨position, hf⟩ := filed_step hends entry
    have hsize := hf.size_add
    have hle := Level.common_le_length s.previous entry.levels
    have hprevious : (step s entry).previous = entry.levels := rfl
    rw [List.foldl_cons, ih (hprevious ▸ hf.ends), hprevious, List.map_cons, List.zipWith_cons_cons,
      List.sum_cons, Entry.depth]
    omega

/-- The pages of a heading are those of the entries that are filed there, in the order of the list. -/
theorem pagesAt_ofEntries (entries : List Entry) (position : List Nat) :
    (ofEntries entries).root.pagesAt position =
      ((List.finRange entries.length).filter fun k => home entries k = position).map
        fun k => (entries.get k).page := by
  suffices h : ∀ n ≤ entries.length, (ofEntries (entries.take n)).root.pagesAt position =
      (((List.finRange entries.length).take n).filter fun k => home entries k = position).map
        fun k => (entries.get k).page by
    have hall := h entries.length le_rfl
    rwa [List.take_length, List.take_of_length_le (by simp)] at hall
  intro n hn
  induction n with
  | zero =>
    cases position with
    | nil => rfl
    | cons i rest => rfl
  | succ n ih =>
    have hstep := pagesAt_take_succ ⟨n, hn⟩ position
    rw [take_succ_finRange hn, List.filter_append, List.map_append, ← ih (by omega), hstep]
    by_cases hhome : home entries ⟨n, hn⟩ = position
    · simp [hhome]
    · simp [hhome, Ne.symm hhome]

/-- Merging entries in any order files the page of each entry once, below the levels of the entry.  The
pages of a heading stand in the order of the list, there is no heading without pages and subheadings,
and there are as many headings as the entries have levels that are not in common with the entry
before. -/
theorem files_every_page (entries : List Entry) (hlevels : ∀ entry ∈ entries, entry.levels ≠ []) :
    (mentionsAll [] (ofEntries entries).forest).Perm
        (entries.map fun entry => (entry.levels, entry.page)) ∧
      (∃ home : Fin entries.length → List Nat,
        (∀ k, (ofEntries entries).root.path? (home k) = some (entries.get k).levels) ∧
        ∀ position, (ofEntries entries).root.pagesAt position =
          ((List.finRange entries.length).filter fun k => home k = position).map
            fun k => (entries.get k).page) ∧
      (∀ row ∈ rowsAll 0 (ofEntries entries).forest, row.2.children = [] → row.2.pages ≠ []) ∧
      sizeAll (ofEntries entries).forest =
        (List.zipWith (fun previous entry => entry.depth - Level.common previous entry.levels)
          ([] :: entries.map (·.levels)) entries).sum := by
  refine ⟨?_, ⟨home entries, path?_home, pagesAt_ofEntries entries⟩, ?_, ?_⟩
  · have hperm := mentions_root_perm entries
    rwa [mentions_eq, pages_root_ofEntries hlevels, List.map_nil, List.nil_append] at hperm
  · exact forall_mem_rowsAll_children (everywhere_nonempty_ofEntries entries)
  · have hsize := size_foldl_step (ends_ofEntries []) entries
    have hstart : (ofEntries []).root.size = 1 := rfl
    rw [size_eq, hstart, Nat.add_comm] at hsize
    exact Nat.add_left_cancel hsize

/-- Of the entries that are not in order the third opens a heading below one that it comes back to, and
the last two open trees of their own. -/
theorem files_every_page_unordered : (∀ entry ∈ unordered, entry.levels ≠ []) ∧
    (mentionsAll [] (ofEntries unordered).forest).Perm
      (unordered.map fun entry => (entry.levels, entry.page)) ∧
    sizeAll (ofEntries unordered).forest = 2 + 0 + 1 + 1 + 2 := by
  have hlevels : ∀ entry ∈ unordered, entry.levels ≠ [] := by simp [unordered]
  obtain ⟨hperm, -, -, hsize⟩ := files_every_page unordered hlevels
  exact ⟨hlevels, hperm, hsize.trans (by decide)⟩

end Merge

end BookIndex
