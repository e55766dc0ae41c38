import BookIndex.Proofs.Heading.Filing
import Mathlib.Data.List.Chain

/-!
# Heading.Listing — a forest read from top to bottom

`mentionsAll` lists the pages of a forest in preorder, each with the levels that lead to its heading,
and `families` are the lists of siblings.  Where the last heading on the way of the entry before has
no subheadings and the new levels do not go back to one above it, filing a page adds it at the end
of the listing (`Filed.mentions_eq`).
-/

namespace BookIndex.Heading

mutual

/-- The pages of a tree in preorder, each with the levels of its heading, where `path` are those of
the tree itself. -/
def mentions (path : List Level) : Heading → List (List Level × PageRef)
  | ⟨_, pages, children⟩ => pages.map (path, ·) ++ mentionsAll path children

/-- The pages of a forest in preorder, where `path` are the levels above it. -/
def mentionsAll (path : List Level) : List Heading → List (List Level × PageRef)
  | [] => []
  | h :: rest => mentions (path ++ [h.level]) h ++ mentionsAll path rest

end

/-- The lists of siblings: the headings of the forest, and the subheadings of each heading. -/
def families (forest : List Heading) : List (List Heading) :=
  forest :: (rowsAll 0 forest).map (·.2.children)

theorem mentions_eq (path : List Level) (h : Heading) :
    mentions path h = h.pages.map (path, ·) ++ mentionsAll path h.children := by
  cases h
  rw [mentions]

@[simp] theorem mentionsAll_append (path : List Level) (hs gs : List Heading) :
    mentionsAll path (hs ++ gs) = mentionsAll path hs ++ mentionsAll path gs := by
  induction hs with
  | nil => simp [mentionsAll]
  | cons h hs ih => simp [mentionsAll, ih]

@[simp] theorem mentionsAll_singleton (path : List Level) (h : Heading) :
    mentionsAll path [h] = mentions (path ++ [h.level]) h := by
  simp [mentionsAll]

mutual

/-- The listing has the pages of all rows in turn. -/
theorem map_snd_mentions (path : List Level) (depth : Nat) : ∀ h : Heading,
    (mentions path h).map (·.2) = (rows depth h).flatMap (·.2.pages)
  | ⟨level, pages, children⟩ => by
    have ih := map_snd_mentionsAll path (depth + 1) children
    simp [mentions, rows, ih, Function.comp_def]

theorem map_snd_mentionsAll (path : List Level) (depth : Nat) : ∀ forest : List Heading,
    (mentionsAll path forest).map (·.2) = (rowsAll depth forest).flatMap (·.2.pages)
  | [] => rfl
  | h :: forest => by
    have hh := map_snd_mentions (path ++ [h.level]) depth h
    have ih := map_snd_mentionsAll path depth forest
    simp [mentionsAll, rowsAll, hh, ih]

end

/-! ### Properties of every heading -/

/-- `P` holds of every heading of the tree. -/
def Everywhere (P : Heading → Prop) (h : Heading) : Prop :=
  ∀ position g, h.at? position = some g → P g

variable {P : Heading → Prop}

theorem everywhere_iff {h : Heading} :
    Everywhere P h ↔ P h ∧ ∀ child ∈ h.children, Everywhere P child := by
  constructor
  · intro hall
    refine ⟨hall [] h rfl, fun child hchild position g hg => ?_⟩
    obtain ⟨i, hi⟩ := List.mem_iff_getElem?.1 hchild
    exact hall (i :: position) g (by simp [at?_cons, hi, hg])
  · rintro ⟨hh, hchildren⟩ position g hg
    cases position with
    | nil =>
      obtain rfl : h = g := by simpa using hg
      exact hh
    | cons i rest =>
      obtain ⟨child, hchild, hrest⟩ := Option.bind_eq_some_iff.1 hg
      exact hchildren child (List.mem_of_getElem? hchild) rest g hrest

theorem everywhere_concat_iff {level : Level} {pages : List PageRef} {earlier : List Heading}
    {last : Heading} : Everywhere P ⟨level, pages, earlier ++ [last]⟩ ↔
      P ⟨level, pages, earlier ++ [last]⟩ ∧ (∀ child ∈ earlier, Everywhere P child) ∧
        Everywhere P last := by
  rw [everywhere_iff, List.forall_mem_append, List.forall_mem_singleton]

/-- What holds everywhere in the subtrees holds of the rows below a heading. -/
theorem forall_mem_rowsAll_children {h : Heading} {depth : Nat}
    (hall : ∀ child ∈ h.children, Everywhere P child) :
    ∀ row ∈ rowsAll depth h.children, P row.2 := by
  intro row hrow
  obtain ⟨i, child, rest, hchild, hg, -⟩ := exists_at?_of_mem_rowsAll hrow
  exact hall child (List.mem_of_getElem? hchild) rest row.2 hg

/-- What holds of the siblings below every heading holds of all families of its subheadings. -/
theorem forall_mem_families_children {Q : List Heading → Prop} {h : Heading}
    (hall : Everywhere (fun g => Q g.children) h) : ∀ siblings ∈ families h.children, Q siblings := by
  intro siblings hsiblings
  obtain ⟨hh, hchildren⟩ := everywhere_iff.1 hall
  rcases List.mem_cons.1 hsiblings with rfl | hmem
  · exact hh
  · obtain ⟨row, hrow, rfl⟩ := List.mem_map.1 hmem
    exact forall_mem_rowsAll_children hchildren row hrow

/-! ### What filing does to the listing -/

namespace Filed

variable {page : PageRef} {previous levels : List Level} {h h' : Heading} {position : List Nat}

/-- No heading is left without pages and subheadings, `h` itself included. -/
theorem everywhere_nonempty (hf : Filed page previous levels h position h')
    (hall : ∀ child ∈ h.children, Everywhere (fun g => g.children = [] → g.pages ≠ []) child) :
    Everywhere (fun g => g.children = [] → g.pages ≠ []) h' := by
  induction hf with
  | here previous level pages children => exact everywhere_iff.2 ⟨by simp, hall⟩
  | opened level pages children _ hnew ih =>
    exact everywhere_concat_iff.2 ⟨by simp, hall, ih (by simp)⟩
  | deeper level pages earlier hlast ih =>
    obtain ⟨hearlier, hold⟩ := List.forall_mem_append.1 hall
    have hlast' := ih (everywhere_iff.1 (hold _ (List.mem_singleton_self _))).2
    exact everywhere_concat_iff.2 ⟨by simp, hearlier, hlast'⟩

/-- Where the way of the entry before ends without subheadings, and the new levels do not stop on
that way before its end, the new way ends without subheadings too. -/
theorem ends_leaf (hf : Filed page previous levels h position h')
    (hends : Ends (·.children = []) previous h) (honward : Level.Onward previous levels) :
    Ends (·.children = []) levels h' := by
  induction hf with
  | here previous level pages children =>
    obtain rfl := honward.eq_nil
    exact hends
  | opened level pages children _ hnew ih =>
    exact ends_cons.2 ⟨hnew.level_eq, ih rfl (Level.onward_nil _)⟩
  | deeper level pages earlier hlast ih =>
    exact ends_cons.2 ⟨hlast.level_eq, ih (ends_cons.1 hends).2 honward.tail⟩

/-- Then the page comes last in the listing. -/
theorem mentions_eq (hf : Filed page previous levels h position h')
    (hends : Ends (·.children = []) previous h) (honward : Level.Onward previous levels)
    (path : List Level) : h'.mentions path = h.mentions path ++ [(path ++ levels, page)] := by
  induction hf generalizing path with
  | here previous level pages children =>
    obtain rfl := honward.eq_nil
    obtain rfl : children = [] := hends
    simp [mentions, mentionsAll]
  | opened level pages children _ hnew ih =>
    have hnew' := ih rfl (Level.onward_nil _)
    simp [mentions, hnew.level_eq, hnew', mentionsAll]
  | @deeper _ _ last _ _ level pages earlier hlast ih =>
    have hlast' := ih (ends_cons.1 hends).2 honward.tail (path ++ [last.level])
    simp [mentions, hlast.level_eq, hlast']

end Filed

end BookIndex.Heading
