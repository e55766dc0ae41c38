import BookIndex.Proofs.Heading.Position

/-!
# Heading.Filing — what filing one page does to a tree

`Filed page previous levels h position h'` spells out how `h` becomes `h'` when a page is filed under
`levels` after an entry with the levels `previous`: the page goes to `h` itself, or a heading is
opened behind the subheadings of `h`, or the last subheading of `h` is the one to file below.  An
opened heading is a bare one in which the rest of the levels is filed, so both kinds of step read
alike.  `filed_file` says that `file` does this if the last headings of the tree have the levels
`previous` (`Ends`); all else about filing is an induction on `Filed`.
-/

namespace BookIndex

/-! ### Common levels -/

@[simp] theorem Level.common_nil_left (levels : List Level) : Level.common [] levels = 0 := rfl

@[simp] theorem Level.common_nil_right (levels : List Level) : Level.common levels [] = 0 := by
  cases levels <;> rfl

@[simp] theorem Level.common_cons_self (level : Level) (as bs : List Level) :
    Level.common (level :: as) (level :: bs) = Level.common as bs + 1 := by
  simp [Level.common]

theorem Level.common_cons_of_ne {a b : Level} (h : a ≠ b) (as bs : List Level) :
    Level.common (a :: as) (b :: bs) = 0 := by
  simp [Level.common, h]

/-- The levels do not stop on the way of those before them, unless at its end. -/
def Level.Onward (previous levels : List Level) : Prop :=
  levels <+: previous → levels = previous

theorem Level.onward_nil (levels : List Level) : Level.Onward [] levels :=
  List.prefix_nil.1

theorem Level.Onward.eq_nil {previous : List Level} (h : Level.Onward previous []) : previous = [] :=
  (h List.nil_prefix).symm

theorem Level.Onward.tail {level : Level} {previous levels : List Level}
    (h : Level.Onward (level :: previous) (level :: levels)) : Level.Onward previous levels := by
  intro hbegins
  have heq := h (List.cons_prefix_cons.2 ⟨rfl, hbegins⟩)
  exact (List.cons.inj heq).2

namespace Heading

@[simp] theorem mapLast_concat {α : Type} (f : α → α) (init : List α) (a : α) :
    mapLast f (init ++ [a]) = init ++ [f a] := by
  induction init with
  | nil => rfl
  | cons b init ih =>
    cases init with
    | nil => rfl
    | cons c init => simpa [mapLast] using ih

/-- The last headings below `h`, each below the one before, have these levels, and the last of them
satisfies `final`. -/
def Ends (final : Heading → Prop) : List Level → Heading → Prop
  | [], h => final h
  | level :: rest, h =>
    ∃ earlier last, h.children = earlier ++ [last] ∧ last.level = level ∧ Ends final rest last

theorem Ends.exists_last {final : Heading → Prop} {level l : Level} {rest : List Level}
    {pages : List PageRef} {children : List Heading}
    (hends : Ends final (level :: rest) ⟨l, pages, children⟩) : ∃ earlier last,
      children = earlier ++ [last] ∧ last.level = level ∧ Ends final rest last :=
  hends

theorem ends_cons {final : Heading → Prop} {level l : Level} {rest : List Level}
    {pages : List PageRef} {earlier : List Heading} {last : Heading} :
    Ends final (level :: rest) ⟨l, pages, earlier ++ [last]⟩ ↔
      last.level = level ∧ Ends final rest last := by
  constructor
  · rintro ⟨earlier', last', hchildren, hlevel, hlast⟩
    obtain ⟨-, h⟩ := List.append_inj' hchildren rfl
    obtain rfl : last = last' := by simpa using h
    exact ⟨hlevel, hlast⟩
  · rintro ⟨hlevel, hlast⟩
    exact ⟨earlier, last, rfl, hlevel, hlast⟩

/-- `h` becomes `h'` when the page is filed under `levels`, at the heading that stands at
`position`, after an entry with the levels `previous`. -/
inductive Filed (page : PageRef) :
    List Level → List Level → Heading → List Nat → Heading → Prop
  /-- The page goes to the heading itself. -/
  | here (previous : List Level) (level : Level) (pages : List PageRef)
      (children : List Heading) :
    Filed page previous [] ⟨level, pages, children⟩ [] ⟨level, pages ++ [page], children⟩
  /-- A heading is opened behind all others. -/
  | opened {previous rest : List Level} {first : Level} {position : List Nat} {new : Heading}
      (level : Level) (pages : List PageRef) (children : List Heading) :
    previous.head? ≠ some first → Filed page [] rest ⟨first, [], []⟩ position new →
    Filed page previous (first :: rest) ⟨level, pages, children⟩ (children.length :: position)
      ⟨level, pages, children ++ [new]⟩
  /-- The page is filed below the last subheading. -/
  | deeper {previous levels : List Level} {last last' : Heading} {position : List Nat}
      (level : Level) (pages : List PageRef) (earlier : List Heading) :
    Filed page previous levels last position last' →
    Filed page (last.level :: previous) (last.level :: levels) ⟨level, pages, earlier ++ [last]⟩
      (earlier.length :: position) ⟨level, pages, earlier ++ [last']⟩

/-- A branch is a bare heading with the page filed in it. -/
theorem filed_branch (page : PageRef) (level : Level) (rest : List Level) :
    ∃ position, Filed page [] rest ⟨level, [], []⟩ position (branch page level rest) := by
  induction rest generalizing level with
  | nil => exact ⟨[], .here [] level [] []⟩
  | cons next rest ih =>
    obtain ⟨position, h⟩ := ih next
    exact ⟨_, .opened level [] [] (by simp) h⟩

/-- What filing does where the last headings have the levels of the entry before. -/
theorem filed_file (page : PageRef) {final : Heading → Prop} {previous : List Level} {h : Heading}
    (hends : Ends final previous h) (levels : List Level) :
    ∃ position, Filed page previous levels h position
      (file page (Level.common previous levels) levels h) := by
  induction levels generalizing previous h with
  | nil =>
    obtain ⟨level, pages, children⟩ := h
    rw [Level.common_nil_right, file]
    exact ⟨[], .here previous level pages children⟩
  | cons first rest ih =>
    -- Where the levels part from those before, a heading is opened.
    have hopen (hne : previous.head? ≠ some first) : ∃ position,
        Filed page previous (first :: rest) h position (file page 0 (first :: rest) h) := by
      obtain ⟨position, hnew⟩ := filed_branch page first rest
      obtain ⟨level, pages, children⟩ := h
      rw [file]
      exact ⟨_, .opened level pages children hne hnew⟩
    cases previous with
    | nil => exact hopen (by simp)
    | cons level previous =>
      by_cases heq : level = first
      · subst heq
        obtain ⟨l, pages, children⟩ := h
        obtain ⟨earlier, last, rfl, rfl, hlast⟩ := hends.exists_last
        obtain ⟨position, hfiled⟩ := ih hlast
        refine ⟨earlier.length :: position, ?_⟩
        rw [Level.common_cons_self, file, mapLast_concat]
        exact .deeper l pages earlier hfiled
      · rw [Level.common_cons_of_ne heq]
        exact hopen (by simpa using heq)

namespace Filed

variable {page : PageRef} {previous levels : List Level} {h h' : Heading} {position : List Nat}

theorem level_eq (hf : Filed page previous levels h position h') : h'.level = h.level := by
  cases hf <;> rfl

/-- Afterwards the last headings have the levels of the entry. -/
theorem ends (hf : Filed page previous levels h position h') : Ends (fun _ => True) levels h' := by
  induction hf with
  | here => trivial
  | opened level pages children _ hnew ih => exact ends_cons.2 ⟨hnew.level_eq, ih⟩
  | deeper level pages earlier hlast ih => exact ends_cons.2 ⟨hlast.level_eq, ih⟩

/-- The page goes to the heading of its last level. -/
theorem path?_position (hf : Filed page previous levels h position h') :
    h'.path? position = some levels := by
  induction hf with
  | here => rfl
  | opened level pages children _ hnew ih => simp [path?_cons, ih, hnew.level_eq]
  | deeper level pages earlier hlast ih => simp [path?_cons, ih, hlast.level_eq]

theorem at?_position (hf : Filed page previous levels h position h') :
    h'.at? position = some (h'.lastAt levels.length) := by
  induction hf with
  | here => rfl
  | opened level pages children _ hnew ih => simp [at?_cons, lastAt, ih]
  | deeper level pages earlier hlast ih => simp [at?_cons, lastAt, ih]

theorem lastPosition_eq (hf : Filed page previous levels h position h') :
    h'.lastPosition levels.length = position := by
  induction hf with
  | here => rfl
  | opened level pages children _ hnew ih => rw [List.length_cons, lastPosition_succ_concat, ih]
  | deeper level pages earlier hlast ih => rw [List.length_cons, lastPosition_succ_concat, ih]

/-- The levels shared with the entry before are those of headings shared with it. -/
theorem take_lastPosition (hf : Filed page previous levels h position h')
    (hends : Ends (fun _ => True) previous h) :
    (h.lastPosition previous.length).take (Level.common previous levels) =
      position.take (Level.common previous levels) := by
  induction hf with
  | here => simp
  | @opened previous rest first _ _ level pages children hne _ _ =>
    cases previous with
    | nil => simp
    | cons l previous => simp [Level.common_cons_of_ne (show l ≠ first by simpa using hne)]
  | deeper level pages earlier hlast ih =>
    simp [lastPosition_succ_concat, ih (ends_cons.1 hends).2]

/-- The page comes last among those of its heading, and all other headings keep theirs. -/
theorem pagesAt_eq (hf : Filed page previous levels h position h') (p : List Nat) :
    h'.pagesAt p = h.pagesAt p ++ if p = position then [page] else [] := by
  induction hf generalizing p with
  | here previous level pages children =>
    cases p with
    | nil => simp
    | cons i rest => simp [pagesAt, at?_cons]
  | @opened _ _ first position new level pages children _ hnew ih =>
    cases p with
    | nil => simp
    | cons i rest =>
      have hbare : (⟨first, [], []⟩ : Heading).pagesAt rest = [] := by
        cases rest <;> simp [pagesAt, at?_cons]
      -- Before the opened heading all is as it was, and behind it there is nothing.
      rcases Nat.lt_trichotomy i children.length with hi | hi | hi
      · simp [pagesAt, at?_cons, List.getElem?_append_left hi, Nat.ne_of_lt hi]
      · subst hi
        have hnew : (children ++ [new])[children.length]? = some new := by simp
        rw [pagesAt_cons_of_some hnew, pagesAt_cons_of_none (by simp), ih, hbare]
        simp
      · have hge : (children ++ [new]).length ≤ i := by simp; omega
        rw [pagesAt_cons_of_none (by simpa using hge), pagesAt_cons_of_none (by simp; omega)]
        simp [Nat.ne_of_gt hi]
  | @deeper _ _ last last' position level pages earlier _ ih =>
    cases p with
    | nil => simp
    | cons i rest =>
      rcases Nat.lt_trichotomy i earlier.length with hi | hi | hi
      · simp [pagesAt, at?_cons, List.getElem?_append_left hi, Nat.ne_of_lt hi]
      · subst hi
        have hlast : (earlier ++ [last])[earlier.length]? = some last := by simp
        have hlast' : (earlier ++ [last'])[earlier.length]? = some last' := by simp
        rw [pagesAt_cons_of_some hlast', pagesAt_cons_of_some hlast, ih]
        simp
      · rw [pagesAt_cons_of_none (by simp; omega), pagesAt_cons_of_none (by simp; omega)]
        simp [Nat.ne_of_gt hi]

/-- Every heading keeps its position and its levels. -/
theorem path?_of_path? (hf : Filed page previous levels h position h') {p : List Nat}
    {path : List Level} (hp : h.path? p = some path) : h'.path? p = some path := by
  induction hf generalizing p path with
  | here previous level pages children =>
    cases p with
    | nil => exact hp
    | cons i rest => exact hp
  | opened level pages children _ hnew ih =>
    cases p with
    | nil => exact hp
    | cons i rest =>
      rw [path?_cons] at hp ⊢
      obtain ⟨child, hchild, hrest⟩ := Option.bind_eq_some_iff.1 hp
      have hi : i < children.length := (List.getElem?_eq_some_iff.1 hchild).1
      simpa [List.getElem?_append_left hi] using hp
  | @deeper _ _ last last' _ level pages earlier hlast ih =>
    cases p with
    | nil => exact hp
    | cons i rest =>
      rw [path?_cons] at hp ⊢
      obtain ⟨child, hchild, hrest⟩ := Option.bind_eq_some_iff.1 hp
      rcases Nat.lt_or_ge i earlier.length with hi | hi
      · simpa [List.getElem?_append_left hi] using hp
      · have hlen := (List.getElem?_eq_some_iff.1 hchild).1
        obtain rfl : i = earlier.length := by simp at hlen; omega
        obtain rfl : last = child := by simpa using hchild
        obtain ⟨below, hbelow, rfl⟩ := Option.map_eq_some_iff.1 hrest
        simp [ih hbelow, hlast.level_eq]

end Filed

end Heading

end BookIndex
