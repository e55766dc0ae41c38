import BookIndex.Proofs.Heading.Sorted

/-!
# Heading.Sharing — which entries share a heading

Entries in order go to positions in order (`isLE_compare_home`), and neighbours share the headings of
the levels that they have in common.  So two entries share a heading exactly where all entries from
one to the other have the levels of the heading (`together_iff`).  Levels may tie without being
equal, and a level that comes back behind another that ties with it gets a heading of its own; this is
the only way in which siblings have equal levels (`Rising.between`).
-/

namespace BookIndex

open Std

/-- The levels that two entries begin with are levels in common. -/
theorem Level.le_common {as bs : List Level} {k : Nat} (hk : k ≤ as.length)
    (heq : bs.take k = as.take k) : k ≤ Level.common as bs := by
  induction as generalizing bs k with
  | nil => simpa using hk
  | cons a as ih =>
    cases k with
    | zero => exact Nat.zero_le _
    | succ k =>
      cases bs with
      | nil => simp at heq
      | cons b bs =>
        obtain ⟨rfl, hrest⟩ := List.cons.inj heq
        rw [Level.common_cons_self]
        exact Nat.succ_le_succ (ih (Nat.le_of_succ_le_succ hk) hrest)

/-- Between two equal levels stand another one, and only such as tie with them. -/
theorem Rising.between {collation : Collation} {before between after : List Level} {level : Level}
    (hrising : Rising collation (before ++ level :: (between ++ level :: after))) :
    (∃ c ∈ between, c ≠ level) ∧
      ∀ c ∈ between, LevelKey.ofLevel collation c = .ofLevel collation level := by
  obtain ⟨-, htail, -⟩ := List.isChain_append.1 hrising
  constructor
  · cases between with
    | nil => exact absurd rfl (List.isChain_cons_cons.1 htail).1.1
    | cons c between => exact ⟨c, by simp, (List.isChain_cons_cons.1 htail).1.1.symm⟩
  · intro c hc
    have hpairwise : (level :: (between ++ level :: after)).Pairwise (Level.KeyLE collation) :=
      List.isChain_iff_pairwise.1 (htail.imp fun a b hab => hab.2)
    obtain ⟨hfirst, hrest⟩ := List.pairwise_cons.1 hpairwise
    -- The key of `c` stands between two keys that are the same.
    have hle := hfirst c (by simp [hc])
    have hge := (List.pairwise_append.1 hrest).2.2 c hc level (by simp)
    exact LawfulEqOrd.eq_of_compare (OrientedCmp.isLE_antisymm hge hle)

namespace Heading

/-- The page is one of the heading, or of a heading below it. -/
def Holds (page : PageRef) (h : Heading) : Prop :=
  ∃ row ∈ rows 0 h, page ∈ row.2.pages

/-- Both pages stand at one heading of this depth, or below it. -/
def Together (forest : List Heading) (depth : Nat) (page page' : PageRef) : Prop :=
  ∃ row ∈ rowsAll 1 forest, row.1 = depth ∧ row.2.Holds page ∧ row.2.Holds page'

theorem holds_iff_exists_pagesAt {page : PageRef} {h : Heading} :
    h.Holds page ↔ ∃ position, page ∈ h.pagesAt position := by
  constructor
  · rintro ⟨row, hrow, hpage⟩
    obtain ⟨position, hg, -⟩ := exists_at?_of_mem_rows hrow
    exact ⟨position, by rwa [pagesAt_of_at? hg]⟩
  · rintro ⟨position, hpage⟩
    obtain ⟨g, hg⟩ := exists_at?_of_pagesAt_ne_nil (List.ne_nil_of_mem hpage)
    rw [pagesAt_of_at? hg] at hpage
    exact ⟨_, mem_rows_of_at? hg 0, hpage⟩

end Heading

namespace Heading.Filed

variable {page : PageRef} {previous levels : List Level} {h h' : Heading} {position : List Nat}

/-- In order, the page does not go to a position before that of the page before. -/
theorem isLE_compare_position (hf : Filed page previous levels h position h')
    (hends : Ends (·.children = []) previous h) (honward : Level.Onward previous levels) :
    (compare (h.lastPosition previous.length) position).isLE := by
  induction hf with
  | here =>
    rw [honward.eq_nil]
    rfl
  | @opened previous _ _ position _ level pages children _ hnew ih =>
    cases previous with
    | nil => exact List.isLE_compare_nil_left
    | cons level' previous =>
      obtain ⟨earlier, last, rfl, -, -⟩ := hends.exists_last
      have hlt : earlier.length < (earlier ++ [last]).length := by simp
      rw [List.length_cons, lastPosition_succ_concat, isLE_compare_cons_iff]
      exact .inl (compare_lt_iff_lt.2 hlt)
  | deeper level pages earlier hlast ih =>
    have hrest := ih (ends_cons.1 hends).2 honward.tail
    rw [List.length_cons, lastPosition_succ_concat, isLE_compare_cons_iff]
    exact .inr ⟨rfl, hrest⟩

end Heading.Filed

namespace Merge

open Heading

variable {collation : Collation} {entries : List Entry}

/-! ### Neighbours -/

/-- The step of an entry after that of its neighbour. -/
theorem filed_succ {k : Nat} (hk : k + 1 < entries.length) :
    Filed entries[k + 1].page entries[k].levels entries[k + 1].levels
      (ofEntries (entries.take (k + 1))).root (home entries ⟨k + 1, hk⟩)
      (ofEntries (entries.take (k + 1 + 1))).root := by
  have hprevious : (ofEntries (entries.take (k + 1))).previous = entries[k].levels := by
    rw [List.take_succ_eq_append_getElem (by omega), previous_ofEntries_concat]
  have hf := filed_take entries ⟨k + 1, hk⟩
  simp only [List.get_eq_getElem, hprevious] at hf
  exact hf

/-- Neighbours share the headings of the levels that they begin with in common. -/
theorem take_home_succ {k : Nat} (hk : k + 1 < entries.length) {n : Nat} (hn : n ≤ entries[k].depth)
    (heq : entries[k + 1].levels.take n = entries[k].levels.take n) :
    (home entries ⟨k, by omega⟩).take n = (home entries ⟨k + 1, hk⟩).take n := by
  have hends := (filed_take entries ⟨k, by omega⟩).ends
  have hcommon := (filed_succ hk).take_lastPosition hends
  have htake := congrArg (List.take n) hcommon
  rwa [List.take_take, List.take_take, Nat.min_eq_left (Level.le_common hn heq)] at htake

theorem isLE_compare_home_succ (hsorted : entries.Pairwise fun a b => (Entry.cmp collation a b).isLE)
    {k : Nat} (hk : k + 1 < entries.length) :
    (compare (home entries ⟨k, by omega⟩) (home entries ⟨k + 1, hk⟩)).isLE := by
  have hends := (inOrder_of_pairwise (hsorted.sublist (List.take_sublist (k + 1) entries))).ends
  rw [List.take_succ_eq_append_getElem (by omega), previous_ofEntries_concat] at hends
  rw [← List.take_succ_eq_append_getElem (by omega)] at hends
  have hle : Level.NotAfter collation entries[k].levels entries[k + 1].levels :=
    List.pairwise_iff_getElem.1 hsorted k (k + 1) (by omega) hk (Nat.lt_succ_self k)
  exact (filed_succ hk).isLE_compare_position hends (hle.onward)

/-! ### Entries further apart -/

/-- Entries in order go to positions in order. -/
theorem isLE_compare_home (hsorted : entries.Pairwise fun a b => (Entry.cmp collation a b).isLE)
    {p q : Nat} (hpq : p ≤ q) (hq : q < entries.length) :
    (compare (home entries ⟨p, by omega⟩) (home entries ⟨q, hq⟩)).isLE := by
  induction q, hpq using Nat.le_induction with
  | base => rw [ReflOrd.compare_self]; rfl
  | succ q _ ih => exact TransOrd.isLE_trans (ih (by omega)) (isLE_compare_home_succ hsorted hq)

/-- Two entries have a heading in common exactly where all entries from one to the other begin with
its levels. -/
theorem take_home_eq_iff (hsorted : entries.Pairwise fun a b => (Entry.cmp collation a b).isLE)
    {p q : Nat} (hpq : p ≤ q) (hq : q < entries.length) {n : Nat} (hn : n ≤ entries[p].depth) :
    (home entries ⟨p, by omega⟩).take n = (home entries ⟨q, hq⟩).take n ↔
      ∀ r, p ≤ r → (hr : r ≤ q) → entries[r].levels.take n = entries[p].levels.take n := by
  constructor
  · intro heq r hpr hrq
    have hbetween := take_eq_of_between (isLE_compare_home hsorted hpr (by omega))
      (isLE_compare_home hsorted hrq hq) heq
    have hp := Heading.path?_take (path?_home (⟨p, by omega⟩ : Fin entries.length)) n
    have hr := Heading.path?_take (path?_home (⟨r, by omega⟩ : Fin entries.length)) n
    rw [hbetween, hp] at hr
    exact (Option.some.inj hr).symm
  · intro hall
    -- From neighbour to neighbour the way down to this depth stays the same.
    induction q, hpq using Nat.le_induction with
    | base => rfl
    | succ q hpq ih =>
      have hlast := hall q hpq (by omega)
      have hdepth : n ≤ entries[q].depth := by
        have hlength := congrArg List.length hlast
        simp only [List.length_take, Entry.depth] at hlength hn ⊢
        omega
      rw [ih (by omega) hn fun r hpr hrq => hall r hpr (by omega)]
      exact take_home_succ hq hdepth ((hall (q + 1) (by omega) le_rfl).trans hlast.symm)

/-! ### Headings in common -/

/-- An entry stands at a heading or below it where the way to its position leads through that of the
heading. -/
theorem holds_iff (hplaces : (entries.map (·.destination)).Nodup) {position : List Nat} {g : Heading}
    (hg : (ofEntries entries).root.at? position = some g) (k : Fin entries.length) :
    g.Holds (entries.get k).page ↔ position <+: home entries k := by
  rw [holds_iff_exists_pagesAt]
  constructor
  · rintro ⟨below, hpage⟩
    rw [← pagesAt_append hg below] at hpage
    obtain ⟨j, hj⟩ := List.mem_iff_getElem?.1 hpage
    obtain ⟨hlt, -⟩ := List.getElem?_eq_some_iff.1 hj
    obtain ⟨l, hl⟩ := exists_slot_of_lt hlt
    have hsame := getElem?_pagesAt_slot l
    rw [hl, hj] at hsame
    obtain rfl : k = l :=
      eq_of_destination_eq hplaces (congrArg PageRef.destination (Option.some.inj hsame))
    exact ⟨below, (congrArg Prod.fst hl).symm⟩
  · rintro ⟨below, hbelow⟩
    refine ⟨below, ?_⟩
    rw [← pagesAt_append hg below, hbelow]
    exact List.mem_of_getElem? (getElem?_pagesAt_slot k)

/-- Two entries in order have a heading in common at a depth exactly where all entries from one to
the other begin with the same levels down to that depth. -/
theorem together_iff (hsorted : entries.Pairwise fun a b => (Entry.cmp collation a b).isLE)
    (hplaces : (entries.map (·.destination)).Nodup) {p q : Nat} (hpq : p ≤ q)
    (hq : q < entries.length) {n : Nat} (hpos : 0 < n) (hn : n ≤ entries[p].depth) :
    Together (ofEntries entries).forest n entries[p].page entries[q].page ↔
      ∀ r, p ≤ r → (hr : r ≤ q) → entries[r].levels.take n = entries[p].levels.take n := by
  rw [← take_home_eq_iff hsorted hpq hq hn]
  constructor
  · rintro ⟨row, hrow, rfl, hp, hq'⟩
    obtain ⟨i, rest, hg, hdepth⟩ := mem_rowsAll_children_iff.1 hrow
    have hfirst := (holds_iff hplaces hg ⟨p, by omega⟩).1 hp
    have hsecond := (holds_iff hplaces hg ⟨q, hq⟩).1 hq'
    have hlength : row.1 = (i :: rest).length := by
      rw [hdepth, List.length_cons, Nat.add_comm]
    rw [hlength, ← List.prefix_iff_eq_take.1 hfirst, ← List.prefix_iff_eq_take.1 hsecond]
  · intro heq
    have hpath := path?_home (⟨p, by omega⟩ : Fin entries.length)
    have hlength : n ≤ (home entries ⟨p, by omega⟩).length := by
      rw [← length_of_path? hpath]
      exact hn
    obtain ⟨g, hg⟩ := exists_at?_of_path? (Heading.path?_take hpath n)
    have hbegins : (home entries ⟨p, by omega⟩).take n <+: home entries ⟨q, hq⟩ := by
      rw [heq]
      exact List.take_prefix n _
    refine ⟨(n, g), ?_, rfl, (holds_iff hplaces hg ⟨p, by omega⟩).2 (List.take_prefix n _),
      (holds_iff hplaces hg ⟨q, hq⟩).2 hbegins⟩
    obtain ⟨i, rest, hcons⟩ : ∃ i rest, (home entries ⟨p, by omega⟩).take n = i :: rest := by
      apply List.exists_cons_of_length_pos
      rw [List.length_take]
      omega
    have hdepth := congrArg List.length hcons
    rw [List.length_take, List.length_cons] at hdepth
    rw [hcons] at hg
    exact mem_rowsAll_children_iff.2 ⟨i, rest, hg, by simp only; omega⟩

/-- Levels that are the same in two entries in order tie with those of all entries between them. -/
theorem take_orderKey_eq_of_between
    (hsorted : entries.Pairwise fun a b => (Entry.cmp collation a b).isLE) {p r q : Nat} (hpr : p ≤ r)
    (hrq : r ≤ q) (hq : q < entries.length) {n : Nat}
    (heq : entries[q].levels.take n = entries[p].levels.take n) :
    (entries[r].orderKey collation).take n = (entries[p].orderKey collation).take n := by
  have hle {i j : Nat} (hij : i ≤ j) (hj : j < entries.length) :
      (compare (entries[i].orderKey collation) (entries[j].orderKey collation)).isLE := by
    rcases Nat.lt_or_ge i j with hlt | hge
    · exact List.pairwise_iff_getElem.1 hsorted i j (by omega) hj hlt
    · obtain rfl : i = j := by omega
      rw [ReflOrd.compare_self]
      rfl
  refine take_eq_of_between (hle hpr (by omega)) (hle hrq hq) ?_
  rw [Entry.orderKey, Entry.orderKey, ← List.map_take, ← List.map_take, heq]

end Merge

end BookIndex
