import BookIndex.Entry
import BookIndex.Proofs.Entry.Signs
import Mathlib.Data.List.Basic

/-!
# Entry.Segments — levels written one after the other

A segment is what one level of an entry is written as.  Its sort marks end the sort keys that it
declares, and what follows the last one is its key.  Where segments are joined by level marks, every
level has the key of its segment (`RawEntry.ofTokens_join`).  Sort keys stand in one line: a level takes
the first that no level before has taken, and its own key if none is left (`allot`).  So a segment that
declares more than one sort key leaves the others to the levels after it.
-/

namespace BookIndex

/-- The character of a mark. -/
def Mark.char : Mark → Char
  | quote => '"'
  | level => '!'
  | sort => '@'
  | format => '|'

/-- A token that is a mark. -/
def Mark.token (m : Mark) : Token := .char m.char .other

@[simp] theorem Mark.ofToken?_token (m : Mark) : Mark.ofToken? m.token = some m := by
  cases m <;> rfl

/-- What the sort marks among signs part. -/
def pieces (xs : List Sign) : List (List Token) :=
  (xs.splitOnP (·.mark == some .sort)).map (·.map Sign.token)

theorem pieces_nil : pieces [] = [[]] := by
  simp [pieces]

theorem pieces_ne_nil (xs : List Sign) : pieces xs ≠ [] := by
  simp [pieces, List.splitOnP_ne_nil]

theorem pieces_cons_of_sort {x : Sign} (hx : x.mark = some .sort) (xs : List Sign) :
    pieces (x :: xs) = [] :: pieces xs := by
  simp [pieces, List.splitOnP_cons_eq_if_modifyHead, hx]

theorem pieces_cons_of_ne_sort {x : Sign} (hx : x.mark ≠ some .sort) (xs : List Sign) :
    pieces (x :: xs) = (pieces xs).modifyHead (x.token :: ·) := by
  obtain ⟨first, others, hsplit⟩ :=
    List.exists_cons_of_ne_nil (List.splitOnP_ne_nil (fun y : Sign => y.mark == some .sort) xs)
  simp [pieces, List.splitOnP_cons_eq_if_modifyHead, hx, hsplit]

/-- What one level is written as. -/
structure Segment where
  tokens : List Token
  /-- The last token is no quote mark with nothing to quote. -/
  complete : endsInQuote tokens = false
  /-- No level mark stands in it that is not quoted. -/
  no_level : ∀ x ∈ signs tokens, x.mark ≠ some .level
  /-- No format mark stands in it that is not quoted. -/
  no_format : ∀ x ∈ signs tokens, x.mark ≠ some .format

namespace Segment

/-- The sort keys that a level declares. -/
def sortKeys (seg : Segment) : List (List Token) := (pieces (signs seg.tokens)).dropLast

/-- The key of a level. -/
def key (seg : Segment) : List Token := (pieces (signs seg.tokens)).getLast (pieces_ne_nil _)

/-- Segments with level marks between them. -/
def join (segs : List Segment) : List Token :=
  [Mark.level.token].intercalate (segs.map tokens)

/-- The sort keys in the order of the levels, where `waiting` are left from the levels before.  A level
takes the first that waits, and its key if none does. -/
def allot (waiting : List (List Token)) : List Segment → List (List Token)
  | [] => waiting
  | seg :: segs =>
    match waiting ++ seg.sortKeys with
    | [] => seg.key :: allot [] segs
    | sortKey :: others => sortKey :: allot others segs

theorem join_cons_cons (seg next : Segment) (segs : List Segment) :
    join (seg :: next :: segs) = seg.tokens ++ Mark.level.token :: join (next :: segs) := by
  rw [join, List.map_cons, List.map_cons, List.intercalate_cons_cons, List.append_assoc]
  rfl

theorem signs_join_cons_cons (seg next : Segment) (segs : List Segment) :
    signs (join (seg :: next :: segs)) =
      signs seg.tokens ++ ⟨some .level, Mark.level.token⟩ :: signs (join (next :: segs)) := by
  rw [join_cons_cons, signs_append seg.complete,
    signs_cons_of_mark (Mark.ofToken?_token _) (by decide)]

theorem endsInQuote_join (segs : List Segment) : endsInQuote (join segs) = false := by
  induction segs with
  | nil => rfl
  | cons seg segs ih =>
    cases segs with
    | nil => simpa [join] using seg.complete
    | cons next segs =>
      have hlevel : endsInQuote (Mark.level.token :: join (next :: segs)) = false := ih
      rw [join_cons_cons, endsInQuote_append seg.complete, hlevel]

/-! ### A run over segments -/

open Splitter

section Take

variable {x : Sign} (buffer : List Token) (keys sortKeys : List (List Token))

theorem take_of_sort (hx : x.mark = some .sort) : take ⟨buffer, keys, sortKeys, false, false⟩ x =
    ⟨[], keys, buffer.reverse :: sortKeys, false, false⟩ := by
  simp [take, hx, closeSortKey]

theorem take_of_literal (hlevel : x.mark ≠ some .level) (hsort : x.mark ≠ some .sort)
    (hformat : x.mark ≠ some .format) : take ⟨buffer, keys, sortKeys, false, false⟩ x =
    ⟨x.token :: buffer, keys, sortKeys, false, false⟩ := by
  cases hmark : x.mark with
  | none => simp [take, hmark, push]
  | some mark =>
    cases mark with
    | quote => simp [take, hmark, push]
    | level => exact absurd hmark hlevel
    | sort => exact absurd hmark hsort
    | format => exact absurd hmark hformat

end Take

/-- The pieces of a segment but for the last become sort keys, and the last stays in the buffer. -/
theorem foldl_take {xs : List Sign} (hlevel : ∀ x ∈ xs, x.mark ≠ some .level)
    (hformat : ∀ x ∈ xs, x.mark ≠ some .format) {buffer : List Token} (keys sortKeys : List (List Token))
    {before : List (List Token)} {last : List Token}
    (hpieces : (pieces xs).modifyHead (buffer.reverse ++ ·) = before ++ [last]) :
    xs.foldl take ⟨buffer, keys, sortKeys, false, false⟩ =
      ⟨last.reverse, keys, before.reverse ++ sortKeys, false, false⟩ := by
  -- The buffer is the beginning of the first piece, so it grows as that piece shrinks.
  induction xs generalizing buffer sortKeys before with
  | nil =>
    obtain ⟨rfl, rfl⟩ : before = [] ∧ last = buffer.reverse := by
      cases before <;> simp_all [pieces_nil]
    simp
  | cons x xs ih =>
    rw [List.forall_mem_cons] at hlevel hformat
    rw [List.foldl_cons]
    by_cases hsort : x.mark = some .sort
    · rw [pieces_cons_of_sort hsort, List.modifyHead_cons, List.append_nil] at hpieces
      cases before with
      | nil => exact absurd (List.cons.inj hpieces).2 (pieces_ne_nil xs)
      | cons first before =>
        rw [List.cons_append] at hpieces
        obtain ⟨rfl, hrest⟩ := List.cons.inj hpieces
        have hhead : (pieces xs).modifyHead (([] : List Token).reverse ++ ·) = before ++ [last] := by
          rw [← hrest]
          exact congrFun List.modifyHead_id _
        rw [take_of_sort _ _ _ hsort, ih hlevel.2 hformat.2 _ hhead]
        simp
    · rw [pieces_cons_of_ne_sort hsort] at hpieces
      rw [take_of_literal _ _ _ hlevel.1 hsort hformat.1]
      apply ih hlevel.2 hformat.2
      rw [← hpieces]
      obtain ⟨first, others, hxs⟩ := List.exists_cons_of_ne_nil (pieces_ne_nil xs)
      simp [hxs]

theorem foldl_take_segment (seg : Segment) (keys sortKeys : List (List Token)) :
    (signs seg.tokens).foldl take ⟨[], keys, sortKeys, false, false⟩ =
      ⟨seg.key.reverse, keys, seg.sortKeys.reverse ++ sortKeys, false, false⟩ := by
  apply foldl_take seg.no_level seg.no_format
  obtain ⟨first, others, hpieces⟩ := List.exists_cons_of_ne_nil (pieces_ne_nil (signs seg.tokens))
  simp [Segment.sortKeys, key, List.dropLast_append_getLast, hpieces]

/-- A level that is closed takes the first sort key left, or its own key. -/
theorem closeLevel_of_cons (key sortKey : List Token) {keys taken : List (List Token)}
    (others : List (List Token)) (hlength : taken.length = keys.length) :
    closeLevel ⟨key.reverse, keys, (taken ++ sortKey :: others).reverse, false, false⟩ =
      ⟨[], key :: keys, (taken ++ sortKey :: others).reverse, false, false⟩ := by
  have hmore : ¬ (taken ++ sortKey :: others).reverse.length ≤ keys.length := by
    rw [List.length_reverse, List.length_append, List.length_cons]
    omega
  simp only [closeLevel, List.reverse_reverse, if_neg hmore]

theorem closeLevel_of_nil (key : List Token) {keys taken : List (List Token)}
    (hlength : taken.length = keys.length) :
    closeLevel ⟨key.reverse, keys, taken.reverse, false, false⟩ =
      ⟨[], key :: keys, (taken ++ [key]).reverse, false, false⟩ := by
  simp [closeLevel, hlength]

/-- The level of a segment takes the first sort key that waits, or its key if none does. -/
theorem closeLevel_foldl_take_segment (seg : Segment) {keys taken : List (List Token)}
    (hlength : taken.length = keys.length) (waiting : List (List Token)) (segs : List Segment) :
    ∃ taken' waiting', taken'.length = keys.length + 1 ∧
      taken ++ allot waiting (seg :: segs) = taken' ++ allot waiting' segs ∧
      closeLevel ((signs seg.tokens).foldl take
        ⟨[], keys, (taken ++ waiting).reverse, false, false⟩) =
      ⟨[], seg.key :: keys, (taken' ++ waiting').reverse, false, false⟩ := by
  rw [foldl_take_segment, ← List.reverse_append, List.append_assoc]
  cases havailable : waiting ++ seg.sortKeys with
  | nil =>
    refine ⟨taken ++ [seg.key], [], by simp [hlength], by simp [allot, havailable], ?_⟩
    simpa using closeLevel_of_nil seg.key hlength
  | cons sortKey others =>
    refine ⟨taken ++ [sortKey], others, by simp [hlength], by simp [allot, havailable], ?_⟩
    simpa using closeLevel_of_cons seg.key sortKey others hlength

/-- Joined segments make levels with their keys, and the sort keys are allotted. -/
theorem closeLevel_foldl_join {segs : List Segment} (hne : segs ≠ []) {keys : List (List Token)}
    (hmax : keys.length + segs.length ≤ maxLevels) {taken : List (List Token)}
    (hlength : taken.length = keys.length) (waiting : List (List Token)) :
    ((signs (join segs)).foldl take ⟨[], keys, (taken ++ waiting).reverse, false, false⟩).closeLevel =
      ⟨[], (segs.map key).reverse ++ keys, (taken ++ allot waiting segs).reverse, false, false⟩ := by
  -- The levels closed so far have taken one sort key each, and those that wait come after them.
  induction segs generalizing keys taken waiting with
  | nil => exact absurd rfl hne
  | cons seg segs ih =>
    obtain ⟨taken', waiting', hlength', hallot, hclose⟩ :=
      closeLevel_foldl_take_segment seg hlength waiting segs
    rw [hallot]
    cases segs with
    | nil => simpa [join, allot] using hclose
    | cons next segs =>
      have hlevel (s : Splitter) (hs : s.inFormat = false) (hkeys : s.keys = keys) :
          s.take ⟨some .level, Mark.level.token⟩ = s.closeLevel := by
        have hlt : keys.length + 1 < maxLevels := by
          simp only [List.length_cons] at hmax
          omega
        simp [take, hs, hkeys, hlt]
      rw [signs_join_cons_cons, List.foldl_append, List.foldl_cons,
        hlevel _ (by rw [foldl_take_segment]) (by rw [foldl_take_segment]), hclose,
        ih (by simp) (by simp at hmax ⊢; omega) hlength']
      simp

theorem foldl_take_of_inFormat (xs : List Sign) (buffer : List Token) (keys sortKeys : List (List Token)) :
    xs.foldl take ⟨buffer, keys, sortKeys, true, false⟩ =
      ⟨(xs.map Sign.token).reverse ++ buffer, keys, sortKeys, true, false⟩ := by
  induction xs generalizing buffer with
  | nil => rfl
  | cons x xs ih =>
    have htake : take ⟨buffer, keys, sortKeys, true, false⟩ x =
        ⟨x.token :: buffer, keys, sortKeys, true, false⟩ := rfl
    rw [List.foldl_cons, htake, ih]
    simp

theorem closeLevel_foldl_join_start {segs : List Segment} (hne : segs ≠ [])
    (hmax : segs.length ≤ maxLevels) :
    ((signs (join segs)).foldl take start).closeLevel =
      ⟨[], (segs.map key).reverse, (allot [] segs).reverse, false, false⟩ := by
  have hmax' : ([] : List (List Token)).length + segs.length ≤ maxLevels := by simpa using hmax
  simpa [start] using closeLevel_foldl_join hne hmax' rfl []

theorem inFormat_foldl_join {segs : List Segment} (hne : segs ≠ []) (hmax : segs.length ≤ maxLevels) :
    ((signs (join segs)).foldl take start).inFormat = false :=
  congrArg Splitter.inFormat (closeLevel_foldl_join_start hne hmax)

end Segment

namespace RawEntry

open Segment

variable {segs : List Segment} (hne : segs ≠ []) (hmax : segs.length ≤ maxLevels)

include hne hmax

/-- Joined segments specify levels with their keys, and the sort keys are allotted. -/
theorem ofTokens_join :
    RawEntry.ofTokens (join segs) = ⟨segs.map key, allot [] segs, none⟩ := by
  rw [ofTokens_eq, Splitter.finish, inFormat_foldl_join hne hmax, if_neg Bool.false_ne_true,
    closeLevel_foldl_join_start hne hmax]
  simp

/-- What follows a format mark after joined segments is the format. -/
theorem ofTokens_join_format (ts : List Token) :
    RawEntry.ofTokens (join segs ++ Mark.format.token :: ts) =
      ⟨segs.map key, allot [] segs, some ((signs ts).map Sign.token)⟩ := by
  have hbegin : ((signs (join segs)).foldl Splitter.take .start).take
      ⟨some .format, Mark.format.token⟩ =
      ⟨[], (segs.map key).reverse, (allot [] segs).reverse, true, false⟩ := by
    rw [Splitter.take, inFormat_foldl_join hne hmax, if_neg Bool.false_ne_true, Splitter.beginFormat,
      closeLevel_foldl_join_start hne hmax]
  rw [ofTokens_eq, signs_append (endsInQuote_join segs), List.foldl_append,
    signs_cons_of_mark (Mark.ofToken?_token _) (by decide), List.foldl_cons, hbegin,
    foldl_take_of_inFormat]
  simp [Splitter.finish]

end RawEntry

end BookIndex
