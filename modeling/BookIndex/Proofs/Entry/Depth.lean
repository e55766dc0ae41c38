import BookIndex.Proofs.Entry.SortKeys

/-!
# Entry.Depth — how many levels an entry has

Level marks count only up to the first format mark, and only while another level may follow.  So the
depth of an entry is one more than the number of its level marks, but at most `maxLevels`.  Once that
many levels have begun, level marks are text of the last one like everything else (`depth_ofTokens`).

There may be more sort keys than levels, but never fewer (`Counted`), so every level gets one that has
been written for it or for a level before.
-/

namespace BookIndex

/-- The signs before the first format mark. -/
def levelSigns (ts : List Token) : List Sign :=
  (signs ts).takeWhile fun x => x.mark != some .format

/-- The number of level marks. -/
def levelMarks (xs : List Sign) : Nat :=
  xs.countP fun x => x.mark == some .level

theorem mark_of_mem_levelSigns {ts : List Token} {x : Sign} (hx : x ∈ levelSigns ts) :
    x.mark ≠ some .format := by
  have h := List.all_eq_true.1 List.all_takeWhile x hx
  simpa using h

namespace Splitter

/-! ### One sign of a level -/

/-- What a sign before the format does. -/
inductive Taken (s : Splitter) (x : Sign) : Splitter → Prop
  /-- Another level may follow. -/
  | closed : x.mark = some .level → s.keys.length + 1 < maxLevels → Taken s x s.closeLevel
  | sorted : x.mark = some .sort → Taken s x s.closeSortKey
  /-- The sign is no mark, or a level mark where no other level may follow. -/
  | pushed : x.mark ≠ some .sort → (x.mark = some .level → maxLevels ≤ s.keys.length + 1) →
    Taken s x (s.push x.token)

theorem taken_take {s : Splitter} (hs : s.inFormat = false) {x : Sign} (hx : x.mark ≠ some .format) :
    Taken s x (s.take x) := by
  rw [take, hs, if_neg Bool.false_ne_true]
  split
  case h_1 hlevel =>
    split_ifs with hmax
    · exact .closed hlevel hmax
    · exact .pushed (by simp [hlevel]) fun _ => Nat.le_of_not_lt hmax
  case h_2 hsort => exact .sorted hsort
  case h_3 hformat => exact absurd hformat hx
  case h_4 hnone => exact .pushed (by simp [hnone]) (by simp [hnone])
  case h_5 hquote => exact .pushed (by simp [hquote]) (by simp [hquote])

/-- What holds of a splitter after signs before the format. -/
structure Counted (xs : List Sign) (s : Splitter) : Prop where
  inFormat_eq : s.inFormat = false
  quoting_eq : s.quoting = false
  length_keys : s.keys.length = min (levelMarks xs) (maxLevels - 1)
  length_keys_le : s.keys.length ≤ s.sortKeys.length

theorem levelMarks_concat (xs : List Sign) (x : Sign) :
    levelMarks (xs ++ [x]) = levelMarks xs + if x.mark = some .level then 1 else 0 := by
  simp [levelMarks, List.countP_append, List.countP_singleton]

theorem length_closeLevel_sortKeys {s : Splitter} (h : s.keys.length ≤ s.sortKeys.length) :
    s.closeLevel.keys.length ≤ s.closeLevel.sortKeys.length := by
  simp only [closeLevel, List.length_cons]
  split_ifs with hnone
  · exact Nat.succ_le_succ h
  · omega

theorem Taken.counted {xs : List Sign} {x : Sign} {s s' : Splitter} (h : Taken s x s')
    (hs : Counted xs s) : Counted (xs ++ [x]) s' := by
  obtain ⟨hformat, hquoting, hkeys, hle⟩ := hs
  have hmarks := levelMarks_concat xs x
  cases h with
  | closed hlevel hmax =>
    rw [if_pos hlevel] at hmarks
    refine ⟨hformat, hquoting, ?_, length_closeLevel_sortKeys hle⟩
    change s.keys.length + 1 = _
    omega
  | sorted hsort =>
    rw [if_neg (by simp [hsort])] at hmarks
    exact ⟨hformat, hquoting, by rw [hmarks]; exact hkeys, Nat.le_succ_of_le hle⟩
  | pushed _ hfull =>
    refine ⟨hformat, rfl, ?_, hle⟩
    change s.keys.length = _
    split_ifs at hmarks with hlevel
    · -- A level mark that is text adds to the marks, but there are enough of them already.
      have hmax : maxLevels ≤ s.keys.length + 1 := hfull hlevel
      omega
    · rw [hmarks]
      exact hkeys

theorem counted_foldl_take {xs : List Sign} (hxs : ∀ x ∈ xs, x.mark ≠ some .format) :
    Counted xs (xs.foldl take start) := by
  induction xs using List.reverseRecOn with
  | nil => exact ⟨rfl, rfl, rfl, Nat.le_refl 0⟩
  | append_singleton xs x ih =>
    rw [List.forall_mem_append] at hxs
    have hcounted := ih hxs.1
    rw [List.foldl_append]
    exact (taken_take hcounted.inFormat_eq (hxs.2 x (List.mem_singleton_self x))).counted hcounted

/-- Where no other level may follow, a sign is text unless it is a sort mark. -/
theorem Taken.eq_push {x : Sign} {s s' : Splitter} (h : Taken s x s') (hsort : x.mark ≠ some .sort)
    (hfull : maxLevels ≤ s.keys.length + 1) : s' = s.push x.token := by
  cases h with
  | closed _ hmax => omega
  | sorted hmark => exact absurd hmark hsort
  | pushed _ _ => rfl

theorem foldl_take_of_full {xs : List Sign} (hformat : ∀ x ∈ xs, x.mark ≠ some .format)
    (hsort : ∀ x ∈ xs, x.mark ≠ some .sort) {s : Splitter} (hs : s.inFormat = false)
    (hfull : maxLevels ≤ s.keys.length + 1) :
    (xs.foldl take s).buffer = (xs.map Sign.token).reverse ++ s.buffer ∧
      (xs.foldl take s).keys = s.keys := by
  induction xs generalizing s with
  | nil => exact ⟨rfl, rfl⟩
  | cons x xs ih =>
    rw [List.forall_mem_cons] at hformat hsort
    have hpush : s.take x = s.push x.token := (taken_take hs hformat.1).eq_push hsort.1 hfull
    obtain ⟨hbuffer, hkeys⟩ := ih hformat.2 hsort.2 (s := s.push x.token) hs hfull
    rw [List.foldl_cons, hpush]
    exact ⟨by rw [hbuffer]; simp [push], hkeys⟩

/-- The splitter when the last level ends. -/
def lastClosed (ts : List Token) : Splitter := ((levelSigns ts).foldl take start).closeLevel

theorem counted_levelSigns (ts : List Token) :
    Counted (levelSigns ts) ((levelSigns ts).foldl take start) :=
  counted_foldl_take fun _ hx => mark_of_mem_levelSigns hx

/-- A format adds neither keys nor sort keys. -/
theorem exists_finish_eq (ts : List Token) : ∃ format, ((signs ts).foldl take start).finish =
    ⟨(lastClosed ts).keys.reverse, (lastClosed ts).sortKeys.reverse, format⟩ := by
  have hcounted := counted_levelSigns ts
  have hsigns : signs ts = levelSigns ts ++ (signs ts).dropWhile fun x => x.mark != some .format :=
    List.takeWhile_append_dropWhile.symm
  cases hrest : (signs ts).dropWhile fun x => x.mark != some .format with
  | nil =>
    rw [hrest, List.append_nil] at hsigns
    rw [hsigns, finish, hcounted.inFormat_eq, if_neg Bool.false_ne_true]
    exact ⟨none, rfl⟩
  | cons x format =>
    -- The first of the signs that are left is the format mark, and it closes the last level.
    have hx : x.mark = some .format := by
      have hhead := List.head?_dropWhile_not (fun x : Sign => x.mark != some .format) (signs ts)
      rw [hrest] at hhead
      simpa using hhead
    have hbegin : ((levelSigns ts).foldl take start).take x =
        ⟨[], (lastClosed ts).keys, (lastClosed ts).sortKeys, true, false⟩ := by
      simp [take, hcounted.inFormat_eq, hx, beginFormat, lastClosed, closeLevel, hcounted.quoting_eq]
    rw [hsigns, hrest, List.foldl_append, List.foldl_cons, hbegin, Segment.foldl_take_of_inFormat]
    exact ⟨_, rfl⟩

end Splitter

namespace RawEntry

theorem keys_ofTokens (ts : List Token) :
    (ofTokens ts).keys = (Splitter.lastClosed ts).keys.reverse ∧
      (ofTokens ts).sortKeys = (Splitter.lastClosed ts).sortKeys.reverse := by
  obtain ⟨format, hfinish⟩ := Splitter.exists_finish_eq ts
  rw [ofTokens_eq, hfinish]
  exact ⟨rfl, rfl⟩

theorem length_keys_ofTokens (ts : List Token) :
    (ofTokens ts).keys.length = min (levelMarks (levelSigns ts)) (maxLevels - 1) + 1 := by
  rw [(keys_ofTokens ts).1, List.length_reverse, ← (Splitter.counted_levelSigns ts).length_keys]
  rfl

/-- There are no fewer sort keys than keys. -/
theorem length_keys_le_length_sortKeys (ts : List Token) :
    (ofTokens ts).keys.length ≤ (ofTokens ts).sortKeys.length := by
  rw [(keys_ofTokens ts).1, (keys_ofTokens ts).2, List.length_reverse, List.length_reverse]
  exact Splitter.length_closeLevel_sortKeys (Splitter.counted_levelSigns ts).length_keys_le

/-- Behind the last level mark that counts, all that stands before the format is the last key, unless
there is a sort mark in it. -/
theorem getLast?_keys_ofTokens {ts : List Token} {front tail : List Sign} {x : Sign}
    (hsigns : levelSigns ts = front ++ x :: tail) (hx : x.mark = some .level)
    (hfront : levelMarks front + 2 = maxLevels) (hsort : ∀ y ∈ tail, y.mark ≠ some .sort) :
    (ofTokens ts).keys.getLast? = some (tail.map Sign.token) := by
  have hformat : ∀ y ∈ front ++ x :: tail, y.mark ≠ some .format :=
    fun y hy => mark_of_mem_levelSigns (hsigns ▸ hy)
  rw [List.forall_mem_append, List.forall_mem_cons] at hformat
  have hcounted := Splitter.counted_foldl_take hformat.1
  have hlength : (front.foldl Splitter.take .start).keys.length + 2 = maxLevels := by
    rw [hcounted.length_keys]
    omega
  -- The level mark is the last one that closes a level.
  have htake : (front.foldl Splitter.take .start).take x =
      (front.foldl Splitter.take .start).closeLevel := by
    have hmax : (front.foldl Splitter.take .start).keys.length + 1 < maxLevels := by omega
    simp [Splitter.take, hcounted.inFormat_eq, hx, hmax]
  have hclosed : (front.foldl Splitter.take .start).closeLevel.inFormat = false := hcounted.inFormat_eq
  have hfull : maxLevels ≤ (front.foldl Splitter.take .start).closeLevel.keys.length + 1 :=
    Nat.le_of_eq hlength.symm
  have hbuffer : ((levelSigns ts).foldl Splitter.take .start).buffer =
      (tail.map Sign.token).reverse ++ [] := by
    rw [hsigns, List.foldl_append, List.foldl_cons, htake]
    exact (Splitter.foldl_take_of_full hformat.2.2 hsort hclosed hfull).1
  rw [(keys_ofTokens ts).1, List.getLast?_reverse]
  change some ((levelSigns ts).foldl Splitter.take .start).buffer.reverse = _
  rw [hbuffer, List.append_nil, List.reverse_reverse]

end RawEntry

theorem Level.map_sortKey_ofKeys {keys : List Fragment} {sortKeys : List String}
    (h : keys.length ≤ sortKeys.length) :
    (ofKeys keys (sortKeys.map some)).map sortKey = sortKeys.take keys.length := by
  induction keys generalizing sortKeys with
  | nil => rfl
  | cons key keys ih =>
    cases sortKeys with
    | nil => exact absurd h (Nat.not_succ_le_zero _)
    | cons sortKey sortKeys => simp [ofKeys, ih (Nat.le_of_succ_le_succ h)]

theorem RawEntry.map_sortKey_levels (expand : List Token → Fragment) (text : List Token → String)
    {raw : RawEntry} (h : raw.keys.length ≤ raw.sortKeys.length) :
    (raw.levels expand text).map (·.sortKey) = (raw.sortKeys.take raw.keys.length).map text := by
  have hsortKeys : raw.sortKeys.map (fun ts => some (text ts)) = (raw.sortKeys.map text).map some := by
    rw [List.map_map]
    rfl
  rw [levels, hsortKeys, Level.map_sortKey_ofKeys (by simpa using h), List.length_map, List.map_take]

/-- The levels of an entry have the keys that its tokens are split into, and a sort key each.  There is
one more than there are level marks before the format, but at most `maxLevels`.  What stands behind the
last level mark that can count is the last key as a whole, unless it has a sort mark: level marks that
are left over are text. -/
theorem Entry.depth_ofTokens (e : Expander) (ts : List Token) (destination : Nat) :
    let entry := Entry.ofTokens e ts destination
    let raw := RawEntry.ofTokens ts
    entry.levels.map (·.key) = raw.keys.map e.expand ∧
      entry.levels.map (·.sortKey) = (raw.sortKeys.take entry.depth).map e.expandToText ∧
      entry.depth ≤ raw.sortKeys.length ∧
      entry.depth = min (levelMarks (levelSigns ts)) (maxLevels - 1) + 1 ∧
      1 ≤ entry.depth ∧ entry.depth ≤ maxLevels ∧
      ∀ front x tail, levelSigns ts = front ++ x :: tail → x.mark = some .level →
        levelMarks front + 1 = maxLevels - 1 → (∀ y ∈ tail, y.mark ≠ some .sort) →
        raw.keys.getLast? = some (tail.map Sign.token) := by
  intro entry raw
  have hkeys : entry.levels.map (·.key) = raw.keys.map e.expand :=
    RawEntry.map_key_levels_resolve e raw destination
  have hdepth : entry.depth = raw.keys.length := by
    rw [depth, ← List.length_map (·.key), hkeys, List.length_map]
  have hle : raw.keys.length ≤ raw.sortKeys.length := RawEntry.length_keys_le_length_sortKeys ts
  have hlength : raw.keys.length = min (levelMarks (levelSigns ts)) (maxLevels - 1) + 1 :=
    RawEntry.length_keys_ofTokens ts
  rw [hdepth]
  refine ⟨hkeys, ?_, hle, hlength, by omega, ?_, ?_⟩
  · rw [levels_ofTokens]
    exact RawEntry.map_sortKey_levels _ _ hle
  · have hpos : 0 < maxLevels := by decide
    omega
  · intro front x tail hsigns hx hfront hsort
    exact RawEntry.getLast?_keys_ofTokens hsigns hx (by omega) hsort

/-- More levels than there may be, with a format mark that is quoted and one that is not. -/
def crowded : List Token :=
  List.replicate 63 Mark.level.token ++ [Mark.quote.token, Mark.format.token, Mark.level.token,
    .char 'x' .letter, Mark.format.token, Mark.sort.token]

/-- The last level keeps the level mark that is left over. -/
theorem Entry.depth_ofTokens_crowded :
    let level : Sign := ⟨some .level, Mark.level.token⟩
    let tail : List Sign := [⟨none, Mark.format.token⟩, level, ⟨none, .char 'x' .letter⟩]
    levelSigns crowded = List.replicate 62 level ++ level :: tail ∧
      levelMarks (List.replicate 62 level) + 1 = maxLevels - 1 ∧
      (∀ y ∈ tail, y.mark ≠ some .sort) ∧
      (Entry.ofTokens .standard crowded 0).depth = maxLevels ∧
      (RawEntry.ofTokens crowded).keys.getLast? =
        some [Mark.format.token, Mark.level.token, .char 'x' .letter] := by
  intro level tail
  have hsigns : levelSigns crowded = List.replicate 62 level ++ level :: tail := by decide +kernel
  have hfront : levelMarks (List.replicate 62 level) + 1 = maxLevels - 1 := by decide +kernel
  have hsort : ∀ y ∈ tail, y.mark ≠ some .sort := by decide
  have hmarks : min (levelMarks (levelSigns crowded)) (maxLevels - 1) + 1 = maxLevels := by
    decide +kernel
  obtain ⟨-, -, -, hdepth, -, -, hlast⟩ := Entry.depth_ofTokens .standard crowded 0
  exact ⟨hsigns, hfront, hsort, hdepth.trans hmarks, hlast _ _ _ hsigns rfl hfront hsort⟩

end BookIndex
