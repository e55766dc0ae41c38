import BookIndex.Proofs.Entry.Segments

/-!
# Entry.Writing — writing an entry so that it is read back

Any levels and any format can be written as an entry specification.  Within keys and sort keys every
token that could be a mark gets a quote mark in front, and within the format only those that could be a
quote mark do.  Splitting gives the levels and the format back (`ofTokens_write`).
-/

namespace BookIndex

/-- The token is one of these characters, as a letter, a blank or another character. -/
def Token.isAmong (cs : List Char) : Token → Bool
  | .char c .letter | .char c .space | .char c .other => cs.contains c
  | _ => false

/-- The tokens with a quote mark before each one that is among these characters. -/
def guarded (cs : List Char) (ts : List Token) : List Token :=
  ts.flatMap fun t => if t.isAmong cs then [Mark.quote.token, t] else [t]

/-- A level to be written: its key, and its sort key if it has one of its own. -/
structure WrittenLevel where
  sortKey : Option (List Token)
  key : List Token

/-- The characters of all marks. -/
def markChars : List Char := ['"', '!', '@', '|']

/-- A level as it is written. -/
def WrittenLevel.tokens (level : WrittenLevel) : List Token :=
  match level.sortKey with
  | none => guarded markChars level.key
  | some sortKey => guarded markChars sortKey ++ Mark.sort.token :: guarded markChars level.key

/-- Levels and a format as they are written. -/
def RawEntry.write (levels : List WrittenLevel) (format : Option (List Token)) : List Token :=
  [Mark.level.token].intercalate (levels.map (·.tokens)) ++
    match format with
    | none => []
    | some ts => Mark.format.token :: guarded ['"'] ts

/-! ### Reading what is guarded -/

theorem Mark.isTextChar_of_ofToken? {t : Token} {m : Mark} (ht : Mark.ofToken? t = some m) :
    t.isTextChar m.char = true := by
  unfold ofToken? at ht
  split_ifs at ht with hquote hlevel hsort hformat <;> obtain rfl := Option.some.inj ht
  · exact hquote
  · exact hlevel
  · exact hsort
  · exact hformat

theorem Token.isAmong_of_isTextChar {t : Token} {c : Char} (ht : t.isTextChar c = true)
    {cs : List Char} (hc : c ∈ cs) : t.isAmong cs = true := by
  obtain ⟨htext, hchar⟩ := isTextChar_iff.1 ht
  rcases t with ⟨d, category⟩ | name
  · obtain rfl : d = c := Option.some.inj hchar
    cases category <;> simp_all [isAmong, isText]
  · simp at htext

/-- A token that is not guarded is no mark whose character is. -/
theorem Mark.ofToken?_ne {t : Token} {cs : List Char} (ht : t.isAmong cs = false) {m : Mark}
    (hm : m.char ∈ cs) : Mark.ofToken? t ≠ some m := by
  intro hmark
  have hamong := Token.isAmong_of_isTextChar (isTextChar_of_ofToken? hmark) hm
  rw [ht] at hamong
  exact Bool.false_ne_true hamong

theorem Mark.ofToken?_eq_none {t : Token} (ht : t.isAmong markChars = false) :
    Mark.ofToken? t = none := by
  cases hmark : Mark.ofToken? t with
  | none => rfl
  | some m => exact absurd hmark (ofToken?_ne ht (by cases m <;> decide))

/-- The sign that a guarded token gives. -/
def guardedSign (cs : List Char) (t : Token) : Sign :=
  ⟨if t.isAmong cs then none else Mark.ofToken? t, t⟩

theorem token_guardedSign (cs : List Char) : Sign.token ∘ guardedSign cs = id := rfl

/-- Guarded tokens give the tokens back, and leave nothing to be quoted. -/
theorem signs_guarded {cs : List Char} (hquote : '"' ∈ cs) (ts : List Token) :
    signs (guarded cs ts) = ts.map (guardedSign cs) ∧ endsInQuote (guarded cs ts) = false := by
  induction ts with
  | nil => exact ⟨rfl, rfl⟩
  | cons t ts ih =>
    have hsplit : guarded cs (t :: ts) = guarded cs [t] ++ guarded cs ts := by
      simp [guarded]
    have hone : signs (guarded cs [t]) = [guardedSign cs t] ∧ endsInQuote (guarded cs [t]) = false := by
      cases ht : t.isAmong cs with
      | true => simp [guarded, guardedSign, ht, signs, signsFrom, endsInQuote, endsInQuoteFrom]
      | false =>
        have hne : Mark.ofToken? t ≠ some .quote := Mark.ofToken?_ne ht hquote
        simp [guarded, guardedSign, ht, signs, signsFrom, endsInQuote, endsInQuoteFrom, hne]
    constructor
    · rw [hsplit, signs_append hone.2, hone.1, ih.1]
      rfl
    · rw [hsplit, endsInQuote_append hone.2, ih.2]

theorem guardedSign_markChars (t : Token) : guardedSign markChars t = ⟨none, t⟩ := by
  cases ht : t.isAmong markChars with
  | true => simp [guardedSign, ht]
  | false => simp [guardedSign, ht, Mark.ofToken?_eq_none ht]

/-! ### Reading what is written -/

theorem pieces_literal (ts : List Token) : pieces (ts.map (⟨none, ·⟩)) = [ts] := by
  have hsplit : (ts.map (Sign.mk none)).splitOnP (·.mark == some .sort) = [ts.map (Sign.mk none)] := by
    apply List.splitOnP_eq_singleton
    intro x hx
    obtain ⟨t, -, rfl⟩ := List.mem_map.1 hx
    rfl
  have htokens : (ts.map (Sign.mk none)).map Sign.token = ts := by
    simp [Function.comp_def]
  rw [pieces, hsplit, List.map_singleton, htokens]

theorem pieces_append_sort (xs ys : List Sign) :
    pieces (xs ++ ⟨some .sort, Mark.sort.token⟩ :: ys) = pieces xs ++ pieces ys := by
  rw [pieces, List.splitOnP_append_cons _ _ (by rfl), List.map_append]
  rfl

namespace WrittenLevel

theorem signs_guarded_markChars (ts : List Token) :
    signs (guarded markChars ts) = ts.map (⟨none, ·⟩) := by
  rw [(signs_guarded (by decide) ts).1]
  exact List.map_congr_left fun t _ => guardedSign_markChars t

theorem signs_tokens (level : WrittenLevel) : signs level.tokens =
    level.sortKey.elim [] (fun sortKey => sortKey.map (⟨none, ·⟩) ++ [⟨some .sort, Mark.sort.token⟩]) ++
      level.key.map (⟨none, ·⟩) := by
  rcases level with ⟨_ | sortKey, key⟩
  · exact signs_guarded_markChars key
  · rw [tokens, signs_append (signs_guarded (by decide) _).2,
      signs_cons_of_mark (Mark.ofToken?_token _) (by decide), signs_guarded_markChars,
      signs_guarded_markChars]
    simp

theorem pieces_signs_tokens (level : WrittenLevel) :
    pieces (signs level.tokens) = level.sortKey.toList ++ [level.key] := by
  rw [signs_tokens]
  rcases level with ⟨_ | sortKey, key⟩
  · simpa using pieces_literal key
  · simpa [pieces_literal] using pieces_append_sort (sortKey.map (⟨none, ·⟩)) (key.map (⟨none, ·⟩))

/-- Only a sort mark stands unquoted in a written level. -/
theorem mark_of_mem_signs (level : WrittenLevel) {x : Sign} (hx : x ∈ signs level.tokens) :
    x.mark = none ∨ x.mark = some .sort := by
  rw [signs_tokens] at hx
  rcases level with ⟨_ | sortKey, key⟩
  · obtain ⟨t, -, rfl⟩ : ∃ t ∈ key, (⟨none, t⟩ : Sign) = x := by simpa using hx
    exact .inl rfl
  · rcases List.mem_append.1 hx with hx | hx
    · rcases List.mem_append.1 hx with hx | hx
      · obtain ⟨t, -, rfl⟩ := List.mem_map.1 hx
        exact .inl rfl
      · obtain rfl := List.mem_singleton.1 hx
        exact .inr rfl
    · obtain ⟨t, -, rfl⟩ := List.mem_map.1 hx
      exact .inl rfl

theorem endsInQuote_tokens (level : WrittenLevel) : endsInQuote level.tokens = false := by
  have hkey : endsInQuote (guarded markChars level.key) = false := (signs_guarded (by decide) _).2
  rcases level with ⟨_ | sortKey, key⟩
  · exact hkey
  · rw [tokens, endsInQuote_append (signs_guarded (by decide) _).2]
    exact hkey

/-- A written level is a segment. -/
def segment (level : WrittenLevel) : Segment where
  tokens := level.tokens
  complete := level.endsInQuote_tokens
  no_level := by
    intro x hx
    rcases level.mark_of_mem_signs hx with hmark | hmark <;> simp [hmark]
  no_format := by
    intro x hx
    rcases level.mark_of_mem_signs hx with hmark | hmark <;> simp [hmark]

theorem sortKeys_segment (level : WrittenLevel) : level.segment.sortKeys = level.sortKey.toList := by
  simp [Segment.sortKeys, segment, pieces_signs_tokens]

theorem key_segment (level : WrittenLevel) : level.segment.key = level.key := by
  simp [Segment.key, segment, pieces_signs_tokens]

/-- Where every level declares at most one sort key, every level has its own. -/
theorem allot_segments (levels : List WrittenLevel) :
    Segment.allot [] (levels.map segment) = levels.map fun level => level.sortKey.getD level.key := by
  induction levels with
  | nil => rfl
  | cons level levels ih =>
    cases hsortKey : level.sortKey <;>
      simp [Segment.allot, sortKeys_segment, key_segment, hsortKey, ih]

end WrittenLevel

/-- Splitting a written entry gives back its keys, the sort key or else the key of each level, and its
format. -/
theorem RawEntry.ofTokens_write {levels : List WrittenLevel} (hne : levels ≠ [])
    (hmax : levels.length ≤ maxLevels) (format : Option (List Token)) :
    RawEntry.ofTokens (write levels format) =
      ⟨levels.map (·.key), levels.map fun level => level.sortKey.getD level.key, format⟩ := by
  have hne' : levels.map WrittenLevel.segment ≠ [] := by simpa using hne
  have hmax' : (levels.map WrittenLevel.segment).length ≤ maxLevels := by simpa using hmax
  have hjoin : [Mark.level.token].intercalate (levels.map (·.tokens)) =
      Segment.join (levels.map WrittenLevel.segment) := by
    rw [Segment.join, List.map_map]
    rfl
  have hkeys : (levels.map WrittenLevel.segment).map Segment.key = levels.map (·.key) := by
    rw [List.map_map]
    exact List.map_congr_left fun level _ => level.key_segment
  cases format with
  | none =>
    rw [write, hjoin, List.append_nil, ofTokens_join hne' hmax', hkeys, WrittenLevel.allot_segments]
  | some ts =>
    rw [write, hjoin, ofTokens_join_format hne' hmax', hkeys, WrittenLevel.allot_segments,
      (signs_guarded (by decide) ts).1, List.map_map, token_guardedSign, List.map_id]

/-- Marks in a key, a sort key and a format, and a level whose sort key is empty. -/
theorem RawEntry.ofTokens_write_marks :
    let marks := [Mark.level.token, Mark.quote.token, .control "!", .char '@' .beginGroup, Mark.sort.token]
    let levels := [⟨none, marks⟩, ⟨some [], []⟩, ⟨some (Mark.format.token :: marks), [.char '"' .letter]⟩]
    levels ≠ [] ∧ levels.length ≤ maxLevels ∧
      RawEntry.ofTokens (write levels (some marks)) =
        ⟨[marks, [], [.char '"' .letter]], [marks, [], Mark.format.token :: marks], some marks⟩ :=
  ⟨by simp, by decide, ofTokens_write (by simp) (by decide) _⟩

end BookIndex
