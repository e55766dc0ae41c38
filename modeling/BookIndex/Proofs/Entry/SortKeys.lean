import BookIndex.Proofs.Entry.Levels
import BookIndex.Proofs.Entry.Segments

/-!
# Entry.SortKeys — which level a sort key goes to

Every level of joined segments has the key that its segment has by itself.  It has the sort key that
its segment has by itself as long as no segment before declares more than one (`levels_join`).  Otherwise
a sort key moves on to a level that does not declare it (`sortKey_moves_on`).
-/

namespace BookIndex

theorem Level.getElem?_ofKeys (keys : List Fragment) (sortKeys : List (Option String)) (i : Nat) :
    (Level.ofKeys keys sortKeys)[i]? =
      keys[i]?.map fun key => ⟨key, sortKeys[i]?.join.getD key.textContent⟩ := by
  induction keys generalizing sortKeys i with
  | nil => simp [ofKeys]
  | cons key keys ih => cases sortKeys <;> cases i <;> simp [ofKeys, ih]

/-- The levels that the parts make, where keys are read by `expand` and sort keys by `text`. -/
def RawEntry.levels (expand : List Token → Fragment) (text : List Token → String) (raw : RawEntry) :
    List Level :=
  Level.ofKeys (raw.keys.map expand) (raw.sortKeys.map fun ts => some (text ts))

theorem Entry.levels_ofTokens (e : Expander) (ts : List Token) (destination : Nat) :
    (Entry.ofTokens e ts destination).levels =
      (RawEntry.ofTokens ts).levels e.expand e.expandToText := by
  unfold Entry.ofTokens RawEntry.resolve
  split <;> rfl

theorem RawEntry.getElem?_levels (expand : List Token → Fragment) (text : List Token → String)
    {raw : RawEntry} {i : Nat} {key sortKey : List Token} (hkey : raw.keys[i]? = some key)
    (hsortKey : raw.sortKeys[i]? = some sortKey) :
    (raw.levels expand text)[i]? = some ⟨expand key, text sortKey⟩ := by
  simp [levels, Level.getElem?_ofKeys, hkey, hsortKey]

namespace Segment

/-- Every level is allotted a sort key. -/
theorem length_le_length_allot (segs : List Segment) (waiting : List (List Token)) :
    segs.length ≤ (allot waiting segs).length := by
  induction segs generalizing waiting with
  | nil => exact Nat.zero_le _
  | cons seg segs ih =>
    rw [allot]
    split <;> simpa using ih _

/-- As long as no level before declares more than one sort key, a level is allotted its own. -/
theorem getElem?_allot {segs : List Segment} {i : Nat} (hi : i < segs.length)
    (hone : ∀ seg ∈ segs.take i, seg.sortKeys.length ≤ 1) :
    (allot [] segs)[i]? = some (segs[i].sortKeys.headD segs[i].key) := by
  induction segs generalizing i with
  | nil => simp at hi
  | cons seg segs ih =>
    cases i with
    | zero => cases hdeclared : seg.sortKeys <;> simp [allot, hdeclared]
    | succ i =>
      rw [List.take_succ_cons, List.forall_mem_cons] at hone
      have hrest := ih (Nat.lt_of_succ_lt_succ hi) hone.2
      cases hdeclared : seg.sortKeys with
      | nil => simpa [allot, hdeclared] using hrest
      | cons sortKey others =>
        obtain rfl : others = [] := by
          have hlength := hone.1
          rw [hdeclared, List.length_cons] at hlength
          exact List.length_eq_zero_iff.1 (by omega)
        simpa [allot, hdeclared] using hrest

variable (expand : List Token → Fragment) (text : List Token → String)

theorem levels_tokens (seg : Segment) : (RawEntry.ofTokens seg.tokens).levels expand text =
    [⟨expand seg.key, text (seg.sortKeys.headD seg.key)⟩] := by
  have hjoin : RawEntry.ofTokens seg.tokens = ⟨[seg.key], allot [] [seg], none⟩ := by
    have hne : [seg] ≠ [] := by simp
    have h := RawEntry.ofTokens_join hne (by simp [maxLevels])
    rwa [join, List.map_singleton, List.intercalate_singleton] at h
  rw [hjoin]
  cases hdeclared : seg.sortKeys <;> simp [RawEntry.levels, Level.ofKeys, allot, hdeclared]

/-- Joined segments make one level each.  It has the key of its segment and the sort key that it is
allotted, and this is the sort key of its segment if no segment before declares more than one. -/
theorem levels_join {segs : List Segment} (hne : segs ≠ []) (hmax : segs.length ≤ maxLevels) :
    ((RawEntry.ofTokens (join segs)).levels expand text).length = segs.length ∧
      ∀ i (hi : i < segs.length), ∃ own level sortKey,
        (RawEntry.ofTokens segs[i].tokens).levels expand text = [own] ∧
        ((RawEntry.ofTokens (join segs)).levels expand text)[i]? = some level ∧
        level.key = own.key ∧
        (allot [] segs)[i]? = some sortKey ∧ level.sortKey = text sortKey ∧
        ((∀ seg ∈ segs.take i, seg.sortKeys.length ≤ 1) → level = own) := by
  have hjoin := RawEntry.ofTokens_join hne hmax
  rw [hjoin]
  constructor
  · simp [RawEntry.levels]
  · intro i hi
    have hallot : i < (allot [] segs).length :=
      Nat.lt_of_lt_of_le hi (length_le_length_allot segs [])
    have hkey : (segs.map key)[i]? = some segs[i].key := by simp [hi]
    have hsortKey : (allot [] segs)[i]? = some (allot [] segs)[i] := List.getElem?_eq_getElem hallot
    have hlevel : (RawEntry.levels expand text ⟨segs.map key, allot [] segs, none⟩)[i]? =
        some ⟨expand segs[i].key, text (allot [] segs)[i]⟩ :=
      RawEntry.getElem?_levels expand text hkey hsortKey
    refine ⟨_, _, _, levels_tokens expand text segs[i], hlevel, rfl, hsortKey, rfl, ?_⟩
    intro hone
    have hown := getElem?_allot hi hone
    rw [hsortKey] at hown
    rw [Option.some.inj hown]

/-- A level that declares two sort keys. -/
def surplus : Segment where
  tokens := [.char 'a' .letter, Mark.sort.token, .char 'b' .letter, Mark.sort.token, .char 'c' .letter]
  complete := by decide
  no_level := by decide
  no_format := by decide

/-- A level that declares none. -/
def plain : Segment where
  tokens := [.char 'd' .letter]
  complete := by decide
  no_level := by decide
  no_format := by decide

/-- After a level that declares two sort keys, a level need not have its own. -/
theorem sortKey_moves_on : ¬ ∀ (e : Expander) (segs : List Segment) (destination : Nat),
    segs.length ≤ maxLevels → ∀ i (hi : i < segs.length),
      (Entry.ofTokens e (join segs) destination).levels[i]? =
        (Entry.ofTokens e segs[i].tokens destination).levels[0]? := by
  intro hall
  have hlevel := hall .standard [surplus, plain] 0 (by decide) 1 (by decide)
  have hmoved : (Entry.ofTokens .standard (join [surplus, plain]) 0).levels[1]? =
      some ⟨[.text "d"], "b"⟩ := by
    decide +kernel
  have hown : (Entry.ofTokens .standard plain.tokens 0).levels[0]? = some ⟨[.text "d"], "d"⟩ := by
    decide +kernel
  rw [hmoved] at hlevel
  have hsortKey := congrArg (Option.map Level.sortKey) (hlevel.trans hown)
  simp at hsortKey

/-- Where a level that declares two sort keys stands last, it has the one that it has by itself. -/
theorem levels_join_surplus_last : ∃ own,
    (Entry.ofTokens .standard surplus.tokens 0).levels = [own] ∧
    (Entry.ofTokens .standard (join [plain, surplus]) 0).levels[1]? = some own := by
  have hne : [plain, surplus] ≠ [] := by simp
  have hmax : [plain, surplus].length ≤ maxLevels := by decide
  obtain ⟨own, level, -, hown, hlevel, -, -, -, heq⟩ :=
    (levels_join Expander.standard.expand Expander.standard.expandToText hne hmax).2 1 (by decide)
  rw [Entry.levels_ofTokens, Entry.levels_ofTokens]
  exact ⟨own, hown, hlevel.trans (congrArg some (heq (by decide)))⟩

end Segment

end BookIndex
