import BookIndex.Collation
import BookIndex.Proofs.Text.CaseMaps
import BookIndex.Text.Spellings

/-!
# Collation.Romanized — one table of spellings for order and letters

The order that ignores accents and the spelling in Latin letters read the same table of spellings.
`Collation.romanized` is the two over any table, and `Romanizes` is what a table has to do for them to
agree on where a text begins (`Romanizes.opening`).  The table of the program does it.
-/

namespace BookIndex

namespace Text

/-! ### Tables of spellings -/

/-- A table of spellings leads to ASCII wherever there is a way: spellings are ASCII text, and characters
without one are not ASCII in either case. -/
structure Romanizes (spell? : Char → Option String) : Prop where
  ascii : ∀ c text, spell? c = some text → ∀ d ∈ text.toList, d.toNat < 128
  unspelled : ∀ c, spell? c = none → ∀ d ∈ upperChar c ++ lowerChar c, 128 ≤ d.toNat

end Text

/-- The order and the spelling by a table of spellings: text is spelled out, and letters count the same
in upper and lower case. -/
def Collation.romanized (spell? : Char → Option String) : Collation :=
  ⟨fun s => Text.codePoints (Text.lower (Text.expand (Text.spelled spell?) s)),
    Text.expand (Text.spelled spell?)⟩

namespace Text

/-! ### Where a text begins -/

/-- Letters and weights begin alike: not at all, with an ASCII character and its small form, or with what
is beyond ASCII in any case. -/
inductive Opening : List Char → List Nat → Prop
  | empty : Opening [] []
  | ascii {c : Char} {letters : List Char} {weights : List Nat} (hc : c.toNat < 128) :
      Opening (c :: letters) (c.toLower.toNat :: weights)
  | beyond {c : Char} {letters : List Char} {w : Nat} {weights : List Nat}
      (hupper : ∀ d ∈ upperChar c, 128 ≤ d.toNat) (hw : 128 ≤ w) : Opening (c :: letters) (w :: weights)

variable {spell? : Char → Option String}

/-- Each character of a spelled text is ASCII, or beyond ASCII in either case. -/
theorem Romanizes.ascii_or_beyond (htable : Romanizes spell?) {s : String} {c : Char}
    (hc : c ∈ (expand (spelled spell?) s).toList) :
    c.toNat < 128 ∨ ∀ d ∈ upperChar c ++ lowerChar c, 128 ≤ d.toNat := by
  rw [toList_expand, List.mem_flatMap] at hc
  obtain ⟨b, -, hc⟩ := hc
  unfold spelled at hc
  cases hspell : spell? b with
  | some text =>
    rw [hspell] at hc
    exact .inl (htable.ascii b text hspell c hc)
  | none =>
    rw [hspell] at hc
    obtain rfl : c = b := List.mem_singleton.1 hc
    exact .inr (htable.unspelled c hspell)

theorem Romanizes.opening (htable : Romanizes spell?) (s : String) :
    Opening ((Collation.romanized spell?).transliterate s).toList
      ((Collation.romanized spell?).weights s) := by
  have hletters := fun c => htable.ascii_or_beyond (s := s) (c := c)
  dsimp only [Collation.romanized, codePoints]
  rw [toList_lower]
  cases hopen : (expand (spelled spell?) s).toList with
  | nil => exact .empty
  | cons c letters =>
    rcases hletters c (by simp [hopen]) with hc | hc
    · rw [lowerChars_cons_of_ascii hc]
      exact .ascii hc
    · obtain ⟨first, rest, hlower, hfirst⟩ := exists_lowerChars_cons_of_beyond
        (fun d hd => hc d (List.mem_append_right _ hd)) [] letters
      rw [hlower]
      exact .beyond (fun d hd => hc d (List.mem_append_left _ hd)) hfirst

/-! ### The table of the program -/

/-- Every character beyond ASCII that has an ASCII character in upper or lower case is spelled. -/
theorem beyondExcept_spellings :
    BeyondExcept (fun n => (spellings.findSome? (·.spell? n)).isSome) upperExpansions upperRuns ∧
      BeyondExcept (fun n => (spellings.findSome? (·.spell? n)).isSome) lowerExpansions lowerRuns := by
  decide +kernel

/-- The table holds ASCII text. -/
theorem all_ascii_spellings :
    (spellings.all fun s => s.texts.all fun text => text.toList.all (·.toNat < 128)) = true := by
  decide +kernel

theorem romanizes_spelling : Romanizes spelling? where
  ascii c text hspell d hd := by
    unfold spelling? at hspell
    split_ifs at hspell with hcontrol hprintable
    · obtain rfl : "" = text := Option.some.inj hspell
      simp at hd
    · obtain rfl : String.singleton c = text := Option.some.inj hspell
      obtain rfl : d = c := by simpa using hd
      omega
    · obtain ⟨s, hs, htext⟩ := List.exists_of_findSome?_eq_some hspell
      unfold Spelling.spell? at htext
      split_ifs at htext
      have htexts := List.all_eq_true.1 all_ascii_spellings s hs
      have hchars := List.all_eq_true.1 htexts text (List.mem_of_getElem? htext)
      exact of_decide_eq_true (List.all_eq_true.1 hchars d hd)
  unspelled c hspell d hd := by
    unfold spelling? at hspell
    split_ifs at hspell with hcontrol hprintable
    have hc : 128 ≤ c.toNat := by omega
    have hspared : (spellings.findSome? (·.spell? c.toNat)).isSome = false := by rw [hspell]; rfl
    rw [upperChar, lowerChar, if_neg (by omega), if_neg (by omega), List.mem_append] at hd
    rcases hd with hd | hd
    · exact le_toNat_of_mem_caseMap beyondExcept_spellings.1 hc hspared hd
    · exact le_toNat_of_mem_caseMap beyondExcept_spellings.2 hc hspared hd

end Text

/-- The default collation is the one over the table of the romanizer. -/
theorem Collation.ofKinds_eq_romanized [Text.Romanizer] :
    ofKinds .accentFold .latin = romanized Text.Romanizer.spell? := rfl

end BookIndex
