import BookIndex.Proofs.Token.Canonical

/-!
# Token.Writing — reading what is written

A token that is written keeps apart from what follows it: a control symbol ends with its character, a
control word ends before anything but a letter, and before a letter it is written with a blank, which
reading skips again.  So canonical tokens are read back as they are (`tokenize_source`).
-/

namespace BookIndex

/-! ### Reading a token at a time -/

theorem tokensFrom_blanks {cs : List Char} (hcs : ∀ c ∈ cs.head?, Text.isBlank c = false) :
    tokensFrom .blanks cs = tokensFrom .text cs := by
  cases cs with
  | nil => rfl
  | cons c cs =>
    have hc : Text.isBlank c = false := hcs c rfl
    have hstep : Mode.step .blanks c = Mode.step .text c := by simp [Mode.step, hc]
    rw [tokensFrom_cons, tokensFrom_cons, hstep]

/-- A word is read letter by letter, and blanks behind it vanish. -/
theorem tokensFrom_word {name cs : List Char} (hname : name.all Text.isAlphabetic = true)
    (hcs : ∀ c ∈ cs.head?, Text.isAlphabetic c = false) (letters : List Char) :
    tokensFrom (.word letters) (name ++ cs) =
      Mode.wordToken (name.reverse ++ letters) :: tokensFrom .blanks cs := by
  induction name generalizing letters with
  | nil =>
    cases cs with
    | nil => rfl
    | cons c cs =>
      have hc : Text.isAlphabetic c = false := hcs c rfl
      rw [List.nil_append, tokensFrom_cons, tokensFrom_cons, Mode.step, if_neg (by simp [hc]),
        Mode.step]
      split_ifs <;> rfl
  | cons c name ih =>
    rw [List.all_cons, Bool.and_eq_true] at hname
    rw [List.cons_append, tokensFrom_cons, Mode.step, if_pos hname.1, ih hname.2, List.reverse_cons,
      List.append_assoc]
    rfl

theorem tokensFrom_control_word {name cs : List Char} (hne : name ≠ [])
    (hname : name.all Text.isAlphabetic = true) (hcs : ∀ c ∈ cs.head?, Text.isAlphabetic c = false) :
    tokensFrom .text ('\\' :: (name ++ cs)) =
      .control (String.ofList name) :: tokensFrom .blanks cs := by
  obtain ⟨c, letters, rfl⟩ := List.exists_cons_of_ne_nil hne
  rw [List.all_cons, Bool.and_eq_true] at hname
  rw [tokensFrom_cons, show Mode.step .text '\\' = (.escape, []) from rfl, List.nil_append,
    List.cons_append, tokensFrom_cons, Mode.step, if_pos hname.1, List.nil_append,
    tokensFrom_word hname.2 hcs, Mode.wordToken]
  simp

theorem tokensFrom_control_symbol {c : Char} (hc : Text.isAlphabetic c = false) (cs : List Char) :
    tokensFrom .text ('\\' :: c :: cs) = .control (String.singleton c) :: tokensFrom .text cs := by
  rw [tokensFrom_cons, show Mode.step .text '\\' = (.escape, []) from rfl, List.nil_append,
    tokensFrom_cons, Mode.step, if_neg (by simp [hc])]
  rfl

namespace Token

/-- The character that a token is written with first. -/
def initial : Token → Char
  | char c _ => c
  | control _ => '\\'

theorem head?_sourceChars (ts : List Token) : (sourceChars ts).head? = ts.head?.map initial := by
  cases ts with
  | nil => rfl
  | cons t ts =>
    rw [sourceChars_cons]
    cases t <;> rfl

/-- A plain token is a blank or a letter by what it is written with first. -/
theorem Plain.initial {t : Token} (ht : t.Plain) (hspace : t.isSpace = false) :
    Text.isBlank t.initial = false ∧ (t.isLetter = false → Text.isAlphabetic t.initial = false) := by
  cases t with
  | char c category =>
    obtain ⟨rfl, -, -⟩ := ht
    have hblank : Text.isBlank c = false := (isSpace_ofChar c).symm.trans hspace
    exact ⟨hblank, fun h => (isLetter_ofChar hblank).symm.trans h⟩
  | control name =>
    change Text.isBlank '\\' = false ∧ (_ → Text.isAlphabetic '\\' = false)
    exact ⟨by decide, fun _ => by decide⟩

section Rest

variable {ts : List Token} (hplain : ∀ u ∈ ts, u.Plain)

include hplain

/-- What tokens are written as begins with a blank only if they do. -/
theorem head?_sourceChars_not_blank (hspace : ∀ u ∈ ts.head?, u.isSpace = false) :
    ∀ c ∈ (sourceChars ts).head?, Text.isBlank c = false := by
  intro c hc
  rw [head?_sourceChars] at hc
  obtain ⟨u, hu, rfl⟩ := Option.map_eq_some_iff.1 hc
  exact ((hplain u (List.mem_of_mem_head? hu)).initial (hspace u hu)).1

/-- What tokens are written as begins with a letter only if they do, blanks apart. -/
theorem head?_sourceChars_not_letter (hspace : ∀ u ∈ ts.head?, u.isSpace = false)
    (hletter : ∀ u ∈ ts.head?, u.isLetter = false) :
    ∀ c ∈ (sourceChars ts).head?, Text.isAlphabetic c = false := by
  intro c hc
  rw [head?_sourceChars] at hc
  obtain ⟨u, hu, rfl⟩ := Option.map_eq_some_iff.1 hc
  exact ((hplain u (List.mem_of_mem_head? hu)).initial (hspace u hu)).2 (hletter u hu)

/-- A character is read back, and what is read after it goes on from plain text. -/
theorem tokensFrom_char {c : Char} (hc : (ofChar c).Plain)
    (hjoins : ∀ u ∈ ts.head?, (ofChar c).Joins u) :
    tokensFrom .text (c :: sourceChars ts) = ofChar c :: tokensFrom .text (sourceChars ts) := by
  obtain ⟨-, hpercent, hplainBlank⟩ := hc
  by_cases hbackslash : c = '\\'
  · subst hbackslash
    -- Nothing can follow.
    cases ts with
    | nil => rfl
    | cons u ts => exact absurd rfl (hjoins u rfl).char?_ne
  · cases hblank : Text.isBlank c with
    | true =>
      obtain rfl := hplainBlank hblank
      have hspace : ∀ u ∈ ts.head?, u.isSpace = false := by
        intro u hu
        refine Bool.eq_false_iff.2 fun h => ?_
        have hfalse := ((hjoins u hu).of_isSpace h).1
        rw [isSpace_ofChar, hblank] at hfalse
        exact Bool.false_ne_true hfalse.symm
      rw [tokensFrom_cons, show Mode.step .text ' ' = (.blanks, [blank]) from rfl,
        tokensFrom_blanks (head?_sourceChars_not_blank hplain hspace)]
      rfl
    | false =>
      rw [tokensFrom_cons, Mode.step, Mode.start, if_neg hbackslash, if_neg hpercent,
        if_neg (by simp [hblank])]
      rfl

/-- A control word is read back, with a blank behind it that keeps letters apart from it. -/
theorem tokensFrom_word_sourceChars {name : List Char} (hne : name ≠ [])
    (hname : name.all Text.isAlphabetic = true) (hspace : ∀ u ∈ ts.head?, u.isSpace = false) :
    tokensFrom .text ('\\' :: name ++ (if ts.head?.any isLetter then [' '] else []) ++ sourceChars ts) =
      .control (String.ofList name) :: tokensFrom .text (sourceChars ts) := by
  have hblank := tokensFrom_blanks (head?_sourceChars_not_blank hplain hspace)
  rw [List.append_assoc, List.cons_append]
  cases hletter : ts.head?.any isLetter with
  | true =>
    have hgap : ∀ c ∈ ([' '] ++ sourceChars ts).head?, Text.isAlphabetic c = false := by
      rintro c ⟨⟩
      decide
    rw [if_pos rfl, tokensFrom_control_word hne hname hgap, ← hblank]
    rfl
  | false =>
    have hother : ∀ u ∈ ts.head?, u.isLetter = false := by
      intro u hu
      rw [hu, Option.any_some] at hletter
      exact hletter
    rw [if_neg Bool.false_ne_true, List.nil_append,
      tokensFrom_control_word hne hname (head?_sourceChars_not_letter hplain hspace hother), hblank]

end Rest

/-- Canonical tokens are read again from the text that they are written as. -/
theorem tokensFrom_sourceChars {ts : List Token} (hts : Canonical ts) :
    tokensFrom .text (sourceChars ts) = ts := by
  induction ts with
  | nil => rfl
  | cons t ts ih =>
    obtain ⟨ht, hplain⟩ := List.forall_mem_cons.1 hts.plain
    obtain ⟨hjoins, hchain⟩ := List.isChain_cons.1 hts.joins
    have hrest := ih ⟨hplain, hchain⟩
    rw [sourceChars_cons]
    cases t with
    | char c category =>
      obtain ⟨rfl, hc⟩ := ht
      exact (tokensFrom_char hplain ⟨rfl, hc⟩ hjoins).trans (congrArg _ hrest)
    | control name =>
      rcases ht with ⟨hne, hname⟩ | ⟨c, rfl, hc⟩
      · have hspace : ∀ u ∈ ts.head?, u.isSpace = false := by
          intro u hu
          refine Bool.eq_false_iff.2 fun h => ?_
          exact Bool.false_ne_true (((hjoins u hu).of_isSpace h).2.symm.trans hname)
        have hread := tokensFrom_word_sourceChars hplain hne hname hspace
        rw [hrest, String.ofList_toList] at hread
        rw [isWord, hname, Bool.true_and]
        exact hread
      · have hword : (control (String.singleton c)).isWord = false := by simpa [isWord] using hc
        have hdisplay : (control (String.singleton c)).display = ['\\', c] := by simp [display]
        rw [hword, Bool.false_and, if_neg Bool.false_ne_true, List.append_nil, hdisplay]
        exact (tokensFrom_control_symbol hc _).trans (congrArg _ hrest)

/-- A text without comments is read as canonical tokens, and canonical tokens are read again from the
text that they are written as. -/
theorem tokenize_source :
    (∀ text, hasComment false text.toList = false → Canonical (tokenize text)) ∧
      ∀ ts, Canonical ts → tokenize (source ts) = ts := by
  constructor
  · intro text htext
    exact canonical_tokenize htext
  · intro ts hts
    rw [tokenize, source, String.toList_ofList]
    exact tokensFrom_sourceChars hts

/-- A word before a letter, a sign that would begin a comment by itself, and a backslash at the end. -/
def separated : List Token :=
  [control "see", char 'x' .letter, blank, control "%", char '\\' .other]

theorem tokenize_source_separated : hasComment false "\\see  x \n\\%\\".toList = false ∧
    Canonical separated ∧ tokenize (source separated) = separated := by
  have htext : hasComment false "\\see  x \n\\%\\".toList = false := by decide
  have hread : tokenize "\\see  x \n\\%\\" = separated := by decide
  have hcanonical := tokenize_source.1 _ htext
  rw [hread] at hcanonical
  exact ⟨htext, hcanonical, tokenize_source.2 separated hcanonical⟩

end Token

end BookIndex
