import BookIndex.Token.Lexer
import BookIndex.Token.Source
import Mathlib.Data.List.Chain

/-!
# Token.Canonical — tokens that can be read from a text

Tokens read from a text have the categories of their characters, names that are words or single
characters, and a plain blank for every run of blanks.  Where the text has no comment, blanks also
stand apart from each other and from the words before them.  Tokens of this form are read again from
the text that they are written as, so writing loses nothing (`tokenize_source`).
-/

namespace BookIndex

/-! ### Canonical tokens -/

namespace Token

/-- A word, or a single character that is not part of words. -/
def Spellable (name : String) : Prop :=
  (name.toList ≠ [] ∧ name.toList.all Text.isAlphabetic = true) ∨
    ∃ c, name = String.singleton c ∧ Text.isAlphabetic c = false

/-- A token that stands for itself in a text. -/
def Plain : Token → Prop
  | char c category => category = .ofChar c ∧ c ≠ '%' ∧ (Text.isBlank c = true → c = ' ')
  | control name => Spellable name

/-- The second token can come right after the first one. -/
structure Joins (t u : Token) : Prop where
  /-- A backslash that is a character has nothing behind it. -/
  char?_ne : t.char? ≠ some '\\'
  /-- A blank follows neither a blank nor a control word. -/
  of_isSpace : u.isSpace = true → t.isSpace = false ∧ t.isWord = false

/-- Tokens that are written as they are read. -/
structure Canonical (ts : List Token) : Prop where
  plain : ∀ t ∈ ts, t.Plain
  joins : ts.IsChain Joins

theorem isSpace_ofChar (c : Char) : (ofChar c).isSpace = Text.isBlank c := by
  unfold ofChar isSpace category? Category.ofChar
  split_ifs with hbegin hend hblank halpha
  · subst hbegin; rfl
  · subst hend; rfl
  · rw [hblank]; rfl
  · rw [Bool.eq_false_iff.2 hblank]; rfl
  · rw [Bool.eq_false_iff.2 hblank]; rfl

theorem isLetter_ofChar {c : Char} (hblank : Text.isBlank c = false) :
    (ofChar c).isLetter = Text.isAlphabetic c := by
  unfold ofChar isLetter category? Category.ofChar
  rw [if_neg (Bool.eq_false_iff.1 hblank)]
  split_ifs with hbegin hend halpha
  · subst hbegin; rfl
  · subst hend; rfl
  · rw [halpha]; rfl
  · rw [Bool.eq_false_iff.2 halpha]; rfl

end Token

/-! ### Comments -/

/-- A comment begins in the characters: a percent sign that no backslash escapes.  The flag says whether
one escapes the first character. -/
def hasComment (escaped : Bool) : List Char → Bool
  | [] => false
  | c :: cs => if escaped then hasComment false cs else c == '%' || hasComment (c == '\\') cs

namespace Mode

/-- The letters of a control word are a word. -/
def Spells : Mode → Prop
  | word letters => letters ≠ [] ∧ letters.all Text.isAlphabetic = true
  | _ => True

open Token in
theorem plain_wordToken {letters : List Char} (h : (word letters).Spells) :
    (wordToken letters).Plain := by
  refine .inl ⟨?_, ?_⟩
  · simpa using h.1
  · simpa using h.2

theorem plain_start (c : Char) : (start c).1.Spells ∧ ∀ t ∈ (start c).2, t.Plain := by
  unfold start
  split_ifs with hbackslash hpercent hblank
  · exact ⟨trivial, by simp⟩
  · exact ⟨trivial, by simp⟩
  · refine ⟨trivial, ?_⟩
    rw [List.forall_mem_singleton]
    exact ⟨by decide, by decide, fun _ => rfl⟩
  · refine ⟨trivial, ?_⟩
    rw [List.forall_mem_singleton]
    exact ⟨rfl, hpercent, fun h => absurd h hblank⟩

/-- Whatever has begun, a character completes plain tokens only. -/
theorem plain_step {mode : Mode} (hmode : mode.Spells) (c : Char) :
    (mode.step c).1.Spells ∧ ∀ t ∈ (mode.step c).2, t.Plain := by
  cases mode with
  | text => exact plain_start c
  | escape =>
    rw [step]
    split_ifs with halpha
    · exact ⟨⟨by simp, by simpa using halpha⟩, by simp⟩
    · refine ⟨trivial, ?_⟩
      rw [List.forall_mem_singleton]
      exact .inr ⟨c, rfl, Bool.eq_false_iff.2 halpha⟩
  | word letters =>
    have hword := plain_wordToken hmode
    rw [step]
    split_ifs with halpha hblank
    · refine ⟨⟨by simp, ?_⟩, by simp⟩
      rw [List.all_cons, halpha, hmode.2]
      rfl
    · exact ⟨trivial, List.forall_mem_singleton.2 hword⟩
    · exact ⟨(plain_start c).1, List.forall_mem_cons.2 ⟨hword, (plain_start c).2⟩⟩
  | blanks =>
    rw [step]
    split_ifs with hblank
    · exact ⟨trivial, by simp⟩
    · exact plain_start c
  | comment =>
    rw [step]
    split_ifs <;> exact ⟨trivial, by simp⟩

theorem plain_finish {mode : Mode} (hmode : mode.Spells) : ∀ t ∈ mode.finish, t.Plain := by
  cases mode with
  | escape =>
    rw [finish, List.forall_mem_singleton]
    exact ⟨rfl, by decide, by decide⟩
  | word letters => exact List.forall_mem_singleton.2 (plain_wordToken hmode)
  | text | blanks | comment => simp [finish]

end Mode

theorem plain_tokensFrom {mode : Mode} (hmode : mode.Spells) (cs : List Char) :
    ∀ t ∈ tokensFrom mode cs, t.Plain := by
  induction cs generalizing mode with
  | nil => exact Mode.plain_finish hmode
  | cons c cs ih =>
    obtain ⟨hnext, hplain⟩ := Mode.plain_step hmode c
    rw [tokensFrom_cons, List.forall_mem_append]
    exact ⟨hplain, ih hnext⟩

/-- Tokens of a text are plain, comments or not. -/
theorem plain_tokenize {text : String} {t : Token} (ht : t ∈ tokenize text) : t.Plain :=
  plain_tokensFrom (show Mode.text.Spells from trivial) text.toList t ht

/-! ### Reading a text without comments -/

namespace Token

theorem joins_ofChar {c : Char} (hbackslash : c ≠ '\\') (hblank : Text.isBlank c = false) (u : Token) :
    (ofChar c).Joins u := by
  refine ⟨?_, fun _ => ⟨?_, rfl⟩⟩
  · simpa [ofChar, char?] using hbackslash
  · rw [isSpace_ofChar, hblank]

theorem joins_of_isSpace_eq_false {t u : Token} (ht : t.char? ≠ some '\\') (hu : u.isSpace = false) :
    t.Joins u :=
  ⟨ht, fun h => absurd (hu.symm.trans h) Bool.false_ne_true⟩

end Token

namespace Mode

open Token

theorem hasComment_tail {c : Char} {cs : List Char} (hc : c ≠ '\\')
    (h : hasComment false (c :: cs) = false) : hasComment false cs = false := by
  rw [hasComment, if_neg Bool.false_ne_true, Bool.or_eq_false_iff, beq_false_of_ne hc] at h
  exact h.2

theorem hasComment_start {c : Char} {cs : List Char} (h : hasComment false (c :: cs) = false) :
    (start c).1 ≠ comment ∧ hasComment (decide ((start c).1 = escape)) cs = false := by
  unfold start
  split_ifs with hbackslash hpercent hblank
  · subst hbackslash
    exact ⟨by simp, h⟩
  · subst hpercent
    exact absurd h (by simp [hasComment])
  · exact ⟨by simp, hasComment_tail hbackslash h⟩
  · exact ⟨by simp, hasComment_tail hbackslash h⟩

/-- Where no comment begins, none has begun after a character. -/
theorem hasComment_step {mode : Mode} (hmode : mode ≠ comment) {c : Char} {cs : List Char}
    (h : hasComment (decide (mode = escape)) (c :: cs) = false) :
    (mode.step c).1 ≠ comment ∧ hasComment (decide ((mode.step c).1 = escape)) cs = false := by
  have hletter (hc : Text.isAlphabetic c = true) : c ≠ '\\' := by
    rintro rfl
    exact absurd hc (by decide)
  have hblank (hc : Text.isBlank c = true) : c ≠ '\\' := by
    rintro rfl
    exact absurd hc (by decide)
  cases mode with
  | text => exact hasComment_start h
  | escape =>
    have hcs : hasComment false cs = false := h
    rw [step]
    split_ifs <;> exact ⟨by simp, hcs⟩
  | word letters =>
    rw [step]
    split_ifs with hc hc'
    · exact ⟨by simp, hasComment_tail (hletter hc) h⟩
    · exact ⟨by simp, hasComment_tail (hblank hc') h⟩
    · exact hasComment_start h
  | blanks =>
    rw [step]
    split_ifs with hc
    · exact ⟨by simp, hasComment_tail (hblank hc) h⟩
    · exact hasComment_start h
  | comment => exact absurd rfl hmode

/-- Tokens that can be read on from a mode: but for plain text, the first one is not a blank. -/
def Continues (mode : Mode) (ts : List Token) : Prop :=
  ts.IsChain Joins ∧ (mode ≠ text → ∀ t ∈ ts.head?, t.isSpace = false)

theorem continues_cons (mode : Mode) {t : Token} {ts : List Token} (ht : t.isSpace = false)
    (hjoins : ∀ u ∈ ts.head?, t.Joins u) (hts : ts.IsChain Joins) : mode.Continues (t :: ts) := by
  refine ⟨List.isChain_cons.2 ⟨hjoins, hts⟩, fun _ u hu => ?_⟩
  obtain rfl : t = u := by simpa using hu
  exact ht

/-- A control word comes before what can be read on from a run of blanks. -/
theorem continues_wordToken (mode : Mode) (letters : List Char) {ts : List Token}
    (hts : blanks.Continues ts) : mode.Continues (wordToken letters :: ts) := by
  refine continues_cons mode rfl (fun u hu => ?_) hts.1
  exact joins_of_isSpace_eq_false (by simp [wordToken, char?]) (hts.2 (by simp) u hu)

theorem continues_finish (mode : Mode) : mode.Continues mode.finish := by
  cases mode with
  | escape => exact continues_cons escape (by decide) (by simp) List.isChain_nil
  | word letters => exact continues_wordToken _ letters ⟨List.isChain_nil, by simp⟩
  | text | blanks | comment => exact ⟨List.isChain_nil, by simp [finish]⟩

theorem continues_start {mode : Mode} {c : Char} (hc : (start c).1 ≠ comment)
    (hmode : mode = text ∨ Text.isBlank c = false) {ts : List Token}
    (hts : (start c).1.Continues ts) : mode.Continues ((start c).2 ++ ts) := by
  unfold start at hc hts ⊢
  split_ifs at hc hts ⊢ with hbackslash hpercent hblank
  · exact ⟨hts.1, fun _ => hts.2 (by simp)⟩
  · exact absurd rfl hc
  · obtain rfl : mode = text := hmode.resolve_right (by simp [hblank])
    refine ⟨List.isChain_cons.2 ⟨fun u hu => ?_, hts.1⟩, fun h => absurd rfl h⟩
    exact joins_of_isSpace_eq_false (by decide) (hts.2 (by simp) u hu)
  · have hspace : Text.isBlank c = false := Bool.eq_false_iff.2 hblank
    refine continues_cons mode ?_ (fun u _ => joins_ofChar hbackslash hspace u) hts.1
    rw [isSpace_ofChar, hspace]

/-- What a character completes joins what is read after it. -/
theorem continues_step {mode : Mode} {c : Char} (hmode : mode ≠ comment)
    (hc : (mode.step c).1 ≠ comment) {ts : List Token} (hts : (mode.step c).1.Continues ts) :
    mode.Continues ((mode.step c).2 ++ ts) := by
  cases mode with
  | text => exact continues_start hc (.inl rfl) hts
  | escape =>
    rw [step] at hc hts ⊢
    split_ifs at hc hts ⊢ with halpha
    · exact ⟨hts.1, fun _ => hts.2 (by simp)⟩
    · refine continues_cons escape rfl (fun u _ => ⟨by simp [char?], fun _ => ⟨rfl, ?_⟩⟩) hts.1
      simpa [isWord] using halpha
  | word letters =>
    rw [step] at hc hts ⊢
    split_ifs at hc hts ⊢ with halpha hblank
    · exact ⟨hts.1, fun _ => hts.2 (by simp)⟩
    · exact continues_wordToken _ letters hts
    · have hrest : blanks.Continues ((start c).2 ++ ts) :=
        continues_start hc (.inr (Bool.eq_false_iff.2 hblank)) hts
      exact continues_wordToken _ letters hrest
  | blanks =>
    rw [step] at hc hts ⊢
    split_ifs at hc hts ⊢ with hblank
    · exact ⟨hts.1, fun _ => hts.2 (by simp)⟩
    · exact continues_start hc (.inr (Bool.eq_false_iff.2 hblank)) hts
  | comment => exact absurd rfl hmode

end Mode

theorem continues_tokensFrom {mode : Mode} (hmode : mode ≠ .comment) {cs : List Char}
    (hcs : hasComment (decide (mode = .escape)) cs = false) : mode.Continues (tokensFrom mode cs) := by
  induction cs generalizing mode with
  | nil => exact Mode.continues_finish mode
  | cons c cs ih =>
    obtain ⟨hnext, hrest⟩ := Mode.hasComment_step hmode hcs
    rw [tokensFrom_cons]
    exact Mode.continues_step hmode hnext (ih hnext hrest)

/-- A text without comments is read as canonical tokens. -/
theorem canonical_tokenize {text : String} (htext : hasComment false text.toList = false) :
    Token.Canonical (tokenize text) := by
  have hmode : Mode.text ≠ .comment := by simp
  exact ⟨fun t ht => plain_tokenize ht, (continues_tokensFrom hmode htext).1⟩

end BookIndex
