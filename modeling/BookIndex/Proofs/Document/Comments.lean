import BookIndex.Document
import BookIndex.Text.Spellings
import Mathlib.Tactic.SplitIfs

/-!
# Document.Comments — a comment says nothing

A comment goes from its percent sign to the end of the line, whatever stands in it.  It ends the control
word or the run of blanks before it, and reading starts anew behind it, so the text before and the text
behind are read apart (`tokenize_commented`).  Only two things before a percent sign keep it from
beginning a comment: a backslash that escapes it, and a comment that has begun already (`Ending`).
-/

namespace BookIndex

/-- What the end of a text is part of. -/
inductive Ending where
  /-- Neither an escape nor a comment. -/
  | plain
  /-- An escape, by a backslash with nothing behind it. -/
  | escape
  /-- A comment that no line end has ended. -/
  | comment
deriving DecidableEq, Repr

namespace Ending

/-- What `c` makes of the end of a text. -/
def next : Ending → Char → Ending
  | plain, c => if c = '\\' then escape else if c = '%' then comment else plain
  | escape, _ => plain
  | comment, c => if c = '\n' then plain else comment

/-- The ending of a text. -/
def ofText (text : String) : Ending :=
  text.toList.foldl next plain

theorem next_of_ne {c : Char} (hbackslash : c ≠ '\\') (hpercent : c ≠ '%') :
    next plain c = plain := by
  rw [next, if_neg hbackslash, if_neg hpercent]

theorem next_of_isAlphabetic {c : Char} (hc : Text.isAlphabetic c = true) : next plain c = plain := by
  refine next_of_ne ?_ ?_ <;> rintro rfl <;> exact absurd hc (by decide)

theorem next_of_isBlank {c : Char} (hc : Text.isBlank c = true) : next plain c = plain := by
  refine next_of_ne ?_ ?_ <;> rintro rfl <;> exact absurd hc (by decide)

end Ending

namespace Mode

/-- The ending of the text that has been read. -/
def ending : Mode → Ending
  | escape => .escape
  | comment => .comment
  | text | word _ | blanks => .plain

theorem ending_start (c : Char) : (start c).1.ending = Ending.next .plain c := by
  rw [start, Ending.next]
  split_ifs <;> rfl

/-- A mode knows the ending of the text, whatever else it knows. -/
theorem ending_step (mode : Mode) (c : Char) : (mode.step c).1.ending = mode.ending.next c := by
  cases mode with
  | text => exact ending_start c
  | escape =>
    rw [step]
    split_ifs <;> rfl
  | word letters =>
    rw [step]
    split_ifs with halpha hblank
    · exact (Ending.next_of_isAlphabetic halpha).symm
    · exact (Ending.next_of_isBlank hblank).symm
    · exact ending_start c
  | blanks =>
    rw [step]
    split_ifs with hblank
    · exact (Ending.next_of_isBlank hblank).symm
    · exact ending_start c
  | comment =>
    rw [step, ending, Ending.next]
    split_ifs <;> rfl

/-- A percent sign ends what has begun, as the end of the text does, and begins a comment. -/
theorem step_percent {mode : Mode} (hmode : mode.ending = .plain) :
    mode.step '%' = (comment, mode.finish) := by
  cases mode with
  | text | blanks => rfl
  | word letters => rfl
  | escape | comment => cases hmode

end Mode

/-! ### Reading over a comment -/

theorem tokensFrom_comment {body : List Char} (hbody : '\n' ∉ body) (cs : List Char) :
    tokensFrom .comment (body ++ '\n' :: cs) = tokensFrom .text cs := by
  induction body with
  | nil => rw [List.nil_append, tokensFrom_cons]; rfl
  | cons c body ih =>
    rw [List.mem_cons, not_or] at hbody
    rw [List.cons_append, tokensFrom_cons, Mode.step, if_neg (Ne.symm hbody.1)]
    exact ih hbody.2

/-- Whatever has begun before the characters in front, they are read as if the text ended with them,
and what stands behind the comment is read as if the text began there. -/
theorem tokensFrom_append_comment {mode : Mode} {front body : List Char}
    (hfront : front.foldl Ending.next mode.ending = .plain) (hbody : '\n' ∉ body) (cs : List Char) :
    tokensFrom mode (front ++ '%' :: (body ++ '\n' :: cs)) =
      tokensFrom mode front ++ tokensFrom .text cs := by
  induction front generalizing mode with
  | nil =>
    rw [List.nil_append, tokensFrom_cons, Mode.step_percent hfront, tokensFrom_comment hbody,
      tokensFrom_nil]
  | cons c front ih =>
    rw [List.foldl_cons, ← Mode.ending_step] at hfront
    rw [List.cons_append, tokensFrom_cons, tokensFrom_cons, ih hfront, List.append_assoc]

/-- A text with a comment in a line, between what stands before and what follows the line. -/
def commented (before comment after : String) : String :=
  before ++ "%" ++ comment ++ "\n" ++ after

theorem toList_commented (before comment after : String) : (commented before comment after).toList =
    before.toList ++ '%' :: (comment.toList ++ '\n' :: after.toList) := by
  simp [commented]

theorem View.ofText_congr [Text.Romanizer] {text text' : String} (h : tokenize text = tokenize text')
    (config : Config) : View.ofText config text = View.ofText config text' := by
  rw [ofText, ofText, Document.ofText, Document.ofText, h]

/-- The tokens of a text with a comment are those of the text before it and those of the text behind
it.  So the index of the text is the same whatever stands in the comment. -/
theorem tokenize_commented [Text.Romanizer] {before : String} (hbefore : Ending.ofText before = .plain)
    {comment : String} (hcomment : '\n' ∉ comment.toList) (after : String) :
    tokenize (commented before comment after) = tokenize before ++ tokenize after ∧
      ∀ (config : Config) (comment' : String), '\n' ∉ comment'.toList →
        View.ofText config (commented before comment' after) =
          View.ofText config (commented before comment after) := by
  have hread (body : String) (hbody : '\n' ∉ body.toList) :
      tokenize (commented before body after) = tokenize before ++ tokenize after := by
    have hfront : before.toList.foldl Ending.next Mode.text.ending = .plain := hbefore
    rw [tokenize, toList_commented, tokensFrom_append_comment hfront hbody]
    rfl
  refine ⟨hread comment hcomment, fun config comment' hcomment' => ?_⟩
  exact View.ofText_congr ((hread comment' hcomment').trans (hread comment hcomment).symm) config

/-- A text that ends in a control word, after a percent sign that begins no comment. -/
def unremarked : String :=
  "\\index\x7ba\x7d 5\\% \\see"

/-- The comment ends the control word, but the blank behind it is still read. -/
theorem tokenize_commented_word : Ending.ofText unremarked = .plain ∧
    '\n' ∉ "5% \\".toList ∧ '\n' ∉ "\x7b".toList ∧
    tokenize (commented unremarked "5% \\" " b") =
      tokenize unremarked ++ [.blank, .char 'b' .letter] ∧
    View.ofText .standard (commented unremarked "\x7b" " b") =
      View.ofText .standard (commented unremarked "5% \\" " b") := by
  have hbefore : Ending.ofText unremarked = .plain := by decide
  have hcomment : '\n' ∉ "5% \\".toList := by decide
  have hcomment' : '\n' ∉ "\x7b".toList := by decide
  have hafter : tokenize " b" = [.blank, .char 'b' .letter] := by decide
  obtain ⟨hread, hview⟩ := tokenize_commented hbefore hcomment " b"
  exact ⟨hbefore, hcomment, hcomment', hafter ▸ hread, hview .standard _ hcomment'⟩

end BookIndex
