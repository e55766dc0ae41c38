import BookIndex.Token

/-!
# Token.Lexer — reading source text as tokens

`tokenize` walks over the characters of a text in a `Mode`.  A run of blanks becomes one blank
token, blanks after a control word vanish, and a percent sign starts a comment that ends with the
line.  A backslash before a letter starts a control word; before any other character it makes a
control sequence of that character alone.

`tokensFrom_cons` says what one character adds, and `tokensFrom_nil` what the end adds.
-/

namespace BookIndex

/-- What the characters read last have begun. -/
inductive Mode where
  /-- Nothing. -/
  | text
  /-- A control sequence, by a backslash. -/
  | escape
  /-- A control word of these letters, the newest first. -/
  | word (letters : List Char)
  /-- A run of blanks that adds nothing more. -/
  | blanks
  /-- A comment. -/
  | comment
deriving DecidableEq, Repr

namespace Mode

/-- The control word of these letters, the newest first. -/
def wordToken (letters : List Char) : Token :=
  .control (String.ofList letters.reverse)

/-- The mode and the tokens after `c` when nothing has begun. -/
def start (c : Char) : Mode × List Token :=
  if c = '\\' then (escape, [])
  else if c = '%' then (comment, [])
  else if Text.isBlank c then (blanks, [Token.blank])
  else (text, [Token.ofChar c])

/-- The mode after `c`, and the tokens that `c` completes. -/
def step : Mode → Char → Mode × List Token
  | text, c => start c
  | escape, c =>
    if Text.isAlphabetic c then (word [c], []) else (text, [.control (String.singleton c)])
  | word letters, c =>
    if Text.isAlphabetic c then (word (c :: letters), [])
    else if Text.isBlank c then (blanks, [wordToken letters])
    else ((start c).1, wordToken letters :: (start c).2)
  | blanks, c => if Text.isBlank c then (blanks, []) else start c
  | comment, c => if c = '\n' then (text, []) else (comment, [])

/-- The tokens that the end of the text completes. -/
def finish : Mode → List Token
  | escape => [Token.ofChar '\\']
  | word letters => [wordToken letters]
  | _ => []

/-- One character of a run: the tokens so far are kept with the newest first. -/
def advance (state : Mode × List Token) (c : Char) : Mode × List Token :=
  ((state.1.step c).1, (state.1.step c).2.reverse ++ state.2)

end Mode

/-- The tokens of `cs`, read on from `mode`. -/
def tokensFrom (mode : Mode) (cs : List Char) : List Token :=
  let state := cs.foldl Mode.advance (mode, [])
  state.2.reverse ++ state.1.finish

/-- The tokens of a source text. -/
def tokenize (source : String) : List Token :=
  tokensFrom .text source.toList

/-! ### One character at a time -/

/-- The tokens so far only stand before those to come. -/
theorem foldl_advance (cs : List Char) (mode : Mode) (out : List Token) :
    cs.foldl Mode.advance (mode, out) =
      ((cs.foldl Mode.advance (mode, [])).1, (cs.foldl Mode.advance (mode, [])).2 ++ out) := by
  induction cs generalizing mode out with
  | nil => rfl
  | cons c cs ih =>
    simp only [List.foldl_cons, Mode.advance]
    rw [ih, ih _ ((mode.step c).2.reverse ++ [])]
    simp

@[simp] theorem tokensFrom_nil (mode : Mode) : tokensFrom mode [] = mode.finish := rfl

theorem tokensFrom_cons (mode : Mode) (c : Char) (cs : List Char) :
    tokensFrom mode (c :: cs) = (mode.step c).2 ++ tokensFrom (mode.step c).1 cs := by
  simp only [tokensFrom, List.foldl_cons, Mode.advance]
  rw [foldl_advance]
  simp

end BookIndex
