import BookIndex.Token

/-!
# Token.Source — writing tokens as source text

`Token.source` writes tokens one after the other.  A control word that a letter follows is kept
apart from it by a blank, which reading the text skips again.
-/

namespace BookIndex.Token

/-- The token as it is written by itself. -/
def display : Token → List Char
  | char c _ => [c]
  | control name => '\\' :: name.toList

/-- A control sequence whose name goes on with any letter that follows. -/
def isWord : Token → Bool
  | char _ _ => false
  | control name => name.toList.all Text.isAlphabetic

/-- The text of `t` before `rest`, where the flag says whether a letter comes next. -/
def write (t : Token) (rest : List Char × Bool) : List Char × Bool :=
  (t.display ++ (if t.isWord && rest.2 then ' ' :: rest.1 else rest.1), t.isLetter)

/-- The characters of the source text of `ts`. -/
def sourceChars (ts : List Token) : List Char :=
  (ts.foldr write ([], false)).1

/-- The source text of `ts`. -/
def source (ts : List Token) : String :=
  String.ofList (sourceChars ts)

theorem foldr_write_snd (ts : List Token) :
    (ts.foldr write ([], false)).2 = ts.head?.any isLetter := by
  cases ts <;> rfl

@[simp] theorem sourceChars_nil : sourceChars [] = [] := rfl

theorem sourceChars_cons (t : Token) (ts : List Token) :
    sourceChars (t :: ts) =
      t.display ++ (if t.isWord && ts.head?.any isLetter then [' '] else []) ++ sourceChars ts := by
  simp only [sourceChars, List.foldr_cons, write, foldr_write_snd]
  split <;> simp

end BookIndex.Token
