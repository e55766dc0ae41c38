import BookIndex.Text.Chars

/-!
# Romanize — text in Latin letters

`romanize` writes each character with the letters that spell it; a character without a spelling stands
for itself.  How characters are spelled is left open: a romanizer is any table of spellings, and whoever
romanizes text brings one along.
-/

namespace BookIndex.Text

/-- The spellings of characters in Latin letters. -/
class Romanizer where
  /-- The spelling of a character, if it has one. -/
  spell? : Char → Option String

/-- A character in the spelling of a table; without one it stands for itself. -/
def spelled (spell? : Char → Option String) (c : Char) : List Char :=
  ((spell? c).map String.toList).getD [c]

/-- Text written with Latin letters. -/
def romanize [Romanizer] : String → String :=
  expand (spelled Romanizer.spell?)

@[simp] theorem toList_romanize [Romanizer] (s : String) :
    (romanize s).toList = s.toList.flatMap (spelled Romanizer.spell?) :=
  toList_expand ..

end BookIndex.Text
