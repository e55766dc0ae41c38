import BookIndex.Text.Alphabetic
import BookIndex.Text.Chars

/-!
# Token — characters with a category, and control sequences

Markup is a list of tokens.  A character token carries a category, which decides what the character
does: open or close a group, separate, spell a word, or stand for itself.  A control sequence has a
name, written after a backslash.
-/

namespace BookIndex

/-- What a character does in the markup. -/
inductive Category where
  | beginGroup
  | endGroup
  | space
  | letter
  | other
deriving DecidableEq, Repr

/-- The category a character has by itself. -/
def Category.ofChar (c : Char) : Category :=
  if c = '{' then .beginGroup
  else if c = '}' then .endGroup
  else if Text.isBlank c then .space
  else if Text.isAlphabetic c then .letter
  else .other

/-- A unit of markup. -/
inductive Token where
  /-- A character with the category it is read in. -/
  | char (c : Char) (category : Category)
  /-- A control sequence, by its name. -/
  | control (name : String)
deriving DecidableEq, Repr

namespace Token

/-- The name of the control sequence that marks where a page number goes. -/
def pageNumberName : String := "index-page-number"

/-- The character in its own category. -/
def ofChar (c : Char) : Token :=
  .char c (.ofChar c)

/-- The blank between words. -/
def blank : Token := .char ' ' .space

def category? : Token → Option Category
  | char _ category => some category
  | control _ => none

def char? : Token → Option Char
  | char c _ => some c
  | control _ => none

/-- A character that opens a group. -/
def isBeginGroup (t : Token) : Bool := t.category? == some .beginGroup

/-- A character that closes a group. -/
def isEndGroup (t : Token) : Bool := t.category? == some .endGroup

def isSpace (t : Token) : Bool := t.category? == some .space

def isLetter (t : Token) : Bool := t.category? == some .letter

/-- A letter, a blank or another character that stands for itself.  Only such tokens can separate
the parts of an entry. -/
def isText : Token → Bool
  | char _ .space | char _ .letter | char _ .other => true
  | _ => false

/-- The character `c`, standing for itself. -/
def isTextChar (t : Token) (c : Char) : Bool :=
  t.isText && t.char? == some c

@[simp] theorem isText_control (name : String) : (control name).isText = false := rfl

theorem isText_eq (t : Token) :
    t.isText = (t.isSpace || t.isLetter || t.category? == some .other) := by
  rcases t with ⟨c, category⟩ | name
  · cases category <;> rfl
  · rfl

theorem isTextChar_iff {t : Token} {c : Char} :
    t.isTextChar c = true ↔ t.isText = true ∧ t.char? = some c := by
  simp [isTextChar]

end Token

end BookIndex
