import BookIndex.Fragment
import BookIndex.Token

/-!
# Fragment.Text — the texts of a fragment

A fragment is read in three ways.  Its text content is the text of all its nodes, depth first.  Its
source is its markup, which tells any two key fragments of an index apart that look alike.  Its
reading is what a reader sees: a cross reference shows its target and hides its page number.
-/

namespace BookIndex

/-! ### Text content -/

mutual

/-- The text of a node, depth first. -/
def Inline.textChars : Inline → List Char
  | .text s => s.toList
  | .command _ args => Fragment.textCharsArgs args
  | .group body => Fragment.textChars body
  | .pageNumber => []

/-- The text of a fragment, depth first. -/
def Fragment.textChars : Fragment → List Char
  | [] => []
  | node :: rest => Inline.textChars node ++ Fragment.textChars rest

/-- The text of all arguments in turn. -/
def Fragment.textCharsArgs : List Fragment → List Char
  | [] => []
  | arg :: rest => Fragment.textChars arg ++ Fragment.textCharsArgs rest

end

/-- The text of all nodes, depth first. -/
def Fragment.textContent (f : Fragment) : String :=
  String.ofList (Fragment.textChars f)

@[simp] theorem Fragment.textChars_append (f g : Fragment) :
    Fragment.textChars (f ++ g) = Fragment.textChars f ++ Fragment.textChars g := by
  induction f with
  | nil => rfl
  | cons node f ih => simp [Fragment.textChars, ih]

/-! ### Source -/

mutual

/-- The markup of a node. -/
def Inline.sourceChars : Inline → List Char
  | .text s => s.toList
  | .command name args => '\\' :: name.toList ++ Fragment.sourceCharsArgs args
  | .group body => '{' :: Fragment.sourceChars body ++ ['}']
  | .pageNumber => '\\' :: Token.pageNumberName.toList

/-- The markup of a fragment. -/
def Fragment.sourceChars : Fragment → List Char
  | [] => []
  | node :: rest => Inline.sourceChars node ++ Fragment.sourceChars rest

/-- The markup of arguments, each in braces. -/
def Fragment.sourceCharsArgs : List Fragment → List Char
  | [] => []
  | arg :: rest => '{' :: Fragment.sourceChars arg ++ '}' :: Fragment.sourceCharsArgs rest

end

/-- The markup of a fragment. -/
def Fragment.source (f : Fragment) : String :=
  String.ofList (Fragment.sourceChars f)

@[simp] theorem Fragment.sourceChars_append (f g : Fragment) :
    Fragment.sourceChars (f ++ g) = Fragment.sourceChars f ++ Fragment.sourceChars g := by
  induction f with
  | nil => rfl
  | cons node f ih => simp [Fragment.sourceChars, ih]

/-! ### Reading -/

/-- The words that introduce the target of a cross reference. -/
def Inline.crossReferenceWords? (name : String) : Option String :=
  if name = "see" then some "see "
  else if name = "seealso" then some "see also "
  else none

mutual

/-- What a reader sees of a node. -/
def Inline.readingChars : Inline → List Char
  | .text s => s.toList
  | .command name args =>
    match Inline.crossReferenceWords? name, args with
    | some words, target :: _ => words.toList ++ Fragment.readingChars target
    | some words, [] => words.toList
    | none, args => Fragment.readingCharsArgs args
  | .group body => Fragment.readingChars body
  | .pageNumber => []

/-- What a reader sees of a fragment. -/
def Fragment.readingChars : Fragment → List Char
  | [] => []
  | node :: rest => Inline.readingChars node ++ Fragment.readingChars rest

/-- What a reader sees of all arguments in turn. -/
def Fragment.readingCharsArgs : List Fragment → List Char
  | [] => []
  | arg :: rest => Fragment.readingChars arg ++ Fragment.readingCharsArgs rest

end

/-- What a reader sees of a fragment. -/
def Fragment.reading (f : Fragment) : String :=
  String.ofList (Fragment.readingChars f)

@[simp] theorem Fragment.readingChars_append (f g : Fragment) :
    Fragment.readingChars (f ++ g) = Fragment.readingChars f ++ Fragment.readingChars g := by
  induction f with
  | nil => rfl
  | cons node f ih => simp [Fragment.readingChars, ih]

end BookIndex
