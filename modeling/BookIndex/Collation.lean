import BookIndex.Text.Case
import BookIndex.Text.Romanize

/-!
# Collation — how texts are ordered and spelled

A collation gives every text a list of weights, which orders texts lexicographically, and a
transliteration, whose first letter decides the group of a heading.  Any two functions make a
collation; the built-in ones ignore case or also accents, and write in Latin letters or leave the
text as it is.  Accents and Latin letters are a matter of the romanizer.
-/

namespace BookIndex

/-- The code points of a text. -/
def Text.codePoints (s : String) : List Nat :=
  s.toList.map Char.toNat

/-- How texts are ordered and how their letters are spelled. -/
structure Collation where
  weights : String → List Nat
  transliterate : String → String

/-- A built-in order of texts. -/
inductive CollationKind where
  | accentFold
  | caseFold
deriving DecidableEq, Repr

/-- A built-in spelling of texts. -/
inductive TransliterationKind where
  | latin
  | identity
deriving DecidableEq, Repr

/-- The weights of a text in a built-in order. -/
def CollationKind.weights [Text.Romanizer] (kind : CollationKind) (s : String) : List Nat :=
  match kind with
  | accentFold => Text.codePoints (Text.lower (Text.romanize s))
  | caseFold => Text.codePoints (Text.lower s)

/-- The spelling of a text. -/
def TransliterationKind.spell [Text.Romanizer] (kind : TransliterationKind) (s : String) : String :=
  match kind with
  | latin => Text.romanize s
  | identity => s

namespace Collation

variable [Text.Romanizer]

/-- The collation of two built-in kinds. -/
def ofKinds (order : CollationKind) (spelling : TransliterationKind) : Collation :=
  ⟨order.weights, spelling.spell⟩

/-- The collation of these functions.  Where one is missing, case is ignored in the order and the
spelling is left alone. -/
def ofProviders (weights : Option (String → List Nat)) (transliterate : Option (String → String)) :
    Collation :=
  ⟨weights.getD CollationKind.caseFold.weights,
    transliterate.getD TransliterationKind.identity.spell⟩

theorem ofProviders_none :
    ofProviders none none = ofKinds .caseFold .identity := rfl

end Collation

end BookIndex
