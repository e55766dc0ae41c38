import BookIndex.Columns
import BookIndex.Config
import BookIndex.Heading.Walk

/-!
# Group — headings under a common letter

The first letter of a heading, in the spelling of the collation and in upper case, labels the group
of the heading: the letter itself if the alphabet has it, a group of its own for the underscore,
and one for all else.  A group holds the neighbours of one label in columns, where a heading weighs
as much as it has headings below it and itself.  A label comes back where its headings do not stand
together.
-/

namespace BookIndex

/-- What a group is called, and its anchor. -/
structure Label where
  title : String
  id : String
deriving DecidableEq, Repr

namespace Label

/-- The label of what starts with none of the letters. -/
def symbols : Label := ⟨"Symbols", "Symbols"⟩

/-- The label of what starts with an underscore. -/
def underscore : Label := ⟨"_ (Underscore)", "_"⟩

/-- The label of a letter in upper case. -/
def ofLetter (config : Config) (letter : String) : Label :=
  if config.isGroupLetter letter then ⟨letter, letter⟩
  else if letter = "_" then underscore
  else symbols

/-- The label of the headings with this sort key. -/
def ofSortKey (config : Config) (collation : Collation) (sortKey : String) : Label :=
  match (collation.transliterate sortKey).toList with
  | [] => symbols
  | first :: _ => ofLetter config (String.ofList (Text.upperChar first))

end Label

/-- Neighbouring headings of one label, in columns. -/
structure Group where
  label : Label
  columns : List (List Heading)

namespace Group

/-- The members in order. -/
def members (g : Group) : List Heading :=
  g.columns.flatten

/-- The group of a run of headings that have the label of the first. -/
def ofRun? (config : Config) : List (Label × Heading) → Option Group
  | [] => none
  | (label, h) :: rest =>
    some ⟨label, Columns.split Heading.totalLen config.columns (h :: rest.map (·.2))⟩

/-- The groups of a forest in order. -/
def ofForest (config : Config) (collation : Collation) (forest : List Heading) : List Group :=
  let labelled := forest.map fun h => (Label.ofSortKey config collation h.level.sortKey, h)
  (labelled.splitBy fun a b => a.1 == b.1).filterMap (ofRun? config)

@[simp] theorem ofForest_nil (config : Config) (collation : Collation) :
    ofForest config collation [] = [] := rfl

end Group

end BookIndex
