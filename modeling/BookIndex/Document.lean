import BookIndex.Document.Scan
import BookIndex.Token.Lexer
import BookIndex.View

/-!
# Document — from the text of a document to its index

Every occurrence in a document has a place of its own, numbered from one, under the title of its
section, and asks for one entry that points there.
-/

namespace BookIndex

/-- What a document says about its index. -/
structure Document where
  entries : List Entry
  /-- The places, one for each entry. -/
  places : Destinations
  kind : IndexKind

namespace Occurrence

/-- The anchor of place number `n`. -/
def anchor (n : Nat) : String :=
  "idx-" ++ toString n

/-- The place of an occurrence with `before` others before it. -/
def place (e : Expander) (before : Nat) (o : Occurrence) : Destination :=
  let id := anchor (before + 1)
  ⟨id, o.title.map fun title => Text.trim (e.expandToText title), some ("#" ++ id), []⟩

/-- The entry of an occurrence with `before` others before it. -/
def entry (e : Expander) (before : Nat) (o : Occurrence) : Entry :=
  .ofTokens e o.specification before

end Occurrence

namespace Document

/-- The document that a scan has read. -/
def ofScan (e : Expander) (s : Scan) : Document where
  entries := s.occurrences.mapIdx (Occurrence.entry e)
  places := (s.occurrences.mapIdx (Occurrence.place e)).toArray
  kind := s.kind.getD .command

/-- The document of this text. -/
def ofText (e : Expander) (text : String) : Document :=
  ofScan e (.ofTokens (tokenize text))

/-- Every entry has its place. -/
theorem size_places_ofScan (e : Expander) (s : Scan) :
    (ofScan e s).places.size = (ofScan e s).entries.length := by
  simp [ofScan]

/-- The index of the document, with its page numbers at their places. -/
def view (d : Document) (engine : Engine) : View :=
  let index := Index.ofEntries engine d.kind d.entries
  .ofIndex engine (d.places.attachAll index.attachments) index

end Document

/-- The index of the document of this text. -/
def View.ofText [Text.Romanizer] (config : Config) (text : String) : View :=
  (Document.ofText .standard text).view (.ofConfig config)

end BookIndex
