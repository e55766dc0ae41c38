import BookIndex.Collation.Order
import BookIndex.Group
import BookIndex.Heading.Merge

/-!
# Index — the index of a document

While a document is read its entries are collected.  Digesting them sorts and merges them into a
forest, and leaves nothing collected.  The engine that does so is a configuration with a collation,
which need not be the one that the configuration names.
-/

namespace BookIndex

/-- The construct of a document that asks for the index. -/
inductive IndexKind where
  | environment
  | command
deriving DecidableEq, Repr

namespace IndexKind

/-- The name of the construct in the document. -/
def construct : IndexKind → String
  | environment => "theindex"
  | command => "printindex"

/-- The construct of this name. -/
def ofConstruct? (name : String) : Option IndexKind :=
  if name = "theindex" then some environment
  else if name = "printindex" then some command
  else none

@[simp] theorem ofConstruct?_construct (kind : IndexKind) :
    ofConstruct? kind.construct = some kind := by
  cases kind <;> rfl

end IndexKind

/-- How entries become an index. -/
structure Engine where
  config : Config
  collation : Collation

namespace Engine

/-- The engine of a configuration, with the collation that it names. -/
def ofConfig [Text.Romanizer] (config : Config) : Engine := ⟨config, config.collation⟩

end Engine

/-- The entries collected for a document, the newest first. -/
structure Builder where
  collected : List Entry

namespace Builder

/-- Nothing is collected. -/
def empty : Builder := ⟨[]⟩

/-- One entry more. -/
def add (b : Builder) (entry : Entry) : Builder := ⟨entry :: b.collected⟩

/-- The entry that the tokens specify, and the builder with it. -/
def addTokens (b : Builder) (e : Expander) (ts : List Token) (destination : Nat) : Entry × Builder :=
  (.ofTokens e ts destination, b.add (.ofTokens e ts destination))

/-- The entries in the order in which they were added. -/
def entries (b : Builder) : List Entry := b.collected.reverse

/-- The number of entries. -/
def size (b : Builder) : Nat := b.collected.length

@[simp] theorem entries_empty : empty.entries = [] := rfl

@[simp] theorem entries_add (b : Builder) (entry : Entry) :
    (b.add entry).entries = b.entries ++ [entry] := by
  simp [add, entries]

@[simp] theorem length_entries (b : Builder) : b.entries.length = b.size := by
  simp [entries, size]

end Builder

/-- The index of a document: its headings, and what their entries attach to the places. -/
structure Index where
  kind : IndexKind
  title : String
  forest : List Heading
  /-- The number of entries in the forest. -/
  entryCount : Nat
  /-- What is attached to which place, in order. -/
  attachments : List (Nat × Fragment)

namespace Index

/-- The index of these entries. -/
def ofEntries (engine : Engine) (kind : IndexKind) (entries : List Entry) : Index :=
  let sorted := Entry.sort engine.collation entries
  let merge := Merge.ofEntries sorted
  ⟨kind, engine.config.title, merge.forest, sorted.length, merge.attachments⟩

/-- The letter groups of the index. -/
def groups (index : Index) (engine : Engine) : List Group :=
  Group.ofForest engine.config engine.collation index.forest

theorem entryCount_ofEntries (engine : Engine) (kind : IndexKind) (entries : List Entry) :
    (ofEntries engine kind entries).entryCount = entries.length :=
  (Entry.sort_perm ..).length_eq

end Index

namespace Builder

/-- The entries in index order, and the builder without them. -/
def drain (b : Builder) (collation : Collation) : List Entry × Builder :=
  (Entry.sort collation b.entries, empty)

/-- The index of the entries, and the builder without them. -/
def digest (b : Builder) (engine : Engine) (kind : IndexKind) : Index × Builder :=
  (.ofEntries engine kind b.entries, empty)

end Builder

end BookIndex
