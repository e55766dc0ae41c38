import BookIndex.Entry.Split
import BookIndex.Expander.Expansion
import BookIndex.Fragment.Equality

/-!
# Entry — one mention of a heading

An entry names a heading by its levels, each with a key to show and a sort key to order by, and
points at a destination, the position of a place in the table of places (`Destinations`).  Its
format, if it has one, says how the page number is shown.
-/

namespace BookIndex

/-- What an entry does: point at a page, or send the reader to another heading. -/
inductive EntryKind where
  | normal
  | see
  | seeAlso
deriving DecidableEq, Repr

namespace EntryKind

/-- The kind that a format command selects. -/
def ofCommand (name : String) : EntryKind :=
  if name = "see" then see
  else if name = "seealso" then seeAlso
  else normal

/-- The name of a kind. -/
def name : EntryKind → String
  | normal => "normal"
  | see => "see"
  | seeAlso => "seealso"

/-- The entry sends the reader to another heading. -/
def isCrossReference (kind : EntryKind) : Bool :=
  kind != normal

end EntryKind

/-- One level of a heading. -/
structure Level where
  key : Fragment
  sortKey : String
deriving DecidableEq

namespace Level

/-- The levels of the keys with the sort keys given for them.  A key without a sort key sorts by its
text; sort keys without a key are dropped. -/
def ofKeys : List Fragment → List (Option String) → List Level
  | [], _ => []
  | key :: keys, [] => ⟨key, key.textContent⟩ :: ofKeys keys []
  | key :: keys, sortKey :: sortKeys =>
    ⟨key, sortKey.getD key.textContent⟩ :: ofKeys keys sortKeys

@[simp] theorem map_key_ofKeys (keys : List Fragment) (sortKeys : List (Option String)) :
    (ofKeys keys sortKeys).map key = keys := by
  fun_induction ofKeys keys sortKeys <;> simp_all

@[simp] theorem length_ofKeys (keys : List Fragment) (sortKeys : List (Option String)) :
    (ofKeys keys sortKeys).length = keys.length := by
  simpa only [List.length_map] using congrArg List.length (map_key_ofKeys keys sortKeys)

end Level

/-- One mention of a heading. -/
structure Entry where
  levels : List Level
  format : Option Fragment
  kind : EntryKind
  /-- The position of its place in the table of places. -/
  destination : Nat

namespace Entry

/-- The number of levels. -/
def depth (entry : Entry) : Nat := entry.levels.length

/-- The entry with these keys and the sort keys given for them. -/
def ofKeys (keys : List Fragment) (sortKeys : List (Option String)) (format : Option Fragment)
    (kind : EntryKind) (destination : Nat) : Entry :=
  ⟨Level.ofKeys keys sortKeys, format, kind, destination⟩

/-- The sort keys, the markup of the keys and the markup of the format. -/
def display (entry : Entry) : String :=
  let sortKeys := "@".intercalate (entry.levels.map (·.sortKey))
  let keys := "!".intercalate (entry.levels.map (·.key.source))
  match entry.format with
  | none => sortKeys ++ " " ++ keys
  | some format => sortKeys ++ " " ++ keys ++ " " ++ format.source

end Entry

namespace RawEntry

/-- The command that leading letters of a format name, if there are any. -/
def formatCommand (format : List Token) : String :=
  String.ofList ((format.takeWhile Token.isLetter).filterMap Token.char?)

/-- The format with its leading letters as a command in front and the page number at its end. -/
def formatTokens (format : List Token) : List Token :=
  let rest := format.dropWhile Token.isLetter
  let number := Token.control Token.pageNumberName
  if formatCommand format = "" then rest ++ [number]
  else .control (formatCommand format) :: rest ++ [number]

/-- The entry that the parts make, with every part expanded.  An empty format counts as none. -/
def resolve (e : Expander) (raw : RawEntry) (destination : Nat) : Entry :=
  let keys := raw.keys.map e.expand
  let sortKeys := raw.sortKeys.map fun ts => some (e.expandToText ts)
  match raw.format with
  | none | some [] => .ofKeys keys sortKeys none .normal destination
  | some format =>
    .ofKeys keys sortKeys (some (e.expand (formatTokens format)))
      (.ofCommand (formatCommand format)) destination

end RawEntry

/-- The entry that the tokens specify.  Every list of tokens specifies one. -/
def Entry.ofTokens (e : Expander) (ts : List Token) (destination : Nat) : Entry :=
  (RawEntry.ofTokens ts).resolve e destination

end BookIndex
