import BookIndex.Token

/-!
# Entry.Split — the parts of an entry specification

An entry is written `sort@key!sort@key|format`.  The level mark `!` separates levels, the sort mark
`@` ends an explicit sort key, and the format mark `|` introduces the page format, in which only the
quote mark has a meaning.  The quote mark `"` takes the next token literally.  A mark counts only as
a letter, a blank or another character, so a brace or a control sequence never is one.

An entry has at most `maxLevels` levels; level marks beyond that are text of the last one.
-/

namespace BookIndex

/-- The greatest number of levels of an entry. -/
def maxLevels : Nat := 64

/-- A token with a meaning in entries. -/
inductive Mark where
  | quote
  | level
  | sort
  | format
deriving DecidableEq, Repr

/-- The meaning of a token. -/
def Mark.ofToken? (t : Token) : Option Mark :=
  if t.isTextChar '"' then some quote
  else if t.isTextChar '!' then some level
  else if t.isTextChar '@' then some sort
  else if t.isTextChar '|' then some format
  else none

/-- The parts of an entry as they are written. -/
structure RawEntry where
  keys : List (List Token)
  sortKeys : List (List Token)
  /-- What follows the format mark, if there is one. -/
  format : Option (List Token)
deriving DecidableEq, Repr

/-- An entry being split; every list has its newest member first. -/
structure Splitter where
  buffer : List Token
  keys : List (List Token)
  sortKeys : List (List Token)
  inFormat : Bool
  quoting : Bool

namespace Splitter

/-- Before the first token. -/
def start : Splitter := ⟨[], [], [], false, false⟩

/-- A token that is taken literally. -/
def push (s : Splitter) (t : Token) : Splitter :=
  { s with buffer := t :: s.buffer, quoting := false }

/-- The buffer becomes the key of a level, and its sort key too if no explicit one is left. -/
def closeLevel (s : Splitter) : Splitter :=
  let key := s.buffer.reverse
  { s with
    buffer := []
    keys := key :: s.keys
    sortKeys := if s.sortKeys.length ≤ s.keys.length then key :: s.sortKeys else s.sortKeys }

/-- The buffer becomes an explicit sort key. -/
def closeSortKey (s : Splitter) : Splitter :=
  { s with buffer := [], sortKeys := s.buffer.reverse :: s.sortKeys }

/-- The splitter after one more token. -/
def step (s : Splitter) (t : Token) : Splitter :=
  if s.quoting then s.push t
  else match Mark.ofToken? t with
    | none => s.push t
    | some .quote => { s with quoting := true }
    | some mark =>
      if s.inFormat then s.push t
      else match mark with
        | .level => if s.keys.length + 1 < maxLevels then s.closeLevel else s.push t
        | .sort => s.closeSortKey
        | _ => { s.closeLevel with inFormat := true }

/-- The parts, where the end of the tokens ends the last one. -/
def finish (s : Splitter) : RawEntry :=
  if s.inFormat then ⟨s.keys.reverse, s.sortKeys.reverse, some s.buffer.reverse⟩
  else ⟨s.closeLevel.keys.reverse, s.closeLevel.sortKeys.reverse, none⟩

end Splitter

/-- The parts of an entry. -/
def RawEntry.ofTokens (ts : List Token) : RawEntry :=
  (ts.foldl Splitter.step .start).finish

/-- An entry without tokens has one level, and that is empty. -/
theorem RawEntry.ofTokens_nil : RawEntry.ofTokens [] = ⟨[[]], [[]], none⟩ := rfl

end BookIndex
