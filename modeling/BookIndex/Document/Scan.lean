import BookIndex.Index
import BookIndex.Token.Source

/-!
# Document.Scan — what a document says about its index

A document asks for an entry with the command `index` and a group.  Three more commands matter:
those that begin a section give the titles that the entries stand under, `begin` may open the
environment of the index, and `printindex` asks for it.  The group of a command follows it, blanks
apart, and goes to the brace that closes it or to the end of the document; a section may have a
star before its group.  A command without a group does nothing, and what stands in the group of a
command is not scanned.

The scan is a fold over the tokens, so what two documents say one after the other is what their
scans say, as long as no command stands between them with its group still to come.
-/

namespace BookIndex

/-- A place where a document asks for an entry. -/
structure Occurrence where
  /-- What the entry is. -/
  specification : List Token
  /-- The title of the section that the place is in. -/
  title : Option (List Token)
deriving DecidableEq

/-- A command that takes a group. -/
inductive GroupCommand where
  | entry
  | title
  | environment
deriving DecidableEq, Repr

namespace GroupCommand

/-- The commands that begin a section. -/
def sectioning : List String :=
  ["part", "chapter", "section", "subsection", "subsubsection"]

/-- The command of this name. -/
def ofName? (name : String) : Option GroupCommand :=
  if name = "index" then some entry
  else if sectioning.contains name then some title
  else if name = "begin" then some environment
  else none

end GroupCommand

/-- What the tokens read last have begun. -/
inductive ScanMode where
  | text
  /-- A command before its group; a star may come next. -/
  | command (command : GroupCommand) (mayStar : Bool)
  /-- A group with its tokens so far, the last first, and the number of groups open in it. -/
  | group (command : GroupCommand) (depth : Nat) (body : List Token)
deriving DecidableEq

/-- What a document has said so far. -/
structure Scan where
  mode : ScanMode
  /-- The occurrences, the newest first. -/
  found : List Occurrence
  /-- The title of the section begun last. -/
  title : Option (List Token)
  /-- The construct named last. -/
  kind : Option IndexKind

namespace Scan

/-- Nothing is said. -/
def start : Scan := ⟨.text, [], none, none⟩

/-- A command with its group. -/
def obey (s : Scan) (command : GroupCommand) (body : List Token) : Scan :=
  match command with
  | .entry => { s with mode := .text, found := ⟨body, s.title⟩ :: s.found }
  | .title => { s with mode := .text, title := some body }
  | .environment =>
    { s with mode := .text, kind := (IndexKind.ofConstruct? (Token.source body)).or s.kind }

/-- A token outside of groups that belong to a command. -/
def readText (s : Scan) : Token → Scan
  | .char _ _ => { s with mode := .text }
  | .control name =>
    match GroupCommand.ofName? name with
    | some command => { s with mode := .command command (command == .title) }
    | none =>
      { s with mode := .text, kind := if name = "printindex" then some .command else s.kind }

/-- What is said with one more token. -/
def step (s : Scan) (t : Token) : Scan :=
  match s.mode with
  | .text => s.readText t
  | .command command mayStar =>
    if t.isSpace then { s with mode := .command command false }
    else if t.isBeginGroup then { s with mode := .group command 0 [] }
    else if mayStar && t.isTextChar '*' then { s with mode := .command command false }
    else s.readText t
  | .group command depth body =>
    if t.isBeginGroup then { s with mode := .group command (depth + 1) (t :: body) }
    else if t.isEndGroup then
      match depth with
      | 0 => s.obey command body.reverse
      | depth + 1 => { s with mode := .group command depth (t :: body) }
    else { s with mode := .group command depth (t :: body) }

/-- The end of the document closes a group. -/
def finish (s : Scan) : Scan :=
  match s.mode with
  | .group command _ body => s.obey command body.reverse
  | .text | .command _ _ => { s with mode := .text }

/-- What the tokens say. -/
def ofTokens (ts : List Token) : Scan :=
  (ts.foldl step start).finish

/-- The occurrences in the order of the document. -/
def occurrences (s : Scan) : List Occurrence := s.found.reverse

@[simp] theorem ofTokens_nil : ofTokens [] = start := rfl

/-- Scanning goes on where it stopped. -/
theorem foldl_step_append (ts us : List Token) :
    (ts ++ us).foldl step start = us.foldl step (ts.foldl step start) :=
  List.foldl_append

end Scan

end BookIndex
