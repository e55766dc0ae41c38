import BookIndex.Expander
import BookIndex.Fragment.Text

/-!
# Expander.Expansion — from tokens to content

An expansion reads its tokens once, from left to right, and keeps a frame for the content it is in
and one for every open group around it.  A command with a defined arity waits for that many
arguments, each a group or a single token, and passes over blanks before each.  Any other command
takes the groups that follow it directly.  The end of the group or of the tokens ends the waiting.

At most `maxNesting` groups are open at a time: a brace deeper than that is literal text, and so is
the brace that closes it.  Closing braces without an opening one vanish, and groups still open at
the end are closed there.
-/

namespace BookIndex

/-- The greatest number of groups open at a time. -/
def maxNesting : Nat := 128

/-- A command whose arguments are being read. -/
structure Pending where
  name : String
  /-- The arguments read so far, the newest first. -/
  args : List Fragment
  /-- How many arguments follow the next one; nothing for a command without a defined arity. -/
  further : Option Nat

/-- Content being built, the last node first, with the command that still waits at its end. -/
structure Frame where
  content : List Inline
  pending : Option Pending

namespace Frame

/-- Nothing yet. -/
def empty : Frame := ⟨[], none⟩

/-- The frame with one more node. -/
def add (f : Frame) (node : Inline) : Frame :=
  { f with content := Fragment.grow f.content node }

/-- The waiting command takes no more arguments. -/
def settle (f : Frame) : Frame :=
  match f.pending with
  | none => f
  | some p => ⟨Fragment.grow f.content (.command p.name p.args.reverse), none⟩

/-- The frame at its end, as a fragment. -/
def close (f : Frame) : Fragment :=
  f.settle.content.reverse

/-- A command waits for an argument, be it a group or not. -/
def awaits (f : Frame) : Bool :=
  f.pending.any (·.further.isSome)

/-- The frame with `body`, which becomes an argument if a command waits and a group if none does. -/
def give (f : Frame) (body : Fragment) : Frame :=
  match f.pending with
  | none => f.add (.group body)
  | some p =>
    let fed := { p with args := body :: p.args }
    match p.further with
    | none => { f with pending := some fed }
    | some 0 => settle { f with pending := some fed }
    | some (n + 1) => { f with pending := some { fed with further := some n } }

/-- The frame with the command `name`, which waits for its arguments. -/
def call (f : Frame) (e : Expander) (name : String) : Frame :=
  match e.arity? name with
  | none => { f with pending := some ⟨name, [], none⟩ }
  | some 0 => f.add (.command name [])
  | some (n + 1) => { f with pending := some ⟨name, [], some n⟩ }

/-- The frame with what a token stands for, where no command waits. -/
def put (f : Frame) (e : Expander) : Token → Frame
  | .char c _ => f.add (.text (String.singleton c))
  | .control name =>
    match e.symbol? name with
    | some node => f.add node
    | none => f.call e name

/-- The frame after a token that neither opens nor closes a group. -/
def read (f : Frame) (e : Expander) (t : Token) : Frame :=
  if f.awaits then
    if t.isSpace then f else f.give (e.alone t)
  else f.settle.put e t

@[simp] theorem pending_settle (f : Frame) : f.settle.pending = none := by
  unfold settle
  split
  · assumption
  · rfl

@[simp] theorem settle_empty : empty.settle = empty := rfl

@[simp] theorem close_empty : empty.close = [] := rfl

end Frame

/-- An expansion under way. -/
structure Expansion where
  frame : Frame
  /-- The frames around it, the innermost first. -/
  outer : List Frame
  /-- How many literal braces are open. -/
  literal : Nat

namespace Expansion

/-- Before the first token. -/
def start : Expansion := ⟨.empty, [], 0⟩

/-- An opening brace: a group, or a literal brace if the groups are nested too deep. -/
def beginGroup (s : Expansion) : Expansion :=
  if s.outer.length < maxNesting then
    { s with frame := .empty, outer := s.frame :: s.outer }
  else
    { s with
      frame := if s.frame.awaits then s.frame.give [.text "\x7b"]
        else s.frame.settle.add (.text "\x7b")
      literal := s.literal + 1 }

/-- A closing brace: it closes a literal brace if one is open, else the innermost group. -/
def endGroup (s : Expansion) : Expansion :=
  if 0 < s.literal then
    { s with frame := s.frame.settle.add (.text "\x7d"), literal := s.literal - 1 }
  else match s.outer with
    | [] => { s with frame := s.frame.settle }
    | around :: outer => { s with frame := around.give s.frame.close, outer := outer }

/-- The expansion after one more token. -/
def step (e : Expander) (s : Expansion) (t : Token) : Expansion :=
  if t.isBeginGroup then s.beginGroup
  else if t.isEndGroup then s.endGroup
  else { s with frame := s.frame.read e t }

/-- The content at the end, where every open group is closed. -/
def finish (s : Expansion) : Fragment :=
  (s.outer.foldl (fun inner around => around.give inner.close) s.frame).close

end Expansion

/-- The content that the tokens stand for. -/
def Expander.expand (e : Expander) (ts : List Token) : Fragment :=
  (ts.foldl (Expansion.step e) .start).finish

/-- The text of the content that the tokens stand for. -/
def Expander.expandToText (e : Expander) (ts : List Token) : String :=
  (e.expand ts).textContent

@[simp] theorem Expander.expand_nil (e : Expander) : e.expand [] = [] := rfl

end BookIndex
