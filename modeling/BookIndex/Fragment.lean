/-!
# Fragment — inline content

A fragment is a list of inline nodes: text, commands with their arguments, groups, and placeholders
that a page number replaces.  Fragments are built at their end.  There text joins the text before it
and empty text adds nothing, so a fragment that is built node by node has neither empty text nor two
texts side by side.

`grow` does the building on a fragment that is kept with its last node first; `push`, `pushText` and
`ofNodes` are its forms in reading order.
-/

namespace BookIndex

/-- A node of inline content. -/
inductive Inline where
  | text (text : String)
  /-- A command that stays in the content, with its arguments. -/
  | command (name : String) (args : List (List Inline))
  | group (body : List Inline)
  /-- The place of a page number. -/
  | pageNumber
deriving Inhabited

/-- Inline content in reading order. -/
abbrev Fragment := List Inline

namespace Fragment

/-- Adds text at the end of a fragment that is kept with its last node first. -/
def growText (reversed : List Inline) (s : String) : List Inline :=
  if s.isEmpty then reversed
  else match reversed with
    | .text t :: rest => .text (t ++ s) :: rest
    | _ => .text s :: reversed

/-- Adds a node at the end of a fragment that is kept with its last node first. -/
def grow (reversed : List Inline) : Inline → List Inline
  | .text s => growText reversed s
  | node => node :: reversed

/-- The fragment with `node` added at its end. -/
def push (f : Fragment) (node : Inline) : Fragment :=
  (grow f.reverse node).reverse

/-- The fragment with text added at its end. -/
def pushText (f : Fragment) (s : String) : Fragment :=
  f.push (.text s)

/-- The fragment of these nodes, added one after the other. -/
def ofNodes (nodes : List Inline) : Fragment :=
  (nodes.foldl grow []).reverse

/-- The fragment of this text alone. -/
def ofText (s : String) : Fragment :=
  ofNodes [.text s]

@[simp] theorem growText_empty (reversed : List Inline) : growText reversed "" = reversed := rfl

@[simp] theorem ofNodes_nil : ofNodes [] = [] := rfl

/-- One more node is one push more. -/
theorem ofNodes_concat (nodes : List Inline) (node : Inline) :
    ofNodes (nodes ++ [node]) = (ofNodes nodes).push node := by
  simp [ofNodes, push]

@[simp] theorem ofText_empty : ofText "" = [] := rfl

theorem ofText_of_ne {s : String} (h : s ≠ "") : ofText s = [.text s] := by
  simp [ofText, ofNodes, grow, growText, h]

end Fragment

end BookIndex
