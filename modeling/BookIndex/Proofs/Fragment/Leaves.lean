import BookIndex.Fragment

/-!
# Fragment.Leaves — the leaves of a fragment

The leaves of a fragment are its characters and its placeholders, depth first.  How the characters are
cut into text nodes does not show in them, so a fragment that is built at its end has the leaves that
are added, one after the other (`leaves_grow`).
-/

namespace BookIndex

/-- A leaf of inline content. -/
inductive Leaf where
  | char (c : Char)
  | pageNumber
deriving DecidableEq, Repr

/-- The leaves that a text has. -/
def Leaf.ofText (s : String) : List Leaf := s.toList.map .char

mutual

/-- The leaves of a node, depth first. -/
def Inline.leaves : Inline → List Leaf
  | .text s => Leaf.ofText s
  | .command _ args => Fragment.leavesArgs args
  | .group body => Fragment.leaves body
  | .pageNumber => [.pageNumber]

/-- The leaves of a fragment, depth first. -/
def Fragment.leaves : Fragment → List Leaf
  | [] => []
  | node :: rest => Inline.leaves node ++ Fragment.leaves rest

/-- The leaves of all arguments in turn. -/
def Fragment.leavesArgs : List Fragment → List Leaf
  | [] => []
  | arg :: rest => Fragment.leaves arg ++ Fragment.leavesArgs rest

end

namespace Fragment

@[simp] theorem leaves_append (f g : Fragment) : leaves (f ++ g) = leaves f ++ leaves g := by
  induction f with
  | nil => rfl
  | cons node f ih => simp [leaves, ih]

@[simp] theorem leavesArgs_append (as bs : List Fragment) :
    leavesArgs (as ++ bs) = leavesArgs as ++ leavesArgs bs := by
  induction as with
  | nil => rfl
  | cons arg as ih => simp [leavesArgs, ih]

@[simp] theorem leaves_singleton (node : Inline) : leaves [node] = node.leaves := by
  simp [leaves]

@[simp] theorem leavesArgs_singleton (arg : Fragment) : leavesArgs [arg] = leaves arg := by
  simp [leavesArgs]

theorem leaves_growText (reversed : List Inline) (s : String) :
    leaves (growText reversed s).reverse = leaves reversed.reverse ++ Leaf.ofText s := by
  unfold growText
  split
  case isTrue hempty => simp [Leaf.ofText, String.isEmpty_iff.1 hempty]
  case isFalse =>
    split
    · simp [Inline.leaves, Leaf.ofText]
    · simp [Inline.leaves]

/-- A node that is added at the end adds its leaves. -/
theorem leaves_grow (reversed : List Inline) (node : Inline) :
    leaves (grow reversed node).reverse = leaves reversed.reverse ++ node.leaves := by
  cases node with
  | text s => exact leaves_growText reversed s
  | command | group | pageNumber => simp [grow]

end Fragment

end BookIndex
