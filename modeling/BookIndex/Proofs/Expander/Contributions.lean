import BookIndex.Expander.Expansion
import BookIndex.Proofs.Fragment.Leaves
import BookIndex.Proofs.Token.Braces

/-!
# Expander.Contributions — what tokens contribute to their content

What a token adds to the leaves of the content depends on how many groups and how many literal braces
are open before it, and on nothing else.  So the leaves are told by one pass over the tokens that keeps
two numbers (`contributions`).
-/

namespace BookIndex

/-- How many groups and how many literal braces are open. -/
structure Nesting where
  groups : Nat
  literal : Nat
deriving DecidableEq

namespace Nesting

/-- Nothing is open. -/
def start : Nesting := ⟨0, 0⟩

/-- The leaves that a token contributes. -/
def contribution (n : Nesting) (e : Expander) : Token → List Leaf
  | .char c .letter | .char c .other | .char c .space => [.char c]
  | .char _ .beginGroup => if n.groups < maxNesting then [] else [.char '{']
  | .char _ .endGroup => if 0 < n.literal then [.char '}'] else []
  | .control name =>
    if name = Token.pageNumberName then [.pageNumber]
    else match e.replacement? name with
      | some text => Leaf.ofText text
      | none => if name.toList.all Text.isAlphabetic then [] else Leaf.ofText name

/-- What is open after a token. -/
def next (n : Nesting) : Token → Nesting
  | .char _ .beginGroup =>
    if n.groups < maxNesting then { n with groups := n.groups + 1 }
    else { n with literal := n.literal + 1 }
  | .char _ .endGroup =>
    if 0 < n.literal then { n with literal := n.literal - 1 }
    else { n with groups := n.groups - 1 }
  | _ => n

end Nesting

namespace Expander

/-- The tokens in order, each with the leaves that it contributes. -/
def contributions (e : Expander) (n : Nesting) : List Token → List (Token × List Leaf)
  | [] => []
  | t :: ts => (t, n.contribution e t) :: e.contributions (n.next t) ts

/-- The token is a command with a defined number of arguments. -/
def Takes (e : Expander) (t : Token) : Prop :=
  ∃ name, t = .control name ∧ name ≠ Token.pageNumberName ∧ e.replacement? name = none ∧
    name.toList.all Text.isAlphabetic = true ∧ (e.arity? name).isSome

end Expander

/-! ### Kinds of tokens -/

theorem Nesting.contribution_control (n : Nesting) (e : Expander) (name : String) :
    n.contribution e (.control name) = (e.symbol? name).elim [] Inline.leaves := by
  simp only [contribution, Expander.symbol?]
  by_cases hnumber : name = Token.pageNumberName
  · rw [if_pos hnumber, if_pos hnumber]
    rfl
  · rw [if_neg hnumber, if_neg hnumber]
    cases e.replacement? name with
    | some text => rfl
    | none =>
      by_cases hword : name.toList.all Text.isAlphabetic = true
      · simp only [if_pos hword]
        rfl
      · simp only [if_neg hword]
        rfl

section Token

variable (n : Nesting) (e : Expander) {t : Token} (hbegin : t.isBeginGroup = false)
  (hend : t.isEndGroup = false)

include hbegin hend

theorem Nesting.contribution_char {c : Char} {category : Category} (ht : t = .char c category) :
    n.contribution e t = [.char c] := by
  subst ht
  cases category with
  | beginGroup => simp [Token.isBeginGroup, Token.category?] at hbegin
  | endGroup => simp [Token.isEndGroup, Token.category?] at hend
  | letter | other | space => rfl

omit e in
theorem Nesting.next_of_not_brace : n.next t = n := by
  rcases t with ⟨c, category⟩ | name
  · cases category with
    | beginGroup => simp [Token.isBeginGroup, Token.category?] at hbegin
    | endGroup => simp [Token.isEndGroup, Token.category?] at hend
    | letter | other | space => rfl
  · rfl

end Token

end BookIndex
