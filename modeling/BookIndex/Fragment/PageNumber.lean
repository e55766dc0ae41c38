import BookIndex.Fragment

/-!
# Fragment.PageNumber — placeholders of page numbers

`fill?` puts text in the place of the first placeholder, leftmost and depth first, and leaves all
else as it is; it gives nothing exactly when there is no placeholder (`fill?_isSome`).
-/

namespace BookIndex

mutual

/-- The node is, or holds, a placeholder. -/
def Inline.hasPageNumber : Inline → Bool
  | .text _ => false
  | .command _ args => Fragment.hasPageNumberArgs args
  | .group body => Fragment.hasPageNumber body
  | .pageNumber => true

/-- The fragment holds a placeholder. -/
def Fragment.hasPageNumber : Fragment → Bool
  | [] => false
  | node :: rest => Inline.hasPageNumber node || Fragment.hasPageNumber rest

/-- An argument holds a placeholder. -/
def Fragment.hasPageNumberArgs : List Fragment → Bool
  | [] => false
  | arg :: rest => Fragment.hasPageNumber arg || Fragment.hasPageNumberArgs rest

end

mutual

/-- The node with its first placeholder turned into the text `s`. -/
def Inline.fill? (s : String) : Inline → Option Inline
  | .text _ => none
  | .command name args => (Fragment.fillArgs? s args).map (.command name)
  | .group body => (Fragment.fill? s body).map .group
  | .pageNumber => some (.text s)

/-- The fragment with its first placeholder turned into the text `s`. -/
def Fragment.fill? (s : String) : Fragment → Option Fragment
  | [] => none
  | node :: rest =>
    match Inline.fill? s node with
    | some node' => some (node' :: rest)
    | none => (Fragment.fill? s rest).map (node :: ·)

/-- The arguments with the first placeholder among them turned into the text `s`. -/
def Fragment.fillArgs? (s : String) : List Fragment → Option (List Fragment)
  | [] => none
  | arg :: rest =>
    match Fragment.fill? s arg with
    | some arg' => some (arg' :: rest)
    | none => (Fragment.fillArgs? s rest).map (arg :: ·)

end

mutual

theorem Inline.fill?_isSome (s : String) : ∀ node : Inline,
    (Inline.fill? s node).isSome = Inline.hasPageNumber node
  | .text _ => rfl
  | .command _ args => by
    simpa [Inline.fill?, Inline.hasPageNumber] using Fragment.fillArgs?_isSome s args
  | .group body => by
    simpa [Inline.fill?, Inline.hasPageNumber] using Fragment.fill?_isSome s body
  | .pageNumber => rfl

/-- There is something to fill exactly where there is a placeholder. -/
theorem Fragment.fill?_isSome (s : String) : ∀ f : Fragment,
    (Fragment.fill? s f).isSome = Fragment.hasPageNumber f
  | [] => rfl
  | node :: rest => by
    have h := Inline.fill?_isSome s node
    have hs := Fragment.fill?_isSome s rest
    rw [Fragment.fill?, Fragment.hasPageNumber, ← h, ← hs]
    cases Inline.fill? s node <;> simp

theorem Fragment.fillArgs?_isSome (s : String) : ∀ args : List Fragment,
    (Fragment.fillArgs? s args).isSome = Fragment.hasPageNumberArgs args
  | [] => rfl
  | arg :: rest => by
    have h := Fragment.fill?_isSome s arg
    have hs := Fragment.fillArgs?_isSome s rest
    rw [Fragment.fillArgs?, Fragment.hasPageNumberArgs, ← h, ← hs]
    cases Fragment.fill? s arg <;> simp

end

end BookIndex
