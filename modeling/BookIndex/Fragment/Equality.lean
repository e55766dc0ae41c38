import BookIndex.Fragment

/-!
# Fragment.Equality — deciding when two fragments are the same

Equality of nodes, of fragments and of argument lists is decided side by side.
-/

namespace BookIndex

mutual

/-- Decides whether two nodes are equal. -/
def Inline.decEq : (a b : Inline) → Decidable (a = b)
  | .text s, .text t =>
    if h : s = t then isTrue (by rw [h]) else isFalse (by simpa using h)
  | .command m as, .command n bs =>
    if h : m = n then
      match Fragment.decEqArgs as bs with
      | isTrue h' => isTrue (by rw [h, h'])
      | isFalse h' => isFalse (by simp [h'])
    else isFalse (by simp [h])
  | .group a, .group b =>
    match Fragment.decEq a b with
    | isTrue h => isTrue (by rw [h])
    | isFalse h => isFalse (by simpa using h)
  | .pageNumber, .pageNumber => isTrue rfl
  | .text _, .command _ _ | .text _, .group _ | .text _, .pageNumber => isFalse nofun
  | .command _ _, .text _ | .command _ _, .group _ | .command _ _, .pageNumber => isFalse nofun
  | .group _, .text _ | .group _, .command _ _ | .group _, .pageNumber => isFalse nofun
  | .pageNumber, .text _ | .pageNumber, .command _ _ | .pageNumber, .group _ => isFalse nofun

/-- Decides whether two fragments are equal. -/
def Fragment.decEq : (a b : Fragment) → Decidable (a = b)
  | [], [] => isTrue rfl
  | x :: xs, y :: ys =>
    match Inline.decEq x y, Fragment.decEq xs ys with
    | isTrue h, isTrue h' => isTrue (by rw [h, h'])
    | isFalse h, _ => isFalse (by simp [h])
    | _, isFalse h' => isFalse (by simp [h'])
  | [], _ :: _ | _ :: _, [] => isFalse nofun

/-- Decides whether two argument lists are equal. -/
def Fragment.decEqArgs : (a b : List Fragment) → Decidable (a = b)
  | [], [] => isTrue rfl
  | x :: xs, y :: ys =>
    match Fragment.decEq x y, Fragment.decEqArgs xs ys with
    | isTrue h, isTrue h' => isTrue (by rw [h, h'])
    | isFalse h, _ => isFalse (by simp [h])
    | _, isFalse h' => isFalse (by simp [h'])
  | [], _ :: _ | _ :: _, [] => isFalse nofun

end

instance : DecidableEq Inline := Inline.decEq

end BookIndex
