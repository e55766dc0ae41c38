import BookIndex.Fragment.PageNumber

/-!
# Fragment.Placeholder — the first placeholder of a fragment

`FirstFilled s f g` says, without a search, that `g` is `f` with its first placeholder turned into
the text `s`: first means that nothing before it, in reading order and depth first, holds another.
`fill?` finds that fragment (`firstFilled_of_fill?_eq_some`).
-/

namespace BookIndex

mutual

/-- The second node is the first one with its first placeholder turned into the text `s`. -/
inductive Inline.FirstFilled (s : String) : Inline → Inline → Prop
  | pageNumber : Inline.FirstFilled s .pageNumber (.text s)
  | command {name : String} {args args' : List Fragment} :
    Fragment.FirstFilledArgs s args args' →
    Inline.FirstFilled s (.command name args) (.command name args')
  | group {body body' : Fragment} :
    Fragment.FirstFilled s body body' → Inline.FirstFilled s (.group body) (.group body')

/-- The second fragment is the first one with its first placeholder turned into the text `s`. -/
inductive Fragment.FirstFilled (s : String) : Fragment → Fragment → Prop
  | head {node node' : Inline} (rest : Fragment) :
    Inline.FirstFilled s node node' → Fragment.FirstFilled s (node :: rest) (node' :: rest)
  | tail {node : Inline} {rest rest' : Fragment} :
    node.hasPageNumber = false → Fragment.FirstFilled s rest rest' →
    Fragment.FirstFilled s (node :: rest) (node :: rest')

/-- The second list has the arguments of the first one, with the first placeholder among them turned
into the text `s`. -/
inductive Fragment.FirstFilledArgs (s : String) : List Fragment → List Fragment → Prop
  | head {arg arg' : Fragment} (rest : List Fragment) :
    Fragment.FirstFilled s arg arg' → Fragment.FirstFilledArgs s (arg :: rest) (arg' :: rest)
  | tail {arg : Fragment} {rest rest' : List Fragment} :
    arg.hasPageNumber = false → Fragment.FirstFilledArgs s rest rest' →
    Fragment.FirstFilledArgs s (arg :: rest) (arg :: rest')

end

theorem Inline.hasPageNumber_eq_false_of_fill? {s : String} {node : Inline}
    (h : Inline.fill? s node = none) : node.hasPageNumber = false := by
  rw [← Inline.fill?_isSome s node, h, Option.isSome_none]

theorem Fragment.hasPageNumber_eq_false_of_fill? {s : String} {f : Fragment}
    (h : Fragment.fill? s f = none) : Fragment.hasPageNumber f = false := by
  rw [← Fragment.fill?_isSome s f, h, Option.isSome_none]

mutual

theorem Inline.firstFilled_of_fill?_eq_some {s : String} : ∀ {node node' : Inline},
    Inline.fill? s node = some node' → Inline.FirstFilled s node node'
  | .text _, _, h => by simp [Inline.fill?] at h
  | .command name args, _, h => by
    obtain ⟨args', hargs, rfl⟩ := Option.map_eq_some_iff.1 h
    exact .command (Fragment.firstFilledArgs_of_fillArgs?_eq_some hargs)
  | .group body, _, h => by
    obtain ⟨body', hbody, rfl⟩ := Option.map_eq_some_iff.1 h
    exact .group (Fragment.firstFilled_of_fill?_eq_some hbody)
  | .pageNumber, _, h => by
    obtain rfl := Option.some.inj h
    exact .pageNumber

/-- What `fill?` gives is the fragment with its first placeholder filled. -/
theorem Fragment.firstFilled_of_fill?_eq_some {s : String} : ∀ {f g : Fragment},
    Fragment.fill? s f = some g → Fragment.FirstFilled s f g
  | [], _, h => by simp [Fragment.fill?] at h
  | node :: rest, _, h => by
    rw [Fragment.fill?] at h
    cases hnode : Inline.fill? s node with
    | some node' =>
      rw [hnode] at h
      obtain rfl := Option.some.inj h
      exact .head rest (Inline.firstFilled_of_fill?_eq_some hnode)
    | none =>
      rw [hnode] at h
      obtain ⟨rest', hrest, rfl⟩ := Option.map_eq_some_iff.1 h
      exact .tail (Inline.hasPageNumber_eq_false_of_fill? hnode)
        (Fragment.firstFilled_of_fill?_eq_some hrest)

theorem Fragment.firstFilledArgs_of_fillArgs?_eq_some {s : String} : ∀ {as bs : List Fragment},
    Fragment.fillArgs? s as = some bs → Fragment.FirstFilledArgs s as bs
  | [], _, h => by simp [Fragment.fillArgs?] at h
  | arg :: rest, _, h => by
    rw [Fragment.fillArgs?] at h
    cases harg : Fragment.fill? s arg with
    | some arg' =>
      rw [harg] at h
      obtain rfl := Option.some.inj h
      exact .head rest (Fragment.firstFilled_of_fill?_eq_some harg)
    | none =>
      rw [harg] at h
      obtain ⟨rest', hrest, rfl⟩ := Option.map_eq_some_iff.1 h
      exact .tail (Fragment.hasPageNumber_eq_false_of_fill? harg)
        (Fragment.firstFilledArgs_of_fillArgs?_eq_some hrest)

end

end BookIndex
