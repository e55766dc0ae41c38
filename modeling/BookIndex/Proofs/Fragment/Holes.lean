import BookIndex.Fragment.Text
import BookIndex.Proofs.Fragment.Filled

/-!
# Fragment.Holes — the place of the first placeholder

A hole is a fragment in which one node is left out, at any depth; plugging it puts a node there.  All that
is not in the hole is the same whatever is plugged (`sourceChars_plug`, `commands_plug`).  A fragment with
a placeholder is a hole plugged with it, where nothing in front of the hole holds a placeholder
(`exists_first_hole`), and filling plugs that hole with the text (`fill?_plug`).
-/

namespace BookIndex

mutual

/-- A node that is left out, or a node in which one is left out. -/
inductive Inline.Hole where
  | here
  | command (name : String) (before : List Fragment) (arg : Fragment.Hole) (after : List Fragment)
  | group (body : Fragment.Hole)

/-- A fragment in which one node is left out, at some depth. -/
inductive Fragment.Hole where
  | mk (before : Fragment) (node : Inline.Hole) (after : Fragment)

end

mutual

/-- The node with `new` in the hole. -/
def Inline.Hole.plug (new : Inline) : Inline.Hole → Inline
  | .here => new
  | .command name before arg after => .command name (before ++ arg.plug new :: after)
  | .group body => .group (body.plug new)

/-- The fragment with `new` in the hole. -/
def Fragment.Hole.plug (new : Inline) : Fragment.Hole → Fragment
  | ⟨before, node, after⟩ => before ++ node.plug new :: after

end

mutual

/-- Nothing in front of the hole holds a placeholder. -/
def Inline.Hole.First : Inline.Hole → Prop
  | .here => True
  | .command _ before arg _ => Fragment.hasPageNumberArgs before = false ∧ arg.First
  | .group body => body.First

/-- Nothing in front of the hole holds a placeholder. -/
def Fragment.Hole.First : Fragment.Hole → Prop
  | ⟨before, node, _⟩ => Fragment.hasPageNumber before = false ∧ node.First

end

/-! ### What stays around a hole -/

mutual

/-- The markup in front of the hole. -/
def Inline.Hole.sourceBefore : Inline.Hole → List Char
  | .here => []
  | .command name before arg _ =>
    '\\' :: name.toList ++ Fragment.sourceCharsArgs before ++ '{' :: arg.sourceBefore
  | .group body => '{' :: body.sourceBefore

/-- The markup in front of the hole. -/
def Fragment.Hole.sourceBefore : Fragment.Hole → List Char
  | ⟨before, node, _⟩ => Fragment.sourceChars before ++ node.sourceBefore

end

mutual

/-- The markup behind the hole. -/
def Inline.Hole.sourceAfter : Inline.Hole → List Char
  | .here => []
  | .command _ _ arg after => arg.sourceAfter ++ '}' :: Fragment.sourceCharsArgs after
  | .group body => body.sourceAfter ++ ['}']

/-- The markup behind the hole. -/
def Fragment.Hole.sourceAfter : Fragment.Hole → List Char
  | ⟨_, node, after⟩ => node.sourceAfter ++ Fragment.sourceChars after

end

theorem Fragment.sourceCharsArgs_append (as bs : List Fragment) :
    Fragment.sourceCharsArgs (as ++ bs) =
      Fragment.sourceCharsArgs as ++ Fragment.sourceCharsArgs bs := by
  induction as with
  | nil => rfl
  | cons arg as ih => simp [Fragment.sourceCharsArgs, ih]

mutual

theorem Inline.Hole.sourceChars_plug (new : Inline) : ∀ hole : Inline.Hole,
    (hole.plug new).sourceChars = hole.sourceBefore ++ new.sourceChars ++ hole.sourceAfter
  | .here => by simp [Inline.Hole.plug, Inline.Hole.sourceBefore, Inline.Hole.sourceAfter]
  | .command name before arg after => by
    have harg := Fragment.Hole.sourceChars_plug new arg
    simp [Inline.Hole.plug, Inline.Hole.sourceBefore, Inline.Hole.sourceAfter, Inline.sourceChars,
      Fragment.sourceCharsArgs_append, Fragment.sourceCharsArgs, harg]
  | .group body => by
    have hbody := Fragment.Hole.sourceChars_plug new body
    simp [Inline.Hole.plug, Inline.Hole.sourceBefore, Inline.Hole.sourceAfter, Inline.sourceChars, hbody]

/-- The markup around the hole is the same whatever is plugged. -/
theorem Fragment.Hole.sourceChars_plug (new : Inline) : ∀ hole : Fragment.Hole,
    Fragment.sourceChars (hole.plug new) = hole.sourceBefore ++ new.sourceChars ++ hole.sourceAfter
  | ⟨before, node, after⟩ => by
    have hnode := Inline.Hole.sourceChars_plug new node
    simp [Fragment.Hole.plug, Fragment.Hole.sourceBefore, Fragment.Hole.sourceAfter,
      Fragment.sourceChars, hnode]

end

mutual

/-- The commands of a node with the numbers of their arguments, each before those in its arguments. -/
def Inline.commands : Inline → List (String × Nat)
  | .text _ | .pageNumber => []
  | .command name args => (name, args.length) :: Fragment.commandsArgs args
  | .group body => Fragment.commands body

/-- The commands of a fragment with the numbers of their arguments, depth first. -/
def Fragment.commands : Fragment → List (String × Nat)
  | [] => []
  | node :: rest => node.commands ++ Fragment.commands rest

/-- The commands of all arguments in turn. -/
def Fragment.commandsArgs : List Fragment → List (String × Nat)
  | [] => []
  | arg :: rest => Fragment.commands arg ++ Fragment.commandsArgs rest

end

theorem Fragment.commands_append (f g : Fragment) :
    Fragment.commands (f ++ g) = Fragment.commands f ++ Fragment.commands g := by
  induction f with
  | nil => rfl
  | cons node f ih => simp [Fragment.commands, ih]

theorem Fragment.commandsArgs_append (as bs : List Fragment) :
    Fragment.commandsArgs (as ++ bs) = Fragment.commandsArgs as ++ Fragment.commandsArgs bs := by
  induction as with
  | nil => rfl
  | cons arg as ih => simp [Fragment.commandsArgs, ih]

mutual

theorem Inline.Hole.commands_plug {new new' : Inline} (h : new.commands = new'.commands) :
    ∀ hole : Inline.Hole, (hole.plug new).commands = (hole.plug new').commands
  | .here => h
  | .command name before arg after => by
    have harg := Fragment.Hole.commands_plug h arg
    simp [Inline.Hole.plug, Inline.commands, Fragment.commandsArgs_append, Fragment.commandsArgs, harg]
  | .group body => Fragment.Hole.commands_plug h body

/-- Plugging another node with the same commands leaves all commands as they are. -/
theorem Fragment.Hole.commands_plug {new new' : Inline} (h : new.commands = new'.commands) :
    ∀ hole : Fragment.Hole, Fragment.commands (hole.plug new) = Fragment.commands (hole.plug new')
  | ⟨before, node, after⟩ => by
    have hnode := Inline.Hole.commands_plug h node
    simp [Fragment.Hole.plug, Fragment.commands_append, Fragment.commands, hnode]

end

theorem Fragment.Hole.length_plug (new new' : Inline) (hole : Fragment.Hole) :
    (hole.plug new).length = (hole.plug new').length := by
  obtain ⟨before, node, after⟩ := hole
  simp [Fragment.Hole.plug]

/-! ### The first placeholder -/

mutual

theorem Inline.exists_first_hole : ∀ {node : Inline}, node.hasPageNumber = true →
    ∃ hole : Inline.Hole, hole.First ∧ hole.plug .pageNumber = node
  | .text _, h => absurd h Bool.false_ne_true
  | .command name args, h => by
    obtain ⟨before, arg, after, hbefore, hfirst, rfl⟩ := Fragment.exists_first_holeArgs h
    exact ⟨.command name before arg after, ⟨hbefore, hfirst⟩, rfl⟩
  | .group body, h => by
    obtain ⟨hole, hfirst, rfl⟩ := Fragment.exists_first_hole h
    exact ⟨.group hole, hfirst, rfl⟩
  | .pageNumber, _ => ⟨.here, trivial, rfl⟩

/-- A fragment with a placeholder is a hole plugged with the first one. -/
theorem Fragment.exists_first_hole : ∀ {f : Fragment}, Fragment.hasPageNumber f = true →
    ∃ hole : Fragment.Hole, hole.First ∧ hole.plug .pageNumber = f
  | [], h => absurd h Bool.false_ne_true
  | node :: rest, h => by
    cases hnode : node.hasPageNumber with
    | true =>
      obtain ⟨hole, hfirst, rfl⟩ := Inline.exists_first_hole hnode
      exact ⟨⟨[], hole, rest⟩, ⟨rfl, hfirst⟩, rfl⟩
    | false =>
      rw [Fragment.hasPageNumber, hnode, Bool.false_or] at h
      obtain ⟨⟨before, hole, after⟩, ⟨hbefore, hfirst⟩, rfl⟩ := Fragment.exists_first_hole h
      refine ⟨⟨node :: before, hole, after⟩, ⟨?_, hfirst⟩, rfl⟩
      rw [Fragment.hasPageNumber, hnode, hbefore, Bool.or_false]

theorem Fragment.exists_first_holeArgs : ∀ {args : List Fragment},
    Fragment.hasPageNumberArgs args = true → ∃ (before : List Fragment) (arg : Fragment.Hole)
      (after : List Fragment), Fragment.hasPageNumberArgs before = false ∧ arg.First ∧
        before ++ arg.plug .pageNumber :: after = args
  | [], h => absurd h Bool.false_ne_true
  | arg :: rest, h => by
    cases harg : arg.hasPageNumber with
    | true =>
      obtain ⟨hole, hfirst, rfl⟩ := Fragment.exists_first_hole harg
      exact ⟨[], hole, rest, rfl, hfirst, rfl⟩
    | false =>
      rw [Fragment.hasPageNumberArgs, harg, Bool.false_or] at h
      obtain ⟨before, hole, after, hbefore, hfirst, rfl⟩ := Fragment.exists_first_holeArgs h
      refine ⟨arg :: before, hole, after, ?_, hfirst, rfl⟩
      rw [Fragment.hasPageNumberArgs, harg, hbefore, Bool.or_false]

end

theorem Inline.fill?_eq_none {s : String} {node : Inline} (h : node.hasPageNumber = false) :
    Inline.fill? s node = none := by
  rw [← Option.not_isSome_iff_eq_none, Inline.fill?_isSome, h]
  exact Bool.false_ne_true

theorem Fragment.fill?_eq_none {s : String} {f : Fragment} (h : Fragment.hasPageNumber f = false) :
    Fragment.fill? s f = none := by
  rw [← Option.not_isSome_iff_eq_none, Fragment.fill?_isSome, h]
  exact Bool.false_ne_true

theorem Fragment.fill?_append (s : String) {f : Fragment} (hf : Fragment.hasPageNumber f = false)
    (g : Fragment) : Fragment.fill? s (f ++ g) = (Fragment.fill? s g).map (f ++ ·) := by
  induction f with
  | nil => simp
  | cons node f ih =>
    rw [Fragment.hasPageNumber, Bool.or_eq_false_iff] at hf
    rw [List.cons_append, Fragment.fill?, Inline.fill?_eq_none hf.1, ih hf.2, Option.map_map]
    rfl

theorem Fragment.fillArgs?_append (s : String) {as : List Fragment}
    (has : Fragment.hasPageNumberArgs as = false) (bs : List Fragment) :
    Fragment.fillArgs? s (as ++ bs) = (Fragment.fillArgs? s bs).map (as ++ ·) := by
  induction as with
  | nil => simp
  | cons arg as ih =>
    rw [Fragment.hasPageNumberArgs, Bool.or_eq_false_iff] at has
    rw [List.cons_append, Fragment.fillArgs?, Fragment.fill?_eq_none has.1, ih has.2, Option.map_map]
    rfl

mutual

theorem Inline.Hole.fill?_plug (s : String) : ∀ {hole : Inline.Hole}, hole.First →
    Inline.fill? s (hole.plug .pageNumber) = some (hole.plug (.text s))
  | .here, _ => rfl
  | .command name before arg after, h => by
    rw [Inline.Hole.plug, Inline.fill?, Fragment.fillArgs?_append s h.1, Fragment.fillArgs?,
      Fragment.Hole.fill?_plug s h.2]
    rfl
  | .group body, h => by
    rw [Inline.Hole.plug, Inline.fill?, Fragment.Hole.fill?_plug s h]
    rfl

/-- Filling plugs the hole of the first placeholder with the text. -/
theorem Fragment.Hole.fill?_plug (s : String) : ∀ {hole : Fragment.Hole}, hole.First →
    Fragment.fill? s (hole.plug .pageNumber) = some (hole.plug (.text s))
  | ⟨before, node, after⟩, h => by
    rw [Fragment.Hole.plug, Fragment.fill?_append s h.1, Fragment.fill?, Inline.Hole.fill?_plug s h.2]
    rfl

end

/-- Filling turns the first placeholder of a fragment into the text, leftmost and depth first, and leaves
all else as it is: the markup around it, the number of nodes, the commands with the numbers of their
arguments, and all other placeholders.  A fragment without a placeholder stays as it is. -/
theorem Fragment.fills_first_placeholder (s : String) (f : Fragment) :
    (Fragment.fill? s f).isSome = Fragment.hasPageNumber f ∧
      (Fragment.hasPageNumber f = false → (Fragment.fill? s f).getD f = f) ∧
      (Fragment.hasPageNumber f = true → ∃ hole : Fragment.Hole, hole.First ∧
        f = hole.plug .pageNumber ∧ Fragment.fill? s f = some (hole.plug (.text s)) ∧
        Fragment.placeholders f = Fragment.placeholders (hole.plug (.text s)) + 1 ∧
        Fragment.source f = String.ofList hole.sourceBefore ++ "\\" ++ Token.pageNumberName ++
          String.ofList hole.sourceAfter ∧
        Fragment.source (hole.plug (.text s)) =
          String.ofList hole.sourceBefore ++ s ++ String.ofList hole.sourceAfter ∧
        (hole.plug (.text s)).length = f.length ∧
        Fragment.commands (hole.plug (.text s)) = Fragment.commands f) := by
  refine ⟨Fragment.fill?_isSome s f, ?_, ?_⟩
  · intro hnone
    rw [Fragment.fill?_eq_none hnone, Option.getD_none]
  · intro hsome
    obtain ⟨hole, hfirst, rfl⟩ := Fragment.exists_first_hole hsome
    have hfill := hole.fill?_plug s hfirst
    have hcommands : (Inline.text s).commands = Inline.pageNumber.commands := rfl
    refine ⟨hole, hfirst, rfl, hfill, Fragment.placeholders_of_fill? hfill, ?_, ?_,
      hole.length_plug _ _, hole.commands_plug hcommands⟩
    · simp [Fragment.source, hole.sourceChars_plug, Inline.sourceChars, String.append_assoc]
    · simp [Fragment.source, hole.sourceChars_plug, Inline.sourceChars, String.append_assoc]

/-- Two placeholders, the first of them in the second argument of a command. -/
def Fragment.twoPlaceholders : Fragment :=
  [.text "p. ", .command "see" [[.text "\\index-page-number"], [.group [.pageNumber]]], .pageNumber]

/-- The text that reads like a placeholder is none, and the second placeholder stays. -/
theorem Fragment.fills_first_placeholder_nested : Fragment.hasPageNumber twoPlaceholders = true ∧
    ∃ hole : Fragment.Hole, hole.First ∧ twoPlaceholders = hole.plug .pageNumber ∧
      hole.plug (.text "7") = [.text "p. ",
        .command "see" [[.text "\\index-page-number"], [.group [.text "7"]]], .pageNumber] := by
  have hsome : Fragment.hasPageNumber twoPlaceholders = true := rfl
  obtain ⟨-, -, hfills⟩ := fills_first_placeholder "7" twoPlaceholders
  obtain ⟨hole, hfirst, heq, hfill, -⟩ := hfills hsome
  exact ⟨hsome, hole, hfirst, heq, Option.some.inj (hfill.symm.trans rfl)⟩

end BookIndex
