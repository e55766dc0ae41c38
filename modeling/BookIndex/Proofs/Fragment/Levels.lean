import BookIndex.Fragment

/-!
# Fragment.Levels — the fragments in a fragment

The levels of a fragment are the fragment itself, the bodies of its groups and the arguments of its
commands, at any depth.  What is said of every level is said of the fragment and, node by node, of the
levels in it (`atEveryLevel_iff`).
-/

namespace BookIndex

mutual

/-- The bodies and arguments in a node, at any depth. -/
def Inline.inner : Inline → List Fragment
  | .text _ | .pageNumber => []
  | .command _ args => Fragment.innerArgs args
  | .group body => body :: Fragment.inner body

/-- The bodies and arguments in a fragment, at any depth. -/
def Fragment.inner : Fragment → List Fragment
  | [] => []
  | node :: rest => Inline.inner node ++ Fragment.inner rest

/-- The arguments, each with the bodies and arguments in it. -/
def Fragment.innerArgs : List Fragment → List Fragment
  | [] => []
  | arg :: rest => arg :: Fragment.inner arg ++ Fragment.innerArgs rest

end

/-- The fragment and the bodies and arguments in it, at any depth. -/
def Fragment.levels (f : Fragment) : List Fragment := f :: Fragment.inner f

/-- Every level of the fragment has the property. -/
def Fragment.AtEveryLevel (P : Fragment → Prop) (f : Fragment) : Prop := ∀ g ∈ f.levels, P g

/-- Every body and argument in the node, at any depth, has the property. -/
def Inline.AtEveryLevel (P : Fragment → Prop) (node : Inline) : Prop := ∀ g ∈ node.inner, P g

variable {P : Fragment → Prop}

theorem Fragment.mem_inner_iff {f g : Fragment} :
    g ∈ Fragment.inner f ↔ ∃ node ∈ f, g ∈ node.inner := by
  induction f with
  | nil => simp [Fragment.inner]
  | cons node rest ih => simp [Fragment.inner, ih]

theorem Fragment.mem_innerArgs_iff {args : List Fragment} {g : Fragment} :
    g ∈ Fragment.innerArgs args ↔ ∃ arg ∈ args, g ∈ Fragment.levels arg := by
  induction args with
  | nil => simp [Fragment.innerArgs]
  | cons arg rest ih => simp [Fragment.innerArgs, Fragment.levels, ih, or_assoc]

/-- A property of every level is one of the fragment and of every level in its nodes. -/
theorem Fragment.atEveryLevel_iff {f : Fragment} :
    f.AtEveryLevel P ↔ P f ∧ ∀ node ∈ f, node.AtEveryLevel P := by
  simp only [Fragment.AtEveryLevel, Inline.AtEveryLevel, Fragment.levels, List.forall_mem_cons,
    Fragment.mem_inner_iff]
  constructor
  · rintro ⟨hf, hinner⟩
    exact ⟨hf, fun node hnode g hg => hinner g ⟨node, hnode, hg⟩⟩
  · rintro ⟨hf, hnodes⟩
    exact ⟨hf, fun g ⟨node, hnode, hg⟩ => hnodes node hnode g hg⟩

namespace Inline

@[simp] theorem atEveryLevel_text (s : String) : (Inline.text s).AtEveryLevel P := by
  simp [AtEveryLevel, inner]

@[simp] theorem atEveryLevel_pageNumber : Inline.pageNumber.AtEveryLevel P := by
  simp [AtEveryLevel, inner]

@[simp] theorem atEveryLevel_group {body : Fragment} :
    (Inline.group body).AtEveryLevel P ↔ body.AtEveryLevel P := by
  simp [AtEveryLevel, Fragment.AtEveryLevel, inner, Fragment.levels]

@[simp] theorem atEveryLevel_command {name : String} {args : List Fragment} :
    (Inline.command name args).AtEveryLevel P ↔ ∀ arg ∈ args, arg.AtEveryLevel P := by
  simp only [AtEveryLevel, Fragment.AtEveryLevel, inner, Fragment.mem_innerArgs_iff]
  constructor
  · exact fun h arg harg g hg => h g ⟨arg, harg, hg⟩
  · exact fun h g ⟨arg, harg, hg⟩ => h arg harg g hg

end Inline

theorem Fragment.forall_mem_growText {Q : Inline → Prop} (htext : ∀ s, Q (.text s))
    {reversed : List Inline} (hreversed : ∀ node ∈ reversed, Q node) (s : String) :
    ∀ node ∈ Fragment.growText reversed s, Q node := by
  unfold Fragment.growText
  split
  · exact hreversed
  · split
    · exact List.forall_mem_cons.2 ⟨htext _, (List.forall_mem_cons.1 hreversed).2⟩
    · exact List.forall_mem_cons.2 ⟨htext s, hreversed⟩

/-- A property that texts have holds of all nodes if it holds of those that are added. -/
theorem Fragment.forall_mem_grow {Q : Inline → Prop} (htext : ∀ s, Q (.text s))
    {reversed : List Inline} (hreversed : ∀ node ∈ reversed, Q node) {new : Inline} (hnew : Q new) :
    ∀ node ∈ Fragment.grow reversed new, Q node := by
  cases new with
  | text s => exact forall_mem_growText htext hreversed s
  | command | group | pageNumber => exact List.forall_mem_cons.2 ⟨hnew, hreversed⟩

end BookIndex
