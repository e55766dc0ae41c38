import BookIndex.Proofs.Expander.Frames
import Mathlib.Data.List.Chain
import Mathlib.Data.List.Infix

/-!
# Expander.Arguments — commands and the arguments they take

A node in content allows those that may follow it: a command with a defined number of arguments has all of
them if anything follows, and another command is not followed by a group, which it would have taken.  While
tokens are read each node of a frame allows the next one (`Frame.Serving`), as long as no text that adds
nothing and no stray brace comes between a command and what follows it.  So content is served at every
level (`serves_arguments`).
-/

namespace BookIndex

def Inline.isGroup : Inline → Bool
  | .group _ => true
  | _ => false

def Inline.isCommand : Inline → Bool
  | .command _ _ => true
  | _ => false

/-- The commands of the fragment have the arguments that they take: those with a defined number have no
more, and fewer only at the end, and no other command leaves a group that follows it. -/
def Fragment.Served (e : Expander) (f : Fragment) : Prop :=
  ∀ before name args after, f = before ++ .command name args :: after →
    (∀ n, e.arity? name = some n → args.length ≤ n ∧ (args.length < n → after = [])) ∧
      (e.arity? name = none → ∀ body rest, after ≠ .group body :: rest)

/-- The node has no more arguments than it takes. -/
def Inline.Sized (e : Expander) (node : Inline) : Prop :=
  ∀ name args n, node = .command name args → e.arity? name = some n → args.length ≤ n

/-- The second node may follow the first one. -/
def Inline.Allows (e : Expander) (node next : Inline) : Prop :=
  ∀ name args, node = .command name args →
    (∀ n, e.arity? name = some n → args.length = n) ∧ (e.arity? name = none → next.isGroup = false)

variable {e : Expander}

theorem Inline.allows_of_not_command {node : Inline} (h : node.isCommand = false) (next : Inline) :
    node.Allows e next := by
  rintro name args rfl
  exact absurd h.symm Bool.false_ne_true

theorem Inline.sized_of_not_command {node : Inline} (h : node.isCommand = false) : node.Sized e := by
  rintro name args n rfl
  exact absurd h.symm Bool.false_ne_true

/-- A command with all its arguments may be followed by anything. -/
theorem Inline.allows_of_arity? {name : String} {args : List Fragment}
    (h : e.arity? name = some args.length) (next : Inline) : (Inline.command name args).Allows e next := by
  rintro _ _ heq
  obtain ⟨rfl, rfl⟩ := Inline.command.inj heq
  rw [h]
  exact ⟨fun n hn => Option.some.inj hn, fun hn => absurd hn (Option.some_ne_none _)⟩

theorem Inline.sized_of_arity? {name : String} {args : List Fragment}
    (h : e.arity? name = some args.length) : (Inline.command name args).Sized e := by
  rintro _ _ n heq hn
  obtain ⟨rfl, rfl⟩ := Inline.command.inj heq
  exact Nat.le_of_eq (Option.some.inj (h.symm.trans hn))

theorem Inline.Allows.of_isGroup {node next next' : Inline} (h : node.Allows e next)
    (hgroup : next'.isGroup = next.isGroup) : node.Allows e next' :=
  fun name args heq => hgroup ▸ h name args heq

/-- A fragment is served if each node allows the next one and has no more arguments than it takes. -/
theorem Fragment.served_of_isChain {f : Fragment} (hchain : f.IsChain (Inline.Allows e))
    (hsized : ∀ node ∈ f, node.Sized e) : f.Served e := by
  rintro before name args after rfl
  have hnext := (List.isChain_cons.1 (List.isChain_append.1 hchain).2.1).1
  constructor
  · intro n hn
    have hle := hsized (.command name args) (by simp) name args n rfl hn
    refine ⟨hle, fun hlt => ?_⟩
    cases after with
    | nil => rfl
    | cons next rest =>
      have heq := (hnext next rfl name args rfl).1 n hn
      omega
  · rintro hn body rest rfl
    have hgroup := (hnext (.group body) rfl name args rfl).2 hn
    exact absurd hgroup.symm Bool.false_ne_true

/-! ### Nodes added at the end -/

namespace Fragment

variable {reversed : List Inline} {node : Inline}

theorem isChain_growText (h : reversed.IsChain fun next node => node.Allows e next) (s : String)
    (hlast : ∀ last ∈ reversed.head?, last.Allows e (.text s)) :
    (growText reversed s).IsChain fun next node => node.Allows e next := by
  unfold growText
  split
  · exact h
  · split
    case h_1 t rest =>
      rw [List.isChain_cons] at h ⊢
      exact ⟨fun node hnode => (h.1 node hnode).of_isGroup rfl, h.2⟩
    case h_2 => exact List.isChain_cons.2 ⟨hlast, h⟩

/-- A node that the last one allows extends the chain. -/
theorem isChain_grow (h : reversed.IsChain fun next node => node.Allows e next)
    (hlast : ∀ last ∈ reversed.head?, last.Allows e node) :
    (grow reversed node).IsChain fun next node => node.Allows e next := by
  cases node with
  | text s => exact isChain_growText h s hlast
  | command | group | pageNumber => exact List.isChain_cons.2 ⟨hlast, h⟩

/-- The last node is the one that was added, or a text that it joined. -/
theorem head?_grow (hne : node ≠ .text "") :
    (grow reversed node).head? = some node ∨ ∃ s, (grow reversed node).head? = some (.text s) := by
  cases node with
  | text s =>
    have hs : ¬ s.isEmpty = true := by simpa using hne
    rw [grow]
    unfold growText
    rw [if_neg hs]
    split
    · exact .inr ⟨_, rfl⟩
    · exact .inl rfl
  | command | group | pageNumber => exact .inl rfl

end Fragment

/-- If no name stands for empty text, a symbol adds something. -/
theorem Expander.ne_empty_of_symbol? (he : ∀ name, e.replacement? name ≠ some "") {name : String}
    {node : Inline} (h : e.symbol? name = some node) : node ≠ .text "" := by
  rintro rfl
  unfold symbol? at h
  split at h
  · exact absurd (Option.some.inj h) (by simp)
  · split at h
    case h_1 text htext =>
      rw [Inline.text.inj (Option.some.inj h)] at htext
      exact he name htext
    case h_2 =>
      split at h
      case isTrue => exact absurd h.symm (Option.some_ne_none _)
      case isFalse hword =>
        rw [Inline.text.inj (Option.some.inj h)] at hword
        exact hword rfl

/-! ### Frames -/

/-- What a waiting command has and what it waits for is what it takes. -/
def Pending.Counts (e : Expander) (p : Pending) : Prop :=
  e.arity? p.name = p.further.map (p.args.length + · + 1)

namespace Frame

/-- Each node of the frame allows the next one and has no more arguments than it takes. -/
structure Ordered (e : Expander) (f : Frame) : Prop where
  sized : ∀ node ∈ f.content, node.Sized e
  chain : f.content.IsChain fun next node => node.Allows e next

/-- The frame is ordered and can go on: the last node allows what may come next, which is a group only if
no command waits. -/
structure Serving (e : Expander) (f : Frame) : Prop where
  ordered : f.Ordered e
  last : ∀ node ∈ f.content.head?, ∀ next : Inline,
    (next.isGroup = true → f.pending = none) → node.Allows e next
  counts : ∀ p, f.pending = some p → p.Counts e

variable {f : Frame}

theorem Ordered.add (hf : f.Ordered e) {node : Inline} (hsized : node.Sized e)
    (hlast : ∀ last ∈ f.content.head?, last.Allows e node) : (f.add node).Ordered e :=
  ⟨Fragment.forall_mem_grow (fun _ => Inline.sized_of_not_command rfl) hf.sized hsized,
    Fragment.isChain_grow hf.chain hlast⟩

/-- After a node that may be followed by anything the frame can go on. -/
theorem Ordered.serving_add (hf : f.Ordered e) (hpending : f.pending = none) {node : Inline}
    (hnode : ∀ next, node.Allows e next) (hsized : node.Sized e) (hne : node ≠ .text "")
    (hlast : ∀ last ∈ f.content.head?, last.Allows e node) : (f.add node).Serving e := by
  refine ⟨hf.add hsized hlast, ?_, ?_⟩
  · intro last hmem next _
    rw [Option.mem_def, Frame.add] at hmem
    rcases Fragment.head?_grow hne with hhead | ⟨s, hhead⟩
    · rw [Option.some.inj (hmem.symm.trans hhead)]
      exact hnode next
    · rw [Option.some.inj (hmem.symm.trans hhead)]
      exact Inline.allows_of_not_command rfl next
  · intro p hp
    rw [Frame.add, hpending] at hp
    exact absurd hp.symm (Option.some_ne_none p)

/-- What is no command may be followed by anything. -/
theorem Ordered.serving_add_of_not_command (hf : f.Ordered e) (hpending : f.pending = none)
    {node : Inline} (hcommand : node.isCommand = false) (hne : node ≠ .text "")
    (hlast : ∀ last ∈ f.content.head?, last.Allows e node) : (f.add node).Serving e :=
  hf.serving_add hpending (Inline.allows_of_not_command hcommand) (Inline.sized_of_not_command hcommand)
    hne hlast

/-- A command that has all its arguments may be followed by anything. -/
theorem Ordered.serving_add_command (hf : f.Ordered e) (hpending : f.pending = none) {name : String}
    {args : List Fragment} (harity : e.arity? name = some args.length)
    (hlast : ∀ last ∈ f.content.head?, last.Allows e (.command name args)) :
    (f.add (.command name args)).Serving e :=
  hf.serving_add hpending (Inline.allows_of_arity? harity) (Inline.sized_of_arity? harity) (by simp) hlast

namespace Serving

theorem empty (e : Expander) : Frame.empty.Serving e :=
  ⟨⟨List.forall_mem_nil _, List.isChain_nil⟩, by simp [Frame.empty], by simp [Frame.empty]⟩

theorem ordered_settle (hf : f.Serving e) : f.settle.Ordered e := by
  unfold Frame.settle
  split
  case h_1 => exact hf.ordered
  case h_2 p hp =>
    have hsized : (Inline.command p.name p.args.reverse).Sized e := by
      rintro _ _ n heq hn
      obtain ⟨rfl, rfl⟩ := Inline.command.inj heq
      rw [hf.counts p hp, Option.map_eq_some_iff] at hn
      obtain ⟨further, -, rfl⟩ := hn
      rw [List.length_reverse]
      omega
    have hadd := hf.ordered.add hsized fun last hlast =>
      hf.last last hlast _ fun hgroup => absurd hgroup Bool.false_ne_true
    exact ⟨hadd.sized, hadd.chain⟩

/-- Where no command waits for an argument, the last node allows what is no group. -/
theorem last_settle (hf : f.Serving e) (hawaits : f.awaits = false) :
    ∀ node ∈ f.settle.content.head?, ∀ next : Inline, next.isGroup = false → node.Allows e next := by
  intro node hnode next hgroup
  cases hp : f.pending with
  | none =>
    simp only [Frame.settle, hp] at hnode
    exact hf.last node hnode next fun _ => hp
  | some p =>
    have hfurther : p.further = none := by simpa [Frame.awaits, hp] using hawaits
    have harity : e.arity? p.name = none := by rw [hf.counts p hp, hfurther, Option.map_none]
    simp only [Frame.settle, hp, Fragment.grow, List.head?_cons, Option.mem_some_iff] at hnode
    subst hnode
    rintro _ _ heq
    obtain ⟨rfl, rfl⟩ := Inline.command.inj heq
    rw [harity]
    exact ⟨fun n hn => absurd hn.symm (Option.some_ne_none n), fun _ => hgroup⟩

theorem give (hf : f.Serving e) (body : Fragment) : (f.give body).Serving e := by
  unfold Frame.give
  split
  case h_1 hp =>
    exact hf.ordered.serving_add_of_not_command hp rfl (by simp)
      fun last hlast => hf.last last hlast _ fun _ => hp
  case h_2 p hp =>
    have hcounts : e.arity? p.name = p.further.map (p.args.length + · + 1) := hf.counts p hp
    have hfed (further : Option Nat) (hfurther : e.arity? p.name =
        further.map (p.args.length + 1 + · + 1)) :
        Frame.Serving e ⟨f.content, some ⟨p.name, body :: p.args, further⟩⟩ := by
      refine ⟨⟨hf.ordered.sized, hf.ordered.chain⟩, ?_, ?_⟩
      · intro last hlast next hgroup
        exact hf.last last hlast next fun h => absurd (hgroup h) (Option.some_ne_none _)
      · rintro q hq
        obtain rfl := Option.some.inj hq
        exact hfurther
    split
    case h_1 hfurther =>
      refine hfed p.further ?_
      rw [hfurther] at hcounts ⊢
      exact hcounts
    case h_2 hfurther =>
      -- It is the last argument, so the command has all of them.
      rw [hfurther] at hcounts
      have harity : e.arity? p.name = some (body :: p.args).reverse.length := by simpa using hcounts
      have hordered : Frame.Ordered e ⟨f.content, none⟩ := ⟨hf.ordered.sized, hf.ordered.chain⟩
      exact hordered.serving_add_command rfl harity
        fun last hlast => hf.last last hlast _ fun hgroup => absurd hgroup Bool.false_ne_true
    case h_3 n hfurther =>
      rw [hfurther] at hcounts
      refine hfed (some n) (hcounts.trans ?_)
      simp only [Option.map_some, Option.some.injEq]
      omega

/-- A token that is read where no command waits is something that is no group. -/
theorem put (hf : f.Ordered e) (hpending : f.pending = none)
    (hlast : ∀ node ∈ f.content.head?, ∀ next : Inline, next.isGroup = false → node.Allows e next)
    (he : ∀ name, e.replacement? name ≠ some "") (t : Token) : (f.put e t).Serving e := by
  have hcall (name : String) (further : Option Nat)
      (hcounts : e.arity? name = further.map (0 + · + 1)) :
      Frame.Serving e ⟨f.content, some ⟨name, [], further⟩⟩ := by
    refine ⟨⟨hf.sized, hf.chain⟩, ?_, ?_⟩
    · intro last hmem next hgroup
      refine hlast last hmem next ?_
      cases hnext : next.isGroup with
      | false => rfl
      | true => exact absurd (hgroup hnext) (Option.some_ne_none _)
    · rintro q hq
      obtain rfl := Option.some.inj hq
      exact hcounts
  cases t with
  | char c category =>
    have hne : Inline.text (String.singleton c) ≠ .text "" := by simp
    exact hf.serving_add_of_not_command hpending rfl hne fun last hmem => hlast last hmem _ rfl
  | control name =>
    rw [Frame.put]
    cases hsymbol : e.symbol? name with
    | some node =>
      have hne := Expander.ne_empty_of_symbol? he hsymbol
      rcases Expander.symbol?_cases hsymbol with rfl | ⟨s, rfl⟩
      · exact hf.serving_add_of_not_command hpending rfl hne fun last hmem => hlast last hmem _ rfl
      · exact hf.serving_add_of_not_command hpending rfl hne fun last hmem => hlast last hmem _ rfl
    | none =>
      simp only [Frame.call]
      split
      case h_1 harity => exact hcall name none harity
      case h_2 harity =>
        exact hf.serving_add_command hpending harity fun last hmem => hlast last hmem _ rfl
      case h_3 n harity => exact hcall name (some n) (by simpa using harity)

theorem read (hf : f.Serving e) (he : ∀ name, e.replacement? name ≠ some "") (t : Token) :
    (f.read e t).Serving e := by
  unfold Frame.read
  split
  case isTrue =>
    split
    · exact hf
    · exact hf.give _
  case isFalse hawaits =>
    exact put hf.ordered_settle (pending_settle f) (hf.last_settle (by simpa using hawaits)) he t

theorem close (hf : f.Serving e) : Fragment.Served e f.close := by
  have hordered := hf.ordered_settle
  refine Fragment.served_of_isChain ?_ fun node hnode => hordered.sized node (List.mem_reverse.1 hnode)
  rw [Frame.close, List.isChain_reverse]
  exact hordered.chain

end Serving

end Frame

namespace Expander

/-- A token by itself is a command without arguments at most, and nothing follows it. -/
theorem served_alone (e : Expander) (t : Token) :
    Fragment.AtEveryLevel (Fragment.Served e) (e.alone t) := by
  have hsingle (node : Inline) (hsized : node.Sized e) (hlevels : node.AtEveryLevel (Fragment.Served e)) :
      Fragment.AtEveryLevel (Fragment.Served e) [node] :=
    Fragment.atEveryLevel_iff.2 ⟨Fragment.served_of_isChain (List.isChain_singleton _)
      (List.forall_mem_singleton.2 hsized), List.forall_mem_singleton.2 hlevels⟩
  rcases e.alone_cases t with h | h | ⟨s, h⟩ | ⟨name, h⟩
  · rw [h]
    exact Fragment.atEveryLevel_iff.2
      ⟨Fragment.served_of_isChain List.isChain_nil (List.forall_mem_nil _), List.forall_mem_nil _⟩
  · rw [h]
    exact hsingle _ (Inline.sized_of_not_command rfl) Inline.atEveryLevel_pageNumber
  · rw [h]
    exact hsingle _ (Inline.sized_of_not_command rfl) (Inline.atEveryLevel_text s)
  · rw [h]
    refine hsingle _ ?_ (Inline.atEveryLevel_command.2 (List.forall_mem_nil _))
    rintro _ _ n heq -
    obtain ⟨-, rfl⟩ := Inline.command.inj heq
    exact Nat.zero_le n

/-- Commands take the arguments that they should, at every level, where the tokens close no group that
they did not open and open no more groups at a time than may be open, and no name stands for empty text.  A
command with a defined number of arguments has no more, and fewer only if it is the last node; any other
command is not followed by a group. -/
theorem serves_arguments (e : Expander) (he : ∀ name, e.replacement? name ≠ some "") (ts : List Token)
    (hunclosed : Token.Unclosed 0 ts)
    (hdepth : ∀ us, us <+: ts → Token.opens us ≤ Token.closes us + maxNesting) :
    ∀ f ∈ Fragment.levels (e.expand ts), ∀ before name args after,
      f = before ++ .command name args :: after →
        (∀ n, e.arity? name = some n → args.length ≤ n ∧ (args.length < n → after = [])) ∧
          (e.arity? name = none → ∀ body rest, after ≠ .group body :: rest) := by
  have hkeeps := Frame.keeps_atEveryLevel (Frame.Serving.empty e) Frame.Serving.close Frame.Serving.give
    (fun hf => hf.read he) e.served_alone
  exact hkeeps.expand_nested hunclosed hdepth

/-- A cross reference with two arguments, and a font command that takes a single token: a command that a
group follows. -/
def mixedArguments : List Token :=
  [.control "see", .char '{' .beginGroup, .char 'a' .letter, .char '}' .endGroup, Token.blank,
    .char '{' .beginGroup, .control "foo", .char '{' .beginGroup, .char 'b' .letter,
    .char '}' .endGroup, .char '}' .endGroup, .control "textbf", .control "foo",
    .char '{' .beginGroup, .char 'c' .letter, .char '}' .endGroup]

theorem replacement?_standard_ne_empty (name : String) : standard.replacement? name ≠ some "" := by
  intro h
  have hall : ∀ pair ∈ standard.replacements, pair.2 ≠ "" := by decide
  obtain ⟨before, after, heq, -⟩ := List.lookup_eq_some_iff.1 h
  exact hall (name, "") (by simp [heq]) rfl

/-- The group follows the font command, which has its argument, and not the command in that argument. -/
theorem serves_arguments_mixedArguments : (∀ name, standard.replacement? name ≠ some "") ∧
    Token.Unclosed 0 mixedArguments ∧
    (∀ us, us <+: mixedArguments → Token.opens us ≤ Token.closes us + maxNesting) ∧
    standard.expand mixedArguments = [.command "see" [[.text "a"], [.command "foo" [[.text "b"]]]],
      .command "textbf" [[.command "foo" []]], .group [.text "c"]] ∧
    ∀ f ∈ Fragment.levels (standard.expand mixedArguments),
      ∀ before name args after, f = before ++ .command name args :: after →
        (∀ n, standard.arity? name = some n → args.length ≤ n ∧ (args.length < n → after = [])) ∧
          (standard.arity? name = none → ∀ body rest, after ≠ .group body :: rest) := by
  have hprefixes : ∀ us ∈ mixedArguments.inits, Token.closes us ≤ 0 + Token.opens us ∧
      Token.opens us ≤ Token.closes us + maxNesting := by decide
  have hunclosed : Token.Unclosed 0 mixedArguments :=
    fun us hus => (hprefixes us ((List.mem_inits us _).2 hus)).1
  have hdepth : ∀ us, us <+: mixedArguments → Token.opens us ≤ Token.closes us + maxNesting :=
    fun us hus => (hprefixes us ((List.mem_inits us _).2 hus)).2
  have hexpand : standard.expand mixedArguments =
      [.command "see" [[.text "a"], [.command "foo" [[.text "b"]]]],
        .command "textbf" [[.command "foo" []]], .group [.text "c"]] := rfl
  exact ⟨replacement?_standard_ne_empty, hunclosed, hdepth, hexpand,
    serves_arguments standard replacement?_standard_ne_empty mixedArguments hunclosed hdepth⟩

end Expander

end BookIndex
