import BookIndex.Proofs.Expander.Leaves
import BookIndex.Proofs.Fragment.Levels

/-!
# Expander.Frames — what frames keep while tokens are read

`Frame.Holds Q A` says `Q` of the nodes of a frame and `A` of the arguments that its command has so far;
each operation on frames keeps it if `Q` holds of what is added.  A property of frames that the operations
keep is handed on from the frames of an expansion to its content (`Keeps.finish`).  Where the tokens close
no group that they did not open, and open no more than may be open, an expansion has no literal braces and
no stray ones, so that only few of the operations occur (`Keeps.expand_nested`).
-/

namespace BookIndex

/-! ### Tokens by themselves -/

namespace Expander

variable {e : Expander}

theorem symbol?_cases {name : String} {node : Inline} (h : e.symbol? name = some node) :
    node = .pageNumber ∨ ∃ s, node = .text s := by
  unfold symbol? at h
  split at h
  · exact .inl (Option.some.inj h).symm
  · split at h
    · exact .inr ⟨_, (Option.some.inj h).symm⟩
    · split at h
      · exact absurd h (by simp)
      · exact .inr ⟨_, (Option.some.inj h).symm⟩

/-- A token by itself is nothing, or a single node that holds no other. -/
theorem alone_cases (e : Expander) (t : Token) : e.alone t = [] ∨ e.alone t = [.pageNumber] ∨
    (∃ s, e.alone t = [.text s]) ∨ ∃ name, e.alone t = [.command name []] := by
  cases t with
  | char c category => exact .inr (.inr (.inl ⟨_, rfl⟩))
  | control name =>
    rw [alone]
    cases hsymbol : e.symbol? name with
    | none => exact .inr (.inr (.inr ⟨name, rfl⟩))
    | some node =>
      rcases symbol?_cases hsymbol with rfl | ⟨s, rfl⟩
      · exact .inr (.inl rfl)
      · by_cases hempty : s = ""
        · subst hempty
          exact .inl rfl
        · exact .inr (.inr (.inl ⟨s, Fragment.ofText_of_ne hempty⟩))

end Expander

/-! ### Nodes and arguments -/

/-- The nodes of the frame have the property `Q`, and the arguments read so far the property `A`. -/
structure Frame.Holds (Q : Inline → Prop) (A : Fragment → Prop) (f : Frame) : Prop where
  content : ∀ node ∈ f.content, Q node
  args : ∀ p, f.pending = some p → ∀ arg ∈ p.args, A arg

/-- Nodes have the property `Q` if their arguments have the property `A`, groups left aside. -/
structure Inline.Follows (Q : Inline → Prop) (A : Fragment → Prop) : Prop where
  text : ∀ s, Q (.text s)
  pageNumber : Q .pageNumber
  command : ∀ name args, (∀ arg ∈ args, A arg) → Q (.command name args)

namespace Frame.Holds

variable {Q : Inline → Prop} {A : Fragment → Prop} {f : Frame}

theorem empty (Q : Inline → Prop) (A : Fragment → Prop) : Frame.empty.Holds Q A :=
  ⟨List.forall_mem_nil _, by simp [Frame.empty]⟩

section Operations

variable (hQ : Inline.Follows Q A)

include hQ

theorem add (hf : f.Holds Q A) {node : Inline} (hnode : Q node) : (f.add node).Holds Q A :=
  ⟨Fragment.forall_mem_grow hQ.text hf.content hnode, hf.args⟩

theorem settle (hf : f.Holds Q A) : f.settle.Holds Q A := by
  unfold Frame.settle
  split
  case h_1 => exact hf
  case h_2 p hp =>
    refine ⟨Fragment.forall_mem_grow hQ.text hf.content (hQ.command _ _ ?_), by simp⟩
    intro arg harg
    exact hf.args p hp arg (List.mem_reverse.1 harg)

theorem close (hf : f.Holds Q A) : ∀ node ∈ f.close, Q node := by
  intro node hnode
  exact (hf.settle hQ).content node (List.mem_reverse.1 hnode)

theorem give (hf : f.Holds Q A) {body : Fragment} (hbody : A body)
    (hgroup : f.pending = none → Q (.group body)) : (f.give body).Holds Q A := by
  unfold Frame.give
  split
  case h_1 hpending => exact hf.add hQ (hgroup hpending)
  case h_2 p hp =>
    have hfed (further : Option Nat) :
        Frame.Holds Q A ⟨f.content, some ⟨p.name, body :: p.args, further⟩⟩ := by
      refine ⟨hf.content, ?_⟩
      rintro q hq
      obtain rfl := Option.some.inj hq
      exact List.forall_mem_cons.2 ⟨hbody, hf.args p hp⟩
    split
    · exact hfed _
    · exact (hfed _).settle hQ
    · exact hfed _

theorem put (hf : f.Holds Q A) (e : Expander) (t : Token) : (f.put e t).Holds Q A := by
  have hnew (name : String) (further : Option Nat) :
      Frame.Holds Q A ⟨f.content, some ⟨name, [], further⟩⟩ := by
    refine ⟨hf.content, ?_⟩
    rintro q hq
    obtain rfl := Option.some.inj hq
    exact List.forall_mem_nil _
  cases t with
  | char c category => exact hf.add hQ (hQ.text _)
  | control name =>
    rw [Frame.put]
    cases hsymbol : e.symbol? name with
    | some node =>
      rcases Expander.symbol?_cases hsymbol with rfl | ⟨s, rfl⟩
      · exact hf.add hQ hQ.pageNumber
      · exact hf.add hQ (hQ.text s)
    | none =>
      simp only [Frame.call]
      split
      · exact hnew name none
      · exact hf.add hQ (hQ.command name [] (List.forall_mem_nil _))
      · exact hnew name _

theorem read (hf : f.Holds Q A) (e : Expander) {t : Token} (ht : A (e.alone t)) :
    (f.read e t).Holds Q A := by
  unfold Frame.read
  split
  case isTrue hawaits =>
    split
    · exact hf
    · refine hf.give hQ ht fun hpending => ?_
      rw [awaits, hpending] at hawaits
      exact absurd hawaits Bool.false_ne_true
  case isFalse => exact (hf.settle hQ).put hQ e t

end Operations

end Frame.Holds

/-! ### Frames of an expansion -/

/-- Reading a token and giving a body keep the property `I` of frames, and bodies closed from such frames
have the property `A`. -/
structure Frame.Keeps (e : Expander) (I : Frame → Prop) (A : Fragment → Prop) : Prop where
  empty : I .empty
  close : ∀ {f : Frame}, I f → A f.close
  give : ∀ {f : Frame} {body : Fragment}, I f → A body → I (f.give body)
  read : ∀ {f : Frame} {t : Token}, I f → t.isBeginGroup = false → t.isEndGroup = false →
    I (f.read e t)

theorem Inline.follows_atEveryLevel (P : Fragment → Prop) :
    Inline.Follows (Inline.AtEveryLevel P) (Fragment.AtEveryLevel P) where
  text := Inline.atEveryLevel_text
  pageNumber := Inline.atEveryLevel_pageNumber
  command _ _ hargs := Inline.atEveryLevel_command.2 hargs

/-- A property `J` of frames that makes closed bodies have the property `P` makes them have it at every
level. -/
theorem Frame.keeps_atEveryLevel {e : Expander} {J : Frame → Prop} {P : Fragment → Prop}
    (hempty : J .empty) (hclose : ∀ {f : Frame}, J f → P f.close)
    (hgive : ∀ {f : Frame}, J f → ∀ body, J (f.give body))
    (hread : ∀ {f : Frame}, J f → ∀ t, J (f.read e t))
    (halone : ∀ t, (e.alone t).AtEveryLevel P) :
    Frame.Keeps e (fun f => J f ∧ f.Holds (Inline.AtEveryLevel P) (Fragment.AtEveryLevel P))
      (Fragment.AtEveryLevel P) := by
  have hfollows := Inline.follows_atEveryLevel P
  constructor
  case empty => exact ⟨hempty, .empty _ _⟩
  case close => exact fun hf => Fragment.atEveryLevel_iff.2 ⟨hclose hf.1, hf.2.close hfollows⟩
  case give =>
    intro f body hf hbody
    exact ⟨hgive hf.1 body, hf.2.give hfollows hbody fun _ => Inline.atEveryLevel_group.2 hbody⟩
  case read => exact fun hf _ _ => ⟨hread hf.1 _, hf.2.read hfollows e (halone _)⟩

/-- All frames of the expansion have the property. -/
def Expansion.All (I : Frame → Prop) (s : Expansion) : Prop := ∀ f ∈ s.frame :: s.outer, I f

namespace Frame.Keeps

variable {e : Expander} {I : Frame → Prop} {A : Fragment → Prop} {s : Expansion}
  (hI : Frame.Keeps e I A)

include hI

theorem all_start : Expansion.start.All I := List.forall_mem_singleton.2 hI.empty

/-- A group opens. -/
theorem all_beginGroup (hs : s.All I) (hlt : s.outer.length < maxNesting) : s.beginGroup.All I := by
  rw [Expansion.beginGroup, if_pos hlt]
  exact List.forall_mem_cons.2 ⟨hI.empty, hs⟩

/-- The innermost group closes. -/
theorem all_give_close {frame around : Frame} {outer : List Frame}
    (hs : ∀ f ∈ frame :: around :: outer, I f) : ∀ f ∈ around.give frame.close :: outer, I f := by
  rw [List.forall_mem_cons, List.forall_mem_cons] at hs
  exact List.forall_mem_cons.2 ⟨hI.give hs.2.1 (hI.close hs.1), hs.2.2⟩

theorem all_read (hs : s.All I) {t : Token} (hbegin : t.isBeginGroup = false)
    (hend : t.isEndGroup = false) : (s.step e t).All I := by
  rw [Expansion.step_of_not_brace e s hbegin hend]
  obtain ⟨hframe, houter⟩ := List.forall_mem_cons.1 hs
  exact List.forall_mem_cons.2 ⟨hI.read hframe hbegin hend, houter⟩

/-- What is open at the end closes frame by frame. -/
theorem finish (hs : s.All I) : A s.finish := by
  rcases s with ⟨frame, outer, literal⟩
  induction outer generalizing frame with
  | nil => exact hI.close (List.forall_mem_singleton.1 hs)
  | cons around outer ih => exact ih (around.give frame.close) (hI.all_give_close hs)

/-- Where also braces that open and close no group keep the property, every expansion has it. -/
theorem expand (hsettle : ∀ {f : Frame}, I f → I f.settle)
    (htext : ∀ {f : Frame} (s : String), I f → I (f.settle.add (.text s))) (hbrace : A [.text "\x7b"])
    (ts : List Token) : A (e.expand ts) := by
  have hstep : ∀ (s : Expansion) (t : Token), s.All I → (s.step e t).All I := by
    intro s t hs
    obtain ⟨hframe, houter⟩ := List.forall_mem_cons.1 hs
    rcases t.brace_cases with ⟨c, rfl⟩ | ⟨c, rfl⟩ | ⟨hbegin, hend⟩
    · change s.beginGroup.All I
      by_cases hlt : s.outer.length < maxNesting
      · exact hI.all_beginGroup hs hlt
      · rw [Expansion.beginGroup, if_neg hlt]
        refine List.forall_mem_cons.2 ⟨?_, houter⟩
        split
        · exact hI.give hframe hbrace
        · exact htext _ hframe
    · change s.endGroup.All I
      unfold Expansion.endGroup
      split
      · exact List.forall_mem_cons.2 ⟨htext _ hframe, houter⟩
      · split
        case h_1 => exact List.forall_mem_cons.2 ⟨hsettle hframe, houter⟩
        case h_2 around outer hcons =>
          rw [Expansion.All, hcons] at hs
          exact hI.all_give_close hs
    · exact hI.all_read hs hbegin hend
  have hrun : ∀ s : Expansion, s.All I → (ts.foldl (Expansion.step e) s).All I := by
    induction ts with
    | nil => exact fun s hs => hs
    | cons t ts ih => exact fun s hs => ih _ (hstep s t hs)
  exact hI.finish (hrun .start hI.all_start)

/-- A brace that has room opens a group, and one that has a group to close closes it. -/
theorem nested_step (hs : s.All I) (hliteral : s.literal = 0) {t : Token}
    (hroom : t.isBeginGroup = true → s.outer.length < maxNesting)
    (hopen : t.isEndGroup = true → s.outer ≠ []) :
    (s.step e t).All I ∧ (s.step e t).literal = 0 ∧
      (s.step e t).outer.length + (if t.isEndGroup then 1 else 0) =
        s.outer.length + if t.isBeginGroup then 1 else 0 := by
  rcases t.brace_cases with ⟨c, rfl⟩ | ⟨c, rfl⟩ | ⟨hbegin, hend⟩
  · have hstep : s.step e (.char c .beginGroup) = ⟨.empty, s.frame :: s.outer, s.literal⟩ :=
      if_pos (hroom rfl)
    rw [hstep]
    exact ⟨List.forall_mem_cons.2 ⟨hI.empty, hs⟩, hliteral, rfl⟩
  · obtain ⟨around, outer, houter⟩ := List.exists_cons_of_ne_nil (hopen rfl)
    have hstep : s.step e (.char c .endGroup) = ⟨around.give s.frame.close, outer, s.literal⟩ := by
      change s.endGroup = _
      simp [Expansion.endGroup, hliteral, houter]
    rw [Expansion.All, houter] at hs
    rw [hstep, houter]
    exact ⟨hI.all_give_close hs, hliteral, rfl⟩
  · have hstep := Expansion.step_of_not_brace e s hbegin hend
    refine ⟨hI.all_read hs hbegin hend, ?_, ?_⟩
    · rw [hstep, hliteral]
    · rw [hstep, hbegin, hend]

theorem all_foldl_step (hs : s.All I) (hliteral : s.literal = 0) {ts : List Token}
    (hunclosed : Token.Unclosed s.outer.length ts)
    (hdepth : ∀ us, us <+: ts → s.outer.length + Token.opens us ≤ Token.closes us + maxNesting) :
    (ts.foldl (Expansion.step e) s).All I := by
  induction ts generalizing s with
  | nil => exact hs
  | cons t ts ih =>
    have hfirst : [t] <+: t :: ts := List.cons_prefix_cons.2 ⟨rfl, List.nil_prefix⟩
    have hroom : t.isBeginGroup = true → s.outer.length < maxNesting := by
      intro hbegin
      have hle := hdepth [t] hfirst
      rw [Token.opens_cons, Token.closes_cons, hbegin, Token.isEndGroup_of_isBeginGroup hbegin] at hle
      exact Nat.lt_of_succ_le (by simpa using hle)
    have hopen : t.isEndGroup = true → s.outer ≠ [] := by
      intro hend hnil
      have hle := hunclosed [t] hfirst
      rw [Token.opens_cons, Token.closes_cons, hend, Token.isBeginGroup_of_isEndGroup hend, hnil] at hle
      simp at hle
    obtain ⟨hall, hliteral', hlength⟩ := hI.nested_step hs hliteral hroom hopen
    refine ih hall hliteral' ((Token.Unclosed.cons_iff hlength).1 hunclosed) ?_
    intro us hus
    have hle := hdepth (t :: us) (List.cons_prefix_cons.2 ⟨rfl, hus⟩)
    rw [Token.opens_cons, Token.closes_cons] at hle
    omega

/-- Where the tokens close no group that they did not open, and no more groups are open at a time than may
be, every brace opens or closes a group. -/
theorem expand_nested {ts : List Token} (hunclosed : Token.Unclosed 0 ts)
    (hdepth : ∀ us, us <+: ts → Token.opens us ≤ Token.closes us + maxNesting) : A (e.expand ts) := by
  refine hI.finish (hI.all_foldl_step hI.all_start rfl hunclosed ?_)
  intro us hus
  rw [show Expansion.start.outer.length = 0 from rfl, Nat.zero_add]
  exact hdepth us hus

end Frame.Keeps

end BookIndex
