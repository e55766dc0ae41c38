import BookIndex.Proofs.Expander.Frames

/-!
# Expander.Depth — how deep content is nested

A group that is open takes one of `maxNesting` levels, so a frame has as many levels left for its content
as groups can be opened in it.  Nothing fits in a frame without levels but text, placeholders and commands
with arguments that need no group: a token by itself, or a literal brace (`Inline.Fits`).  Every frame of
an expansion keeps to its levels (`Expansion.Shallow`), so content is nested at most one level deeper than
groups.
-/

namespace BookIndex

/-! ### Nesting -/

mutual

/-- How deep a node is nested: one level for each group body and each command argument on the way
down. -/
def Inline.nesting : Inline → Nat
  | .text _ | .pageNumber => 0
  | .command _ args => Fragment.nestingArgs args
  | .group body => Fragment.nesting body + 1

/-- How deep a fragment is nested. -/
def Fragment.nesting : Fragment → Nat
  | [] => 0
  | node :: rest => max (Inline.nesting node) (Fragment.nesting rest)

/-- How deep arguments are nested, the level of the arguments included. -/
def Fragment.nestingArgs : List Fragment → Nat
  | [] => 0
  | arg :: rest => max (Fragment.nesting arg + 1) (Fragment.nestingArgs rest)

end

theorem Fragment.nesting_le_iff {f : Fragment} {n : Nat} :
    Fragment.nesting f ≤ n ↔ ∀ node ∈ f, node.nesting ≤ n := by
  induction f with
  | nil => simp [Fragment.nesting]
  | cons node rest ih => rw [Fragment.nesting, Nat.max_le, List.forall_mem_cons, ih]

theorem Fragment.nestingArgs_le_iff {args : List Fragment} {n : Nat} :
    Fragment.nestingArgs args ≤ n + 1 ↔ ∀ arg ∈ args, Fragment.nesting arg ≤ n := by
  induction args with
  | nil => simp [Fragment.nestingArgs]
  | cons arg rest ih =>
    rw [Fragment.nestingArgs, Nat.max_le, List.forall_mem_cons, ih, Nat.add_le_add_iff_right]

/-- An argument that needs no group: a literal brace, or a token by itself. -/
inductive Expander.Bare (e : Expander) : Fragment → Prop
  | brace : e.Bare [.text "\x7b"]
  | token {t : Token} : t.isBeginGroup = false → t.isEndGroup = false → e.Bare (e.alone t)

/-- The node fits in as many levels.  Where none is left there is no group, and arguments are bare. -/
inductive Inline.Fits (e : Expander) : Nat → Inline → Prop
  | text (levels : Nat) (s : String) : Inline.Fits e levels (.text s)
  | pageNumber (levels : Nat) : Inline.Fits e levels .pageNumber
  | command {levels : Nat} (name : String) {args : List Fragment} :
    (∀ arg ∈ args, ∀ node ∈ arg, Inline.Fits e levels node) →
    Inline.Fits e (levels + 1) (.command name args)
  | commandAtLimit (name : String) {args : List Fragment} :
    (∀ arg ∈ args, e.Bare arg) → Inline.Fits e 0 (.command name args)
  | group {levels : Nat} {body : Fragment} :
    (∀ node ∈ body, Inline.Fits e levels node) → Inline.Fits e (levels + 1) (.group body)

/-- Every node of the fragment fits in as many levels. -/
def Fragment.Fits (e : Expander) (levels : Nat) (f : Fragment) : Prop :=
  ∀ node ∈ f, node.Fits e levels

/-- The argument fits where a command has as many levels. -/
def Fragment.FitsArg (e : Expander) : Nat → Fragment → Prop
  | 0, arg => e.Bare arg
  | levels + 1, arg => Fragment.Fits e levels arg

variable {e : Expander}

theorem Inline.fits_command {levels : Nat} (name : String) {args : List Fragment}
    (hargs : ∀ arg ∈ args, Fragment.FitsArg e levels arg) :
    (Inline.command name args).Fits e levels := by
  cases levels with
  | zero => exact .commandAtLimit name hargs
  | succ levels => exact .command name hargs

/-! ### Tokens by themselves -/

namespace Expander

theorem fits_alone (e : Expander) (t : Token) (levels : Nat) :
    Fragment.Fits e levels (e.alone t) := by
  rcases e.alone_cases t with h | h | ⟨s, h⟩ | ⟨name, h⟩
  · rw [h]
    exact List.forall_mem_nil _
  · rw [h]
    exact List.forall_mem_singleton.2 (.pageNumber levels)
  · rw [h]
    exact List.forall_mem_singleton.2 (.text levels s)
  · rw [h]
    exact List.forall_mem_singleton.2 (Inline.fits_command name (List.forall_mem_nil _))

theorem fitsArg_alone (e : Expander) {t : Token} (hbegin : t.isBeginGroup = false)
    (hend : t.isEndGroup = false) (levels : Nat) : Fragment.FitsArg e levels (e.alone t) := by
  cases levels with
  | zero => exact .token hbegin hend
  | succ levels => exact e.fits_alone t levels

theorem fitsArg_brace (e : Expander) (levels : Nat) :
    Fragment.FitsArg e levels [.text "\x7b"] := by
  cases levels with
  | zero => exact .brace
  | succ levels => exact List.forall_mem_singleton.2 (.text levels _)

/-- Bare arguments hold no arguments and no groups. -/
theorem Bare.nesting_eq {arg : Fragment} (h : e.Bare arg) : Fragment.nesting arg = 0 := by
  cases h with
  | brace => rfl
  | @token t _ _ => rcases e.alone_cases t with h | h | ⟨s, h⟩ | ⟨name, h⟩ <;> rw [h] <;> rfl

end Expander

theorem Inline.Fits.nesting_le {levels : Nat} {node : Inline} (h : node.Fits e levels) :
    node.nesting ≤ levels + 1 := by
  induction h with
  | text | pageNumber => exact Nat.zero_le _
  | command name _ ih =>
    rw [nesting, Fragment.nestingArgs_le_iff]
    intro arg harg
    exact Fragment.nesting_le_iff.2 (ih arg harg)
  | commandAtLimit name hargs =>
    rw [nesting, Fragment.nestingArgs_le_iff]
    intro arg harg
    exact Nat.le_of_eq (hargs arg harg).nesting_eq
  | group _ ih =>
    rw [nesting]
    exact Nat.succ_le_succ (Fragment.nesting_le_iff.2 ih)

/-! ### Frames -/

/-- The content of the frame fits in as many levels, and so do the arguments read so far. -/
structure Frame.Fits (e : Expander) (levels : Nat) (f : Frame) : Prop where
  content : Fragment.Fits e levels f.content
  args : ∀ p, f.pending = some p → ∀ arg ∈ p.args, Fragment.FitsArg e levels arg

theorem Frame.fits_iff {levels : Nat} {f : Frame} :
    f.Fits e levels ↔ f.Holds (Inline.Fits e levels) (Fragment.FitsArg e levels) :=
  ⟨fun h => ⟨h.content, h.args⟩, fun h => ⟨h.content, h.args⟩⟩

theorem Inline.follows_fits (e : Expander) (levels : Nat) :
    Inline.Follows (Inline.Fits e levels) (Fragment.FitsArg e levels) where
  text := .text levels
  pageNumber := .pageNumber levels
  command name _ := Inline.fits_command name

namespace Frame.Fits

variable {levels : Nat} {f : Frame}

theorem empty (e : Expander) (levels : Nat) : Frame.empty.Fits e levels :=
  fits_iff.2 (.empty _ _)

theorem add (hf : f.Fits e levels) {node : Inline} (hnode : node.Fits e levels) :
    (f.add node).Fits e levels :=
  fits_iff.2 ((fits_iff.1 hf).add (Inline.follows_fits e levels) hnode)

theorem settle (hf : f.Fits e levels) : f.settle.Fits e levels :=
  fits_iff.2 ((fits_iff.1 hf).settle (Inline.follows_fits e levels))

theorem close (hf : f.Fits e levels) : Fragment.Fits e levels f.close :=
  (fits_iff.1 hf).close (Inline.follows_fits e levels)

/-- What a frame is given must fit as an argument, and as a group if no command waits. -/
theorem give (hf : f.Fits e levels) {body : Fragment} (hbody : Fragment.FitsArg e levels body)
    (hgroup : f.pending = none → (Inline.group body).Fits e levels) :
    (f.give body).Fits e levels :=
  fits_iff.2 ((fits_iff.1 hf).give (Inline.follows_fits e levels) hbody hgroup)

/-- A group that is closed takes a level. -/
theorem give_body (hf : f.Fits e (levels + 1)) {body : Fragment}
    (hbody : Fragment.Fits e levels body) : (f.give body).Fits e (levels + 1) :=
  hf.give hbody fun _ => .group hbody

theorem give_awaited (hf : f.Fits e levels) (hawaits : f.awaits = true) {body : Fragment}
    (hbody : Fragment.FitsArg e levels body) : (f.give body).Fits e levels := by
  refine hf.give hbody fun hpending => ?_
  rw [awaits, hpending] at hawaits
  exact absurd hawaits Bool.false_ne_true

theorem read (hf : f.Fits e levels) {t : Token} (hbegin : t.isBeginGroup = false)
    (hend : t.isEndGroup = false) : (f.read e t).Fits e levels :=
  fits_iff.2 ((fits_iff.1 hf).read (Inline.follows_fits e levels) e
    (e.fitsArg_alone hbegin hend levels))

end Frame.Fits

/-! ### An expansion -/

namespace Expansion

/-- Each frame keeps to the levels that the groups around it leave. -/
def Levelled (e : Expander) : List Frame → Prop
  | [] => True
  | f :: outer => f.Fits e (maxNesting - outer.length) ∧ Levelled e outer

/-- No more than `maxNesting` groups are open, and each frame keeps to its levels. -/
structure Shallow (e : Expander) (s : Expansion) : Prop where
  length_le : s.outer.length ≤ maxNesting
  levelled : Levelled e (s.frame :: s.outer)

theorem shallow_start (e : Expander) : start.Shallow e :=
  ⟨Nat.zero_le _, .empty e _, trivial⟩

/-- The innermost group closes. -/
theorem Levelled.close {frame around : Frame} {outer : List Frame}
    (h : Levelled e (frame :: around :: outer)) (hlength : outer.length < maxNesting) :
    Levelled e (around.give frame.close :: outer) := by
  obtain ⟨hframe, haround, houter⟩ := h
  have hlevels : maxNesting - outer.length = maxNesting - (around :: outer).length + 1 := by
    rw [List.length_cons]
    omega
  refine ⟨?_, houter⟩
  rw [hlevels] at haround ⊢
  exact haround.give_body hframe.close

variable {s : Expansion}

theorem Shallow.beginGroup (hs : s.Shallow e) : s.beginGroup.Shallow e := by
  unfold Expansion.beginGroup
  split
  case isTrue hlt => exact ⟨hlt, .empty e _, hs.levelled⟩
  case isFalse =>
    obtain ⟨hframe, houter⟩ := hs.levelled
    refine ⟨hs.length_le, ?_, houter⟩
    split
    case isTrue hawaits => exact hframe.give_awaited hawaits (e.fitsArg_brace _)
    case isFalse => exact hframe.settle.add (.text _ _)

theorem Shallow.endGroup (hs : s.Shallow e) : s.endGroup.Shallow e := by
  obtain ⟨hframe, houter⟩ := hs.levelled
  unfold Expansion.endGroup
  split
  · exact ⟨hs.length_le, hframe.settle.add (.text _ _), houter⟩
  · split
    case h_1 hnil => exact ⟨hs.length_le, hframe.settle, houter⟩
    case h_2 around outer hcons =>
      have hlevelled := hs.levelled
      have hlength := hs.length_le
      rw [hcons] at hlevelled
      rw [hcons, List.length_cons] at hlength
      exact ⟨Nat.le_of_lt hlength, hlevelled.close hlength⟩

theorem Shallow.step (hs : s.Shallow e) (t : Token) : (s.step e t).Shallow e := by
  rcases t.brace_cases with ⟨c, rfl⟩ | ⟨c, rfl⟩ | ⟨hbegin, hend⟩
  · exact hs.beginGroup
  · exact hs.endGroup
  · obtain ⟨hframe, houter⟩ := hs.levelled
    rw [step_of_not_brace e s hbegin hend]
    exact ⟨hs.length_le, hframe.read hbegin hend, houter⟩

theorem shallow_foldl_step (hs : s.Shallow e) (ts : List Token) :
    (ts.foldl (Expansion.step e) s).Shallow e := by
  induction ts generalizing s with
  | nil => exact hs
  | cons t ts ih => exact ih (hs.step t)

/-- What is open at the end closes level by level. -/
theorem Shallow.fits_finish (hs : s.Shallow e) : Fragment.Fits e maxNesting s.finish := by
  rcases s with ⟨frame, outer, literal⟩
  induction outer generalizing frame with
  | nil => exact hs.levelled.1.close
  | cons around outer ih =>
    exact ih (around.give frame.close) ⟨Nat.le_of_lt hs.length_le, hs.levelled.close hs.length_le⟩

end Expansion

/-- Content is nested at most one level deeper than groups, and that level is taken by a bare argument
only: of a command with no level left.  At no moment are more groups open than may be. -/
theorem Expander.nesting_expand (e : Expander) (ts : List Token) :
    Fragment.nesting (e.expand ts) ≤ maxNesting + 1 ∧
      Fragment.Fits e maxNesting (e.expand ts) ∧
      ∀ us, us <+: ts → (us.foldl (Expansion.step e) .start).outer.length ≤ maxNesting := by
  have hfits := (Expansion.shallow_foldl_step (Expansion.shallow_start e) ts).fits_finish
  refine ⟨?_, hfits, ?_⟩
  · exact Fragment.nesting_le_iff.2 fun node hnode => (hfits node hnode).nesting_le
  · intro us _
    exact (Expansion.shallow_foldl_step (Expansion.shallow_start e) us).length_le

/-- The level beyond the groups is reached. -/
example : Fragment.nesting (Expander.standard.expand
    (List.replicate maxNesting (.char '{' .beginGroup) ++ [.control "textbf", .char 'a' .letter])) =
      maxNesting + 1 := by
  decide +kernel

end BookIndex
