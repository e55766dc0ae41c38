import BookIndex.Proofs.Expander.Contributions

/-!
# Expander.Leaves — expansion as one pass over the tokens

Expansion puts what the tokens contribute in a tree.  It loses none of it, repeats none and keeps the
order, but for blanks, which vanish before an argument that a command waits for (`leaves_expand`).
-/

namespace BookIndex

/-! ### The leaves of a frame -/

namespace Frame

/-- The leaves of the content and of the arguments read so far. -/
def leaves (f : Frame) : List Leaf :=
  Fragment.leaves f.content.reverse ++
    f.pending.elim [] fun p => Fragment.leavesArgs p.args.reverse

@[simp] theorem leaves_empty : empty.leaves = [] := rfl

theorem leaves_add {f : Frame} (hf : f.pending = none) (node : Inline) :
    (f.add node).leaves = f.leaves ++ node.leaves := by
  simp [leaves, add, hf, Fragment.leaves_grow]

@[simp] theorem leaves_settle (f : Frame) : f.settle.leaves = f.leaves := by
  unfold settle
  split
  case h_1 => rfl
  case h_2 p hp => simp [leaves, hp, Fragment.leaves_grow, Inline.leaves]

@[simp] theorem leaves_close (f : Frame) : Fragment.leaves f.close = f.leaves := by
  rw [← leaves_settle, leaves, pending_settle]
  simp [close]

theorem leaves_give (f : Frame) (body : Fragment) :
    (f.give body).leaves = f.leaves ++ Fragment.leaves body := by
  unfold give
  split
  case h_1 hf => simp [leaves_add hf, Inline.leaves]
  case h_2 p hp =>
    split
    · simp [leaves, hp]
    · rw [leaves_settle]
      simp [leaves, hp]
    · simp [leaves, hp]

theorem leaves_call {f : Frame} (hf : f.pending = none) (e : Expander) (name : String) :
    (f.call e name).leaves = f.leaves := by
  unfold call
  split
  · simp [leaves, hf, Fragment.leavesArgs]
  · simp [leaves_add hf, Inline.leaves, Fragment.leavesArgs]
  · simp [leaves, hf, Fragment.leavesArgs]

section Token

variable (n : Nesting) (e : Expander) {t : Token} (hbegin : t.isBeginGroup = false)
  (hend : t.isEndGroup = false)

include hbegin hend

theorem leaves_alone : Fragment.leaves (e.alone t) = n.contribution e t := by
  cases ht : t with
  | char c category =>
    rw [← ht, n.contribution_char e hbegin hend ht, ht]
    simp [Expander.alone, Inline.leaves, Leaf.ofText]
  | control name =>
    rw [n.contribution_control, Expander.alone]
    cases e.symbol? name with
    | none => simp [Inline.leaves, Fragment.leavesArgs]
    | some node => simpa [Fragment.ofNodes, Fragment.leaves] using Fragment.leaves_grow [] node

theorem leaves_put {f : Frame} (hf : f.pending = none) :
    (f.put e t).leaves = f.leaves ++ n.contribution e t := by
  cases ht : t with
  | char c category =>
    rw [← ht, n.contribution_char e hbegin hend ht, ht, put, leaves_add hf]
    simp [Inline.leaves, Leaf.ofText]
  | control name =>
    rw [n.contribution_control, put]
    cases e.symbol? name with
    | none => simpa using leaves_call hf e name
    | some node => simpa using leaves_add hf node

/-- A token adds what it contributes, unless it is a blank before an argument. -/
theorem leaves_read (f : Frame) : (f.read e t).leaves =
    f.leaves ++ if f.awaits && t.isSpace then [] else n.contribution e t := by
  unfold read
  cases hawaits : f.awaits with
  | true =>
    cases hspace : t.isSpace with
    | true => simp
    | false => simp [leaves_give, leaves_alone n e hbegin hend]
  | false => simp [leaves_put n e hbegin hend (pending_settle f)]

end Token

end Frame

/-! ### The leaves of an expansion -/

namespace Expansion

/-- What is open. -/
def nesting (s : Expansion) : Nesting := ⟨s.outer.length, s.literal⟩

/-- The leaves of all frames, the outermost first. -/
def leaves (s : Expansion) : List Leaf :=
  s.outer.reverse.flatMap Frame.leaves ++ s.frame.leaves

theorem leaves_beginGroup (s : Expansion) : s.beginGroup.leaves =
    s.leaves ++ if s.outer.length < maxNesting then [] else [.char '{'] := by
  have hbrace : Inline.leaves (.text "\x7b") = [.char '{'] := rfl
  unfold beginGroup
  split
  · simp [leaves]
  · cases hawaits : s.frame.awaits <;>
      simp [leaves, Frame.leaves_give, Frame.leaves_add, hbrace]

theorem leaves_endGroup (s : Expansion) :
    s.endGroup.leaves = s.leaves ++ if 0 < s.literal then [.char '}'] else [] := by
  have hbrace : Inline.leaves (.text "\x7d") = [.char '}'] := rfl
  unfold endGroup
  split
  · simp [leaves, Frame.leaves_add, hbrace]
  · split
    case h_1 houter => simp [leaves, houter]
    case h_2 around outer houter => simp [leaves, houter, Frame.leaves_give]

theorem step_of_not_brace (e : Expander) (s : Expansion) {t : Token} (hbegin : t.isBeginGroup = false)
    (hend : t.isEndGroup = false) : s.step e t = { s with frame := s.frame.read e t } := by
  simp [step, hbegin, hend]

/-- A step opens and closes what the pass over the tokens does. -/
theorem nesting_step (e : Expander) (s : Expansion) (t : Token) :
    (s.step e t).nesting = s.nesting.next t := by
  rcases t.brace_cases with ⟨c, rfl⟩ | ⟨c, rfl⟩ | ⟨hbegin, hend⟩
  · change s.beginGroup.nesting = _
    by_cases hmax : s.outer.length < maxNesting <;> simp [beginGroup, nesting, Nesting.next, hmax]
  · change s.endGroup.nesting = _
    by_cases hliteral : 0 < s.literal
    · simp [endGroup, nesting, Nesting.next, hliteral]
    · cases houter : s.outer <;> simp [endGroup, nesting, Nesting.next, hliteral, houter]
  · rw [step_of_not_brace e s hbegin hend, Nesting.next_of_not_brace _ hbegin hend]
    rfl

/-- A step adds the leaves that the token contributes, unless it is a blank before an argument. -/
theorem leaves_step (e : Expander) (s : Expansion) (t : Token) : (s.step e t).leaves =
    s.leaves ++ if s.frame.awaits && t.isSpace then [] else s.nesting.contribution e t := by
  rcases t.brace_cases with ⟨c, rfl⟩ | ⟨c, rfl⟩ | ⟨hbegin, hend⟩
  · rw [show (Token.char c .beginGroup).isSpace = false from rfl, Bool.and_false]
    exact s.leaves_beginGroup
  · rw [show (Token.char c .endGroup).isSpace = false from rfl, Bool.and_false]
    exact s.leaves_endGroup
  · rw [step_of_not_brace e s hbegin hend, leaves, leaves, s.frame.leaves_read s.nesting e hbegin hend,
      List.append_assoc]

theorem leaves_finish (s : Expansion) : Fragment.leaves s.finish = s.leaves := by
  rcases s with ⟨frame, outer, literal⟩
  induction outer generalizing frame with
  | nil => simp [finish, leaves]
  | cons around outer ih =>
    have hfinish : finish ⟨frame, around :: outer, literal⟩ =
        finish ⟨around.give frame.close, outer, literal⟩ := rfl
    rw [hfinish, ih]
    simp [leaves, Frame.leaves_give]

end Expansion

/-! ### A run -/

namespace Expander

/-- What is left of contributions when only such of blanks are dropped. -/
def Kept (kept all : List (Token × List Leaf)) : Prop :=
  kept.Sublist all ∧ kept.filter (!·.1.isSpace) = all.filter (!·.1.isSpace)

theorem Kept.cons (entry : Token × List Leaf) {kept all : List (Token × List Leaf)}
    (h : Kept kept all) : Kept (entry :: kept) (entry :: all) := by
  refine ⟨h.1.cons_cons entry, ?_⟩
  simp only [List.filter_cons, h.2]

theorem Kept.drop {t : Token} (ht : t.isSpace = true) (leaves : List Leaf)
    {kept all : List (Token × List Leaf)} (h : Kept kept all) : Kept kept ((t, leaves) :: all) :=
  ⟨h.1.cons (t, leaves), by simpa [ht] using h.2⟩

end Expander

/-! ### Where no command waits -/

theorem Expander.of_symbol?_eq_none {e : Expander} {name : String} (h : e.symbol? name = none) :
    name ≠ Token.pageNumberName ∧ e.replacement? name = none ∧
      name.toList.all Text.isAlphabetic = true := by
  unfold symbol? at h
  split at h
  case isTrue => exact absurd h (by simp)
  case isFalse hnumber =>
    split at h
    case h_1 => exact absurd h (by simp)
    case h_2 hreplacement =>
      split at h
      case isTrue hword => exact ⟨hnumber, hreplacement, hword⟩
      case isFalse => exact absurd h (by simp)

namespace Frame

@[simp] theorem awaits_settle (f : Frame) : f.settle.awaits = false := by
  simp [awaits]

theorem awaits_add (f : Frame) (node : Inline) : (f.add node).awaits = f.awaits := rfl

theorem awaits_give {f : Frame} (hf : f.awaits = false) (body : Fragment) :
    (f.give body).awaits = false := by
  unfold give
  split
  case h_1 => exact hf
  case h_2 p hp =>
    have hfurther : p.further = none := by
      simpa [awaits, hp] using hf
    simp [awaits, hfurther]

/-- Only a command with a defined number of arguments begins to wait. -/
theorem awaits_put {f : Frame} (hf : f.awaits = false) {e : Expander} {t : Token}
    (ht : ¬ e.Takes t) : (f.put e t).awaits = false := by
  cases t with
  | char c category => exact hf
  | control name =>
    rw [put]
    cases hsymbol : e.symbol? name with
    | some node => exact hf
    | none =>
      obtain ⟨hnumber, hreplacement, hword⟩ := Expander.of_symbol?_eq_none hsymbol
      have harity : e.arity? name = none := Option.not_isSome_iff_eq_none.1 fun hsome =>
        ht ⟨name, rfl, hnumber, hreplacement, hword, hsome⟩
      simp [call, harity, awaits]

theorem awaits_read {f : Frame} (hf : f.awaits = false) {e : Expander} {t : Token}
    (ht : ¬ e.Takes t) : (f.read e t).awaits = false := by
  rw [read, hf, if_neg Bool.false_ne_true]
  exact awaits_put (awaits_settle f) ht

end Frame

namespace Expansion

/-- No command of the expansion waits for an argument. -/
def Idle (s : Expansion) : Prop :=
  s.frame.awaits = false ∧ ∀ f ∈ s.outer, f.awaits = false

theorem idle_beginGroup {s : Expansion} (hs : s.Idle) : s.beginGroup.Idle := by
  unfold beginGroup
  split
  · exact ⟨rfl, List.forall_mem_cons.2 hs⟩
  · refine ⟨?_, hs.2⟩
    simp [hs.1, Frame.awaits_add]

theorem idle_endGroup {s : Expansion} (hs : s.Idle) : s.endGroup.Idle := by
  unfold endGroup
  split
  · exact ⟨by simp [Frame.awaits_add], hs.2⟩
  · split
    case h_1 => exact ⟨by simp, hs.2⟩
    case h_2 around outer houter =>
      have hframes := hs.2
      rw [houter, List.forall_mem_cons] at hframes
      exact ⟨Frame.awaits_give hframes.1 _, hframes.2⟩

theorem idle_step {e : Expander} {s : Expansion} (hs : s.Idle) {t : Token} (ht : ¬ e.Takes t) :
    (s.step e t).Idle := by
  rcases t.brace_cases with ⟨c, rfl⟩ | ⟨c, rfl⟩ | ⟨hbegin, hend⟩
  · exact idle_beginGroup hs
  · exact idle_endGroup hs
  · rw [step_of_not_brace e s hbegin hend]
    exact ⟨Frame.awaits_read hs.1 ht, hs.2⟩

theorem leaves_foldl_step (e : Expander) (ts : List Token) (s : Expansion) :
    ∃ kept, Expander.Kept kept (e.contributions s.nesting ts) ∧
      (ts.foldl (step e) s).leaves = s.leaves ++ kept.flatMap (·.2) ∧
      (s.Idle → (∀ t ∈ ts, ¬ e.Takes t) → kept = e.contributions s.nesting ts) := by
  induction ts generalizing s with
  | nil => exact ⟨[], ⟨List.Sublist.refl _, rfl⟩, by simp, fun _ _ => rfl⟩
  | cons t ts ih =>
    obtain ⟨kept, hkept, hleaves, hall⟩ := ih (s.step e t)
    rw [nesting_step] at hkept hall
    rw [leaves_step] at hleaves
    by_cases hblank : (s.frame.awaits && t.isSpace) = true
    · -- The blank vanishes, which cannot be where no command waits.
      rw [if_pos hblank, List.append_nil] at hleaves
      rw [Bool.and_eq_true] at hblank
      refine ⟨kept, hkept.drop hblank.2 _, hleaves, ?_⟩
      intro hidle
      rw [hidle.1] at hblank
      exact absurd hblank.1 Bool.false_ne_true
    · rw [if_neg hblank, List.append_assoc] at hleaves
      refine ⟨(t, s.nesting.contribution e t) :: kept, hkept.cons _, hleaves, ?_⟩
      intro hidle htakes
      rw [List.forall_mem_cons] at htakes
      rw [hall (idle_step hidle htakes.1) htakes.2]
      rfl

end Expansion

/-- The leaves of an expansion are what the tokens contribute in turn, where only blanks can be missing.
None is missing if no command with a defined number of arguments stands among the tokens. -/
theorem Expander.leaves_expand (e : Expander) (ts : List Token) : ∃ kept,
    kept.Sublist (e.contributions .start ts) ∧
    kept.filter (!·.1.isSpace) = (e.contributions .start ts).filter (!·.1.isSpace) ∧
    Fragment.leaves (e.expand ts) = kept.flatMap (·.2) ∧
    ((∀ t ∈ ts, ¬ e.Takes t) → kept = e.contributions .start ts) := by
  obtain ⟨kept, hkept, hleaves, hall⟩ := Expansion.leaves_foldl_step e ts .start
  refine ⟨kept, hkept.1, hkept.2, ?_, hall ⟨rfl, by simp [Expansion.start]⟩⟩
  rw [expand, Expansion.leaves_finish, hleaves]
  rfl

/-- A text without defined commands, in which an unknown command takes a group. -/
def Expander.unknownCommand : List Token :=
  [.char 'a' .letter, .control "foo", .char '{' .beginGroup, Token.blank, .control "&",
    .char '}' .endGroup, .char '}' .endGroup]

/-- Nothing is missing where no command is defined, not even the blank in the argument. -/
theorem Expander.leaves_expand_unknownCommand :
    (∀ t ∈ unknownCommand, ¬ standard.Takes t) ∧
      Fragment.leaves (standard.expand unknownCommand) = [.char 'a', .char ' ', .char '&'] := by
  have htakes : ∀ t ∈ unknownCommand, ¬ standard.Takes t := by
    rintro t ht ⟨name, rfl, -, -, -, harity⟩
    obtain rfl | rfl : name = "foo" ∨ name = "&" := by
      simpa [unknownCommand, Token.blank] using ht
    · exact absurd harity (by decide)
    · exact absurd harity (by decide)
  obtain ⟨kept, -, -, hleaves, hall⟩ := leaves_expand standard unknownCommand
  refine ⟨htakes, ?_⟩
  rw [hleaves, hall htakes]
  decide

end BookIndex
