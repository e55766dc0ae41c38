import BookIndex.Document.Scan
import BookIndex.Proofs.Token.Braces

/-!
# Document.Arguments — the arguments of commands in a document

Where an argument begins and ends is said of the tokens alone, for every command that takes a group,
wherever it stands.  A command within an argument has its own argument within it, so what follows an
argument is within no argument that begins before (`Within.of_append`).
-/

namespace BookIndex

open Token

namespace GroupCommand

/-- What may stand between a command and its group: blanks, and before them a star if there may be one. -/
inductive Gap : Bool → List Token → Prop
  | nil (mayStar : Bool) : Gap mayStar []
  | blank {mayStar : Bool} {t : Token} {gap : List Token} :
    t.isSpace = true → Gap false gap → Gap mayStar (t :: gap)
  | star {t : Token} {gap : List Token} :
    t.isTextChar '*' = true → Gap false gap → Gap true (t :: gap)

/-- What follows a command is its group with these tokens as its body, and then `rest`.  The group ends
with the brace that closes it, or else with the document. -/
inductive Argument (command : GroupCommand) : List Token → List Token → List Token → Prop
  | closed {gap body : List Token} {brace close : Token} (rest : List Token) :
    Gap (command == .title) gap → brace.isBeginGroup = true → Balanced body →
    close.isEndGroup = true →
    Argument command (gap ++ brace :: (body ++ close :: rest)) body rest
  | unclosed {gap body : List Token} {brace : Token} :
    Gap (command == .title) gap → brace.isBeginGroup = true → Unclosed 0 body →
    Argument command (gap ++ brace :: body) body []

/-- The tokens end within the argument of one of these commands. -/
inductive Within (commands : GroupCommand → Prop) : List Token → Prop
  | intro (before : List Token) {name : String} {command : GroupCommand} {gap body : List Token}
      {brace : Token} :
    ofName? name = some command → commands command → Gap (command == .title) gap →
    brace.isBeginGroup = true → Unclosed 0 body →
    Within commands (before ++ .control name :: (gap ++ brace :: body))

theorem ofName?_eq_entry_iff {name : String} : ofName? name = some .entry ↔ name = "index" := by
  unfold ofName?
  split
  · simp_all
  · split
    · simp_all
    · split <;> simp_all

theorem Gap.isText {mayStar : Bool} {gap : List Token} (h : Gap mayStar gap) :
    ∀ t ∈ gap, t.isText = true := by
  induction h with
  | nil => simp
  | blank ht _ ih => exact List.forall_mem_cons.2 ⟨isText_of_isSpace ht, ih⟩
  | star ht _ ih => exact List.forall_mem_cons.2 ⟨(isTextChar_iff.1 ht).1, ih⟩

theorem Gap.opens_eq {mayStar : Bool} {gap : List Token} (h : Gap mayStar gap) : opens gap = 0 :=
  List.countP_eq_zero.2 fun t ht => by simp [not_brace_of_isText (h.isText t ht)]

theorem Gap.closes_eq {mayStar : Bool} {gap : List Token} (h : Gap mayStar gap) : closes gap = 0 :=
  List.countP_eq_zero.2 fun t ht => by simp [not_brace_of_isText (h.isText t ht)]

/-! ### Where a token stands -/

/-- What follows text is told by the first token that is none. -/
theorem eq_of_append_eq_append {gap gap' ts us : List Token} {x y : Token}
    (hgap : ∀ t ∈ gap, t.isText = true) (hgap' : ∀ t ∈ gap', t.isText = true)
    (hx : x.isText = false) (hy : y.isText = false) (h : gap ++ x :: ts = gap' ++ y :: us) :
    gap = gap' ∧ x = y ∧ ts = us := by
  induction gap generalizing gap' with
  | nil =>
    cases gap' with
    | nil => exact ⟨rfl, List.cons.inj h⟩
    | cons t gap' =>
      obtain ⟨rfl, -⟩ := List.cons.inj h
      rw [hgap' x (List.mem_cons_self ..)] at hx
      exact absurd hx.symm Bool.false_ne_true
  | cons t gap ih =>
    cases gap' with
    | nil =>
      obtain ⟨rfl, -⟩ := List.cons.inj h
      rw [hgap t (List.mem_cons_self ..)] at hy
      exact absurd hy.symm Bool.false_ne_true
    | cons t' gap' =>
      obtain ⟨rfl, hrest⟩ := List.cons.inj h
      rw [List.forall_mem_cons] at hgap hgap'
      obtain ⟨rfl, rfl, rfl⟩ := ih hgap.2 hgap'.2 hrest
      exact ⟨rfl, rfl, rfl⟩

/-- A token of two lists stands in the first or in the second. -/
theorem append_eq_append_cons {ts us before after : List Token} {x : Token}
    (h : ts ++ us = before ++ x :: after) :
    (∃ ts', ts = before ++ x :: ts' ∧ after = ts' ++ us) ∨
      ∃ before', before = ts ++ before' ∧ us = before' ++ x :: after := by
  rcases List.append_eq_append_iff.1 h with ⟨before', rfl, rfl⟩ | ⟨ts', rfl, hx⟩
  · exact .inr ⟨before', rfl, rfl⟩
  · cases ts' with
    | nil => exact .inr ⟨[], by simp, by simpa using hx.symm⟩
    | cons y ts' =>
      obtain ⟨rfl, rfl⟩ := List.cons.inj hx
      exact .inl ⟨ts', rfl, rfl⟩

/-- A control sequence at or after a command is the command itself, or it stands in the group, or it
stands after. -/
theorem cases_of_control {name name' : String} {gap body tail before after : List Token} {brace : Token}
    (hgap : ∀ t ∈ gap, t.isText = true) (hbrace : brace.isBeginGroup = true)
    (h : .control name :: (gap ++ brace :: (body ++ tail)) = before ++ .control name' :: after) :
    (before = [] ∧ name' = name ∧ after = gap ++ brace :: (body ++ tail)) ∨
      (∃ us vs, before = .control name :: (gap ++ brace :: us) ∧ body = us ++ .control name' :: vs ∧
        after = vs ++ tail) ∨
      ∃ before', before = .control name :: (gap ++ brace :: (body ++ before')) ∧
        tail = before' ++ .control name' :: after := by
  cases before with
  | nil =>
    obtain ⟨hname, rfl⟩ := List.cons.inj h
    exact .inl ⟨rfl, (Token.control.inj hname).symm, rfl⟩
  | cons t before =>
    obtain ⟨rfl, hgroup⟩ := List.cons.inj h
    rcases append_eq_append_cons hgroup with ⟨gap', rfl, -⟩ | ⟨before, rfl, hbody⟩
    · have htext := hgap (.control name') (by simp)
      exact absurd htext Bool.false_ne_true
    · cases before with
      | nil =>
        obtain ⟨rfl, -⟩ := List.cons.inj hbody
        exact absurd hbrace Bool.false_ne_true
      | cons t before =>
        obtain ⟨rfl, hrest⟩ := List.cons.inj hbody
        rcases append_eq_append_cons hrest with ⟨vs, rfl, rfl⟩ | ⟨before, rfl, rfl⟩
        · exact .inr (.inl ⟨before, vs, rfl, rfl, rfl⟩)
        · exact .inr (.inr ⟨before, rfl, rfl⟩)

/-! ### Arguments within arguments -/

theorem not_unclosed_of_balanced {body rest : List Token} {close : Token} (hbody : Balanced body)
    (hclose : close.isEndGroup = true) : ¬ Unclosed 0 (body ++ close :: rest) := by
  intro h
  have hprefix := h (body ++ [close]) ⟨rest, by simp⟩
  have heq := hbody.closes_eq
  simp only [closes_append, opens_append, closes_cons, opens_cons, hclose,
    isBeginGroup_of_isEndGroup hclose, closes_nil, opens_nil, if_true, Bool.false_eq_true,
    if_false] at hprefix
  omega

/-- The argument of a command within a balanced body does not go beyond it. -/
theorem not_unclosed_of_within {before gap inner rest : List Token} {name : String} {brace close : Token}
    {mayStar : Bool} (hgap : Gap mayStar gap) (hbrace : brace.isBeginGroup = true)
    (hbody : Balanced (before ++ .control name :: (gap ++ brace :: inner)))
    (hclose : close.isEndGroup = true) : ¬ Unclosed 0 (inner ++ close :: rest) := by
  intro h
  have hprefix := h (inner ++ [close]) ⟨rest, by simp⟩
  have hbefore := hbody.unclosed before ⟨_, rfl⟩
  have heq := hbody.closes_eq
  have hopens := hgap.opens_eq
  have hcloses := hgap.closes_eq
  have hcontrol : (Token.control name).isBeginGroup = false ∧ (Token.control name).isEndGroup = false :=
    ⟨rfl, rfl⟩
  simp only [closes_append, opens_append, closes_cons, opens_cons, hclose, hbrace, hcontrol,
    isBeginGroup_of_isEndGroup hclose, isEndGroup_of_isBeginGroup hbrace, closes_nil, opens_nil,
    if_true, Bool.false_eq_true, if_false] at hprefix heq
  omega

/-- What follows an argument is within no argument that begins before. -/
theorem Within.of_argument {commands : GroupCommand → Prop} {name : String} {command : GroupCommand}
    {gap body before : List Token} {brace close : Token} (hgap : Gap (command == .title) gap)
    (hbrace : brace.isBeginGroup = true) (hbody : Balanced body) (hclose : close.isEndGroup = true)
    (h : Within commands (.control name :: (gap ++ brace :: (body ++ close :: before)))) :
    Within commands before := by
  generalize hts : Token.control name :: (gap ++ brace :: (body ++ close :: before)) = ts at h
  obtain @⟨pre, name', command', gap', inner, brace', hname, hcommand, hgap', hbrace', hbody'⟩ := h
  rcases cases_of_control hgap.isText hbrace hts with
    ⟨-, -, heq⟩ | ⟨us, vs, -, rfl, heq⟩ | ⟨pre', -, heq⟩
  · -- It is the command itself, whose argument is closed.
    obtain ⟨-, -, rfl⟩ := eq_of_append_eq_append hgap'.isText hgap.isText
      (isText_of_isBeginGroup hbrace') (isText_of_isBeginGroup hbrace) heq
    exact absurd hbody' (not_unclosed_of_balanced hbody hclose)
  · -- It stands in the argument, and so does its own.
    rcases append_eq_append_cons heq.symm with ⟨inner', rfl, rfl⟩ | ⟨gap'', rfl, heq'⟩
    · exact absurd hbody' (not_unclosed_of_within hgap' hbrace' hbody hclose)
    · have hgap'' : ∀ t ∈ gap'', t.isText = true := fun t ht =>
        hgap'.isText t (List.mem_append_right vs ht)
      obtain ⟨-, rfl, -⟩ := eq_of_append_eq_append (List.forall_mem_nil _) hgap''
        (isText_of_isEndGroup hclose) (isText_of_isBeginGroup hbrace') heq'
      rw [isEndGroup_of_isBeginGroup hbrace'] at hclose
      exact absurd hclose Bool.false_ne_true
  · -- It stands after the argument.
    cases pre' with
    | nil =>
      obtain ⟨rfl, -⟩ := List.cons.inj heq
      exact absurd hclose Bool.false_ne_true
    | cons t pre' =>
      obtain ⟨-, rfl⟩ := List.cons.inj heq
      exact .intro pre' hname hcommand hgap' hbrace' hbody'

theorem Within.append_left {commands : GroupCommand → Prop} {ts : List Token}
    (h : Within commands ts) (us : List Token) : Within commands (us ++ ts) := by
  obtain ⟨before, hname, hcommand, hgap, hbrace, hbody⟩ := h
  rw [← List.append_assoc]
  exact .intro (us ++ before) hname hcommand hgap hbrace hbody

/-- An opening brace begins an argument. -/
theorem exists_argument {command : GroupCommand} {gap : List Token} {brace : Token}
    (hgap : Gap (command == .title) gap) (hbrace : brace.isBeginGroup = true) (ts : List Token) :
    ∃ body rest, Argument command (gap ++ brace :: ts) body rest := by
  rcases unclosed_or_exists_close 0 ts with hts | ⟨body, close, rest, rfl, hbody, hcloses, hclose⟩
  · exact ⟨ts, [], .unclosed hgap hbrace hts⟩
  · exact ⟨body, rest, .closed rest hgap hbrace ⟨hbody, by omega⟩ hclose⟩

theorem Argument.length_lt {command : GroupCommand} {ts body rest : List Token}
    (h : Argument command ts body rest) : rest.length < ts.length := by
  cases h <;> simp only [List.length_append, List.length_cons, List.length_nil] <;> omega

/-- Unclosed tokens do not go beyond a brace that closes their group. -/
theorem exists_append_of_balanced {body body' tail rest : List Token} {close : Token}
    (hbody : Unclosed 0 body) (hbody' : Balanced body') (hclose : close.isEndGroup = true)
    (h : body ++ tail = body' ++ close :: rest) :
    ∃ us, body' = body ++ us ∧ tail = us ++ close :: rest := by
  rcases append_eq_append_cons h with ⟨us, rfl, -⟩ | h
  · exact absurd hbody (not_unclosed_of_balanced hbody' hclose)
  · exact h

/-- An argument with what its body is followed by: nothing, or a brace that closes it. -/
theorem Argument.exists_tail {command : GroupCommand} {ts body rest : List Token}
    (h : Argument command ts body rest) : ∃ gap brace tail, ts = gap ++ brace :: (body ++ tail) ∧
      Gap (command == .title) gap ∧ brace.isBeginGroup = true ∧ Unclosed 0 body ∧
      ((tail = [] ∧ rest = []) ∨
        ∃ close, tail = close :: rest ∧ close.isEndGroup = true ∧ Balanced body) := by
  cases h with
  | closed rest hgap hbrace hbody hclose =>
    exact ⟨_, _, _, rfl, hgap, hbrace, hbody.unclosed, .inr ⟨_, rfl, hclose, hbody⟩⟩
  | unclosed hgap hbrace hbody => exact ⟨_, _, [], by simp, hgap, hbrace, hbody, .inl ⟨rfl, rfl⟩⟩

/-- A command has at most one argument. -/
theorem Argument.unique {command : GroupCommand} {ts body body' rest rest' : List Token}
    (h : Argument command ts body rest) (h' : Argument command ts body' rest') : body = body' := by
  obtain ⟨gap, brace, tail, rfl, hgap, hbrace, hbody, htail⟩ := h.exists_tail
  obtain ⟨gap', brace', tail', hts, hgap', hbrace', hbody', htail'⟩ := h'.exists_tail
  obtain ⟨-, -, heq⟩ := eq_of_append_eq_append hgap.isText hgap'.isText
    (isText_of_isBeginGroup hbrace) (isText_of_isBeginGroup hbrace') hts
  rcases htail with ⟨rfl, -⟩ | ⟨close, rfl, hclose, hbalanced⟩ <;>
    rcases htail' with ⟨rfl, -⟩ | ⟨close', rfl, hclose', hbalanced'⟩
  · simpa using heq
  · rw [List.append_nil] at heq
    exact absurd (heq ▸ hbody) (not_unclosed_of_balanced hbalanced' hclose')
  · rw [List.append_nil] at heq
    exact absurd (heq ▸ hbody') (not_unclosed_of_balanced hbalanced hclose)
  · obtain ⟨us, rfl, hus⟩ := exists_append_of_balanced hbody hbalanced' hclose' heq
    cases us with
    | nil => simp
    | cons t us =>
      obtain ⟨rfl, -⟩ := List.cons.inj hus
      exact absurd hbody' (not_unclosed_of_balanced hbalanced hclose)

end GroupCommand

end BookIndex
