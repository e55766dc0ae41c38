import BookIndex.Proofs.Document.Arguments
import Mathlib.Data.List.Basic

/-!
# Document.Scanning — how a scan goes over arguments

A scan passes over the argument of a command and looks at every other token.  `Scanned` says so without
modes: it lists the arguments of `index` that are met in this way, and where.  The scan of the tokens
has an occurrence for each of them (`occurrences_foldl_step`).
-/

namespace BookIndex

open GroupCommand Token

/-- A position with the tokens found there, `k` positions later. -/
def later (k : Nat) (mark : Nat × List Token) : Nat × List Token := (mark.1 + k, mark.2)

/-- What a scan finds in tokens, and where: an argument is passed over, and its tokens count if its
command is `index`. -/
inductive Scanned : List Token → List (Nat × List Token) → Prop
  | nil : Scanned [] []
  | skip {t : Token} {ts : List Token} {marks : List (Nat × List Token)} :
    (∀ name command, t = .control name → ofName? name = some command →
      ∀ body rest, ¬ Argument command ts body rest) →
    Scanned ts marks → Scanned (t :: ts) (marks.map (later 1))
  | argument {name : String} {command : GroupCommand} {ts body rest : List Token}
      {marks : List (Nat × List Token)} :
    ofName? name = some command → Argument command ts body rest → Scanned rest marks →
    Scanned (.control name :: ts)
      ((if command = .entry then [(0, body)] else []) ++
        marks.map (later (ts.length + 1 - rest.length)))

theorem exists_scanned (ts : List Token) : ∃ marks, Scanned ts marks := by
  induction hlength : ts.length using Nat.strongRecOn generalizing ts with
  | ind n ih =>
    cases ts with
    | nil => exact ⟨[], .nil⟩
    | cons t ts =>
      by_cases hargument : ∃ name command body rest, t = .control name ∧
          ofName? name = some command ∧ Argument command ts body rest
      · obtain ⟨name, command, body, rest, rfl, hname, harg⟩ := hargument
        have hlt := harg.length_lt
        rw [List.length_cons] at hlength
        obtain ⟨marks, hmarks⟩ := ih rest.length (by omega) rest rfl
        exact ⟨_, .argument hname harg hmarks⟩
      · rw [List.length_cons] at hlength
        obtain ⟨marks, hmarks⟩ := ih ts.length (by omega) ts rfl
        refine ⟨_, .skip ?_ hmarks⟩
        intro name command ht hname body rest harg
        exact hargument ⟨name, command, body, rest, ht, hname, harg⟩

namespace Scan

theorem step_of_star {t : Token} (ht : t.isTextChar '*' = true) (s : Scan) (command : GroupCommand) :
    step { s with mode := .command command true } t = { s with mode := .command command false } := by
  have htext := (isTextChar_iff.1 ht).1
  cases hspace : t.isSpace <;> simp [step, hspace, ht, (not_brace_of_isText htext).1]

theorem foldl_step_gap {mayStar : Bool} {gap : List Token} (hgap : Gap mayStar gap)
    (command : GroupCommand) (s : Scan) : ∃ mayStar',
      gap.foldl step { s with mode := .command command mayStar } =
        { s with mode := .command command mayStar' } := by
  induction hgap with
  | nil mayStar => exact ⟨mayStar, rfl⟩
  | blank ht _ ih => simpa [step, ht] using ih
  | star ht _ ih => simpa [step_of_star ht] using ih

theorem step_of_isBeginGroup {t : Token} (ht : t.isBeginGroup = true) (s : Scan)
    (command : GroupCommand) (mayStar : Bool) :
    step { s with mode := .command command mayStar } t = { s with mode := .group command 0 [] } := by
  simp [step, isSpace_of_isBeginGroup ht, ht]

/-- A group is read with its tokens as they are. -/
theorem foldl_step_body {depth : Nat} {body : List Token} (hbody : Unclosed depth body)
    (command : GroupCommand) (before : List Token) (s : Scan) : ∃ depth',
      depth' + closes body = depth + opens body ∧
      body.foldl step { s with mode := .group command depth before } =
        { s with mode := .group command depth' (body.reverse ++ before) } := by
  induction body generalizing depth before with
  | nil => exact ⟨depth, rfl, rfl⟩
  | cons t body ih =>
    obtain ⟨next, hnext, hstep⟩ : ∃ next, next + (if t.isEndGroup then 1 else 0) =
        depth + (if t.isBeginGroup then 1 else 0) ∧
        step { s with mode := .group command depth before } t =
          { s with mode := .group command next (t :: before) } := by
      cases hbegin : t.isBeginGroup with
      | true =>
        exact ⟨depth + 1, by simp [isEndGroup_of_isBeginGroup hbegin], by simp [step, hbegin]⟩
      | false =>
        cases hend : t.isEndGroup with
        | false => exact ⟨depth, by simp, by simp [step, hbegin, hend]⟩
        | true =>
          -- An outer group cannot be closed within the body, so one of the body is open.
          have hpos := hbody [t] ⟨body, rfl⟩
          rw [closes_cons, opens_cons, hbegin, hend] at hpos
          obtain ⟨next, rfl⟩ : ∃ next, depth = next + 1 := ⟨depth - 1, by simp at hpos; omega⟩
          exact ⟨next, by simp, by simp [step, hbegin, hend]⟩
    obtain ⟨depth', hdepth', hfold⟩ := ih ((Unclosed.cons_iff hnext).1 hbody) (t :: before)
    refine ⟨depth', ?_, ?_⟩
    · rw [closes_cons, opens_cons]
      omega
    · rw [List.foldl_cons, hstep, hfold]
      simp

theorem obey_mode (s : Scan) (mode : ScanMode) (command : GroupCommand) (body : List Token) :
    { s with mode := mode }.obey command body = s.obey command body := by
  cases command <;> rfl

theorem mode_obey (s : Scan) (command : GroupCommand) (body : List Token) :
    (s.obey command body).mode = .text := by
  cases command <;> rfl

theorem finish_of_text {s : Scan} (hs : s.mode = .text) : s.finish = s := by
  rcases s with ⟨mode, found, title, kind⟩
  obtain rfl : mode = .text := hs
  rfl

theorem finish_group (s : Scan) (command : GroupCommand) (depth : Nat) (body : List Token) :
    finish { s with mode := .group command depth body } = s.obey command body.reverse :=
  obey_mode s _ command _

/-- A command with its argument is obeyed, and the scan goes on after the argument. -/
theorem finish_foldl_step_argument {command : GroupCommand} {ts body rest : List Token}
    (h : Argument command ts body rest) (s : Scan) :
    (ts.foldl step { s with mode := .command command (command == .title) }).finish =
      (rest.foldl step (s.obey command body)).finish := by
  obtain ⟨gap, brace, tail, rfl, hgap, hbrace, hbody, htail⟩ := h.exists_tail
  obtain ⟨mayStar, hfold⟩ := foldl_step_gap hgap command s
  obtain ⟨depth, hdepth, hbodyFold⟩ := foldl_step_body hbody command [] s
  rw [List.foldl_append, hfold, List.foldl_cons, step_of_isBeginGroup hbrace, List.foldl_append,
    hbodyFold, List.append_nil]
  rcases htail with ⟨rfl, rfl⟩ | ⟨close, rfl, hclose, hbalanced⟩
  · rw [List.foldl_nil, List.foldl_nil, finish_of_text (mode_obey s command body), finish_group,
      List.reverse_reverse]
  · obtain rfl : depth = 0 := by
      have heq := hbalanced.closes_eq
      omega
    have hstep : step { s with mode := .group command 0 body.reverse } close = s.obey command body := by
      simp [step, isBeginGroup_of_isEndGroup hclose, hclose, obey_mode]
    rw [List.foldl_cons, hstep]

/-- A command without an argument leaves no trace. -/
theorem finish_foldl_step_command {command : GroupCommand} {mayStar : Bool} {ts : List Token}
    (h : ∀ gap brace rest, ts = gap ++ brace :: rest → Gap mayStar gap → brace.isBeginGroup = false)
    (s : Scan) : (ts.foldl step { s with mode := .command command mayStar }).finish =
      (ts.foldl step { s with mode := .text }).finish := by
  induction ts generalizing mayStar with
  | nil => rfl
  | cons t ts ih =>
    have hbegin : t.isBeginGroup = false := h [] t ts rfl (.nil mayStar)
    have hchar (htext : t.isText = true) : step { s with mode := .text } t = { s with mode := .text } := by
      cases t with
      | char c category => rfl
      | control name => exact absurd htext Bool.false_ne_true
    by_cases hspace : t.isSpace = true
    · have hstep : step { s with mode := .command command mayStar } t =
          { s with mode := .command command false } := by
        simp [step, hspace]
      rw [List.foldl_cons, List.foldl_cons, hstep, hchar (isText_of_isSpace hspace)]
      apply ih
      intro gap brace rest hts hgap
      exact h (t :: gap) brace rest (by rw [hts]; rfl) (.blank hspace hgap)
    · by_cases hstar : (mayStar && t.isTextChar '*') = true
      · rw [Bool.and_eq_true] at hstar
        obtain ⟨rfl, hstar⟩ := hstar
        rw [List.foldl_cons, List.foldl_cons, step_of_star hstar, hchar (isTextChar_iff.1 hstar).1]
        apply ih
        intro gap brace rest hts hgap
        exact h (t :: gap) brace rest (by rw [hts]; rfl) (.star hstar hgap)
      · -- Any other token is read as text, and no command is left to see.
        have hstep : step { s with mode := .command command mayStar } t =
            step { s with mode := .text } t := by
          cases t <;> simp [step, hspace, hbegin, hstar, readText]
        rw [List.foldl_cons, List.foldl_cons, hstep]

theorem occurrences_obey (s : Scan) (command : GroupCommand) (body : List Token) :
    (s.obey command body).occurrences.map (·.specification) =
      s.occurrences.map (·.specification) ++ if command = .entry then [body] else [] := by
  cases command <;> simp [obey, occurrences]

/-- A token that begins no argument leaves the occurrences as they are. -/
theorem readText_of_not_argument {t : Token} {ts : List Token}
    (h : ∀ name command, t = .control name → ofName? name = some command →
      ∀ body rest, ¬ Argument command ts body rest) (s : Scan) : ∃ s' : Scan, s'.mode = .text ∧
      s'.occurrences = s.occurrences ∧ (ts.foldl step (s.readText t)).finish = (ts.foldl step s').finish := by
  cases t with
  | char c category => exact ⟨{ s with mode := .text }, rfl, rfl, rfl⟩
  | control name =>
    cases hname : ofName? name with
    | none =>
      refine ⟨s.readText (.control name), ?_, ?_, rfl⟩
      · rw [readText, hname]
      · rw [readText, hname]
        rfl
    | some command =>
      refine ⟨{ s with mode := .text }, rfl, rfl, ?_⟩
      rw [readText, hname]
      apply finish_foldl_step_command
      intro gap brace rest hts hgap
      cases hbrace : brace.isBeginGroup with
      | false => rfl
      | true =>
        obtain ⟨body, after, harg⟩ := exists_argument hgap hbrace rest
        exact absurd (hts ▸ harg) (h name command rfl hname body after)

/-- A scan has an occurrence for each mark that is found, in order. -/
theorem occurrences_foldl_step {ts : List Token} {marks : List (Nat × List Token)}
    (h : Scanned ts marks) {s : Scan} (hs : s.mode = .text) :
    (ts.foldl step s).finish.occurrences.map (·.specification) =
      s.occurrences.map (·.specification) ++ marks.map Prod.snd := by
  induction h generalizing s with
  | nil =>
    rw [List.foldl_nil, finish_of_text hs]
    simp
  | @skip t ts marks hskip _ ih =>
    obtain ⟨s', hmode, hfound, hfold⟩ := readText_of_not_argument hskip s
    have hstep : s.step t = s.readText t := by
      rw [step, hs]
    rw [List.foldl_cons, hstep, hfold, ih hmode, hfound, List.map_map]
    rfl
  | @argument name command ts body rest marks hname harg _ ih =>
    have hstep : s.step (.control name) =
        { s with mode := .command command (command == .title) } := by
      rw [step, hs]
      simp [readText, hname]
    rw [List.foldl_cons, hstep, finish_foldl_step_argument harg, ih (mode_obey s command body),
      occurrences_obey, List.map_append, List.map_map, List.append_assoc]
    cases command <;> rfl

end Scan

end BookIndex
