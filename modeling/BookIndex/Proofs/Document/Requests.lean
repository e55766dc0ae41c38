import BookIndex.Proofs.Document.Entries
import BookIndex.Proofs.Document.Scanning

/-!
# Document.Requests — which tokens ask for an entry

A token asks for an entry if it is the command `index` with a group and stands within no argument of
another command.  The entries of a document are what these tokens ask for, in order
(`entries_ofText`).  An argument is not scanned, be it of `index` or of another command, so a mark in the
title of a section asks for nothing (`title_hides_request`).
-/

namespace BookIndex

open GroupCommand Token

/-- The token at position `q` is the command `index`, within no argument of the commands that hide it,
and `body` are the tokens of its group. -/
def Requests (hides : GroupCommand → Prop) (ts : List Token) (q : Nat) (body : List Token) : Prop :=
  ∃ before after rest, ts = before ++ .control "index" :: after ∧ before.length = q ∧
    ¬ Within hides before ∧ Argument .entry after body rest

/-- Every command hides what stands in its argument. -/
def everyCommand (_ : GroupCommand) : Prop := True

theorem mem_map_later {marks : List (Nat × List Token)} {k q : Nat} {body : List Token} :
    (q, body) ∈ marks.map (later k) ↔ ∃ q', q = q' + k ∧ (q', body) ∈ marks := by
  constructor
  · intro h
    obtain ⟨⟨q', body'⟩, hmem, heq⟩ := List.mem_map.1 h
    obtain ⟨rfl, rfl⟩ := Prod.mk.inj heq
    exact ⟨q', rfl, hmem⟩
  · rintro ⟨q', rfl, hmem⟩
    exact List.mem_map.2 ⟨(q', body), hmem, rfl⟩

namespace Requests

theorem not_nil (hides : GroupCommand → Prop) (q : Nat) (body : List Token) :
    ¬ Requests hides [] q body := by
  rintro ⟨before, after, rest, hts, -⟩
  simp at hts

/-- A token that begins no argument asks for nothing and hides nothing. -/
theorem cons_iff {t : Token} {ts : List Token}
    (h : ∀ name command, t = .control name → ofName? name = some command →
      ∀ body rest, ¬ Argument command ts body rest) (hides : GroupCommand → Prop) (q : Nat)
    (body : List Token) :
    Requests hides (t :: ts) q body ↔ ∃ q', q = q' + 1 ∧ Requests hides ts q' body := by
  constructor
  · rintro ⟨before, after, rest, hts, rfl, hwithin, harg⟩
    cases before with
    | nil =>
      obtain ⟨rfl, rfl⟩ := List.cons.inj hts
      exact absurd harg (h "index" .entry rfl rfl body rest)
    | cons t' before =>
      obtain ⟨rfl, rfl⟩ := List.cons.inj hts
      exact ⟨before.length, rfl, before, after, rest, rfl, rfl,
        fun hbefore => hwithin (hbefore.append_left [t]), harg⟩
  · rintro ⟨q', rfl, before, after, rest, rfl, rfl, hwithin, harg⟩
    refine ⟨t :: before, after, rest, rfl, rfl, fun hcons => hwithin ?_, harg⟩
    generalize hts : t :: before = us at hcons
    obtain @⟨pre, name, command, gap, inner, brace, hname, hcommand, hgap, hbrace, hinner⟩ := hcons
    cases pre with
    | nil =>
      obtain ⟨rfl, rfl⟩ := List.cons.inj hts
      -- An argument that hides what follows it would begin with this token.
      obtain ⟨body', rest', harg'⟩ :=
        exists_argument hgap hbrace (inner ++ .control "index" :: after)
      exact absurd (by simpa using harg') (h name command rfl hname body' rest')
    | cons t' pre =>
      obtain ⟨rfl, rfl⟩ := List.cons.inj hts
      exact .intro pre hname hcommand hgap hbrace hinner

/-- A command with an argument asks for its argument if it is `index`, and hides what stands in it. -/
theorem control_iff {name : String} {command : GroupCommand} {ts argument rest : List Token}
    (hname : ofName? name = some command) (harg : Argument command ts argument rest) (q : Nat)
    (body : List Token) : Requests everyCommand (.control name :: ts) q body ↔
      (command = .entry ∧ q = 0 ∧ body = argument) ∨
        ∃ q', q = q' + (ts.length + 1 - rest.length) ∧ Requests everyCommand rest q' body := by
  obtain ⟨gap, brace, tail, hts, hgap, hbrace, hargument, htail⟩ := harg.exists_tail
  constructor
  · rintro ⟨before, after, rest', heq, rfl, hwithin, harg'⟩
    rw [hts] at heq
    rcases cases_of_control hgap.isText hbrace heq with
      ⟨rfl, rfl, rfl⟩ | ⟨us, vs, rfl, rfl, -⟩ | ⟨before', rfl, hafter⟩
    · -- It is this command.
      obtain rfl : command = .entry := (Option.some.inj hname).symm
      exact .inl ⟨rfl, rfl, harg'.unique (hts ▸ harg)⟩
    · -- It stands in the argument, which hides it.
      exact absurd (.intro [] hname trivial hgap hbrace (hargument.of_prefix ⟨_, rfl⟩)) hwithin
    · -- It stands after the argument.
      rcases htail with ⟨rfl, -⟩ | ⟨close, rfl, hclose, -⟩
      · simp at hafter
      · cases before' with
        | nil =>
          obtain ⟨rfl, -⟩ := List.cons.inj hafter
          exact absurd hclose Bool.false_ne_true
        | cons t before' =>
          obtain ⟨rfl, rfl⟩ := List.cons.inj hafter
          refine .inr ⟨before'.length, ?_, before', after, rest', rfl, rfl, ?_, harg'⟩
          · rw [hts]
            simp only [List.length_cons, List.length_append]
            omega
          · intro hbefore
            have hleft := hbefore.append_left (.control name :: (gap ++ brace :: (argument ++ [close])))
            exact hwithin (by simpa using hleft)
  · rintro (⟨rfl, rfl, rfl⟩ | ⟨q', rfl, before, after, rest', rfl, rfl, hwithin, harg'⟩)
    · rw [ofName?_eq_entry_iff] at hname
      subst hname
      refine ⟨[], ts, rest, rfl, rfl, ?_, harg⟩
      intro hnil
      generalize hus : ([] : List Token) = us at hnil
      obtain ⟨pre, -, -, -, -, -⟩ := hnil
      simp at hus
    · rcases htail with ⟨-, hnil⟩ | ⟨close, rfl, hclose, hbalanced⟩
      · simp at hnil
      · refine ⟨.control name :: (gap ++ brace :: (argument ++ close :: before)), after, rest', ?_, ?_,
          fun h => hwithin (.of_argument hgap hbrace hbalanced hclose h), harg'⟩
        · rw [hts]
          simp
        · rw [hts]
          simp only [List.length_cons, List.length_append]
          omega

end Requests

namespace Scanned

theorem pairwise {ts : List Token} {marks : List (Nat × List Token)} (h : Scanned ts marks) :
    (marks.map Prod.fst).Pairwise (· < ·) := by
  have hlater {marks : List (Nat × List Token)} (ih : (marks.map Prod.fst).Pairwise (· < ·)) (k : Nat) :
      ((marks.map (later k)).map Prod.fst).Pairwise (· < ·) := by
    rw [List.pairwise_map] at ih
    rw [List.pairwise_map, List.pairwise_map]
    exact ih.imp fun hlt => Nat.add_lt_add_right hlt k
  induction h with
  | nil => exact .nil
  | skip _ _ ih => exact hlater ih 1
  | @argument name command ts body rest marks hname harg _ ih =>
    split
    · rw [List.singleton_append, List.map_cons, List.pairwise_cons]
      refine ⟨?_, hlater ih _⟩
      intro q hq
      rw [List.map_map] at hq
      obtain ⟨mark, -, rfl⟩ := List.mem_map.1 hq
      have hlt := harg.length_lt
      simp only [Function.comp_apply, later]
      omega
    · exact hlater ih _

theorem mem_iff {ts : List Token} {marks : List (Nat × List Token)} (h : Scanned ts marks) (q : Nat)
    (body : List Token) : (q, body) ∈ marks ↔ Requests everyCommand ts q body := by
  induction h generalizing q with
  | nil => simpa using Requests.not_nil everyCommand q body
  | skip hskip _ ih => simp only [mem_map_later, Requests.cons_iff hskip, ih]
  | argument hname harg _ ih =>
    rw [Requests.control_iff hname harg, List.mem_append, mem_map_later]
    simp only [ih]
    split <;> simp_all

end Scanned

namespace Document

/-- The entries of a document are what the commands `index` outside of all arguments ask for, in order,
each with a place of its own. -/
theorem entries_ofText (e : Expander) (text : String) : ∃ marks : List (Nat × List Token),
    (marks.map Prod.fst).Pairwise (· < ·) ∧
    (∀ q body, (q, body) ∈ marks ↔ Requests everyCommand (tokenize text) q body) ∧
    (ofText e text).entries = marks.mapIdx (fun i mark => Entry.ofTokens e mark.2 i) ∧
    (ofText e text).places.toList.map (·.id) =
      (List.range marks.length).map fun i => Occurrence.anchor (i + 1) := by
  obtain ⟨marks, hmarks⟩ := exists_scanned (tokenize text)
  have hfound : (Scan.ofTokens (tokenize text)).occurrences.map (·.specification) =
      marks.map Prod.snd :=
    Scan.occurrences_foldl_step hmarks (s := .start) rfl
  have hlength : (Scan.ofTokens (tokenize text)).occurrences.length = marks.length := by
    simpa using congrArg List.length hfound
  refine ⟨marks, hmarks.pairwise, hmarks.mem_iff, ?_, ?_⟩
  · apply List.ext_getElem
    · simp [ofText, ofScan, hlength]
    · intro i hi hi'
      have hlt : i < marks.length := by simpa using hi'
      have hspecification : (Scan.ofTokens (tokenize text)).occurrences[i].specification =
          marks[i].2 := by
        have h := congrArg (·[i]?) hfound
        simpa [hlength, hlt] using h
      simp [ofText, ofScan, Occurrence.entry, hspecification]
  · apply List.ext_getElem
    · simp [ofText, ofScan, hlength]
    · intro i hi hi'
      simp [ofText, ofScan, Occurrence.place]

/-- A text with the command `index` in the title of a section. -/
def marked : String := "\\section\x7bb\x7d\\section\x7b\\index\x7bb\x7d\x7d"

/-- The title of a section hides a command `index` as the argument of another one does. -/
theorem title_hides_request : ¬ ∀ (e : Expander) (text : String), ∃ marks : List (Nat × List Token),
    (marks.map Prod.fst).Pairwise (· < ·) ∧
    (∀ q body, (q, body) ∈ marks ↔ Requests (· = .entry) (tokenize text) q body) ∧
    (ofText e text).entries = marks.mapIdx (fun i mark => Entry.ofTokens e mark.2 i) ∧
    (ofText e text).places.toList.map (·.id) =
      (List.range marks.length).map fun i => Occurrence.anchor (i + 1) := by
  intro hall
  obtain ⟨marks, -, hmem, hentries, -⟩ := hall .standard marked
  have hnone : (ofText .standard marked).entries.length = 0 := by decide +kernel
  rw [hentries, List.length_mapIdx] at hnone
  obtain rfl := List.length_eq_zero_iff.1 hnone
  have htokens : tokenize marked =
      [.control "section", .char '{' .beginGroup, .char 'b' .letter, .char '}' .endGroup,
        .control "section", .char '{' .beginGroup] ++
      .control "index" :: ([] ++ .char '{' .beginGroup :: ([.char 'b' .letter] ++
        .char '}' .endGroup :: [.char '}' .endGroup])) := by
    decide +kernel
  have hrequest : Requests (· = .entry) (tokenize marked) 6 [.char 'b' .letter] := by
    refine ⟨_, _, _, htokens, rfl, ?_, .closed _ (.nil _) rfl ?_ rfl⟩
    · intro hwithin
      generalize hts : [Token.control "section", _, _, _, _, _] = ts at hwithin
      obtain ⟨before, hname, rfl, -, -, -⟩ := hwithin
      rw [ofName?_eq_entry_iff] at hname
      have hindex : Token.control "index" ∈ [Token.control "section", .char '{' .beginGroup,
          .char 'b' .letter, .char '}' .endGroup, .control "section", .char '{' .beginGroup] := by
        rw [hts, hname]
        simp
      exact absurd hindex (by decide)
    · exact ⟨(Unclosed.cons_iff rfl).2 (.nil 0), rfl⟩
  exact absurd ((hmem _ _).2 hrequest) (List.not_mem_nil)

end Document

end BookIndex
