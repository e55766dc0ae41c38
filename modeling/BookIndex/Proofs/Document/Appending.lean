import BookIndex.Proofs.Document.Requests

/-!
# Document.Appending — what two texts say one after the other

Between two texts a scan carries its mode, the title of the section, the number of occurrences and the
construct.  The mode is the only one of these that changes how tokens are read, and it is `text` unless
the first text ends within an argument or with a command that still waits for one
(`mode_eq_text_iff`).  From there on a scan goes as it goes from the start, so it only has to be put
after what the first text says (`ofTokens_append`).
-/

namespace BookIndex

open GroupCommand Token

namespace GroupCommand

/-- The tokens end with a command that takes a group, or with its star, blanks apart. -/
def Awaiting (ts : List Token) : Prop :=
  ∃ before name command gap, ts = before ++ .control name :: gap ∧ ofName? name = some command ∧
    Gap (command == .title) gap

theorem Gap.concat_blank {mayStar : Bool} {gap : List Token} {t : Token} (hgap : Gap mayStar gap)
    (ht : t.isSpace = true) : Gap mayStar (gap ++ [t]) := by
  induction hgap with
  | nil mayStar => exact .blank ht (.nil false)
  | blank hblank _ ih => exact .blank hblank ih
  | star hstar _ ih => exact .star hstar ih

end GroupCommand

/-! ### What a mode says of the tokens read -/

namespace Scan

/-- The tokens end in what the mode says. -/
def EndsIn : ScanMode → List Token → Prop
  | .text, _ => True
  | .command command mayStar, ts => ∃ before name gap, ts = before ++ .control name :: gap ∧
    ofName? name = some command ∧ Gap (command == .title) gap ∧
    (mayStar = true → gap = [] ∧ command = .title)
  | .group command depth body, ts => ∃ before name gap brace,
    ts = before ++ .control name :: (gap ++ brace :: body.reverse) ∧ ofName? name = some command ∧
    Gap (command == .title) gap ∧ brace.isBeginGroup = true ∧ Unclosed 0 body.reverse ∧
    closes body.reverse + depth = opens body.reverse

theorem endsIn_readText (s : Scan) (ts : List Token) (t : Token) :
    EndsIn (s.readText t).mode (ts ++ [t]) := by
  cases t with
  | char c category => trivial
  | control name =>
    rw [readText]
    cases hname : ofName? name with
    | none => trivial
    | some command => exact ⟨ts, name, [], rfl, hname, .nil _, fun hstar => ⟨rfl, eq_of_beq hstar⟩⟩

/-- A command goes on waiting over blanks and over its star, until its group begins. -/
theorem endsIn_command {command : GroupCommand} {mayStar : Bool} {ts : List Token}
    (h : EndsIn (.command command mayStar) ts) (s : Scan) (t : Token) :
    EndsIn (step { s with mode := .command command mayStar } t).mode (ts ++ [t]) := by
  obtain ⟨before, name, gap, rfl, hname, hgap, hstar⟩ := h
  rw [List.append_assoc, List.cons_append]
  unfold step
  dsimp only
  split_ifs with hspace hbegin hstarred
  · exact ⟨before, name, gap ++ [t], rfl, hname, hgap.concat_blank hspace, by simp⟩
  · exact ⟨before, name, gap, t, rfl, hname, hgap, hbegin, .nil 0, rfl⟩
  · -- A star may come only at once, so nothing stands before it.
    rw [Bool.and_eq_true] at hstarred
    obtain ⟨rfl, rfl⟩ := hstar hstarred.1
    exact ⟨before, name, [t], rfl, hname, .star hstarred.2 (.nil false), by simp⟩
  · simpa using endsIn_readText _ (before ++ .control name :: gap) t

/-- A token in a group belongs to it, unless it is the brace that closes the group. -/
theorem endsIn_group {command : GroupCommand} {depth next : Nat} {body ts : List Token} {t : Token}
    (h : EndsIn (.group command depth body) ts)
    (hnext : next + (if t.isEndGroup then 1 else 0) = depth + if t.isBeginGroup then 1 else 0) :
    EndsIn (.group command next (t :: body)) (ts ++ [t]) := by
  obtain ⟨before, name, gap, brace, rfl, hname, hgap, hbrace, hbody, hdepth⟩ := h
  have hcloses : closes (body.reverse ++ [t]) + next = opens (body.reverse ++ [t]) := by
    simp only [closes_append, opens_append, closes_cons, opens_cons, closes_nil, opens_nil]
    omega
  refine ⟨before, name, gap, brace, by simp, hname, hgap, hbrace, ?_, ?_⟩
  · rw [List.reverse_cons]
    exact hbody.concat (by omega)
  · rwa [List.reverse_cons]

theorem endsIn_step {s : Scan} {ts : List Token} (h : EndsIn s.mode ts) (t : Token) :
    EndsIn (s.step t).mode (ts ++ [t]) := by
  rcases s with ⟨mode, found, title, kind⟩
  cases mode with
  | text => exact endsIn_readText _ ts t
  | command command mayStar => exact endsIn_command h ⟨.text, found, title, kind⟩ t
  | group command depth body =>
    rcases t.brace_cases with ⟨c, rfl⟩ | ⟨c, rfl⟩ | ⟨hbegin, hend⟩
    · exact endsIn_group h rfl
    · cases depth with
      | zero =>
        -- The group closes, and its command is obeyed.
        have hstep : step ⟨.group command 0 body, found, title, kind⟩ (.char c .endGroup) =
            obey ⟨.group command 0 body, found, title, kind⟩ command body.reverse := rfl
        rw [hstep, mode_obey]
        trivial
      | succ depth => exact endsIn_group h rfl
    · have hstep : step ⟨.group command depth body, found, title, kind⟩ t =
          ⟨.group command depth (t :: body), found, title, kind⟩ := by
        simp [step, hbegin, hend]
      rw [hstep]
      exact endsIn_group h (by rw [hbegin, hend])

theorem endsIn_foldl_step (ts : List Token) : EndsIn (ts.foldl step start).mode ts := by
  induction ts using List.reverseRecOn with
  | nil => trivial
  | append_singleton ts t ih =>
    rw [List.foldl_append]
    exact endsIn_step ih t

/-- A group goes on over tokens that do not close it. -/
theorem mode_foldl_step_group {s : Scan} {command : GroupCommand} {depth : Nat}
    {body ts : List Token} (hs : s.mode = .group command depth body) (hts : Unclosed depth ts) :
    (ts.foldl step s).mode ≠ .text := by
  rcases s with ⟨mode, found, title, kind⟩
  obtain rfl : mode = .group command depth body := hs
  obtain ⟨depth', -, hfold⟩ := foldl_step_body hts command body ⟨.text, found, title, kind⟩
  rw [hfold]
  exact ScanMode.noConfusion

/-- A command that takes a group waits for it, unless it stands in the group of another command. -/
theorem step_control {name : String} {command : GroupCommand} (hname : ofName? name = some command)
    (s : Scan) : (∃ command' depth body, s.mode = .group command' depth body) ∨
      s.step (.control name) = { s with mode := .command command (command == .title) } := by
  have hread : s.readText (.control name) =
      { s with mode := .command command (command == .title) } := by
    rw [readText, hname]
  cases hmode : s.mode with
  | text => exact .inr (by rw [step, hmode]; exact hread)
  | command command' mayStar =>
    refine .inr ?_
    rw [step, hmode]
    simpa [isSpace, isBeginGroup, category?, isTextChar] using hread
  | group command' depth body => exact .inl ⟨command', depth, body, rfl⟩

/-- A scan does not read text behind a command that still waits for its group or is within it. -/
theorem mode_foldl_step_control {name : String} {command : GroupCommand} {gap group : List Token}
    (hname : ofName? name = some command) (hgap : Gap (command == .title) gap)
    (hgroup : group = [] ∨ ∃ brace body, group = brace :: body ∧ brace.isBeginGroup = true ∧
      Unclosed 0 body) (s : Scan) :
    ((Token.control name :: (gap ++ group)).foldl step s).mode ≠ .text := by
  rcases step_control hname s with ⟨command', depth, before, hmode⟩ | hstep
  · -- The command stands in a group, which none of its tokens closes.
    have hunclosed : Unclosed depth group := by
      rcases hgroup with rfl | ⟨brace, body, rfl, hbrace, hbody⟩
      · exact .nil depth
      · have hopen : depth + 1 + (if brace.isEndGroup then 1 else 0) =
            depth + if brace.isBeginGroup then 1 else 0 := by
          simp [hbrace, isEndGroup_of_isBeginGroup hbrace]
        exact (Unclosed.cons_iff hopen).2 (hbody.mono (Nat.zero_le _))
    exact mode_foldl_step_group hmode
      ((Unclosed.cons_iff rfl).2 (.text_append hgap.isText hunclosed))
  · obtain ⟨mayStar, hfold⟩ := foldl_step_gap hgap command s
    rw [List.foldl_cons, hstep, List.foldl_append, hfold]
    rcases hgroup with rfl | ⟨brace, body, rfl, hbrace, hbody⟩
    · exact ScanMode.noConfusion
    · rw [List.foldl_cons, step_of_isBeginGroup hbrace]
      exact mode_foldl_step_group rfl hbody

/-- A scan has come back to text if the tokens end neither within an argument nor with a command that
waits for one. -/
theorem mode_eq_text_iff (ts : List Token) :
    (ts.foldl step start).mode = .text ↔ ¬ Within everyCommand ts ∧ ¬ Awaiting ts := by
  constructor
  · intro hmode
    constructor
    · rintro @⟨before, name, command, gap, body, brace, hname, -, hgap, hbrace, hbody⟩
      rw [List.foldl_append] at hmode
      exact mode_foldl_step_control hname hgap (.inr ⟨brace, body, rfl, hbrace, hbody⟩) _ hmode
    · rintro ⟨before, name, command, gap, rfl, hname, hgap⟩
      rw [List.foldl_append, ← List.append_nil gap] at hmode
      exact mode_foldl_step_control hname hgap (.inl rfl) _ hmode
  · rintro ⟨hwithin, hawaiting⟩
    have hends := endsIn_foldl_step ts
    cases hmode : (ts.foldl step start).mode with
    | text => rfl
    | command command mayStar =>
      rw [hmode] at hends
      obtain ⟨before, name, gap, hts, hname, hgap, -⟩ := hends
      exact absurd ⟨before, name, command, gap, hts, hname, hgap⟩ hawaiting
    | group command depth body =>
      rw [hmode] at hends
      obtain ⟨before, name, gap, brace, hts, hname, hgap, hbrace, hbody, -⟩ := hends
      exact absurd (hts ▸ .intro before hname trivial hgap hbrace hbody) hwithin

end Scan

/-! ### One scan after another -/

/-- The occurrence, under this title if the tokens read with it have none before it. -/
def Occurrence.under (title : Option (List Token)) (o : Occurrence) : Occurrence :=
  { o with title := o.title.or title }

namespace Scan

/-- What a scan says behind a text with the scan `first`. -/
def after (s first : Scan) : Scan where
  mode := s.mode
  found := s.found.map (Occurrence.under first.title) ++ first.found
  title := s.title.or first.title
  kind := s.kind.or first.kind

theorem start_after {first : Scan} (hfirst : first.mode = .text) : start.after first = first := by
  rcases first with ⟨mode, found, title, kind⟩
  obtain rfl : mode = .text := hfirst
  rfl

theorem occurrences_after (s first : Scan) : (s.after first).occurrences =
    first.occurrences ++ s.occurrences.map (Occurrence.under first.title) := by
  simp [occurrences, after]

theorem obey_after (s first : Scan) (command : GroupCommand) (body : List Token) :
    (s.after first).obey command body = (s.obey command body).after first := by
  cases command with
  | entry => rfl
  | title => rfl
  | environment =>
    simp only [obey, after]
    rw [Option.or_assoc]

theorem readText_after (s first : Scan) (t : Token) :
    (s.after first).readText t = (s.readText t).after first := by
  cases t with
  | char c category => rfl
  | control name =>
    rw [readText, readText]
    cases ofName? name with
    | some command => rfl
    | none =>
      dsimp only [after]
      by_cases hprint : name = "printindex"
      · rw [if_pos hprint, if_pos hprint, Option.some_or]
      · rw [if_neg hprint, if_neg hprint]

theorem step_after (s first : Scan) (t : Token) :
    (s.after first).step t = (s.step t).after first := by
  have hmode : (s.after first).mode = s.mode := rfl
  unfold step
  rw [hmode, readText_after]
  cases s.mode with
  | text => rfl
  | command command mayStar =>
    dsimp only
    split_ifs <;> rfl
  | group command depth body =>
    cases depth with
    | zero =>
      dsimp only
      split_ifs <;> first | rfl | exact obey_after s first command _
    | succ depth =>
      dsimp only
      split_ifs <;> rfl

theorem finish_after (s first : Scan) : (s.after first).finish = s.finish.after first := by
  have hmode : (s.after first).mode = s.mode := rfl
  unfold finish
  rw [hmode]
  cases s.mode with
  | text => rfl
  | command command mayStar => rfl
  | group command depth body => exact obey_after s first command _

theorem foldl_step_after (ts : List Token) (s first : Scan) :
    ts.foldl step (s.after first) = (ts.foldl step s).after first := by
  induction ts generalizing s with
  | nil => rfl
  | cons t ts ih => rw [List.foldl_cons, List.foldl_cons, step_after, ih]

/-- Once a scan has come back to text, what follows says what it says by itself, put after the scan. -/
theorem ofTokens_append {ts : List Token} (hts : (ts.foldl step start).mode = .text)
    (us : List Token) : ofTokens (ts ++ us) = (ofTokens us).after (ofTokens ts) := by
  have hfirst : ofTokens ts = ts.foldl step start := finish_of_text hts
  calc ofTokens (ts ++ us)
      = (us.foldl step (start.after (ofTokens ts))).finish := by
        rw [ofTokens, foldl_step_append, hfirst, start_after hts]
    _ = (ofTokens us).after (ofTokens ts) := by
        rw [foldl_step_after, finish_after]
        rfl

end Scan

/-! ### One document after another -/

/-- The label that places get from a title. -/
def Occurrence.label (e : Expander) (title : Option (List Token)) : Option String :=
  title.map fun tokens => Text.trim (e.expandToText tokens)

/-- Place number `i` under a label, with nothing attached to it. -/
def Destination.numbered (i : Nat) (label : Option String) : Destination :=
  ⟨Occurrence.anchor (i + 1), label, some ("#" ++ Occurrence.anchor (i + 1)), []⟩

/-- The entry with a destination `k` places later. -/
def Entry.shift (k : Nat) (entry : Entry) : Entry :=
  { entry with destination := k + entry.destination }

theorem Entry.ofTokens_add (e : Expander) (ts : List Token) (i k : Nat) :
    ofTokens e ts (i + k) = (ofTokens e ts i).shift k := by
  simp only [ofTokens, RawEntry.resolve]
  split <;> simp [ofKeys, shift, Nat.add_comm]

namespace Document

/-- The labels of the places in turn. -/
def labels (d : Document) : List (Option String) := d.places.toList.map (·.label)

/-- The title that a text ends under, as labels show it. -/
def endLabel (e : Expander) (text : String) : Option String :=
  Occurrence.label e (Scan.ofTokens (tokenize text)).title

/-- The construct that a text names last. -/
def kind? (text : String) : Option IndexKind := (Scan.ofTokens (tokenize text)).kind

theorem labels_ofScan (e : Expander) (s : Scan) :
    (ofScan e s).labels = s.occurrences.map fun o => Occurrence.label e o.title := by
  apply List.ext_getElem
  · simp [labels, ofScan]
  · intro i hi hi'
    simp [labels, ofScan, Occurrence.place, Occurrence.label]

/-- Apart from their labels, places are told by their numbers. -/
theorem places_ofScan (e : Expander) (s : Scan) :
    (ofScan e s).places.toList = (ofScan e s).labels.mapIdx Destination.numbered := by
  rw [labels_ofScan]
  apply List.ext_getElem
  · simp [ofScan]
  · intro i hi hi'
    simp [ofScan, Occurrence.place, Destination.numbered, Occurrence.label]

theorem labels_after (e : Expander) (s first : Scan) : (ofScan e (s.after first)).labels =
    (ofScan e first).labels ++
      (ofScan e s).labels.map (·.or (Occurrence.label e first.title)) := by
  simp only [labels_ofScan, Scan.occurrences_after, List.map_append, List.map_map]
  congr 1
  apply List.map_congr_left
  intro o _
  cases htitle : o.title <;> simp [Occurrence.under, Occurrence.label, htitle]

theorem entries_after (e : Expander) (s first : Scan) : (ofScan e (s.after first)).entries =
    (ofScan e first).entries ++
      (ofScan e s).entries.map (Entry.shift (ofScan e first).entries.length) := by
  simp only [ofScan, Scan.occurrences_after, List.mapIdx_append, List.length_mapIdx]
  congr 1
  apply List.ext_getElem
  · simp
  · intro i hi hi'
    simp [Occurrence.entry, Occurrence.under, Entry.ofTokens_add]

theorem kind_after (e : Expander) (s first : Scan) :
    (ofScan e (s.after first)).kind = s.kind.getD (ofScan e first).kind := by
  cases hkind : s.kind <;> simp [ofScan, Scan.after, hkind]

/-- What a text says that is followed by another one: the entries and places of both in turn, numbered
through, where the second goes on under the title that the first ends under, and the construct named
last. -/
structure Joined (e : Expander) (first second : String) : Prop where
  entries_eq : (ofText e (first ++ second)).entries = (ofText e first).entries ++
    (ofText e second).entries.map (Entry.shift (ofText e first).entries.length)
  destinations_eq : (ofText e (first ++ second)).entries.map (·.destination) =
    List.range ((ofText e first).entries.length + (ofText e second).entries.length)
  places_eq : (ofText e (first ++ second)).places.toList =
    ((ofText e first).labels ++ (ofText e second).labels.map (·.or (endLabel e first))).mapIdx
      Destination.numbered
  kind_eq : (ofText e (first ++ second)).kind = (kind? second).getD (ofText e first).kind

/-- Two texts one after the other say what each says, if the cut parts no two tokens, no command from its
argument and no argument. -/
theorem ofText_append (e : Expander) (first second : String)
    (htokens : tokenize (first ++ second) = tokenize first ++ tokenize second)
    (hwithin : ¬ Within everyCommand (tokenize first)) (hawaiting : ¬ Awaiting (tokenize first)) :
    Joined e first second := by
  have hafter : ofText e (first ++ second) =
      ofScan e ((Scan.ofTokens (tokenize second)).after (Scan.ofTokens (tokenize first))) := by
    rw [ofText, htokens, Scan.ofTokens_append ((Scan.mode_eq_text_iff _).2 ⟨hwithin, hawaiting⟩)]
  have hentries := entries_after e (Scan.ofTokens (tokenize second)) (Scan.ofTokens (tokenize first))
  refine ⟨?_, ?_, ?_, ?_⟩
  · rw [hafter]
    exact hentries
  · rw [ofText, map_destination_entries, ← ofText, hafter, hentries]
    simp [ofText]
  · rw [hafter, places_ofScan, labels_after]
    rfl
  · rw [hafter]
    exact kind_after e _ _

/-- A text with a command that lacks its group, and a brace that it does not close. -/
def beginning : String := "\\index\x7ba\x7d\\section*\x7bA\x7d \\index b\x7b\\begin\x7btheindex\x7d"

/-- A text that closes a brace before it begins a section. -/
def continuation : String := "\\index\x7bc\x7d\x7d\\section\x7bB\x7d\\index\x7bd\x7d"

theorem ofText_append_beginning :
    tokenize (beginning ++ continuation) = tokenize beginning ++ tokenize continuation ∧
      ¬ Within everyCommand (tokenize beginning) ∧ ¬ Awaiting (tokenize beginning) ∧
      Joined .standard beginning continuation ∧
      (ofText .standard (beginning ++ continuation)).labels = [none, some "A", some "B"] ∧
      (ofText .standard (beginning ++ continuation)).kind = .environment := by
  have htokens : tokenize (beginning ++ continuation) = tokenize beginning ++ tokenize continuation := by
    decide +kernel
  have hmode : ((tokenize beginning).foldl Scan.step .start).mode = .text := by decide +kernel
  obtain ⟨hwithin, hawaiting⟩ := (Scan.mode_eq_text_iff _).1 hmode
  exact ⟨htokens, hwithin, hawaiting, ofText_append .standard beginning continuation htokens hwithin
    hawaiting, by decide +kernel, by decide +kernel⟩

end Document

end BookIndex
