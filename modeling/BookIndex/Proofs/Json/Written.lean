import BookIndex.Json.Layout
import BookIndex.Proofs.Json.Parts
import BookIndex.Proofs.Json.Quoted
import Mathlib.Tactic.IntervalCases

/-!
# Json.Written — values are read back

The lexer has no lookahead: a number lasts until a character comes that does not go on with it, and
everything else shows its own end.  So a value is cut into its parts whatever stands behind it, as
long as that does not go on with a number (`CutsIntoParts`).  This holds of every value that is
written with numbers and escaped texts (`Written`), by induction on the value, in every layout that
has blanks only where blanks may stand (`Layout.Spaced`).
-/

namespace BookIndex.Json

/-! ### The lexer by its modes -/

/-- The parts that a text completes for a lexer in this mode. -/
def lexemesFrom? (mode : LexMode) : List Char → Option (List Lexeme)
  | [] => mode.finish
  | c :: cs => (mode.step c).bind fun next => (lexemesFrom? next.1 cs).map (next.2 ++ ·)

theorem lexemesFrom?_of_step {mode next : LexMode} {c : Char} {done : List Lexeme}
    (h : mode.step c = some (next, done)) (cs : List Char) :
    lexemesFrom? mode (c :: cs) = (lexemesFrom? next cs).map (done ++ ·) := by
  rw [lexemesFrom?, h]
  rfl

/-- A character that completes no part. -/
theorem lexemesFrom?_of_silent {mode next : LexMode} {c : Char}
    (h : mode.step c = some (next, [])) (cs : List Char) :
    lexemesFrom? mode (c :: cs) = lexemesFrom? next cs := by
  rw [lexemesFrom?_of_step h]
  exact Option.map_id'

theorem foldlM_advance (cs : List Char) (mode : LexMode) (seen : List Lexeme) :
    ((cs.foldlM LexMode.advance (mode, seen)).bind fun state =>
      state.1.finish.map (state.2.reverse ++ ·)) =
    (lexemesFrom? mode cs).map (seen.reverse ++ ·) := by
  induction cs generalizing mode seen with
  | nil => rfl
  | cons c cs ih =>
    rw [List.foldlM_cons, lexemesFrom?, LexMode.advance]
    cases mode.step c with
    | none => rfl
    | some next =>
      simp only [Option.map_some, Option.bind_eq_bind, Option.bind_some, ih, Option.map_map]
      simp [Function.comp_def]

theorem lexemes?_eq (cs : List Char) : lexemes? cs = lexemesFrom? .between cs := by
  have hrun := foldlM_advance cs .between []
  simp only [List.reverse_nil, List.nil_append, Option.map_id'] at hrun
  rw [← hrun, lexemes?]
  cases cs.foldlM LexMode.advance (.between, []) with
  | none => rfl
  | some state => cases hfinish : state.1.finish <;> simp [hfinish]

/-- The character may stand between two parts. -/
def IsBlank (c : Char) : Prop :=
  c = ' ' ∨ c = '\t' ∨ c = '\n' ∨ c = '\r'

theorem lexemesFrom?_blanks {blanks : List Char} (hblanks : ∀ c ∈ blanks, IsBlank c)
    (cs : List Char) : lexemesFrom? .between (blanks ++ cs) = lexemesFrom? .between cs := by
  induction blanks with
  | nil => rfl
  | cons c blanks ih =>
    rw [List.forall_mem_cons] at hblanks
    have hstep : LexMode.step .between c = some (.between, []) := if_pos hblanks.1
    rw [List.cons_append, lexemesFrom?_of_silent hstep, ih hblanks.2]

/-! ### Numbers -/

/-- The text does not go on with a number. -/
def Stops (cs : List Char) : Prop :=
  ∀ c ∈ cs.head?, c.isDigit = false ∧ c ≠ '.' ∧ c ≠ 'e' ∧ c ≠ 'E'

theorem stops_nil : Stops [] := by
  simp [Stops]

theorem Stops.append {cs ds : List Char} (hcs : Stops cs) (hds : Stops ds) : Stops (cs ++ ds) := by
  cases cs with
  | nil => exact hds
  | cons c cs => exact hcs

theorem IsBlank.stops {c : Char} (hc : IsBlank c) (cs : List Char) : Stops (c :: cs) := by
  rintro d ⟨⟩
  rcases hc with rfl | rfl | rfl | rfl <;> decide

theorem stops_blanks {blanks : List Char} (hblanks : ∀ c ∈ blanks, IsBlank c) : Stops blanks := by
  cases blanks with
  | nil => exact stops_nil
  | cons c blanks => exact (hblanks c List.mem_cons_self).stops blanks

/-- A number that may end ends before a text that does not go on with it. -/
theorem lexemesFrom?_number {part : NumberPart} (hpart : part.isComplete = true)
    (digits : List Char) {cs : List Char} (hcs : Stops cs) :
    lexemesFrom? (.number part digits) cs =
      (lexemesFrom? .between cs).map (LexMode.numberLexeme digits :: ·) := by
  cases cs with
  | nil => simp [lexemesFrom?, LexMode.finish, hpart]
  | cons c cs =>
    obtain ⟨hdigit, hpoint, hsmall, hlarge⟩ := hcs c rfl
    have hnext : part.next? c = none := by
      cases part with
      | minus | point | exponentMark | exponentSign => cases hpart
      | zero | integer | fraction | exponent =>
        simp [NumberPart.next?, hdigit, hpoint, hsmall, hlarge]
    simp only [lexemesFrom?, LexMode.step, hnext, hpart, if_true]
    cases LexMode.start c <;> simp [Function.comp_def]

/-- The digits of a positive number begin a number without fraction. -/
theorem lexemesFrom?_toDigits {n : Nat} (hn : 0 < n) (cs : List Char) :
    lexemesFrom? .between (Nat.toDigits 10 n ++ cs) =
      lexemesFrom? (.number .integer (Nat.toDigits 10 n).reverse) cs := by
  induction n using Nat.strongRecOn generalizing cs with
  | ind n ih =>
    by_cases hlt : n < 10
    · have hstep : LexMode.step .between n.digitChar =
          some (.number .integer [n.digitChar], []) := by
        interval_cases n <;> rfl
      rw [Nat.toDigits_of_lt_base hlt]
      exact lexemesFrom?_of_silent hstep cs
    · have hdigit : (n % 10).digitChar.isDigit = true := by
        rw [Nat.isDigit_digitChar, decide_eq_true_iff]
        omega
      have hstep : LexMode.step (.number .integer (Nat.toDigits 10 (n / 10)).reverse)
          (n % 10).digitChar = some (.number .integer
            ((n % 10).digitChar :: (Nat.toDigits 10 (n / 10)).reverse), []) := by
        simp [LexMode.step, NumberPart.next?, hdigit]
      rw [Nat.toDigits_of_base_le (by omega) (by omega), List.append_assoc,
        ih (n / 10) (by omega) (by omega), List.singleton_append, lexemesFrom?_of_silent hstep,
        List.reverse_concat]

theorem lexemesFrom?_ofNat (n : Nat) {cs : List Char} (hcs : Stops cs) :
    lexemesFrom? .between ((toString n).toList ++ cs) =
      (lexemesFrom? .between cs).map (.scalar (ofNat n) :: ·) := by
  have hlexeme : LexMode.numberLexeme (Nat.toDigits 10 n).reverse = .scalar (ofNat n) := by
    rw [LexMode.numberLexeme, List.reverse_reverse, ofNat, Nat.toString_eq_ofList_toDigits]
  rw [Nat.toString_eq_repr, Nat.toList_repr, ← hlexeme]
  rcases Nat.eq_zero_or_pos n with rfl | hn
  · have hzero : LexMode.step .between '0' = some (.number .zero ['0'], []) := rfl
    rw [Nat.toDigits_zero, List.singleton_append, lexemesFrom?_of_silent hzero]
    exact lexemesFrom?_number rfl ['0'] hcs
  · rw [lexemesFrom?_toDigits hn, lexemesFrom?_number rfl _ hcs]

/-! ### Texts -/

/-- A character in any form is passed over between quotes. -/
theorem lexemesFrom?_of_escaped {c : Char} {escape : List Char} (h : Escaped c escape)
    (body cs : List Char) :
    lexemesFrom? (.string body) (escape ++ cs) =
      lexemesFrom? (.string (escape.reverse ++ body)) cs := by
  cases h with
  | short hd => simp [lexemesFrom?, LexMode.step, hd, ne_of_shortEscape? hd, Function.comp_def]
  | codePoint hfirst hsecond _ _ =>
    have hzero : hexDigit? '0' = some 0 := rfl
    simp [lexemesFrom?, LexMode.step, hzero, hfirst, hsecond, Function.comp_def]
  | plain hquote hbackslash hc =>
    simp [lexemesFrom?, LexMode.step, hquote, hbackslash, Nat.not_lt.2 hc]

theorem lexemesFrom?_escape (text body cs : List Char) :
    lexemesFrom? (.string body) (text.flatMap escapeChar ++ cs) =
      lexemesFrom? (.string ((text.flatMap escapeChar).reverse ++ body)) cs := by
  induction text generalizing body with
  | nil => rfl
  | cons c text ih =>
    rw [List.flatMap_cons, List.append_assoc, lexemesFrom?_of_escaped (escaped_escapeChar c), ih,
      List.reverse_append, List.append_assoc]

theorem lexemesFrom?_quoted (s : String) (cs : List Char) :
    lexemesFrom? .between (quoted (escape s) ++ cs) =
      (lexemesFrom? .between cs).map (.scalar (ofString s) :: ·) := by
  have hopen : LexMode.step .between '"' = some (.string [], []) := rfl
  have hclose (body : List Char) : LexMode.step (.string body) '"' =
      some (.between, [.scalar (.string (String.ofList body.reverse))]) := rfl
  rw [quoted, List.cons_append, List.cons_append, List.append_assoc, lexemesFrom?_of_silent hopen,
    escape, String.toList_ofList, lexemesFrom?_escape, List.singleton_append,
    lexemesFrom?_of_step (hclose _), List.append_nil, List.reverse_reverse]
  rfl

/-! ### Values -/

/-- The layout puts blanks alone around what it writes. -/
structure Layout.Spaced (l : Layout) : Prop where
  newline : ∀ depth, ∀ c ∈ l.newline depth, IsBlank c
  colon : ∃ blanks, l.colon = ':' :: blanks ∧ ∀ c ∈ blanks, IsBlank c

theorem Layout.spaced_compact : Layout.compact.Spaced where
  newline _ _ hc := nomatch hc
  colon := ⟨[], rfl, fun _ hc => nomatch hc⟩

theorem Layout.spaced_pretty : Layout.pretty.Spaced where
  newline depth c hc := by
    rcases List.mem_cons.1 hc with rfl | hc
    · exact .inr (.inr (.inl rfl))
    · exact .inl (List.eq_of_mem_replicate hc)
  colon := ⟨[' '], rfl, fun c hc => .inl (List.mem_singleton.1 hc)⟩

/-- The value is written with numbers and escaped texts. -/
inductive Written : Json → Prop
  | null : Written .null
  | bool (b : Bool) : Written (.bool b)
  | number (n : Nat) : Written (ofNat n)
  | string (s : String) : Written (ofString s)
  | array {items : List Json} (hitems : ∀ j ∈ items, Written j) : Written (.array items)
  | object {members : List (String × Json)} (hnames : ∀ m ∈ members, ∃ s, m.1 = escape s)
    (hvalues : ∀ m ∈ members, Written m.2) : Written (.object members)

namespace Written

theorem optional (s : Option String) : Written (ofString? s) := by
  cases s with
  | none => exact null
  | some s => exact string s

theorem empty : Written (.object []) :=
  object (List.forall_mem_nil _) (List.forall_mem_nil _)

/-- One more member in front, whose name needs no escapes. -/
theorem member {name : String} {value : Json} {members : List (String × Json)}
    (hvalue : Written value) (h : Written (.object members))
    (hname : escape name = name := by decide) :
    Written (.object ((name, value) :: members)) := by
  cases h with
  | object hnames hvalues =>
    exact object (List.forall_mem_cons.2 ⟨⟨name, hname.symm⟩, hnames⟩)
      (List.forall_mem_cons.2 ⟨hvalue, hvalues⟩)

end Written

/-- The text of the value is cut into its parts, whatever stands behind it. -/
def CutsIntoParts (l : Layout) (j : Json) : Prop :=
  ∀ depth {cs : List Char}, Stops cs →
    lexemesFrom? .between (j.chars l depth ++ cs) = (lexemesFrom? .between cs).map (j.parts ++ ·)

section

variable {l : Layout}

theorem Layout.Spaced.lexemesFrom?_colon (hl : l.Spaced) (cs : List Char) :
    lexemesFrom? .between (l.colon ++ cs) = (lexemesFrom? .between cs).map (.colon :: ·) := by
  have hstep : LexMode.step .between ':' = some (.between, [.colon]) := rfl
  obtain ⟨blanks, hcolon, hblanks⟩ := hl.colon
  rw [hcolon, List.cons_append, lexemesFrom?_of_step hstep, lexemesFrom?_blanks hblanks]
  rfl

/-- What closes a container, on its own line or right behind what it closes. -/
theorem Layout.Spaced.lexemesFrom?_close (hl : l.Spaced) {bracket : Char} {part : Lexeme}
    (hstep : LexMode.step .between bracket = some (.between, [part])) (depth : Nat)
    (cs : List Char) :
    lexemesFrom? .between (l.newline depth ++ bracket :: cs) =
      (lexemesFrom? .between cs).map (part :: ·) := by
  rw [lexemesFrom?_blanks (hl.newline depth), lexemesFrom?_of_step hstep]
  rfl

theorem Layout.Spaced.stops_itemChars (hl : l.Spaced) (depth : Nat) (items : List Json)
    (cs : List Char) : Stops (itemChars l (depth + 1) items ++ (l.newline depth ++ ']' :: cs)) := by
  have hclose : Stops (']' :: cs) := by rintro c ⟨⟩; decide
  cases items with
  | nil => exact (stops_blanks (hl.newline depth)).append hclose
  | cons item items => rintro c ⟨⟩; decide

theorem Layout.Spaced.stops_memberChars (hl : l.Spaced) (depth : Nat)
    (members : List (String × Json)) (cs : List Char) :
    Stops (memberChars l (depth + 1) members ++ (l.newline depth ++ '}' :: cs)) := by
  have hclose : Stops ('}' :: cs) := by rintro c ⟨⟩; decide
  cases members with
  | nil => exact (stops_blanks (hl.newline depth)).append hclose
  | cons m members => rintro c ⟨⟩; decide

/-- The other items and the end of an array. -/
theorem lexemesFrom?_itemChars (hl : l.Spaced) {items : List Json}
    (hitems : ∀ j ∈ items, CutsIntoParts l j) (depth : Nat) (cs : List Char) :
    lexemesFrom? .between (itemChars l (depth + 1) items ++ (l.newline depth ++ ']' :: cs)) =
      (lexemesFrom? .between cs).map (itemParts items ++ .endArray :: ·) := by
  have hclose : LexMode.step .between ']' = some (.between, [.endArray]) := rfl
  have hcomma : LexMode.step .between ',' = some (.between, [.comma]) := rfl
  induction items with
  | nil => exact hl.lexemesFrom?_close hclose depth cs
  | cons item items ih =>
    rw [List.forall_mem_cons] at hitems
    simp only [itemChars, List.cons_append, List.append_assoc]
    rw [lexemesFrom?_of_step hcomma, lexemesFrom?_blanks (hl.newline _),
      hitems.1 _ (hl.stops_itemChars depth items cs), ih hitems.2]
    simp [itemParts, Function.comp_def]

/-- A member is cut into its name, the colon and the parts of its value. -/
theorem lexemesFrom?_member (hl : l.Spaced) {name : String} {value : Json}
    (hname : ∃ s, name = escape s) (hvalue : CutsIntoParts l value) (depth : Nat) {cs : List Char}
    (hcs : Stops cs) :
    lexemesFrom? .between (quoted name ++ (l.colon ++ (value.chars l depth ++ cs))) =
      (lexemesFrom? .between cs).map fun rest =>
        .scalar (.string name) :: .colon :: (value.parts ++ rest) := by
  obtain ⟨s, rfl⟩ := hname
  rw [lexemesFrom?_quoted, hl.lexemesFrom?_colon, hvalue depth hcs]
  simp [Function.comp_def, ofString]

/-- The other members and the end of an object. -/
theorem lexemesFrom?_memberChars (hl : l.Spaced) {members : List (String × Json)}
    (hnames : ∀ m ∈ members, ∃ s, m.1 = escape s) (hvalues : ∀ m ∈ members, CutsIntoParts l m.2)
    (depth : Nat) (cs : List Char) :
    lexemesFrom? .between (memberChars l (depth + 1) members ++ (l.newline depth ++ '}' :: cs)) =
      (lexemesFrom? .between cs).map (memberParts members ++ .endObject :: ·) := by
  have hclose : LexMode.step .between '}' = some (.between, [.endObject]) := rfl
  have hcomma : LexMode.step .between ',' = some (.between, [.comma]) := rfl
  induction members with
  | nil => exact hl.lexemesFrom?_close hclose depth cs
  | cons m members ih =>
    rw [List.forall_mem_cons] at hnames hvalues
    simp only [memberChars, List.cons_append, List.append_assoc]
    rw [lexemesFrom?_of_step hcomma, lexemesFrom?_blanks (hl.newline _),
      lexemesFrom?_member hl hnames.1 hvalues.1 _ (hl.stops_memberChars depth members cs),
      ih hnames.2 hvalues.2]
    simp [memberParts, Function.comp_def]

/-- The three names are read letter by letter. -/
theorem cutsIntoParts_null : CutsIntoParts l .null := fun depth cs _ => by
  simp [chars, parts, lexemesFrom?, LexMode.step, LexMode.start, Function.comp_def]

theorem cutsIntoParts_bool (b : Bool) : CutsIntoParts l (.bool b) := fun depth cs _ => by
  cases b <;> simp [chars, parts, lexemesFrom?, LexMode.step, LexMode.start, Function.comp_def]

theorem cutsIntoParts_array (hl : l.Spaced) {items : List Json}
    (hitems : ∀ j ∈ items, CutsIntoParts l j) : CutsIntoParts l (.array items) := by
  have hopen : LexMode.step .between '[' = some (.between, [.beginArray]) := rfl
  have hclose : LexMode.step .between ']' = some (.between, [.endArray]) := rfl
  intro depth cs _
  cases items with
  | nil =>
    show lexemesFrom? .between ('[' :: ']' :: cs) = _
    rw [lexemesFrom?_of_step hopen, lexemesFrom?_of_step hclose, Option.map_map]
    rfl
  | cons item items =>
    rw [List.forall_mem_cons] at hitems
    simp only [chars, List.cons_append, List.append_assoc, List.nil_append]
    rw [lexemesFrom?_of_step hopen, lexemesFrom?_blanks (hl.newline _),
      hitems.1 _ (hl.stops_itemChars depth items cs), lexemesFrom?_itemChars hl hitems.2]
    simp [parts, Function.comp_def]

theorem cutsIntoParts_object (hl : l.Spaced) {members : List (String × Json)}
    (hnames : ∀ m ∈ members, ∃ s, m.1 = escape s) (hvalues : ∀ m ∈ members, CutsIntoParts l m.2) :
    CutsIntoParts l (.object members) := by
  have hopen : LexMode.step .between '{' = some (.between, [.beginObject]) := rfl
  have hclose : LexMode.step .between '}' = some (.between, [.endObject]) := rfl
  intro depth cs _
  cases members with
  | nil =>
    show lexemesFrom? .between ('{' :: '}' :: cs) = _
    rw [lexemesFrom?_of_step hopen, lexemesFrom?_of_step hclose, Option.map_map]
    rfl
  | cons m members =>
    rw [List.forall_mem_cons] at hnames hvalues
    simp only [chars, List.cons_append, List.append_assoc, List.nil_append]
    rw [lexemesFrom?_of_step hopen, lexemesFrom?_blanks (hl.newline _),
      lexemesFrom?_member hl hnames.1 hvalues.1 _ (hl.stops_memberChars depth members cs),
      lexemesFrom?_memberChars hl hnames.2 hvalues.2]
    simp [parts, Function.comp_def]

theorem Written.cutsIntoParts {j : Json} (h : Written j) (hl : l.Spaced) : CutsIntoParts l j := by
  induction h with
  | null => exact cutsIntoParts_null
  | bool b => exact cutsIntoParts_bool b
  | number n => exact fun depth cs hcs => lexemesFrom?_ofNat n hcs
  | string s => exact fun depth cs _ => lexemesFrom?_quoted s cs
  | array _ ih => exact cutsIntoParts_array hl ih
  | object hnames _ ih => exact cutsIntoParts_object hl hnames ih

/-- A written value is read back, in any layout and with blanks behind it. -/
theorem parse?_chars {j : Json} (h : Written j) (hl : l.Spaced) (depth : Nat)
    {blanks : List Char} (hblanks : ∀ c ∈ blanks, IsBlank c) :
    parse? (String.ofList (j.chars l depth ++ blanks)) = some j := by
  have hend : lexemesFrom? .between blanks = some [] := by
    rw [← List.append_nil blanks, lexemesFrom?_blanks hblanks]
    rfl
  have hparts : lexemes? (j.chars l depth ++ blanks) = some j.parts := by
    rw [lexemes?_eq, h.cutsIntoParts hl depth (stops_blanks hblanks), hend, Option.map_some,
      List.append_nil]
  rw [parse?, String.toList_ofList, hparts]
  exact read_parts j

end

theorem parse?_compact {j : Json} (h : Written j) : parse? j.compact = some j := by
  have hparse := parse?_chars h Layout.spaced_compact 0 (List.forall_mem_nil _)
  rwa [List.append_nil] at hparse

theorem parse?_pretty {j : Json} (h : Written j) : parse? j.pretty = some j := by
  have hparse := parse?_chars h Layout.spaced_pretty 0 (List.forall_mem_nil _)
  rwa [List.append_nil] at hparse

/-- A pretty value on lines of its own, the last of which is ended. -/
theorem parse?_pretty_line {j : Json} (h : Written j) : parse? (j.pretty ++ "\n") = some j := by
  have hline : ∀ c ∈ ['\n'], IsBlank c := by simp [IsBlank]
  have hparse := parse?_chars h Layout.spaced_pretty 0 hline
  rwa [String.ofList_append] at hparse

end BookIndex.Json
