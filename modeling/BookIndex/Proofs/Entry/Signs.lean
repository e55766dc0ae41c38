import BookIndex.Entry.Split

/-!
# Entry.Signs — the tokens of an entry without their quote marks

A quote mark does its work before anything else: it vanishes and makes the token after it literal, in
the format as well as in a level.  What is left of the tokens are their signs, and a splitter of
tokens is a splitter of signs (`ofTokens_eq`), which knows nothing of quoting.
-/

namespace BookIndex

/-- A token as an entry reads it, with its meaning unless it is literal. -/
structure Sign where
  mark : Option Mark
  token : Token
deriving DecidableEq

/-- The signs of tokens, where a quote mark may stand before the first one. -/
def signsFrom (quoted : Bool) : List Token → List Sign
  | [] => []
  | t :: ts =>
    if quoted then ⟨none, t⟩ :: signsFrom false ts
    else if Mark.ofToken? t = some .quote then signsFrom true ts
    else ⟨Mark.ofToken? t, t⟩ :: signsFrom false ts

/-- The signs of tokens. -/
def signs (ts : List Token) : List Sign := signsFrom false ts

/-- Tokens that end in a quote mark with nothing to quote, where a quote mark may stand before the
first one. -/
def endsInQuoteFrom (quoted : Bool) : List Token → Bool
  | [] => quoted
  | t :: ts => endsInQuoteFrom (!quoted && Mark.ofToken? t == some .quote) ts

/-- Tokens that end in a quote mark with nothing to quote. -/
def endsInQuote (ts : List Token) : Bool := endsInQuoteFrom false ts

theorem signsFrom_append (quoted : Bool) (ts us : List Token) :
    signsFrom quoted (ts ++ us) =
      signsFrom quoted ts ++ signsFrom (endsInQuoteFrom quoted ts) us := by
  induction ts generalizing quoted with
  | nil => rfl
  | cons t ts ih =>
    cases quoted with
    | true => simp [signsFrom, endsInQuoteFrom, ih]
    | false =>
      by_cases hquote : Mark.ofToken? t = some .quote
      · simp [signsFrom, endsInQuoteFrom, hquote, ih]
      · simp [signsFrom, endsInQuoteFrom, hquote, ih, beq_eq_false_iff_ne.2 hquote]

theorem endsInQuoteFrom_append (quoted : Bool) (ts us : List Token) :
    endsInQuoteFrom quoted (ts ++ us) = endsInQuoteFrom (endsInQuoteFrom quoted ts) us := by
  induction ts generalizing quoted with
  | nil => rfl
  | cons t ts ih => exact ih _

/-- Tokens are read apart from those before them that leave nothing to be quoted. -/
theorem signs_append {ts : List Token} (hts : endsInQuote ts = false) (us : List Token) :
    signs (ts ++ us) = signs ts ++ signs us := by
  rw [signs, signsFrom_append, show endsInQuoteFrom false ts = false from hts]
  rfl

theorem endsInQuote_append {ts : List Token} (hts : endsInQuote ts = false) (us : List Token) :
    endsInQuote (ts ++ us) = endsInQuote us := by
  rw [endsInQuote, endsInQuoteFrom_append, show endsInQuoteFrom false ts = false from hts]
  rfl

theorem signs_cons_of_mark {t : Token} {m : Mark} (ht : Mark.ofToken? t = some m) (hm : m ≠ .quote)
    (ts : List Token) : signs (t :: ts) = ⟨some m, t⟩ :: signs ts := by
  have hquote : Mark.ofToken? t ≠ some .quote := by
    rw [ht]
    exact fun h => hm (Option.some.inj h)
  simp [signs, signsFrom, ht, hm]

namespace Splitter

/-- The last level is closed and the format begins. -/
def beginFormat (s : Splitter) : Splitter := { s.closeLevel with inFormat := true }

/-- The splitter after one more sign. -/
def take (s : Splitter) (x : Sign) : Splitter :=
  if s.inFormat then s.push x.token
  else match x.mark with
    | some .level => if s.keys.length + 1 < maxLevels then s.closeLevel else s.push x.token
    | some .sort => s.closeSortKey
    | some .format => s.beginFormat
    | none | some .quote => s.push x.token

/-- The splitter with nothing to be quoted. -/
def rest (s : Splitter) : Splitter := { s with quoting := false }

theorem finish_rest (s : Splitter) : s.rest.finish = s.finish := rfl

@[simp] theorem inFormat_rest (s : Splitter) : s.rest.inFormat = s.inFormat := rfl

@[simp] theorem keys_rest (s : Splitter) : s.rest.keys = s.keys := rfl

@[simp] theorem rest_push (s : Splitter) (t : Token) : (s.push t).rest = s.rest.push t := rfl

@[simp] theorem rest_closeLevel (s : Splitter) : s.closeLevel.rest = s.rest.closeLevel := rfl

@[simp] theorem rest_closeSortKey (s : Splitter) : s.closeSortKey.rest = s.rest.closeSortKey := rfl

theorem quoting_step (s : Splitter) (t : Token) :
    (s.step t).quoting = endsInQuoteFrom s.quoting [t] := by
  unfold step
  cases hs : s.quoting with
  | true => rfl
  | false =>
    rw [if_neg Bool.false_ne_true]
    cases hmark : Mark.ofToken? t with
    | none => simp [endsInQuoteFrom, hmark, push]
    | some mark =>
      cases mark <;> cases hin : s.inFormat <;>
        simp [endsInQuoteFrom, hmark, push, closeLevel, closeSortKey, hs, apply_ite quoting]

theorem rest_step (s : Splitter) (t : Token) :
    (s.step t).rest = (signsFrom s.quoting [t]).foldl take s.rest := by
  unfold step
  cases hs : s.quoting with
  | true => cases hin : s.inFormat <;> simp [signsFrom, take, hin]
  | false =>
    rw [if_neg Bool.false_ne_true]
    cases hmark : Mark.ofToken? t with
    | none => cases hin : s.inFormat <;> simp [signsFrom, take, hmark, hin]
    | some mark =>
      cases mark with
      | quote =>
        -- It leaves no sign, and nothing but `quoting` is changed.
        simp [signsFrom, hmark, rest]
      | level =>
        by_cases hmax : s.keys.length + 1 < maxLevels <;> cases hin : s.inFormat <;>
          simp [signsFrom, take, hmark, hin, hmax]
      | sort => cases hin : s.inFormat <;> simp [signsFrom, take, hmark, hin]
      | format =>
        have hbegin : ({ s.closeLevel with inFormat := true } : Splitter).rest =
            s.rest.beginFormat := rfl
        cases hin : s.inFormat <;> simp [signsFrom, take, hmark, hin, hbegin]

/-- A run over tokens is a run over their signs. -/
theorem rest_foldl_step (ts : List Token) (s : Splitter) :
    (ts.foldl step s).rest = (signsFrom s.quoting ts).foldl take s.rest := by
  induction ts generalizing s with
  | nil => rfl
  | cons t ts ih =>
    rw [List.foldl_cons, ih, rest_step, quoting_step, ← List.foldl_append, ← signsFrom_append]
    rfl

end Splitter

/-- The parts of an entry are told by its signs. -/
theorem RawEntry.ofTokens_eq (ts : List Token) :
    RawEntry.ofTokens ts = ((signs ts).foldl Splitter.take .start).finish := by
  rw [ofTokens, ← Splitter.finish_rest, Splitter.rest_foldl_step]
  rfl

end BookIndex
