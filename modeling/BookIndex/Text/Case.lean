import BookIndex.Text.CaseTables
import BookIndex.Text.Chars

/-!
# Case — upper-case and lower-case text

`upper` maps each character by itself.  `lower` does so too, with one exception: a capital sigma
that ends a word becomes the final sigma.  It ends a word when a cased letter stands before it and
none after it, where case-ignorable characters are passed over in both directions.
-/

namespace BookIndex.Text

/-- The full mapping of `n`: an expansion, or the single image under the runs. -/
def caseMap (expansions : List (Nat × List Nat)) (runs : List CaseRun) (n : Nat) : List Char :=
  match expansions.lookup n with
  | some image => image.map Char.ofNat
  | none => [Char.ofNat (CaseRun.apply runs n)]

/-- The lower-case form of a character by itself. -/
def lowerChar (c : Char) : List Char :=
  if c.toNat < 128 then [c.toLower] else caseMap lowerExpansions lowerRuns c.toNat

/-- The upper-case form of a character. -/
def upperChar (c : Char) : List Char :=
  if c.toNat < 128 then [c.toUpper] else caseMap upperExpansions upperRuns c.toNat

/-- The first character that is not case-ignorable is a cased letter. -/
def meetsCased (cs : List Char) : Bool :=
  match cs.dropWhile fun c => caseIgnorableRanges.contains c.toNat with
  | c :: _ => casedRanges.contains c.toNat
  | [] => false

/-- The small letter for a capital sigma between `before`, nearest character first, and `after`. -/
def lowerSigma (before after : List Char) : Char :=
  if meetsCased before && !meetsCased after then 'ς' else 'σ'

/-- The lower-case form of the characters that follow `before`, whose nearest is first. -/
def lowerChars (before : List Char) : List Char → List Char
  | [] => []
  | c :: after =>
    (if c = 'Σ' then [lowerSigma before after] else lowerChar c) ++ lowerChars (c :: before) after

/-- Text in lower case. -/
def lower (s : String) : String :=
  String.ofList (lowerChars [] s.toList)

/-- Text in upper case. -/
def upper : String → String :=
  expand upperChar

@[simp] theorem toList_lower (s : String) : (lower s).toList = lowerChars [] s.toList := by
  simp [lower]

@[simp] theorem toList_upper (s : String) : (upper s).toList = s.toList.flatMap upperChar :=
  toList_expand ..

theorem lowerChar_of_ascii {c : Char} (h : c.toNat < 128) : lowerChar c = [c.toLower] := by
  simp [lowerChar, h]

theorem upperChar_of_ascii {c : Char} (h : c.toNat < 128) : upperChar c = [c.toUpper] := by
  simp [upperChar, h]

/-- Text without a capital sigma is mapped character by character. -/
theorem lowerChars_of_no_sigma {cs : List Char} (h : 'Σ' ∉ cs) (before : List Char) :
    lowerChars before cs = cs.flatMap lowerChar := by
  induction cs generalizing before with
  | nil => rfl
  | cons c cs ih =>
    have hc : c ≠ 'Σ' := fun e => h (e ▸ List.mem_cons_self ..)
    simp [lowerChars, hc, ih (fun m => h (List.mem_cons_of_mem _ m))]

end BookIndex.Text
