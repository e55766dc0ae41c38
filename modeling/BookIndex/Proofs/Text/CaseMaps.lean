import BookIndex.Text.Case
import Mathlib

/-!
# Text.CaseMaps — case mappings within ASCII and beyond it

The small and the capital form of an ASCII character are one ASCII character each.  Beyond ASCII the
tables decide, and a few of their entries lead back to ASCII, such as that of the Kelvin sign.  Which ones
do is read off the entries, a whole run at a time (`le_toNat_of_mem_caseMap`).
-/

namespace BookIndex.Text

/-! ### Within ASCII -/

/-- A property of all ASCII characters, checked one by one. -/
theorem forall_ascii {p : Char → Prop} (hall : ∀ n < 128, p (Char.ofNat n)) {c : Char}
    (hc : c.toNat < 128) : p c := by
  have h := hall c.toNat hc
  rwa [Char.ofNat_toNat] at h

theorem toNat_toLower_lt {c : Char} (hc : c.toNat < 128) : c.toLower.toNat < 128 :=
  forall_ascii (p := fun c => c.toLower.toNat < 128) (by decide +kernel) hc

theorem toNat_toUpper_lt {c : Char} (hc : c.toNat < 128) : c.toUpper.toNat < 128 :=
  forall_ascii (p := fun c => c.toUpper.toNat < 128) (by decide +kernel) hc

/-- ASCII text stays ASCII text in upper case. -/
theorem toNat_lt_of_mem_upper {s : String} (hs : ∀ c ∈ s.toList, c.toNat < 128) {d : Char}
    (hd : d ∈ (upper s).toList) : d.toNat < 128 := by
  rw [toList_upper, List.mem_flatMap] at hd
  obtain ⟨c, hmem, hd⟩ := hd
  rw [upperChar_of_ascii (hs c hmem), List.mem_singleton] at hd
  rw [hd]
  exact toNat_toUpper_lt (hs c hmem)

/-! ### Beyond ASCII -/

/-- The images of the code points of the run are characters beyond ASCII. -/
def CaseRun.Beyond (r : CaseRun) : Prop :=
  128 ≤ r.first + r.shift ∧
    (r.last + r.shift < 0xD800 ∨ 0xDFFF < r.first + r.shift ∧ r.last + r.shift < 0x110000)

instance (r : CaseRun) : Decidable r.Beyond :=
  inferInstanceAs (Decidable (_ ∧ _))

theorem CaseRun.Beyond.le_toNat {r : CaseRun} (hr : r.Beyond) {n : Nat} (hcovers : r.covers n = true) :
    128 ≤ (Char.ofNat (n + r.shift).toNat).toNat := by
  obtain ⟨hfirst, hvalid⟩ := hr
  simp only [covers, Bool.and_eq_true, decide_eq_true_eq] at hcovers
  obtain ⟨⟨hlow, hhigh⟩, -⟩ := hcovers
  have hchar : (n + r.shift).toNat.isValidChar := by
    unfold Nat.isValidChar
    omega
  rw [Char.toNat_ofNat, if_pos hchar]
  omega

variable {expansions : List (Nat × List Nat)} {runs : List CaseRun} {spared : Nat → Bool}

/-- The tables map all characters beyond ASCII to such characters, with the exception of those whose
code points are `spared`. -/
def BeyondExcept (spared : Nat → Bool) (expansions : List (Nat × List Nat)) (runs : List CaseRun) :
    Prop :=
  (∀ e ∈ expansions, (∀ m ∈ e.2, 128 ≤ (Char.ofNat m).toNat) ∨ spared e.1 = true) ∧
    ∀ r ∈ runs, r.Beyond ∨ r.first = r.last ∧ spared r.first = true

instance : Decidable (BeyondExcept spared expansions runs) :=
  inferInstanceAs (Decidable (_ ∧ _))

theorem le_toNat_of_mem_caseMap (htables : BeyondExcept spared expansions runs) {c d : Char}
    (hc : 128 ≤ c.toNat) (hspared : spared c.toNat = false) (hd : d ∈ caseMap expansions runs c.toNat) :
    128 ≤ d.toNat := by
  obtain ⟨hexpansions, hruns⟩ := htables
  unfold caseMap at hd
  cases hlookup : expansions.lookup c.toNat with
  | some image =>
    rw [hlookup, List.mem_map] at hd
    obtain ⟨m, hm, rfl⟩ := hd
    obtain ⟨before, after, rfl, -⟩ := List.lookup_eq_some_iff.1 hlookup
    rcases hexpansions (c.toNat, image) (by simp) with hbeyond | hexempt
    · exact hbeyond m hm
    · rw [hspared] at hexempt
      cases hexempt
  | none =>
    rw [hlookup, List.mem_singleton] at hd
    subst hd
    unfold CaseRun.apply
    cases hfind : runs.find? (·.covers c.toNat) with
    | none =>
      dsimp only
      rwa [Char.ofNat_toNat]
    | some r =>
      have hcovers : r.covers c.toNat = true := by simpa using List.find?_some hfind
      rcases hruns r (List.mem_of_find?_eq_some hfind) with hbeyond | ⟨hsingle, hexempt⟩
      · exact hbeyond.le_toNat hcovers
      · have hcode : c.toNat = r.first := by
          simp only [CaseRun.covers, Bool.and_eq_true, decide_eq_true_eq] at hcovers
          omega
        rw [hcode, hexempt] at hspared
        cases hspared

/-- No character vanishes in lower case. -/
theorem lowerChar_ne_nil (c : Char) : lowerChar c ≠ [] := by
  have htable : ∀ e ∈ lowerExpansions, e.2 ≠ [] := by decide +kernel
  unfold lowerChar
  split
  · exact List.cons_ne_nil _ _
  · unfold caseMap
    cases hlookup : lowerExpansions.lookup c.toNat with
    | none => exact List.cons_ne_nil _ _
    | some image =>
      obtain ⟨before, after, htab, -⟩ := List.lookup_eq_some_iff.1 hlookup
      have himage := htable (c.toNat, image) (by simp [htab])
      simpa using himage

/-- Text that begins in ASCII does so in lower case. -/
theorem lowerChars_cons_of_ascii {c : Char} (hc : c.toNat < 128) (before after : List Char) :
    lowerChars before (c :: after) = c.toLower :: lowerChars (c :: before) after := by
  have hsigma : c ≠ 'Σ' := by
    rintro rfl
    exact absurd hc (by decide)
  rw [lowerChars, if_neg hsigma, lowerChar_of_ascii hc, List.singleton_append]

/-- Text that begins beyond ASCII, also in lower case, does so before all its characters are mapped
together. -/
theorem exists_lowerChars_cons_of_beyond {c : Char} (hc : ∀ d ∈ lowerChar c, 128 ≤ d.toNat)
    (before after : List Char) : ∃ first rest,
      lowerChars before (c :: after) = first :: rest ∧ 128 ≤ first.toNat := by
  rw [lowerChars]
  by_cases hsigma : c = 'Σ'
  · rw [if_pos hsigma]
    refine ⟨lowerSigma before after, _, rfl, ?_⟩
    unfold lowerSigma
    split <;> decide
  · rw [if_neg hsigma]
    obtain ⟨first, rest, hlower⟩ := List.exists_cons_of_ne_nil (lowerChar_ne_nil c)
    rw [hlower] at hc ⊢
    exact ⟨first, _, rfl, hc first (List.mem_cons_self ..)⟩

end BookIndex.Text
