import BookIndex.Json.Quoted
import Mathlib.Tactic.SplitIfs

/-!
# Json.Quoted — escapes are read back

A character stands between quotes in one of three forms (`Escaped`), and reading any of them gives the
character and leaves nothing begun.  So what `escape` writes for a text is read as that text
(`unescape?_escape`), whatever characters it has.
-/

namespace BookIndex.Json

/-- The forms in which the character `c` may stand between quotes. -/
inductive Escaped (c : Char) : List Char → Prop
  /-- A backslash and one more character. -/
  | short {d : Char} (hd : shortEscape? d = some c) : Escaped c ['\\', d]
  /-- The code point of a control character in hexadecimal digits, the first two of which are zero. -/
  | codePoint {first second : Char} {m n : Nat} (hfirst : hexDigit? first = some m)
    (hsecond : hexDigit? second = some n) (hvalue : 16 * m + n = c.toNat) (hc : c.toNat < 0x20) :
    Escaped c ['\\', 'u', '0', '0', first, second]
  /-- The character itself. -/
  | plain (hquote : c ≠ '"') (hbackslash : c ≠ '\\') (hc : 0x20 ≤ c.toNat) : Escaped c [c]

theorem hexDigit?_digitChar {n : Nat} (hn : n < 16) : hexDigit? (Nat.digitChar n) = some n := by
  have hdigits : ∀ n < 16, hexDigit? (Nat.digitChar n) = some n := by decide
  exact hdigits n hn

theorem escaped_escapeChar (c : Char) : Escaped c (escapeChar c) := by
  unfold escapeChar
  split_ifs with hquote hbackslash hback hfeed hline hreturn htab hcontrol
  · exact .short (by rw [hquote]; rfl)
  · exact .short (by rw [hbackslash]; rfl)
  · exact .short (by rw [hback]; rfl)
  · exact .short (by rw [hfeed]; rfl)
  · exact .short (by rw [hline]; rfl)
  · exact .short (by rw [hreturn]; rfl)
  · exact .short (by rw [htab]; rfl)
  · exact .codePoint (hexDigit?_digitChar (by omega)) (hexDigit?_digitChar (by omega))
      (Nat.div_add_mod ..) hcontrol
  · exact .plain hquote hbackslash (Nat.le_of_not_lt hcontrol)

theorem ne_of_shortEscape? {c d : Char} (hd : shortEscape? d = some c) : d ≠ 'u' := by
  rintro rfl
  cases hd

namespace Unescape

/-- The code unit of a control character is the character. -/
theorem unit_of_control {c : Char} (hc : c.toNat < 0x20) :
    unit none c.toNat = some (plain, [c]) := by
  have hlow : ¬ (0xDC00 ≤ c.toNat ∧ c.toNat ≤ 0xDFFF) := by omega
  have hhigh : ¬ (0xD800 ≤ c.toNat ∧ c.toNat ≤ 0xDBFF) := by omega
  simp only [unit, if_neg hlow, if_neg hhigh, Char.ofNat_toNat]

/-- Reading a character in any form adds the character to the text. -/
theorem foldlM_of_escaped {c : Char} {cs : List Char} (h : Escaped c cs) (text : List Char) :
    cs.foldlM advance (plain, text) = some (plain, c :: text) := by
  cases h with
  | short hd => simp [advance, step, hd, ne_of_shortEscape? hd]
  | codePoint hfirst hsecond hvalue hc =>
    have hzero : hexDigit? '0' = some 0 := rfl
    have hunit := unit_of_control hc
    simp [advance, step, hzero, hfirst, hsecond, hvalue, hunit]
  | plain _ hbackslash _ => simp [advance, step, hbackslash]

theorem foldlM_escape (cs text : List Char) :
    (cs.flatMap escapeChar).foldlM advance (plain, text) = some (plain, cs.reverse ++ text) := by
  induction cs generalizing text with
  | nil => rfl
  | cons c cs ih =>
    rw [List.flatMap_cons, List.foldlM_append, foldlM_of_escaped (escaped_escapeChar c),
      Option.bind_eq_bind, Option.bind_some, ih, List.reverse_cons, List.append_assoc,
      List.singleton_append]

end Unescape

@[simp] theorem unescape?_escape (s : String) : unescape? (escape s) = some s := by
  have hrun := Unescape.foldlM_escape s.toList []
  simp [unescape?, escape, hrun]

theorem text?_ofString (s : String) : (ofString s).text? = some s :=
  unescape?_escape s

end BookIndex.Json
