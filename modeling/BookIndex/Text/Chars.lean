/-!
# Chars — blanks and character-wise replacement

`isBlank` is the Unicode property White_Space.  `trim` drops the blanks at both ends of a text, and
`expand f` writes `f c` for every character `c` of it.
-/

namespace BookIndex.Text

/-- White space: tab to carriage return, the blank, next line, and the space separators, line and
paragraph separators beyond ASCII. -/
def isBlank (c : Char) : Bool :=
  let n := c.toNat
  (decide (9 ≤ n) && decide (n ≤ 13)) || n == 0x20 || n == 0x85 || n == 0xA0 || n == 0x1680 ||
    (decide (0x2000 ≤ n) && decide (n ≤ 0x200A)) || n == 0x2028 || n == 0x2029 || n == 0x202F ||
    n == 0x205F || n == 0x3000

/-- The text without the blanks at its ends. -/
def trim (s : String) : String :=
  String.ofList ((s.toList.dropWhile isBlank).reverse.dropWhile isBlank).reverse

/-- The text with `f c` in the place of each character `c`. -/
def expand (f : Char → List Char) (s : String) : String :=
  String.ofList (s.toList.flatMap f)

@[simp] theorem toList_expand (f : Char → List Char) (s : String) :
    (expand f s).toList = s.toList.flatMap f := by
  simp [expand]

/-- Characters that stand for themselves leave the text as it is. -/
theorem expand_singleton (s : String) : expand (fun c => [c]) s = s := by
  simp [expand]

end BookIndex.Text
