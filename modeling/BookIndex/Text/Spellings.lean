import BookIndex.Text.Romanize

/-!
# Spellings — a table of spellings

Accents fall away, ligatures are spelled out, Greek, Cyrillic and a few letters of other scripts are
written by sound, and invisible characters vanish.  ASCII text keeps all but its control characters.

The table covers Latin with its extensions, basic Greek and Cyrillic, common punctuation and signs,
and sample letters of other scripts.  It holds ASCII text only, and it holds every character beyond
ASCII that has an ASCII letter in its upper-case or lower-case form.
-/

namespace BookIndex.Text

/-- The spellings of consecutive code points, the first of them `first`. -/
structure Spelling where
  first : Nat
  texts : List String

namespace Spelling

/-- Consecutive code points that become one character each. -/
def single (first : Nat) (letters : String) : Spelling :=
  ⟨first, letters.toList.map String.singleton⟩

/-- The spelling of `n`, if `n` is one of the code points. -/
def spell? (s : Spelling) (n : Nat) : Option String :=
  if s.first ≤ n then s.texts[n - s.first]? else none

end Spelling

/-- The spellings of characters beyond ASCII, in the order of their code points. -/
def spellings : List Spelling := [
  ⟨0x0080, ["", "", "", "", "", "", "", "", "", "", "", "", "", "", "", "", "", "", "", "", "",
    "", "", "", "", "", "", "", "", "", "", "", " ", "!", "C/", "PS", "$?", "Y=", "|", "SS", "\"",
    "(c)", "a", "<<", "!", "", "(r)", "-", "deg", "+-"]⟩,
  Spelling.single 0x00B2 "23\x27uP*,1o",
  ⟨0x00BB, [">>", "1/4", "1/2", "3/4"]⟩,
  Spelling.single 0x00BF "?AAAAAA",
  ⟨0x00C6, ["AE"]⟩,
  Spelling.single 0x00C7 "CEEEEIIIIDNOOOOOxOUUUUY",
  ⟨0x00DE, ["Th", "ss"]⟩,
  Spelling.single 0x00E0 "aaaaaa",
  ⟨0x00E6, ["ae"]⟩,
  Spelling.single 0x00E7 "ceeeeiiiidnooooo/ouuuuy",
  ⟨0x00FE, ["th"]⟩,
  Spelling.single 0x00FF "yAaAaAaCcCcCcCcDdDdEeEeEeEeEeGgGgGgGgHhHhIiIiIiIiIi",
  ⟨0x0132, ["IJ", "ij"]⟩,
  Spelling.single 0x0134 "JjKkkLlLlLlLlLlNnNnNn",
  ⟨0x0149, ["\x27n", "ng", "NG"]⟩,
  Spelling.single 0x014C "OoOoOo",
  ⟨0x0152, ["OE", "oe"]⟩,
  Spelling.single 0x0154 "RrRrRrSsSsSsSsTtTtTtUuUuUuUuUuUuWwYyYZzZzZzs",
  ⟨0x01A0, ["O", "o"]⟩,
  ⟨0x01AF, ["U", "u"]⟩,
  ⟨0x01C4, ["DZ", "Dz", "dz"]⟩,
  Spelling.single 0x01CD "AaIiOoUuUuUuUuUu",
  Spelling.single 0x01DE "AaAa",
  Spelling.single 0x01E6 "GgKkOoOo",
  ⟨0x01F0, ["j"]⟩,
  ⟨0x01F4, ["G", "g"]⟩,
  Spelling.single 0x01F8 "NnAa",
  Spelling.single 0x0200 "AaAaEeEeIiIiOoOoRrRrUuUuSsTt",
  ⟨0x021E, ["H", "h"]⟩,
  Spelling.single 0x0226 "AaEeOoOoOoOoYy",
  ⟨0x02B0, ["h"]⟩,
  ⟨0x02BC, ["\x27"]⟩,
  ⟨0x0301, [""]⟩,
  ⟨0x0307, ["", ""]⟩,
  ⟨0x030C, [""]⟩,
  ⟨0x034F, [""]⟩,
  ⟨0x0386, ["A"]⟩,
  Spelling.single 0x0388 "EEI",
  ⟨0x038C, ["O"]⟩,
  Spelling.single 0x0390 "IABGDEZE",
  ⟨0x0398, ["Th"]⟩,
  Spelling.single 0x0399 "IKLMN",
  ⟨0x039E, ["Ks"]⟩,
  Spelling.single 0x039F "OPR",
  Spelling.single 0x03A3 "STU",
  ⟨0x03A6, ["Ph", "Kh", "Ps"]⟩,
  Spelling.single 0x03A9 "OIUaeeiuabgdeze",
  ⟨0x03B8, ["th"]⟩,
  Spelling.single 0x03B9 "iklmnxoprsstu",
  ⟨0x03C6, ["ph", "kh", "ps"]⟩,
  Spelling.single 0x03C9 "oiuo",
  ⟨0x0400, ["Ie", "Io", "Dj", "Gj", "E", "Dz", "I", "Yi", "J", "Lj", "Nj", "Tsh", "Kj", "I", "U",
    "Dzh"]⟩,
  Spelling.single 0x0410 "ABVGDE",
  ⟨0x0416, ["Zh"]⟩,
  Spelling.single 0x0417 "ZIIKLMNOPRSTUF",
  ⟨0x0425, ["Kh", "Ts", "Ch", "Sh", "Shch"]⟩,
  Spelling.single 0x042A "\x27Y\x27E",
  ⟨0x042E, ["Iu", "Ia"]⟩,
  Spelling.single 0x0430 "abvgde",
  ⟨0x0436, ["zh"]⟩,
  Spelling.single 0x0437 "ziiklmnoprstuf",
  ⟨0x0445, ["kh", "ts", "ch", "sh", "shch"]⟩,
  Spelling.single 0x044A "\x27y\x27e",
  ⟨0x044E, ["iu", "ia", "ie", "io", "dj", "gj", "ie", "dz", "i", "yi", "j", "lj", "nj", "tsh",
    "kj", "i", "u", "dzh"]⟩,
  ⟨0x0535, ["E"]⟩,
  ⟨0x0552, ["W"]⟩,
  ⟨0x0565, ["e"]⟩,
  ⟨0x0582, ["w"]⟩,
  ⟨0x0587, ["ew"]⟩,
  Spelling.single 0x05D0 "\x27bg",
  ⟨0x05E9, ["sh"]⟩,
  ⟨0x0628, ["b"]⟩,
  ⟨0x0645, ["m"]⟩,
  ⟨0x0663, ["3"]⟩,
  ⟨0x0924, ["t"]⟩,
  ⟨0x0928, ["n"]⟩,
  ⟨0x092E, ["m"]⟩,
  ⟨0x0938, ["s"]⟩,
  ⟨0x0947, ["e"]⟩,
  ⟨0x094D, [""]⟩,
  ⟨0x0E01, ["k", "kh"]⟩,
  ⟨0x0E04, ["kh"]⟩,
  ⟨0x1680, [" "]⟩,
  ⟨0x180E, [" "]⟩,
  Spelling.single 0x1E00 "AaBbBbBbCcDdDdDdDdDdEeEeEeEeEeFfGgHhHhHhHhHhIiIiKkKkKkLlLlLlLlMm",
  Spelling.single 0x1E40 "MmMmNnNnNnNnOoOoOoOoPpPpRrRrRrRrSsSsSsSsSsTtTtTtTtUuUuUuUuUuVvVv",
  Spelling.single 0x1E80 "WwWwWwWwWwXxXxYyZzZzZzhtwya",
  ⟨0x1E9E, ["Ss"]⟩,
  Spelling.single 0x1EA0 "AaAaAaAaAaAaAaAaAaAaAaAaEeEeEeEeEeEeEeEeIiIiOoOoOoOoOoOoOoOoOoOo",
  Spelling.single 0x1EE0 "OoOoUuUuUuUuUuUuUuYyYyYyYy",
  ⟨0x2003, [" "]⟩,
  ⟨0x200B, [" "]⟩,
  ⟨0x2014, ["--"]⟩,
  ⟨0x201C, ["\"", "\""]⟩,
  ⟨0x2026, ["..."]⟩,
  ⟨0x2028, ["\n", "\n\n"]⟩,
  ⟨0x203F, ["_"]⟩,
  ⟨0x205F, [" "]⟩,
  ⟨0x20AC, ["EUR"]⟩,
  ⟨0x2122, ["tm"]⟩,
  ⟨0x212A, ["K"]⟩,
  ⟨0x2167, ["VIII"]⟩,
  ⟨0x2177, ["viii"]⟩,
  ⟨0x24B6, ["A"]⟩,
  ⟨0x24D0, ["a"]⟩,
  ⟨0x3000, [" "]⟩,
  ⟨0x306F, ["ha"]⟩,
  ⟨0x30CF, ["ha"]⟩,
  ⟨0x30FC, [""]⟩,
  ⟨0x4EAC, ["Jing "]⟩,
  ⟨0x65E5, ["Ri "]⟩,
  ⟨0x672C, ["Ben "]⟩,
  ⟨0x6771, ["Dong "]⟩,
  ⟨0x8A9E, ["Yu "]⟩,
  ⟨0xAC00, ["ga"]⟩,
  ⟨0xB098, ["na"]⟩,
  ⟨0xFB00, ["ff", "fi", "fl", "ffi", "ffl", "st", "st"]⟩,
  ⟨0xFEFF, [""]⟩,
  ⟨0xFF11, ["1"]⟩,
  ⟨0xFF19, ["9"]⟩,
  ⟨0xFF21, ["A"]⟩,
  ⟨0xFF3A, ["Z"]⟩,
  ⟨0xFF3F, ["_"]⟩,
  ⟨0xFF41, ["a"]⟩,
  ⟨0xFF5A, ["z"]⟩,
  ⟨0xFF5E, ["~"]⟩,
  ⟨0xFF71, ["a"]⟩,
  ⟨0xFF8A, ["ha"]⟩,
  ⟨0x10400, ["E"]⟩,
  ⟨0x10428, ["e"]⟩,
  ⟨0x1F600, ["grinning ", "grin "]⟩]

/-- The spelling of a character in the table. -/
def spelling? (c : Char) : Option String :=
  if c.toNat < 32 ∨ c.toNat = 127 then some ""
  else if c.toNat < 127 then some (String.singleton c)
  else spellings.findSome? (·.spell? c.toNat)

/-- The table that the program uses. -/
instance : Romanizer := ⟨spelling?⟩

end BookIndex.Text
