import BookIndex.Json

/-!
# Json.Quoted — text between quotes

`escape` writes text so that it can stand between quotes: quotes, backslashes and control characters
are escaped and all else stands for itself.  `unescape?` reads every escape JSON knows.  A character
beyond the first plane may be written as two escapes, a high surrogate and a low one; a surrogate
without its partner is no text.
-/

namespace BookIndex.Json

/-- A character as it stands between quotes. -/
def escapeChar (c : Char) : List Char :=
  if c = '"' then ['\\', '"']
  else if c = '\\' then ['\\', '\\']
  else if c = '\x08' then ['\\', 'b']
  else if c = '\x0c' then ['\\', 'f']
  else if c = '\n' then ['\\', 'n']
  else if c = '\r' then ['\\', 'r']
  else if c = '\t' then ['\\', 't']
  else if c.toNat < 0x20 then
    ['\\', 'u', '0', '0', Nat.digitChar (c.toNat / 16), Nat.digitChar (c.toNat % 16)]
  else [c]

/-- Text as it stands between quotes. -/
def escape (s : String) : String :=
  String.ofList (s.toList.flatMap escapeChar)

/-- The string value of a text. -/
def ofString (s : String) : Json :=
  .string (escape s)

/-- The string value of a text, or null. -/
def ofString? : Option String → Json
  | none => .null
  | some s => ofString s

/-- The value of a hexadecimal digit. -/
def hexDigit? (c : Char) : Option Nat :=
  if '0' ≤ c ∧ c ≤ '9' then some (c.toNat - 48)
  else if 'a' ≤ c ∧ c ≤ 'f' then some (c.toNat - 87)
  else if 'A' ≤ c ∧ c ≤ 'F' then some (c.toNat - 55)
  else none

/-- The character that a backslash and one more character stand for. -/
def shortEscape? (c : Char) : Option Char :=
  if c = '"' ∨ c = '\\' ∨ c = '/' then some c
  else if c = 'b' then some '\x08'
  else if c = 'f' then some '\x0c'
  else if c = 'n' then some '\n'
  else if c = 'r' then some '\r'
  else if c = 't' then some '\t'
  else none

/-- What the characters read last have begun; a high surrogate waits for its partner. -/
inductive Unescape where
  | plain
  | backslash (high : Option Nat)
  | hex (high : Option Nat) (left : Nat) (value : Nat)
  | partner (high : Nat)

namespace Unescape

/-- The code unit `value` after the surrogate `high`, if there is one. -/
def unit (high : Option Nat) (value : Nat) : Option (Unescape × List Char) :=
  let isLow := 0xDC00 ≤ value ∧ value ≤ 0xDFFF
  match high with
  | some high =>
    if isLow then
      some (plain, [Char.ofNat (0x10000 + (high - 0xD800) * 0x400 + (value - 0xDC00))])
    else none
  | none =>
    if isLow then none
    else if 0xD800 ≤ value ∧ value ≤ 0xDBFF then some (partner value, [])
    else some (plain, [Char.ofNat value])

/-- The state after `c`, and the text that `c` completes. -/
def step : Unescape → Char → Option (Unescape × List Char)
  | plain, c => if c = '\\' then some (backslash none, []) else some (plain, [c])
  | backslash none, c =>
    if c = 'u' then some (hex none 4 0, [])
    else (shortEscape? c).map fun d => (plain, [d])
  | backslash (some high), c => if c = 'u' then some (hex (some high) 4 0, []) else none
  | hex high left value, c =>
    match hexDigit? c with
    | none => none
    | some d =>
      if left ≤ 1 then unit high (16 * value + d)
      else some (hex high (left - 1) (16 * value + d), [])
  | partner high, c => if c = '\\' then some (backslash (some high), []) else none

/-- One character of a run, with the text so far kept last character first. -/
def advance (state : Unescape × List Char) (c : Char) : Option (Unescape × List Char) :=
  (state.1.step c).map fun next => (next.1, next.2.reverse ++ state.2)

end Unescape

/-- The text that the characters between quotes stand for. -/
def unescape? (body : String) : Option String :=
  match body.toList.foldlM Unescape.advance (.plain, []) with
  | some (.plain, text) => some (String.ofList text.reverse)
  | _ => none

/-- The text of a string value. -/
def text? : Json → Option String
  | .string body => unescape? body
  | _ => none

end BookIndex.Json
