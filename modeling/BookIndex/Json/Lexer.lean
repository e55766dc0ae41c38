import BookIndex.Json.Quoted

/-!
# Json.Lexer — the parts of a JSON text

The lexer cuts a text into brackets, separators, names, numbers and strings.  Only blank, tab,
line feed and carriage return may stand between them.  Numbers follow the JSON grammar: no
superfluous zero, and digits after a point and in an exponent.  Strings hold no control characters,
and their escapes are complete; whether they make text is left to `Json.unescape?`.
-/

namespace BookIndex.Json

/-- A part of a JSON text. -/
inductive Lexeme where
  | beginArray
  | endArray
  | beginObject
  | endObject
  | comma
  | colon
  /-- A value that is no container. -/
  | scalar (value : Json)

/-- How much of a number is read. -/
inductive NumberPart where
  | minus
  | zero
  | integer
  | point
  | fraction
  | exponentMark
  | exponentSign
  | exponent
deriving DecidableEq

namespace NumberPart

/-- The part that `c` leads to, if it goes on with the number. -/
def next? (part : NumberPart) (c : Char) : Option NumberPart :=
  match part with
  | minus => if c = '0' then some zero else if c.isDigit then some integer else none
  | zero => if c = '.' then some point else if c = 'e' ∨ c = 'E' then some exponentMark else none
  | integer =>
    if c.isDigit then some integer
    else if c = '.' then some point
    else if c = 'e' ∨ c = 'E' then some exponentMark
    else none
  | point => if c.isDigit then some fraction else none
  | fraction =>
    if c.isDigit then some fraction
    else if c = 'e' ∨ c = 'E' then some exponentMark
    else none
  | exponentMark =>
    if c = '+' ∨ c = '-' then some exponentSign else if c.isDigit then some exponent else none
  | exponentSign | exponent => if c.isDigit then some exponent else none

/-- The number may end here. -/
def isComplete : NumberPart → Bool
  | zero | integer | fraction | exponent => true
  | _ => false

end NumberPart

/-- What the characters read last have begun; texts are kept last character first. -/
inductive LexMode where
  | between
  | number (part : NumberPart) (digits : List Char)
  /-- A name of which these characters are still to come. -/
  | name (rest : List Char) (value : Json)
  | string (body : List Char)
  | backslash (body : List Char)
  /-- An escape of which so many hexadecimal digits are still to come. -/
  | hex (body : List Char) (left : Nat)

namespace LexMode

/-- The number of these digits, last first. -/
def numberLexeme (digits : List Char) : Lexeme :=
  .scalar (.number (String.ofList digits.reverse))

/-- The state after `c` where nothing has begun, and the part that `c` completes. -/
def start (c : Char) : Option (LexMode × List Lexeme) :=
  if c = ' ' ∨ c = '\t' ∨ c = '\n' ∨ c = '\r' then some (between, [])
  else if c = '[' then some (between, [.beginArray])
  else if c = ']' then some (between, [.endArray])
  else if c = '{' then some (between, [.beginObject])
  else if c = '}' then some (between, [.endObject])
  else if c = ',' then some (between, [.comma])
  else if c = ':' then some (between, [.colon])
  else if c = '"' then some (string [], [])
  else if c = '-' then some (number .minus ['-'], [])
  else if c = '0' then some (number .zero ['0'], [])
  else if c.isDigit then some (number .integer [c], [])
  else if c = 'n' then some (name ['u', 'l', 'l'] .null, [])
  else if c = 't' then some (name ['r', 'u', 'e'] (.bool true), [])
  else if c = 'f' then some (name ['a', 'l', 's', 'e'] (.bool false), [])
  else none

/-- The state after `c`, and the parts that `c` completes; nothing if the text is no JSON. -/
def step : LexMode → Char → Option (LexMode × List Lexeme)
  | between, c => start c
  | number part digits, c =>
    match part.next? c with
    | some part' => some (number part' (c :: digits), [])
    | none =>
      if part.isComplete then
        (start c).map fun next => (next.1, numberLexeme digits :: next.2)
      else none
  | name rest value, c =>
    match rest with
    | [] => none
    | [d] => if c = d then some (between, [.scalar value]) else none
    | d :: rest => if c = d then some (name rest value, []) else none
  | string body, c =>
    if c = '"' then some (between, [.scalar (.string (String.ofList body.reverse))])
    else if c = '\\' then some (backslash (c :: body), [])
    else if c.toNat < 0x20 then none
    else some (string (c :: body), [])
  | backslash body, c =>
    if c = 'u' then some (hex (c :: body) 4, [])
    else if (shortEscape? c).isSome then some (string (c :: body), [])
    else none
  | hex body left, c =>
    if (hexDigit? c).isNone then none
    else if left ≤ 1 then some (string (c :: body), [])
    else some (hex (c :: body) (left - 1), [])

/-- The parts that the end of the text completes; nothing if it ends too early. -/
def finish : LexMode → Option (List Lexeme)
  | between => some []
  | number part digits => if part.isComplete then some [numberLexeme digits] else none
  | _ => none

/-- One character of a run, with the parts so far kept last first. -/
def advance (state : LexMode × List Lexeme) (c : Char) : Option (LexMode × List Lexeme) :=
  (state.1.step c).map fun next => (next.1, next.2.reverse ++ state.2)

end LexMode

/-- The parts of a JSON text. -/
def lexemes? (cs : List Char) : Option (List Lexeme) := do
  let (mode, parts) ← cs.foldlM LexMode.advance (.between, [])
  return parts.reverse ++ (← mode.finish)

end BookIndex.Json
