import BookIndex.Json

/-!
# Json.Layout — writing a value

The compact layout writes no blanks.  The pretty layout puts every item and every member on a line
of its own, two blanks deeper than the container around it, with a blank after the colon.  Empty
containers are written `[]` and `{}` in both.
-/

namespace BookIndex.Json

/-- The blanks that a value is written with. -/
structure Layout where
  /-- What stands before an item at this depth, and before the bracket that closes it. -/
  newline : Nat → List Char
  /-- What stands between the name and the value of a member. -/
  colon : List Char

/-- No blanks. -/
def Layout.compact : Layout := ⟨fun _ => [], [':']⟩

/-- One item or member a line. -/
def Layout.pretty : Layout :=
  ⟨fun depth => '\n' :: List.replicate (2 * depth) ' ', [':', ' ']⟩

/-- The characters between two quotes, with the quotes. -/
def quoted (body : String) : List Char :=
  '"' :: body.toList ++ ['"']

mutual

/-- The text of a value inside of `depth` containers. -/
def chars (l : Layout) (depth : Nat) : Json → List Char
  | .null => ['n', 'u', 'l', 'l']
  | .bool true => ['t', 'r', 'u', 'e']
  | .bool false => ['f', 'a', 'l', 's', 'e']
  | .number literal => literal.toList
  | .string body => quoted body
  | .array [] => ['[', ']']
  | .array (item :: items) =>
    '[' :: l.newline (depth + 1) ++ chars l (depth + 1) item ++
      itemChars l (depth + 1) items ++ l.newline depth ++ [']']
  | .object [] => ['{', '}']
  | .object ((name, value) :: members) =>
    '{' :: l.newline (depth + 1) ++ quoted name ++ l.colon ++ chars l (depth + 1) value ++
      memberChars l (depth + 1) members ++ l.newline depth ++ ['}']

/-- The text of the items after the first. -/
def itemChars (l : Layout) (depth : Nat) : List Json → List Char
  | [] => []
  | item :: items => ',' :: l.newline depth ++ chars l depth item ++ itemChars l depth items

/-- The text of the members after the first. -/
def memberChars (l : Layout) (depth : Nat) : List (String × Json) → List Char
  | [] => []
  | (name, value) :: members =>
    ',' :: l.newline depth ++ quoted name ++ l.colon ++ chars l depth value ++
      memberChars l depth members

end

/-- The value without blanks. -/
def compact (j : Json) : String :=
  String.ofList (j.chars .compact 0)

/-- The value with one item or member a line. -/
def pretty (j : Json) : String :=
  String.ofList (j.chars .pretty 0)

end BookIndex.Json
