import BookIndex.Json.Lexer

/-!
# Json.Reader — reading a value

`parse?` reads one value, with nothing but blanks around it.  The containers that are still open are
kept in a list, so a value may be nested as deep as its text is long.
-/

namespace BookIndex.Json

/-- A container that is still open, with its newest member first. -/
inductive Container where
  | array (items : List Json)
  /-- An object with the name of the member whose value comes next. -/
  | object (members : List (String × Json)) (name : String)

/-- What may come next. -/
inductive Expected where
  | value
  /-- A value, or the end of an array that is empty so far. -/
  | firstItem
  | name
  /-- A name, or the end of an object that is empty so far. -/
  | firstName
  | colon
  /-- A comma, or the end of the innermost container. -/
  | more
  /-- The end, after this value. -/
  | nothing (value : Json)

/-- A value being read: what may come next, and the open containers, the innermost first. -/
structure Reader where
  expected : Expected
  containers : List Container

namespace Reader

/-- Before the first part. -/
def start : Reader := ⟨.value, []⟩

/-- A value is complete inside of these containers. -/
def complete (value : Json) : List Container → Reader
  | [] => ⟨.nothing value, []⟩
  | .array items :: around => ⟨.more, .array (value :: items) :: around⟩
  | .object members name :: around => ⟨.more, .object ((name, value) :: members) name :: around⟩

/-- The reader after one more part; nothing if the part may not come next. -/
def step (r : Reader) (part : Lexeme) : Option Reader :=
  match r.expected, part, r.containers with
  | .value, .scalar value, around | .firstItem, .scalar value, around =>
    some (complete value around)
  | .value, .beginArray, around | .firstItem, .beginArray, around =>
    some ⟨.firstItem, .array [] :: around⟩
  | .value, .beginObject, around | .firstItem, .beginObject, around =>
    some ⟨.firstName, .object [] "" :: around⟩
  | .firstItem, .endArray, .array _ :: around => some (complete (.array []) around)
  | .firstName, .endObject, .object _ _ :: around => some (complete (.object []) around)
  | .name, .scalar (.string name), .object members _ :: around
  | .firstName, .scalar (.string name), .object members _ :: around =>
    some ⟨.colon, .object members name :: around⟩
  | .colon, .colon, around => some ⟨.value, around⟩
  | .more, .comma, .array items :: around => some ⟨.value, .array items :: around⟩
  | .more, .comma, .object members name :: around => some ⟨.name, .object members name :: around⟩
  | .more, .endArray, .array items :: around => some (complete (.array items.reverse) around)
  | .more, .endObject, .object members _ :: around =>
    some (complete (.object members.reverse) around)
  | _, _, _ => none

/-- The value, if it is complete. -/
def finish? (r : Reader) : Option Json :=
  match r.expected with
  | .nothing value => some value
  | _ => none

end Reader

/-- The value that a text writes. -/
def parse? (text : String) : Option Json := do
  let parts ← lexemes? text.toList
  let reader ← parts.foldlM Reader.step .start
  reader.finish?

end BookIndex.Json
