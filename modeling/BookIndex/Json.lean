/-!
# Json — values as they are written

A `Json` value is the syntax of a JSON text without its blanks: numbers keep their digits and
strings keep the characters between their quotes, escapes and all.  `Json.Quoted` goes from text to
such characters and back, `Json.Layout` writes a value and `Json.Reader` reads one.
-/

namespace BookIndex

/-- A JSON value, with numbers and strings as they are written. -/
inductive Json where
  | null
  | bool (b : Bool)
  /-- A number, by its digits. -/
  | number (literal : String)
  /-- A string, by what stands between its quotes. -/
  | string (body : String)
  | array (items : List Json)
  /-- An object, with its members in order; names are written as strings are. -/
  | object (members : List (String × Json))
deriving Inhabited

/-- The natural number `n`. -/
def Json.ofNat (n : Nat) : Json :=
  .number (toString n)

end BookIndex
