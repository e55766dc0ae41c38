import BookIndex.Config
import BookIndex.Json.Layout
import BookIndex.Json.Reader

/-!
# Config.Json — configurations as JSON

A configuration is written as an object of five members.  It is read from an object, in which
members may be missing and unknown members are passed over, or from an array that holds the values
of the first members in their order.  A missing value is that of the standard configuration.  A
member that occurs twice and a value of the wrong form make the text malformed.
-/

namespace BookIndex

/-- The name of an order. -/
def CollationKind.name : CollationKind → String
  | accentFold => "accent-fold"
  | caseFold => "case-fold"

/-- The order of this name. -/
def CollationKind.ofName? (name : String) : Option CollationKind :=
  if name = "accent-fold" then some accentFold
  else if name = "case-fold" then some caseFold
  else none

/-- The name of a spelling. -/
def TransliterationKind.name : TransliterationKind → String
  | latin => "latin"
  | identity => "identity"

/-- The spelling of this name. -/
def TransliterationKind.ofName? (name : String) : Option TransliterationKind :=
  if name = "latin" then some latin
  else if name = "identity" then some identity
  else none

@[simp] theorem CollationKind.ofName?_name (kind : CollationKind) :
    ofName? kind.name = some kind := by
  cases kind <;> rfl

@[simp] theorem TransliterationKind.ofName?_name (kind : TransliterationKind) :
    ofName? kind.name = some kind := by
  cases kind <;> rfl

namespace Json

variable {α : Type}

/-- A number written with digits alone, below 2 to the 64. -/
def nat? : Json → Option Nat
  | .number literal =>
    if literal.toList.all Char.isDigit then literal.toNat?.filter (· < UInt64.size) else none
  | _ => none

/-- The name of a choice: a string, or an object whose only member has that name and holds null. -/
def choice? : Json → Option String
  | .string body => unescape? body
  | .object [(name, .null)] => unescape? name
  | _ => none

/-- What the member of this name holds; the default if there is none, nothing if there are two. -/
def member? (members : List (String × Json)) (name : String) (read : Json → Option α)
    (default : α) : Option α :=
  match members.filter (·.1 == name) with
  | [] => some default
  | [(_, value)] => read value
  | _ => none

/-- The members of an object, or the items of an array under these names, as far as they reach. -/
def members? (names : List String) : Json → Option (List (String × Json))
  | .object members => members.mapM fun m => (unescape? m.1).map (·, m.2)
  | .array items => if items.length ≤ names.length then some (names.zip items) else none
  | _ => none

end Json

namespace Config

/-- The names of the members in their order. -/
def memberNames : List String :=
  ["index_columns", "alphabet", "title", "collation", "transliteration"]

/-- The configuration as an object. -/
def json (config : Config) : Json :=
  .object [("index_columns", .ofNat config.columns), ("alphabet", .ofString config.alphabet),
    ("title", .ofString config.title), ("collation", .ofString config.order.name),
    ("transliteration", .ofString config.spelling.name)]

/-- The configuration that a value describes. -/
def ofJson? (j : Json) : Option Config := do
  let members ← j.members? memberNames
  let columns ← Json.member? members "index_columns" Json.nat? standard.columns
  let alphabet ← Json.member? members "alphabet" Json.text? standard.alphabet
  let title ← Json.member? members "title" Json.text? standard.title
  let order ← Json.member? members "collation"
    (fun j => j.choice?.bind CollationKind.ofName?) standard.order
  let spelling ← Json.member? members "transliteration"
    (fun j => j.choice?.bind TransliterationKind.ofName?) standard.spelling
  return ⟨columns, alphabet, title, order, spelling⟩

/-- The valid configuration that the text of a file describes. -/
def ofText (path text : String) : Except ConfigError Config :=
  match (Json.parse? text).bind ofJson? with
  | none => .error (.malformed path)
  | some config => config.validate

end Config

end BookIndex
