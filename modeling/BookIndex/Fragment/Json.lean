import BookIndex.Fragment
import BookIndex.Json.Quoted

/-!
# Fragment.Json — fragments as JSON

A fragment is an array of its nodes.  A node is an object whose member `kind` tells what it is.
-/

namespace BookIndex

mutual

/-- A node as an object. -/
def Inline.json : Inline → Json
  | .text s => .object [("kind", .ofString "text"), ("text", .ofString s)]
  | .command name args =>
    .object [("kind", .ofString "command"), ("name", .ofString name),
      ("args", .array (Fragment.jsonArgs args))]
  | .group body => .object [("kind", .ofString "group"), ("body", .array (Fragment.jsonNodes body))]
  | .pageNumber => .object [("kind", .ofString "page_number")]

/-- The nodes of a fragment, each as an object. -/
def Fragment.jsonNodes : Fragment → List Json
  | [] => []
  | node :: rest => Inline.json node :: Fragment.jsonNodes rest

/-- Arguments, each as an array. -/
def Fragment.jsonArgs : List Fragment → List Json
  | [] => []
  | arg :: rest => .array (Fragment.jsonNodes arg) :: Fragment.jsonArgs rest

end

/-- A fragment as an array of its nodes. -/
def Fragment.json (f : Fragment) : Json :=
  .array (Fragment.jsonNodes f)

end BookIndex
