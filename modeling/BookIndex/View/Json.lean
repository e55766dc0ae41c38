import BookIndex.Fragment.Json
import BookIndex.View

/-!
# View.Json — views as JSON

Every part of a view is an object with its fields in their order.  A view without a document name
and a heading without subheadings leave that member out.
-/

namespace BookIndex

/-- The kind of an index in a view. -/
def IndexKind.name : IndexKind → String
  | environment => "environment"
  | command => "command"

/-- A mention as an object. -/
def PageView.json (page : PageView) : Json :=
  .object [("id", .ofString page.id), ("label", .ofString? page.label),
    ("url", .ofString? page.url), ("see", .bool (page.kind == .see)),
    ("seealso", .bool (page.kind == .seeAlso)), ("normal", .bool (page.kind == .normal)),
    ("text", .ofString page.text)]

namespace HeadingView

mutual

/-- A heading as an object. -/
def json : HeadingView → Json
  | ⟨key, markup, sortKey, pages, children⟩ =>
    .object ([("key", .ofString key), ("markup", markup.json), ("sort_key", .ofString sortKey),
      ("pages", .array (pages.map PageView.json))] ++ childMember children)

/-- The member of the subheadings, if there are any. -/
def childMember : List HeadingView → List (String × Json)
  | [] => []
  | h :: rest => [("children", .array (json h :: jsonAll rest))]

/-- Headings, each as an object. -/
def jsonAll : List HeadingView → List Json
  | [] => []
  | h :: rest => json h :: jsonAll rest

end

end HeadingView

/-- A letter group as an object. -/
def GroupView.json (g : GroupView) : Json :=
  .object [("title", .ofString g.label.title), ("id", .ofString g.label.id),
    ("columns", .array (g.columns.map fun column => .array (HeadingView.jsonAll column)))]

/-- An index as an object. -/
def View.json (view : View) : Json :=
  let source := match view.source with
    | none => []
    | some name => [("source", .ofString name)]
  .object ([("title", .ofString view.title), ("kind", .ofString view.kind.name)] ++ source ++
    [("entries", .ofNat view.entries), ("groups", .array (view.groups.map GroupView.json))])

end BookIndex
