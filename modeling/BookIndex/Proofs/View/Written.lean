import BookIndex.Cli
import BookIndex.Proofs.Json.Written

/-!
# View.Written — what is shown as JSON is read back

All that the command line shows as JSON is written with numbers, names and escaped texts, at every
depth of a heading or a fragment.  So the text of a view holds the value of the view, whatever the
texts in the document are, and one value stands for any number of documents (`parse?_jsonText`).
-/

namespace BookIndex

open Json

mutual

theorem Inline.written_json (node : Inline) : Written node.json := by
  match node with
  | .text s => exact .member (.string _) <| .member (.string s) .empty
  | .command name args =>
    have hargs := Written.array (Fragment.written_jsonArgs args)
    exact .member (.string _) <| .member (.string name) <| .member hargs .empty
  | .group body =>
    have hbody := Written.array (Fragment.written_jsonNodes body)
    exact .member (.string _) <| .member hbody .empty
  | .pageNumber => exact .member (.string _) .empty

theorem Fragment.written_jsonNodes (f : Fragment) : ∀ j ∈ f.jsonNodes, Written j := by
  match f with
  | [] => exact List.forall_mem_nil _
  | node :: rest =>
    exact List.forall_mem_cons.2 ⟨Inline.written_json node, Fragment.written_jsonNodes rest⟩

theorem Fragment.written_jsonArgs (args : List Fragment) :
    ∀ j ∈ Fragment.jsonArgs args, Written j := by
  match args with
  | [] => exact List.forall_mem_nil _
  | arg :: rest =>
    exact List.forall_mem_cons.2
      ⟨.array (Fragment.written_jsonNodes arg), Fragment.written_jsonArgs rest⟩

end

theorem PageView.written_json (page : PageView) : Written page.json :=
  .member (.string _) <| .member (.optional _) <| .member (.optional _) <| .member (.bool _) <|
    .member (.bool _) <| .member (.bool _) <| .member (.string _) .empty

namespace HeadingView

mutual

theorem written_json (h : HeadingView) : Written h.json := by
  match h with
  | ⟨key, markup, sortKey, pages, children⟩ =>
    have hpages : Written (.array (pages.map PageView.json)) :=
      .array (List.forall_mem_map.2 fun page _ => page.written_json)
    have hchildren := written_childMember children
    have hmarkup := Written.array (Fragment.written_jsonNodes markup)
    exact .member (.string key) <| .member hmarkup <| .member (.string sortKey) <|
      .member hpages hchildren

theorem written_childMember (children : List HeadingView) :
    Written (.object (childMember children)) := by
  match children with
  | [] => exact .empty
  | h :: rest =>
    have hall : ∀ j ∈ json h :: jsonAll rest, Written j :=
      List.forall_mem_cons.2 ⟨written_json h, written_jsonAll rest⟩
    exact .member (.array hall) .empty

theorem written_jsonAll (headings : List HeadingView) : ∀ j ∈ jsonAll headings, Written j := by
  match headings with
  | [] => exact List.forall_mem_nil _
  | h :: rest => exact List.forall_mem_cons.2 ⟨written_json h, written_jsonAll rest⟩

end

end HeadingView

theorem GroupView.written_json (g : GroupView) : Written g.json := by
  have hcolumns : Written (.array (g.columns.map fun column =>
      .array (HeadingView.jsonAll column))) :=
    .array (List.forall_mem_map.2 fun column _ => .array (HeadingView.written_jsonAll column))
  exact .member (.string _) <| .member (.string _) <| .member hcolumns .empty

theorem View.written_json (view : View) : Written view.json := by
  have hgroups : Written (.array (view.groups.map GroupView.json)) :=
    .array (List.forall_mem_map.2 fun g _ => g.written_json)
  have hrest : Written (.object [("entries", .ofNat view.entries),
      ("groups", .array (view.groups.map GroupView.json))]) :=
    .member (.number _) <| .member hgroups .empty
  unfold View.json
  cases view.source with
  | none => exact .member (.string _) <| .member (.string _) hrest
  | some name =>
    exact .member (.string _) <| .member (.string _) <| .member (.string name) hrest

namespace Cli

theorem written_entryJson (entry : Entry) : Written (entryJson entry) := by
  have hkeys : Written (.array (entry.levels.map fun l => .ofString l.key.source)) :=
    .array (List.forall_mem_map.2 fun l _ => .string _)
  have hsortKeys : Written (.array (entry.levels.map fun l => .ofString l.sortKey)) :=
    .array (List.forall_mem_map.2 fun l _ => .string _)
  exact .member (.optional _) <| .member hkeys <| .member hsortKeys <| .member (.string _) .empty

/-- What is shown of an entry as JSON is read as the object of the entry. -/
theorem parse?_showEntry (text : String) :
    parse? (showEntry text true) = some (entryJson (.ofTokens .standard (tokenize text) 0)) :=
  parse?_pretty_line (written_entryJson _)

/-- What is built as JSON is read as one value: the view of the only document, or an array of the views
of all documents. -/
theorem parse?_jsonText (views : List View) : parse? (jsonText views) =
    some (match views with
      | [view] => view.json
      | _ => .array (views.map View.json)) := by
  have hall : Written (.array (views.map View.json)) :=
    .array (List.forall_mem_map.2 fun view _ => view.written_json)
  match views with
  | [view] => exact parse?_pretty_line view.written_json
  | [] => exact parse?_pretty_line hall
  | _ :: _ :: _ => exact parse?_pretty_line hall

end Cli

end BookIndex
