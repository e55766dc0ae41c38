import BookIndex.View

/-!
# View.Text — views as lines of text

A view is first laid out in spans, each in a style or in none, and the spans are then written with
or without terminal escapes.  Every heading has a line of its own, indented by its depth, with its
pages after it.  A rule separates the columns of a group that hold headings.
-/

namespace BookIndex

/-- What a span of text is. -/
inductive Style where
  | title
  | letter
  | rule
  | page
  | crossReference
deriving DecidableEq, Repr

/-- The terminal codes of a style: bold, bold magenta, cyan, green and italic. -/
def Style.codes : Style → List Nat
  | title => [1]
  | letter => [1, 35]
  | rule => [36]
  | page => [32]
  | crossReference => [3]

/-- A run of text in one style. -/
structure Span where
  style : Option Style
  text : String
deriving DecidableEq, Repr

namespace Span

/-- Text in no style. -/
def plain (text : String) : Span := ⟨none, text⟩

/-- Text in a style. -/
def styled (style : Style) (text : String) : Span := ⟨some style, text⟩

/-- The terminal escape for a code; zero resets all styles. -/
def escape (code : Nat) : String :=
  "\x1b[" ++ toString code ++ "m"

/-- The text with escapes that set its style and reset it. -/
def colored (span : Span) : String :=
  match span.style with
  | none => span.text
  | some style =>
    String.join ((0 :: style.codes).map escape) ++ span.text ++ escape 0

/-- The text of the spans, with escapes or without. -/
def write (color : Bool) (spans : List Span) : String :=
  String.join (spans.map fun span => if color then span.colored else span.text)

end Span

/-- A mention, after the comma or the blanks that lead to it. -/
def PageView.spans (page : PageView) : List Span :=
  match page.kind with
  | .normal =>
    .styled .page page.text ::
      match page.label with
      | none => []
      | some label => [.plain (" (" ++ label ++ ")")]
  | .see | .seeAlso => [.styled .crossReference page.text]

/-- The mentions of a heading: two blanks before the first, commas between them. -/
def PageView.spansAll : List PageView → List Span
  | [] => []
  | page :: rest =>
    .plain "  " :: page.spans ++ rest.flatMap fun page => .plain ", " :: page.spans

namespace HeadingView

mutual

/-- The line of a heading, and the lines of its subheadings. -/
def spans (depth : Nat) : HeadingView → List Span
  | ⟨key, _, _, pages, children⟩ =>
    .plain (String.ofList (List.replicate (2 * depth) ' ') ++ key) :: PageView.spansAll pages ++
      .plain "\n" :: spansAll (depth + 1) children

/-- The lines of a forest. -/
def spansAll (depth : Nat) : List HeadingView → List Span
  | [] => []
  | h :: rest => spans depth h ++ spansAll depth rest

end

end HeadingView

/-- A blank line, the title of the group and its columns, with a rule between them. -/
def GroupView.spans (g : GroupView) : List Span :=
  let columns := (g.columns.filter fun column => !column.isEmpty).map (HeadingView.spansAll 1)
  .plain "\n" :: .styled .letter (g.label.title ++ "\n") ::
    [Span.styled .rule "--\n"].intercalate columns

namespace View

/-- The title, with the name of the document if there is one, and the groups. -/
def spans (view : View) : List Span :=
  let title := match view.source with
    | none => view.title
    | some name => view.title ++ " (" ++ name ++ ")"
  .styled .title (title ++ "\n") :: view.groups.flatMap GroupView.spans

/-- The text of a view. -/
def text (color : Bool) (view : View) : String :=
  Span.write color view.spans

end View

end BookIndex
