import BookIndex.Fragment
import BookIndex.Token

/-!
# Expander — what control sequences stand for

An expander knows commands that take a fixed number of arguments and names that stand for fixed
text.  The latest definition of a name holds.  `standard` knows the usual font commands, cross
references and a few symbols.
-/

namespace BookIndex

/-- Definitions of control sequences, the latest first. -/
structure Expander where
  arities : List (String × Nat)
  replacements : List (String × String)

namespace Expander

/-- The command `name` takes `arity` arguments from now on. -/
def define (e : Expander) (name : String) (arity : Nat) : Expander :=
  { e with arities := (name, arity) :: e.arities }

/-- `name` stands for `text` from now on. -/
def replace (e : Expander) (name text : String) : Expander :=
  { e with replacements := (name, text) :: e.replacements }

/-- The number of arguments of a command that has a definition. -/
def arity? (e : Expander) (name : String) : Option Nat :=
  e.arities.lookup name

/-- The text that a name stands for. -/
def replacement? (e : Expander) (name : String) : Option String :=
  e.replacements.lookup name

/-- Font commands take the text they set, and cross references take their target and the page
number. -/
def standard : Expander where
  arities := [("see", 2), ("seealso", 2), ("textbf", 1), ("textit", 1), ("textsl", 1),
    ("textsc", 1), ("textsf", 1), ("texttt", 1), ("textrm", 1), ("emph", 1), ("underline", 1),
    ("hyperpage", 1)]
  replacements := [("TeX", "TeX"), ("LaTeX", "LaTeX"), ("ldots", "..."), ("textbackslash", "\\")]

/-- The node that a control sequence stands for, unless it is a command: the placeholder of the
page number, a replacement text, or the name itself if it is not a word. -/
def symbol? (e : Expander) (name : String) : Option Inline :=
  if name = Token.pageNumberName then some .pageNumber
  else match e.replacement? name with
    | some text => some (.text text)
    | none => if name.toList.all Text.isAlphabetic then none else some (.text name)

/-- A token expanded by itself. -/
def alone (e : Expander) : Token → Fragment
  | .char c _ => [.text (String.singleton c)]
  | .control name =>
    match e.symbol? name with
    | some node => Fragment.ofNodes [node]
    | none => [.command name []]

@[simp] theorem arity?_define (e : Expander) (name : String) (arity : Nat) :
    (e.define name arity).arity? name = some arity := by
  simp [arity?, define]

@[simp] theorem replacement?_replace (e : Expander) (name text : String) :
    (e.replace name text).replacement? name = some text := by
  simp [replacement?, replace]

@[simp] theorem symbol?_pageNumberName (e : Expander) :
    e.symbol? Token.pageNumberName = some .pageNumber := by
  simp [symbol?]

end Expander

end BookIndex
