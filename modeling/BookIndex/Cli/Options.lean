import BookIndex.Config

/-!
# Cli.Options — options among the words of a command line

A word that begins with a hyphen is an option, a lone hyphen apart; after the word of two hyphens
all words are operands.  The value of an option is the rest of its word, behind an equals sign or,
for a short option, at once, or else the next word, if that could not be an option itself.  An
option that is not known, lacks its value, has a value of the wrong form or comes twice makes the
words invalid.  The words are read in one fold, whose state says what the next word is taken for; it
stops at the first word that is invalid or asks for help.
-/

namespace BookIndex.Cli

/-- When text is written in colors; no terminal is ever assumed. -/
inductive ColorChoice where
  | auto
  | always
  | never
deriving DecidableEq, Repr

/-- The choice of this name. -/
def ColorChoice.ofName? (name : String) : Option ColorChoice :=
  if name = "auto" then some auto
  else if name = "always" then some always
  else if name = "never" then some never
  else none

/-- An option by its meaning. -/
inductive Flag where
  | columns
  | alphabet
  | title
  | config
  | json
  | color
deriving DecidableEq, Repr

namespace Flag

/-- All options. -/
def all : List Flag := [columns, alphabet, title, config, json, color]

/-- The long name of an option. -/
def name : Flag → String
  | columns => "columns"
  | alphabet => "alphabet"
  | title => "title"
  | config => "config"
  | json => "json"
  | color => "color"

/-- The short name of an option. -/
def short? : Flag → Option Char
  | columns => some 'c'
  | _ => none

/-- The option is followed by a value. -/
def takesValue : Flag → Bool
  | json => false
  | _ => true

end Flag

/-- What the options of a command line say. -/
structure Options where
  columns : Option Nat := none
  alphabet : Option String := none
  title : Option String := none
  config : Option String := none
  json : Bool := false
  color : Option ColorChoice := none
deriving DecidableEq, Repr

/-- A number below 2 to the 64, in digits that a plus sign may precede. -/
def natural? (s : String) : Option Nat :=
  let digits := match s.toList with
    | '+' :: rest => rest
    | cs => cs
  if digits.isEmpty || !digits.all Char.isDigit then none
  else (String.ofList digits).toNat?.filter (· < UInt64.size)

/-- A value for an option that has none yet. -/
def once? {α : Type} (before value : Option α) : Option (Option α) :=
  match before, value with
  | none, some a => some (some a)
  | _, _ => none

/-- A path has at least one character. -/
def path? (s : String) : Option String :=
  if s.isEmpty then none else some s

/-- The options with one more. -/
def Options.set? (o : Options) (flag : Flag) (value : String) : Option Options :=
  match flag with
  | .columns => (once? o.columns (natural? value)).map ({ o with columns := · })
  | .alphabet => (once? o.alphabet (some value)).map ({ o with alphabet := · })
  | .title => (once? o.title (some value)).map ({ o with title := · })
  | .config => (once? o.config (path? value)).map ({ o with config := · })
  | .json => if o.json then none else some { o with json := true }
  | .color => (once? o.color (ColorChoice.ofName? value)).map ({ o with color := · })

/-- A word of a command line. -/
inductive Word where
  | operand
  /-- Two hyphens. -/
  | endOfOptions
  /-- An option with the value in its own word, if there is one. -/
  | option (flag : Option Flag) (value : Option String)
  /-- The option that asks for help. -/
  | help
deriving DecidableEq

namespace Word

/-- A long option, from the characters behind its hyphens. -/
def ofLong (flags : List Flag) (cs : List Char) : Word :=
  let name := String.ofList (cs.takeWhile (· != '='))
  match cs.dropWhile (· != '=') with
  | [] =>
    if name = "help" then .help else .option (flags.find? fun flag => flag.name == name) none
  | _ :: value =>
    .option (flags.find? fun flag => flag.name == name) (some (String.ofList value))

/-- A short option, from the characters behind its hyphen. -/
def ofShort (flags : List Flag) (c : Char) (cs : List Char) : Word :=
  let value := match cs with
    | [] => none
    | '=' :: rest => some (String.ofList rest)
    | rest => some (String.ofList rest)
  if c = 'h' then .help else .option (flags.find? fun flag => flag.short? == some c) value

/-- The word read with these options. -/
def ofString (flags : List Flag) (s : String) : Word :=
  match s.toList with
  | ['-', '-'] => .endOfOptions
  | '-' :: '-' :: cs => ofLong flags cs
  | '-' :: c :: cs => ofShort flags c cs
  | _ => .operand

end Word

/-- What words may be given. -/
structure Form where
  /-- The options that are known. -/
  flags : List Flag
  /-- A word may be an operand after these. -/
  accepts : List String → String → Bool

/-- Why words give no arguments. -/
inductive Refusal where
  | invalid
  /-- They ask for help instead. -/
  | help
deriving DecidableEq, Repr

/-- The words of a command line, sorted. -/
structure Arguments where
  options : Options
  operands : List String
deriving DecidableEq

/-- What the next word is taken for. -/
inductive Turn where
  | any
  /-- The value of this option. -/
  | value (flag : Flag)
  /-- An operand, whatever it looks like. -/
  | operand

namespace Arguments

/-- No arguments. -/
def empty : Arguments := ⟨{}, []⟩

/-- One more operand. -/
def operand (args : Arguments) (form : Form) (word : String) : Except Refusal Arguments :=
  if form.accepts args.operands word then
    .ok { args with operands := args.operands ++ [word] }
  else .error .invalid

/-- One more option. -/
def option (args : Arguments) (flag : Flag) (value : String) : Except Refusal Arguments :=
  match args.options.set? flag value with
  | some options => .ok { args with options := options }
  | none => .error .invalid

/-- One word more. -/
def read (form : Form) (state : Turn × Arguments) (word : String) :
    Except Refusal (Turn × Arguments) :=
  match state.1, Word.ofString form.flags word with
  | .operand, _ => (state.2.operand form word).map (.operand, ·)
  | .value flag, .operand => (state.2.option flag word).map (.any, ·)
  | .value _, _ => .error .invalid
  | .any, .operand => (state.2.operand form word).map (.any, ·)
  | .any, .endOfOptions => .ok (.operand, state.2)
  | .any, .help => .error .help
  | .any, .option none _ => .error .invalid
  | .any, .option (some flag) none =>
    if flag.takesValue then .ok (.value flag, state.2)
    else (state.2.option flag "").map (.any, ·)
  | .any, .option (some flag) (some value) =>
    if flag.takesValue then (state.2.option flag value).map (.any, ·) else .error .invalid

/-- The arguments that the words give. -/
def ofWords (form : Form) (words : List String) : Except Refusal Arguments :=
  match words.foldlM (read form) (.any, empty) with
  | .error refusal => .error refusal
  | .ok (.value _, _) => .error .invalid
  | .ok (_, args) => .ok args

@[simp] theorem ofWords_nil (form : Form) : ofWords form [] = .ok empty := rfl

end Arguments

end BookIndex.Cli
