import BookIndex.Cli.Options

/-!
# Cli.Command — what a command line asks for

The first word may name a command.  Without one the words are options and the documents to build, of
which there may be none.  The command for help takes the name of another command, or nothing.
-/

namespace BookIndex.Cli

/-- What a command line asks for. -/
inductive Command where
  /-- Write the indexes of documents. -/
  | build (paths : List String) (options : Options)
  /-- Show the parts of an entry. -/
  | parse (entry : String) (json : Bool)
  /-- Show the configuration. -/
  | config (path : Option String)
deriving DecidableEq

namespace Command

/-- Any options, and paths. -/
def buildForm : Form := ⟨Flag.all, fun _ word => !word.isEmpty⟩

/-- One entry, which may be written as JSON. -/
def parseForm : Form := ⟨[.json], fun before _ => before.isEmpty⟩

/-- No operands, and the option for the configuration file. -/
def configForm : Form := ⟨[.config], fun _ _ => false⟩

/-- Build these documents. -/
def ofBuild (words : List String) : Except Refusal Command :=
  (Arguments.ofWords buildForm words).map fun args => build args.operands args.options

/-- Build these documents, of which there is at least one. -/
def ofBuildSome (words : List String) : Except Refusal Command := do
  let args ← Arguments.ofWords buildForm words
  if args.operands.isEmpty then throw .invalid
  return build args.operands args.options

/-- Show the one entry among the words. -/
def ofParse (words : List String) : Except Refusal Command := do
  let args ← Arguments.ofWords parseForm words
  match args.operands with
  | [entry] => return parse entry args.options.json
  | _ => throw .invalid

/-- Show the configuration. -/
def ofConfig (words : List String) : Except Refusal Command :=
  (Arguments.ofWords configForm words).map fun args => config args.options.config

/-- The names of the commands. -/
def names : List String := ["build", "parse", "config", "help"]

/-- Help, with all commands or with one; there is no help with anything else. -/
def helpWith : List String → Refusal
  | [] => .help
  | [name] => if names.contains name then .help else .invalid
  | _ => .invalid

/-- The command of these words. -/
def ofWords : List String → Except Refusal Command
  | "build" :: words => ofBuildSome words
  | "parse" :: words => ofParse words
  | "config" :: words => ofConfig words
  | "help" :: words => .error (helpWith words)
  | words => ofBuild words

end Command

end BookIndex.Cli
