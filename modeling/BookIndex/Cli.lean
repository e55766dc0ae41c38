import BookIndex.Cli.Command
import BookIndex.Document.Files
import BookIndex.Text.Spellings
import BookIndex.View.Json
import BookIndex.View.Text

/-!
# Cli — what a command line writes

Running a command is a function of what is found in files: its outcome is the text that it writes,
or the reason why it writes none.  Options override the configuration before it is validated, and
the configuration is settled before a document is read.
-/

namespace BookIndex.Cli

/-- What a command finds around it. -/
structure Surroundings where
  /-- What is found at a path. -/
  found : String → Contents
  /-- The configuration file that counts where none is named, if it exists. -/
  configPath : String

/-- How a run ends. -/
inductive Outcome where
  | written (text : String)
  | failed (error : BuildError)
  /-- The command line is invalid. -/
  | misused
deriving DecidableEq, Repr

/-- The status that a run reports. -/
def Outcome.code : Outcome → Nat
  | written _ => 0
  | failed _ => 1
  | misused => 2

/-- The configuration with the options in the place of its fields. -/
def Options.override (o : Options) (config : Config) : Config :=
  { config with
    columns := o.columns.getD config.columns
    alphabet := o.alphabet.getD config.alphabet
    title := o.title.getD config.title }

/-- The configuration in the named file, or else in the file of the surroundings. -/
def Surroundings.config (s : Surroundings) (path : Option String) : Except ConfigError Config :=
  match path with
  | some path => Config.ofFile s.found path
  | none => Config.ofFileOrStandard s.found s.configPath

/-- One view as an object, or several as an array, and a newline. -/
def jsonText (views : List View) : String :=
  match views with
  | [view] => view.json.pretty ++ "\n"
  | _ => (Json.array (views.map View.json)).pretty ++ "\n"

/-- The views with a blank line between them. -/
def plainText (color : Bool) (views : List View) : String :=
  "\n".intercalate (views.map (View.text color))

/-- The indexes of documents. -/
def build (s : Surroundings) (paths : List String) (o : Options) : Except BuildError String := do
  if paths.isEmpty then throw .noDocuments
  let config ← ((s.config o.config).bind fun config => (o.override config).validate).mapError
    BuildError.config
  let views ← View.ofFiles s.found config paths
  return if o.json then jsonText views else plainText (o.color == some .always) views

/-- A kind where the parts of an entry have a line each. -/
def kindText : EntryKind → String
  | .normal => "Normal"
  | .see => "See"
  | .seeAlso => "SeeAlso"

/-- The parts of an entry as an object. -/
def entryJson (entry : Entry) : Json :=
  .object [("format", .ofString? (entry.format.map (·.source))),
    ("key", .array (entry.levels.map fun l => .ofString l.key.source)),
    ("sort_key", .array (entry.levels.map fun l => .ofString l.sortKey)),
    ("type", .ofString entry.kind.name)]

/-- The parts of an entry, a line each. -/
def entryText (entry : Entry) : String :=
  "key:      " ++ " ! ".intercalate (entry.levels.map (·.key.source)) ++ "\n" ++
    "sort key: " ++ " ! ".intercalate (entry.levels.map (·.sortKey)) ++ "\n" ++
    "format:   " ++ ((entry.format.map (·.source)).getD "-") ++ "\n" ++
    "type:     " ++ kindText entry.kind ++ "\n"

/-- The parts of the entry that a text specifies. -/
def showEntry (text : String) (json : Bool) : String :=
  let entry := Entry.ofTokens .standard (tokenize text) 0
  if json then (entryJson entry).pretty ++ "\n" else entryText entry

/-- The configuration that counts. -/
def showConfig (s : Surroundings) (path : Option String) : Except BuildError String :=
  ((s.config path).map fun config => config.json.pretty ++ "\n").mapError .config

/-- What a command writes. -/
def Command.run (s : Surroundings) : Command → Except BuildError String
  | build paths options => Cli.build s paths options
  | parse entry json => .ok (showEntry entry json)
  | config path => showConfig s path

/-- How the program is used. -/
def usage : String :=
  "Compile document index entries into a sorted, grouped index\n\n" ++
    "Usage: texindex [OPTIONS] [FILES]...\n" ++
    "       texindex build [OPTIONS] <FILES>...\n" ++
    "       texindex parse [--json] <ENTRY>\n" ++
    "       texindex config [--config <CONFIG>]\n" ++
    "       texindex help [COMMAND]\n\n" ++
    "Options:\n" ++
    "  -c, --columns <COLUMNS>    Number of columns per letter group\n" ++
    "      --alphabet <ALPHABET>  Letters that get their own group\n" ++
    "      --title <TITLE>        Index title\n" ++
    "      --config <CONFIG>      Configuration file\n" ++
    "      --json                 Print JSON instead of text\n" ++
    "      --color <COLOR>        When to use colors: auto, always or never\n" ++
    "  -h, --help                 Print help\n"

/-- The outcome of a command line. -/
def run (s : Surroundings) (words : List String) : Outcome :=
  match Command.ofWords words with
  | .error .invalid => .misused
  | .error .help => .written usage
  | .ok command =>
    match command.run s with
    | .ok text => .written text
    | .error error => .failed error

end BookIndex.Cli
