import BookIndex.Config.Json
import BookIndex.Document
import BookIndex.Folder

/-!
# Document.Files — the indexes of documents in files

Files are reached through a function from paths to what is found there.  Every file is a document of
its own, and its view carries its path; the first file that cannot be read stops the whole.
-/

namespace BookIndex

/-- Why documents have no indexes. -/
inductive BuildError where
  | config (error : ConfigError)
  /-- The document cannot be read as text. -/
  | unreadable (path : String)
  | noDocuments
deriving DecidableEq, Repr

/-- The wording of an error. -/
def BuildError.message : BuildError → String
  | config error => error.message
  | unreadable path => "Failed to read " ++ path
  | noDocuments => "no input files (see \x27texindex --help\x27)"

/-- The configuration in a file. -/
def Config.ofFile (found : String → Contents) (path : String) : Except ConfigError Config :=
  match found path with
  | .text text => Config.ofText path text
  | .missing | .unreadable => .error (.unreadable path)

/-- The configuration in a file that need not exist. -/
def Config.ofFileOrStandard (found : String → Contents) (path : String) :
    Except ConfigError Config :=
  match found path with
  | .missing => .ok standard
  | _ => Config.ofFile found path

namespace View

variable [Text.Romanizer]

/-- The index of the document in a file. -/
def ofFile (found : String → Contents) (config : Config) (path : String) :
    Except BuildError View :=
  match found path with
  | .text text => .ok ((View.ofText config text).withSource path)
  | .missing | .unreadable => .error (.unreadable path)

/-- The indexes of the documents in files, in the order of the paths. -/
def ofFiles (found : String → Contents) (config : Config) (paths : List String) :
    Except BuildError (List View) :=
  paths.mapM (ofFile found config)

end View

end BookIndex
