/-!
# Folder — files by their paths

`Contents` is what reading a path may find.  A `Folder` holds files in memory, and a path leads
through it as through a directory: empty components and dots stay where they are, two dots go up,
and only a directory can be gone through.  A path that is absolute or leaves the folder finds
nothing.
-/

namespace BookIndex

/-- What is found at a path. -/
inductive Contents where
  | missing
  /-- A directory, or a file that is no text. -/
  | unreadable
  | text (text : String)
deriving DecidableEq, Repr

/-- What a file of these bytes holds; text is UTF-8. -/
def Contents.ofBytes (bytes : ByteArray) : Contents :=
  match String.fromUTF8? bytes with
  | some s => .text s
  | none => .unreadable

/-- Files with the components of their paths. -/
structure Folder where
  files : List (List String × ByteArray)

namespace Folder

/-- The components of a path. -/
def components (path : String) : List String :=
  path.splitOn "/"

/-- The folder of the files with these paths; of two files with one path the later one counts. -/
def ofFiles (files : List (String × ByteArray)) : Folder :=
  ⟨(files.map fun file =>
    ((components file.1).filter fun name => name != "" && name != ".", file.2)).reverse⟩

/-- The folder has files below this place. -/
def isDirectory (folder : Folder) (place : List String) : Bool :=
  place.isEmpty || folder.files.any fun file =>
    decide (place.length < file.1.length) && place.isPrefixOf file.1

/-- The place one component further, if the way there leads through directories. -/
def enter (folder : Folder) (place : List String) (name : String) : Option (List String) :=
  if !folder.isDirectory place then none
  else if name = "" ∨ name = "." then some place
  else if name = ".." then if place.isEmpty then none else some place.dropLast
  else some (place ++ [name])

/-- What is found at a path. -/
def contents (folder : Folder) (path : String) : Contents :=
  if path = "" ∨ path.toList.head? = some '/' then .missing
  else match (components path).foldlM folder.enter [] with
    | none => .missing
    | some place =>
      match folder.files.lookup place with
      | some bytes => .ofBytes bytes
      | none => if folder.isDirectory place then .unreadable else .missing

end Folder

end BookIndex
