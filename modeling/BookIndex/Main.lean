import BookIndex.Cli

/-!
# Main — the command line program

The files that a command line may read are read first; the rest is `Cli.run`.
-/

namespace BookIndex.Cli

/-- The files that a command reads, where this one holds the configuration if no other is named. -/
def Command.paths (configPath : String) : Command → List String
  | build paths options => options.config.getD configPath :: paths
  | parse _ _ => []
  | config path => [path.getD configPath]

/-- What is found at a path of the file system. -/
def contentsAt (path : String) : IO Contents := do
  try
    return .ofBytes (← IO.FS.readBinFile path)
  catch
    | .noFileOrDirectory .. => return .missing
    | _ => return .unreadable

/-- The directory of configurations. -/
def configDirectory : IO String := do
  match ← IO.getEnv "XDG_CONFIG_HOME" with
  | some directory => if directory.startsWith "/" then return directory
  | none => pure ()
  return ((← IO.getEnv "HOME").getD "") ++ "/.config"

/-- Reads the files that a command line may need. -/
def surroundings (words : List String) : IO Surroundings := do
  let configPath := (← configDirectory) ++ "/texindex/config.json"
  let paths := match Command.ofWords words with
    | .ok command => command.paths configPath
    | .error _ => []
  let found ← paths.mapM fun path => return (path, ← contentsAt path)
  return ⟨fun path => (found.lookup path).getD .missing, configPath⟩

end BookIndex.Cli

/-- Runs a command line. -/
def main (words : List String) : IO UInt32 := do
  let outcome := BookIndex.Cli.run (← BookIndex.Cli.surroundings words) words
  match outcome with
  | .written text => IO.print text
  | .failed error => IO.eprintln ("Error: " ++ error.message)
  | .misused => IO.eprintln "error: invalid arguments"
  return UInt32.ofNat outcome.code
