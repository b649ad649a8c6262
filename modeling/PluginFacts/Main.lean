/-
# The command line

Runs the program on the disk.
-/
import PluginFacts.CommandLine.Program

namespace PluginFacts.Disk

/-- The error of a file that the system reports. -/
def fileError : IO.Error → FileError
  | .noFileOrDirectory _ _ _ => .notFound
  | .inappropriateType _ 20 _ => .notDirectory
  | .inappropriateType _ 21 _ => .isDirectory
  | e => .other (toString e)

/-- The result of an action, with its error as a value. -/
def attempt {α : Type} (action : IO α) : IO (Except FileError α) := do
  try return .ok (← action)
  catch e => return .error (fileError e)

/-- A directory and everything below it, at most `depth` directories down, without what cannot be
looked at. -/
def below : (depth : Nat) → (names : List String) → IO.FS.DirEntry → IO (List Found)
  | 0, _, _ => return []
  | depth + 1, names, directory => do
    let entries ← try directory.path.readDir catch _ => pure #[]
    let found ← entries.toList.mapM fun e => do
      match ← attempt e.path.symlinkMetadata with
      | .error _ => return []
      | .ok data =>
        match data.type with
        | .file => return [⟨names ++ [e.fileName], .file⟩]
        | .dir => below depth (names ++ [e.fileName]) e
        | _ => return [⟨names ++ [e.fileName], .other⟩]
    return ⟨names, .directory⟩ :: found.flatten

/-- More directories inside one another than a path can name. -/
def maxDepth : Nat := 4096

/-- What the disk answers. -/
def system : FileSystem IO where
  isPresent path := do return (← attempt (IO.FS.realPath path)).toOption.isSome
  isDirectory path := do
    match ← attempt (IO.FS.realPath path) with
    | .ok place => place.isDir
    | .error _ => return false
  walk path := below maxDepth [] ⟨path, "."⟩
  size path := attempt do return (← (← IO.FS.realPath path).metadata).byteSize.toNat
  read path := attempt do return (← IO.FS.readBinFile path).toList
  write path text := attempt (IO.FS.writeFile path text)
  location? path := do
    let place ← attempt (IO.FS.realPath path)
    return place.toOption.map fun place => (Path.parts place.toString).filter (· ≠ "")

/-- The palette for the standard output. -/
def palette : IO Palette := do
  return .ofEnvironment (← IO.getEnv "CLICOLOR_FORCE") (← IO.getEnv "NO_COLOR")
    (← IO.getEnv "CLICOLOR") (← (← IO.getStdout).isTty)

end PluginFacts.Disk

/-- Runs the program on its arguments. -/
def main (args : List String) : IO UInt32 := do
  let out ← PluginFacts.CommandLine.run PluginFacts.Disk.system (← PluginFacts.Disk.palette) args
  IO.eprint out.stderr
  IO.print out.stdout
  return out.exitCode
