/-
# File systems

What is asked of a file system.  The answers are given in a monad, so that the same steps run on
the disk and on a file system that is a value.  A walk comes upon directories and links as well as
files; who wants the files only has to leave the others out (`Found.ofFiles`).
-/
import PluginFacts.Files.Error
import PluginFacts.Text.Utf8

namespace PluginFacts

/-- What kind of thing is at a place in a file system. -/
inductive EntryKind where
  /-- A file with a content. -/
  | file
  /-- A directory. -/
  | directory
  /-- A link, or something else that is neither. -/
  | other
deriving DecidableEq, Repr

/-- Something that is come upon on a walk through a directory. -/
structure Found where
  /-- The names that lead to it from the directory. -/
  names : List String
  /-- What it is. -/
  kind : EntryKind
deriving DecidableEq, Repr

/-- What is asked of a file system. -/
structure FileSystem (m : Type → Type) where
  /-- Whether there is something at a path. -/
  isPresent : String → m Bool
  /-- Whether there is a directory at a path. -/
  isDirectory : String → m Bool
  /-- A directory and everything below it, in any order.  Links below the directory are not
  followed. -/
  walk : String → m (List Found)
  /-- How many bytes the content of a file has. -/
  size : String → m (Except FileError Nat)
  /-- The content of a file. -/
  read : String → m (Except FileError (List UInt8))
  /-- Replaces the content of a file. -/
  write : String → String → m (Except FileError Unit)
  /-- The names that lead from the root to a path without links, if there is something at it. -/
  location? : String → m (Option (List String))

/-- The files among what a walk came upon, by the names that lead to them. -/
def Found.ofFiles (walk : List Found) : List (List String) :=
  (walk.filter (·.kind = .file)).map (·.names)

/-- The content of a file that is a text. -/
def FileSystem.readText {m : Type → Type} [Monad m] (fs : FileSystem m) (path : String) :
    m (Except FileError String) := do
  match ← fs.read path with
  | .error e => return .error e
  | .ok bytes =>
    match Text.Utf8.decode? bytes with
    | some text => return .ok text
    | none => return .error .notText

end PluginFacts
