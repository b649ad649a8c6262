/-
# Trees of files

A file system as a value: files, links and directories by the names that lead to them from the
root.  A path is followed from the working directory, and every link on it is replaced by the path
that the link holds.
-/
import PluginFacts.Files.Path
import PluginFacts.Files.System

namespace PluginFacts

/-- What is at a place in a file system. -/
inductive Entry where
  /-- A file with its content. -/
  | file (bytes : List UInt8)
  /-- A link, which holds a path. -/
  | link (target : String)
  /-- A directory. -/
  | directory
deriving DecidableEq, Repr

/-- What kind of thing an entry is. -/
def Entry.kind : Entry → EntryKind
  | file _ => .file
  | link _ => .other
  | directory => .directory

/-- A file system. -/
structure Tree where
  /-- What there is, by the names that lead to it from the root. -/
  entries : List (List String × Entry)
  /-- The names that lead to the working directory. -/
  current : List String
deriving DecidableEq, Repr

namespace Tree

/-- The places on the way to a place, from the root on. -/
def wayTo (names : List String) : List (List String) :=
  (List.range (names.length + 1)).map (names.take ·)

/-- The file system in which there is nothing but the working directory. -/
def atDirectory (names : List String) : Tree where
  entries := (wayTo names).map (·, .directory)
  current := names

/-- What is at a place. -/
def entry? (t : Tree) (names : List String) : Option Entry :=
  t.entries.lookup names

/-- The file system with something else at a place. -/
def insert (t : Tree) (names : List String) (e : Entry) : Tree :=
  { t with entries := (names, e) :: t.entries.filter (·.1 ≠ names) }

/-- How many links may be followed on the way to a file. -/
def maxLinks : Nat := 40

/-- Where a path leads from a place, and what is there.  There may be nothing, as long as there is
a directory for it. -/
def follow (t : Tree) (links : Nat) (place : List String) :
    (path : List String) → Except FileError (List String × Option Entry)
  | [] => .ok (place, t.entry? place)
  | name :: rest =>
    match t.entry? place with
    | none => .error .notFound
    | some (.file _) | some (.link _) => .error .notDirectory
    | some .directory =>
      if name = "" ∨ name = "." then follow t links place rest
      else if name = ".." then follow t links place.dropLast rest
      else
        match t.entry? (place ++ [name]), links with
        | some (.link _), 0 => .error .tooManyLinks
        | some (.link target), links + 1 =>
          follow t links (if Path.isAbsolute target then [] else place) (Path.parts target ++ rest)
        | _, links => follow t links (place ++ [name]) rest
termination_by path => (links, path.length)

/-- Where a path leads, and what is there. -/
def locate (t : Tree) (path : String) : Except FileError (List String × Option Entry) :=
  if path.isEmpty then .error .notFound
  else t.follow maxLinks (if Path.isAbsolute path then [] else t.current) (Path.parts path)

/-- What is at the end of a path. -/
def find? (t : Tree) (path : String) : Option Entry :=
  match t.locate path with
  | .ok (_, e) => e
  | .error _ => none

/-- What there is at a place and below it. -/
def below (t : Tree) (place : List String) : List Found :=
  t.entries.filterMap fun e => (place.isPrefixOf? e.1).map fun names => ⟨names, e.2.kind⟩

/-- The content of a file. -/
def read (t : Tree) (path : String) : Except FileError (List UInt8) := do
  match (← t.locate path).2 with
  | some (.file bytes) => return bytes
  | some .directory => throw .isDirectory
  | some (.link _) | none => throw .notFound

/-- The file system with another content for a file. -/
def write (t : Tree) (path : String) (bytes : List UInt8) : Except FileError Tree := do
  match ← t.locate path with
  | (_, some .directory) => throw .isDirectory
  | (place, _) => return t.insert place (.file bytes)

/-- The file system with directories for all parts of a path. -/
def withDirectories (t : Tree) (path : List String) : Tree :=
  ((wayTo path).drop 1).foldl (fun t path =>
    match t.follow maxLinks t.current path with
    | .ok (place, none) => t.insert place .directory
    | _ => t) t

/-- The file system with something at the end of a relative path, and directories on the way. -/
def add (t : Tree) (path : String) (e : Entry) : Tree :=
  let parts := Path.parts path
  match e with
  | .directory => t.withDirectories parts
  | e =>
    let t := t.withDirectories parts.dropLast
    match t.follow maxLinks t.current parts.dropLast with
    | .ok (place, _) => t.insert (place ++ parts.getLast?.toList) e
    | .error _ => t

/-- What a file system that is a value answers. -/
def system : FileSystem (StateM Tree) where
  isPresent path := do return ((← get).find? path).isSome
  isDirectory path := do return (← get).find? path == some .directory
  walk path := do
    let t ← get
    match t.locate path with
    | .ok (place, _) => return t.below place
    | .error _ => return []
  size path := do return ((← get).read path).map (·.length)
  read path := do return (← get).read path
  write path text := do
    match (← get).write path text.toUTF8.toList with
    | .ok t => set t; return .ok ()
    | .error e => return .error e
  location? path := do
    match (← get).locate path with
    | .ok (place, some _) => return some place
    | _ => return none

end Tree

end PluginFacts
