/-
# Paths

A path is a text of names between slashes.
-/

namespace PluginFacts.Path

/-- The texts between slashes. -/
def split : List Char → List (List Char)
  | [] => [[]]
  | c :: rest =>
    if c = '/' then [] :: split rest
    else match split rest with
      | [] => [[c]]
      | part :: parts => (c :: part) :: parts

/-- The parts of a path, of which an empty one means the same as a dot. -/
def parts (path : String) : List String :=
  (split path.toList).map String.ofList

/-- Whether a path starts at the root of the file system. -/
def isAbsolute (path : String) : Bool :=
  path.toList.head? == some '/'

/-- The path of a file below a directory. -/
def join (directory : String) (names : List String) : String :=
  let slash := if directory.toList.getLast? == some '/' then "" else "/"
  directory ++ slash ++ "/".intercalate names

/-- What follows the last dot of a file name that does not start with it. -/
def extension? (name : String) : Option String :=
  let reversed := name.toList.reverse
  match reversed.dropWhile (· ≠ '.') with
  | '.' :: _ :: _ => some (String.ofList (reversed.takeWhile (· ≠ '.')).reverse)
  | _ => none

end PluginFacts.Path
