/-
# Directories of classes

The class files below a directory are the inputs of a run.  Descriptors of modules and packages are
no class files; files that are too large are reported and not read.  Inputs are labelled with
their path below the directory and come in the order of the names that lead to them.
-/
import PluginFacts.Files.Path
import PluginFacts.Files.System
import PluginFacts.Input

namespace PluginFacts

/-- What was found in a directory of classes. -/
structure ClassDirectory where
  /-- The class files. -/
  inputs : List ClassInput
  /-- The files that were left out. -/
  malformed : List Malformed
deriving DecidableEq, Repr

namespace ClassDirectory

/-- There is no directory at a path. -/
structure Missing where
  /-- The path. -/
  root : String
deriving DecidableEq, Repr

/-- The wording of the report on a missing directory. -/
def Missing.message (m : Missing) : String :=
  "Class directory does not exist: " ++ m.root

/-- Whether a file of this name should hold a class. -/
def isClassFileName (name : String) : Bool :=
  ".class".toList.isSuffixOf name.toList && name != "module-info.class" &&
    name != "package-info.class"

/-- Whether the names lead to a file that should hold a class. -/
def isClassFile (names : List String) : Bool :=
  names.getLast?.any isClassFileName

/-- The label of the file to which names lead. -/
def origin (names : List String) : String :=
  String.ofList (("/".intercalate names).toList.map fun c => if c = '\\' then '/' else c)

/-- The order of paths, name by name. -/
def le (a b : List String) : Bool :=
  (List.compareLex compare a b).isLE

/-- The files that should hold a class among what a walk came upon, in order. -/
def classFiles (walk : List Found) : List (List String) :=
  ((Found.ofFiles walk).filter isClassFile).mergeSort le

/-- The content of a file, unless it is larger than the limit.  The size is looked at first. -/
def contentWithin {m : Type → Type} [Monad m] (fs : FileSystem m) (limit : Nat) (path : String) :
    m (Except Rejection (List UInt8)) := do
  match ← fs.size path with
  | .error e => return .error (.unmeasured path e)
  | .ok size =>
    if size > limit then return .error (.tooLarge size limit)
    else return (← fs.read path).mapError (.unreadable path)

/-- The input that a file is, given its content or why there is none. -/
def input (names : List String) : Except Rejection (List UInt8) → Except Malformed ClassInput
  | .error cause => .error ⟨origin names, cause⟩
  | .ok bytes => .ok ⟨origin names, bytes⟩

/-- The files of a directory that were read, sorted into inputs and others. -/
def ofResults (results : List (Except Malformed ClassInput)) : ClassDirectory where
  inputs := results.filterMap Except.toOption
  malformed := results.filterMap fun
    | .ok _ => none
    | .error m => some m

/-- Reads the class files below a directory. -/
def read {m : Type → Type} [Monad m] (fs : FileSystem m) (root : String) (limit : Nat) :
    m (Except Missing ClassDirectory) := do
  if ← fs.isDirectory root then
    let results ← (classFiles (← fs.walk root)).mapM fun names => do
      return input names (← contentWithin fs limit (Path.join root names))
    return .ok (ofResults results)
  else return .error ⟨root⟩

end ClassDirectory

end PluginFacts
