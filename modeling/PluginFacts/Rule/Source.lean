/-
# Rules from files

Rules are read from one rule file, or from all rule files below a directory, in the order of their
paths as texts.  The first thing that is wrong ends the reading.
-/
import PluginFacts.Files.Path
import PluginFacts.Files.System
import PluginFacts.Rule.File

namespace PluginFacts

/-- Why rules cannot be read from files. -/
inductive RuleSourceFault where
  /-- A file cannot be read. -/
  | unreadable (path : String) (e : FileError)
  /-- A file is no rule file. -/
  | unparsable (path : String)
  /-- A directory has no rule files. -/
  | noFiles (path : String)
  /-- Something is wrong with the rules. -/
  | faulty (f : RuleFault)
deriving DecidableEq, Repr

namespace RuleSourceFault

/-- The wording of what is wrong, without the cause. -/
def message : RuleSourceFault → String
  | unreadable path e => s!"I/O error reading {path}: {e.message}"
  | unparsable path => s!"Failed to parse {path}"
  | noFiles path => s!"No YAML files found in {path}"
  | faulty f => f.message

/-- The wordings of what is wrong and of its cause, if it has one. -/
def chain : RuleSourceFault → List String
  | unreadable path e => [(unreadable path e).message, e.message]
  | f => ["Rule loading failed: " ++ f.message]

end RuleSourceFault

namespace RuleTable

/-- Whether the names lead to a rule file. -/
def isRuleFile (names : List String) : Bool :=
  match names.getLast?.bind Path.extension? with
  | some ext => ext == "yaml" || ext == "yml"
  | none => false

/-- The order of paths as texts. -/
def pathLe (a b : String) : Bool := (compare a b).isLE

/-- The paths of the rule files that a path leads to. -/
def rulePaths {m : Type → Type} [Monad m] (fs : FileSystem m) (path : String) :
    m (List String) := do
  if ← fs.isDirectory path then
    let files := (Found.ofFiles (← fs.walk path)).filter isRuleFile
    return (files.map (Path.join path)).mergeSort pathLe
  else return [path]

/-- Reads a rule file. -/
def readFile {m : Type → Type} [Monad m] (fs : FileSystem m) (path : String) :
    m (Except RuleSourceFault RuleFile) := do
  match ← fs.readText path with
  | .error e => return .error (.unreadable path e)
  | .ok text =>
    match RuleFile.ofText? text with
    | some f => return .ok f
    | none => return .error (.unparsable path)

/-- Reads rule files until something is wrong; the result has the paths that were looked at. -/
def readFiles {m : Type → Type} [Monad m] (fs : FileSystem m) :
    List String → m (List String × Except RuleSourceFault (List RuleFile))
  | [] => return ([], .ok [])
  | path :: paths => do
    match ← readFile fs path with
    | .error f => return ([path], .error f)
    | .ok file =>
      let (seen, files) ← readFiles fs paths
      return (path :: seen, files.map (file :: ·))

/-- Reads the table of the rules that a path leads to; the result has the paths of the files that
were looked at. -/
def readWithPaths {m : Type → Type} [Monad m] (fs : FileSystem m) (path : String) :
    m (List String × Except RuleSourceFault RuleTable) := do
  match ← rulePaths fs path with
  | [] => return ([], .error (.noFiles path))
  | paths =>
    let (seen, files) ← readFiles fs paths
    return (seen, files.bind fun files => (ofFiles files).mapError .faulty)

/-- Reads the table of the rules that a path leads to. -/
def read {m : Type → Type} [Monad m] (fs : FileSystem m) (path : String) :
    m (Except RuleSourceFault RuleTable) := do
  return (← readWithPaths fs path).2

end RuleTable

end PluginFacts
