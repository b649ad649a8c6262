/-
# The program

What the program does for each command: it reads the files that the command names, works out a
report, and writes the report to the standard output or to a file.  What else there is to say goes
to the standard error output.
-/
import PluginFacts.CommandLine.Arguments
import PluginFacts.Report.Json
import PluginFacts.Report.Terminal
import PluginFacts.Rule.BuiltIn
import PluginFacts.Rule.Source

namespace PluginFacts.CommandLine

/-- What a run of the program leaves behind, files apart. -/
structure Output where
  /-- Zero if all went well, one if the run failed, and two if the command line is wrong. -/
  exitCode : UInt32
  /-- What was written to the standard output. -/
  stdout : String := ""
  /-- What was written to the standard error output. -/
  stderr : String := ""
deriving DecidableEq, Repr

/-- Why a command fails: what went wrong, and the causes of that. -/
structure Complaint where
  /-- What went wrong. -/
  message : String
  /-- The causes, each one that of the one before. -/
  causes : List String := []
deriving DecidableEq, Repr

namespace Complaint

/-- A text of which all lines but the first follow some blanks. -/
def hanging (blanks : String) (text : String) : String :=
  String.ofList (text.toList.flatMap fun c => if c = '\n' then c :: blanks.toList else [c])

/-- The lines for a single cause. -/
def causeLine (cause : String) : String :=
  "    " ++ hanging "    " cause ++ "\n"

/-- The lines for one of several causes. -/
def numberedLine (n : Nat) (cause : String) : String :=
  let number := toString n
  let blanks := String.ofList (List.replicate (5 - number.length) ' ')
  blanks ++ number ++ ": " ++ hanging "       " cause ++ "\n"

/-- The lines for a complaint, with its causes numbered if there are several. -/
def text (c : Complaint) : String :=
  "Error: " ++ c.message ++ "\n" ++
    match c.causes with
    | [] => ""
    | [cause] => "\nCaused by:\n" ++ causeLine cause
    | causes => "\nCaused by:\n" ++ String.join (causes.mapIdx numberedLine)

end Complaint

/-- The result of a command. -/
structure Answer where
  /-- The report itself. -/
  text : String
  /-- What is to be said beside it. -/
  notes : String := ""
  /-- The command did what it was asked for. -/
  success : Bool := true
deriving DecidableEq, Repr

/-- The name and version of the program. -/
def version : String := "classmark 0.1.0\n"

/-- How the program is used. -/
def usage : String :=
  "Usage: classmark [OPTIONS] <COMMAND>\n\n" ++
  "Commands:\n" ++
  "  analyze  Resolve manifest facts for a directory of compiled classes\n" ++
  "  classes  Dump the class descriptors found in a directory\n" ++
  "  rules    List the active capability rules\n"

/-- The name of a module whose classes are at a place: that of the directory around the last one
called `build`, or of the place itself. -/
def moduleName (names : List String) : String :=
  let upward := names.reverse
  let around := if upward.contains "build" then (upward.dropWhile (· ≠ "build")).drop 1 else upward
  (around.find? (· ≠ "")).getD "module"

/-- The settings that a command asks for. -/
def Command.settings (c : Command) : Settings where
  plugin := !c.has .library
  scope := c.options.values .scope
  exclude := c.options.values .exclude
  includeAbstract := c.has .includeAbstract
  skipNested := c.has .skipNested
  pins := {
    entryPoint := c.value? .main
    bootstrapHook := c.value? .bootstrapper
    pluginLoader := c.value? .loader }

section

variable {m : Type → Type} [Monad m] (fs : FileSystem m) (p : Palette)

/-- The rules that a command asks for. -/
def rulesOf (c : Command) : m (Except Complaint RuleTable) := do
  match c.value? .rules with
  | none => return .ok .builtIn
  | some path =>
    return (← RuleTable.read fs path).mapError fun f =>
      ⟨s!"Failed to load rules from {path}", f.chain⟩

/-- The report on an analysis. -/
def analysisAnswer (format : Format) (a : Analysis) : Answer :=
  match format with
  | .json => { text := a.report, success := a.isSuccess }
  | .terminal => {
      text := Report.outcome p a.outcome
      notes := Report.diagnostics p a.diagnostics
      success := a.isSuccess }

/-- Works out the manifest of a directory of classes. -/
def analyze (c : Command) (directory : String) : m (Except Complaint Answer) := do
  if !(← fs.isPresent directory) then return .error ⟨s!"Path does not exist: {directory}", []⟩
  match ← rulesOf fs c with
  | .error e => return .error e
  | .ok t =>
    let place ← fs.location? directory
    let module := (c.value? .module).getD (moduleName (place.getD (Path.parts directory)))
    match ← ClassDirectory.read fs directory c.settings.maxClassSize with
    | .error e => return .error ⟨s!"Failed to read class directory {directory}", [e.message]⟩
    | .ok d =>
      match Analysis.ofDirectory module d t c.settings with
      | .error f => return .error ⟨"Configuration error: " ++ f.message, []⟩
      | .ok a => return .ok (analysisAnswer p c.format a)

/-- Lists the classes of a directory. -/
def listClasses (c : Command) (directory : String) : m (Except Complaint Answer) := do
  match ← ClassDirectory.read fs directory c.settings.maxClassSize with
  | .error e => return .error ⟨e.message, []⟩
  | .ok d =>
    let b := Batch.ofInputs d.inputs
    let diagnostics := d.malformed.map .malformed ++ b.diagnostics
    match c.format with
    | .json => return .ok { text := Report.ofClasses b.classes diagnostics }
    | .terminal => return .ok {
        text := Report.classes p b.classes
        notes := Report.diagnostics p diagnostics }

/-- Lists the rules. -/
def listRules (c : Command) : m (Except Complaint Answer) := do
  return (← rulesOf fs c).map fun t =>
    match c.format with
    | .json => { text := Report.ofRules t }
    | .terminal => { text := Report.rules p t }

/-- Works out the report that a command asks for. -/
def Command.report (c : Command) : m (Except Complaint Answer) :=
  match c.verb, c.operands with
  | .analyze, directory :: _ => analyze fs p c directory
  | .classes, directory :: _ => listClasses fs p c directory
  | _, _ => listRules fs p c

/-- Writes a report to where a command says. -/
def deliver (c : Command) (r : Answer) : m Output := do
  let exitCode := if r.success then 0 else 1
  match c.value? .output with
  | none => return { exitCode, stdout := r.text, stderr := r.notes }
  | some path =>
    match ← fs.write path r.text with
    | .ok () => return { exitCode, stderr := r.notes ++ s!"Results written to: {path}\n" }
    | .error e =>
      let complaint : Complaint := ⟨s!"Failed to write output to {path}", [e.message]⟩
      return { exitCode := 1, stderr := r.notes ++ complaint.text }

/-- Runs the program on its arguments. -/
def run (args : List String) : m Output := do
  match Command.ofArguments args with
  | .error .help => return { exitCode := 0, stdout := usage }
  | .error .version => return { exitCode := 0, stdout := version }
  | .error .misuse => return { exitCode := 2, stderr := usage }
  | .ok c =>
    match ← c.report fs p with
    | .error e => return { exitCode := 1, stderr := e.text }
    | .ok r => deliver fs c r

end

end PluginFacts.CommandLine
