/-
# Reports for a terminal

What a run reports for people to read: a tree with one line for each fact, class or rule.
-/
import PluginFacts.Report.Style
import PluginFacts.Analysis

namespace PluginFacts.Report

/-- The text with blanks after it up to a width. -/
def padded (width : Nat) (text : String) : String :=
  text ++ String.ofList (List.replicate (width - text.length) ' ')

variable (p : Palette)

/-- The line for a role. -/
def roleLine (label : String) (name : Option String) : String :=
  let value := match name with
    | some name => Style.brightGreen.paint p name
    | none => Style.dim.paint p "-"
  "├─ " ++ Style.brightWhite.paint p (padded 13 label) ++ " " ++ value ++ "\n"

/-- The lines for a list of classes: their number, then each of them. -/
def listLines (label : String) (names : List String) : String :=
  "├─ " ++ Style.brightWhite.paint p label ++ s!" ({names.length})\n"
    ++ String.join (names.map fun name => "│    " ++ Style.cyan.paint p name ++ "\n")

/-- The lines for a manifest. -/
def manifest (m : Manifest) : String :=
  Style.boldBrightWhite.paint p "module" ++ " " ++ m.module ++ "\n"
    ++ roleLine p "main" m.entryPoint
    ++ roleLine p "bootstrapper" m.bootstrapHook
    ++ roleLine p "loader" m.loader
    ++ listLines p "listeners" m.listeners
    ++ listLines p "tasks" m.scheduledTasks

/-- The lines for the outcome of a run. -/
def outcome : Except Failure Manifest → String
  | .ok m => manifest p m
  | .error f => Style.boldBrightRed.paint p "error:" ++ " " ++ f.message ++ "\n"

/-- What kind of diagnostic it is. -/
def label : Diagnostic → String
  | .malformed _ => Style.brightYellow.paint p "malformed"
  | .duplicate _ => Style.brightYellow.paint p "duplicate"
  | .warning _ => Style.yellow.paint p "warning"

/-- The lines for diagnostics, one for each. -/
def diagnostics (ds : List Diagnostic) : String :=
  String.join (ds.map fun d => label p d ++ " " ++ d.message ++ "\n")

/-- The lines for a class: its name and supertypes, and the class around it. -/
def classLines (c : Class) : String :=
  let supertypes := c.superclass.toList ++ c.interfaces
  "├─ " ++ Style.brightWhite.paint p c.name
    ++ (if supertypes.isEmpty then ""
      else " : " ++ Style.dim.paint p (", ".intercalate supertypes))
    ++ "\n"
    ++ c.enclosing.elim "" fun outer => s!"│    nested in {outer}\n"

/-- The lines for classes. -/
def classes (cs : List Class) : String :=
  String.join (cs.map (classLines p))

/-- The lines for a rule: what it looks for, what it is about, and the shape that it asks for. -/
def rule (r : Rule) : String :=
  "├─ " ++ Style.brightWhite.paint p r.id ++ " " ++ Style.cyan.paint p r.capability.name ++ " "
    ++ r.target ++ "\n"
    ++ (if r.description.isEmpty then ""
      else "│    " ++ Style.dim.paint p r.description ++ "\n")
    ++ r.members.elim "" fun m => s!"│    requires {m.description}\n"

/-- The lines for the rules of a table. -/
def rules (t : RuleTable) : String :=
  String.join (t.rules.map (rule p))

end PluginFacts.Report
