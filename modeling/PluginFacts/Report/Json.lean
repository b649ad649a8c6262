/-
# Reports as JSON

What a run reports for other programs to read.  A field that says nothing is left out of a violation
or match; everywhere else it is null.
-/
import PluginFacts.Analysis
import PluginFacts.Class.Json

namespace PluginFacts

/-- A match as a JSON object, without the index of its node. -/
def Match.toJson (m : Match) : Json :=
  .obj <| [("class", .str m.className), ("kind", .str m.capability.name), ("rule", .str m.rule),
      ("origin_depth", .nat m.depth)]
    ++ Json.optField "via" (m.via.map .str) ++ [("shape", .str m.shape.name)]
    ++ Json.optField "enclosing" (m.enclosing.map .str)

namespace Failure

/-- What the failure of a role with several classes is called. -/
def rivalryTag : Role → String
  | .entryPoint => "multiple_entry_points"
  | .bootstrapHook => "multiple_bootstrap_hooks"
  | .pluginLoader => "multiple_loaders"

/-- A failure as the fields of a JSON object. -/
def fields : Failure → List (String × Json)
  | cyclicHierarchy cycle => [("error", .str "cyclic_hierarchy"), ("cycle", .strings cycle)]
  | several role candidates =>
    [("error", .str (rivalryTag role)), ("candidates", .strings candidates)]
  | noEntryPoint module => [("error", .str "no_entry_point"), ("module", .str module)]

/-- A failure as a JSON object. -/
def toJson (f : Failure) : Json := .obj f.fields

end Failure

/-- A warning as the fields of a JSON object. -/
def Warning.fields (w : Warning) : List (String × Json) :=
  [("severity", .str "warning"), ("capability", .str w.capability.name)]
    ++ (if w.className.isEmpty then [] else [("class", .str w.className)])
    ++ [("rule", .str w.rule)] ++ Json.optField "enclosing" (w.enclosing.map .str)
    ++ [("message", .str w.complaint)]

/-- A violation as the fields of a JSON object. -/
def Violation.fields : Violation → List (String × Json)
  | warning w => w.fields
  | fatal role failure =>
    [("severity", .str "fatal"), ("capability", .str role.capability.name),
      ("message", .str failure.message)]

/-- A diagnostic as the fields of a JSON object. -/
def Diagnostic.fields : Diagnostic → List (String × Json)
  | malformed m =>
    [("type", .str "malformed_class"), ("origin", .str m.origin), ("reason", .str m.cause.message)]
  | duplicate d =>
    [("type", .str "duplicate_class"), ("name", .str d.name), ("kept", .str d.kept),
      ("ignored", .strings d.ignored)]
  | warning w => ("type", .str "violation") :: w.fields

/-- A diagnostic as a JSON object. -/
def Diagnostic.toJson (d : Diagnostic) : Json := .obj d.fields

namespace Analysis

/-- The outcome of a run as a JSON object. -/
def outcomeToJson : Except Failure Manifest → Json
  | .ok m => .obj [("facts", m.toJson)]
  | .error f => .obj [("error", f.toJson)]

/-- What a run results in, as a JSON object. -/
def toJson (a : Analysis) : Json :=
  .obj [("outcome", outcomeToJson a.outcome),
    ("diagnostics", .arr (a.diagnostics.map Diagnostic.toJson))]

/-- The report on a run. -/
def report (a : Analysis) : String := a.toJson.pretty

end Analysis

namespace Report

/-- The report on classes and what was left out. -/
def ofClasses (cs : List Class) (ds : List Diagnostic) : String :=
  (Json.obj [("classes", .arr (cs.map Class.toJson)),
    ("diagnostics", .arr (ds.map Diagnostic.toJson))]).pretty

/-- The report on the rules of a table. -/
def ofRules (t : RuleTable) : String :=
  (Json.arr (t.rules.map Rule.toJson)).pretty

end Report

end PluginFacts
