/-
# Analysis

A run from class files to the manifest: the inputs become a batch, its classes a hierarchy, the
hierarchy matches, and the matches a verdict.  The settings are examined first, and with faulty ones
there is no run.
-/
import PluginFacts.Batch
import PluginFacts.ClassDirectory
import PluginFacts.Hierarchy.Cycle
import PluginFacts.Manifest

namespace PluginFacts

/-- The types that are expected outside the analysed classes of a run. -/
def Registry.forRun (t : RuleTable) (s : Settings) : Registry :=
  (Registry.platform.withTypes t.knownTypes).withTypes s.externalTypes

/-- What a run results in. -/
structure Analysis where
  /-- The manifest, or why there is none. -/
  outcome : Except Failure Manifest
  /-- What was found on the way. -/
  diagnostics : List Diagnostic

namespace Analysis

/-- The run on a batch. -/
def ofBatch (module : String) (b : Batch) (t : RuleTable) (s : Settings) : Analysis :=
  match Hierarchy.build b.classes (Registry.forRun t s) with
  | .error failure => ⟨.error failure, b.diagnostics⟩
  | .ok h =>
    let verdict := Verdict.ofMatches (h.matchAll t.rules s) module s
    ⟨verdict.manifest, b.diagnostics ++ verdict.warnings.map .warning⟩

/-- The run on the class files of a module. -/
def run (module : String) (inputs : List ClassInput) (t : RuleTable) (s : Settings) :
    Except SettingsFault Analysis :=
  match s.fault? with
  | some fault => .error fault
  | none => .ok (ofBatch module (Batch.ofInputs inputs) t s)

/-- The run on the class files of a directory, with the files that were left out reported first. -/
def ofDirectory (module : String) (d : ClassDirectory) (t : RuleTable) (s : Settings) :
    Except SettingsFault Analysis := do
  let a ← run module d.inputs t s
  return { a with diagnostics := d.malformed.map .malformed ++ a.diagnostics }

/-- The run led to a manifest. -/
def isSuccess (a : Analysis) : Bool :=
  match a.outcome with
  | .ok _ => true
  | .error _ => false

end Analysis

end PluginFacts
