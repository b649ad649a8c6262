/-
# The events of reading files

One event for each rule file and each class file that is left out, and how many there are.
-/
import PluginFacts.ClassDirectory
import PluginFacts.Rule.Source
import PluginFacts.Trace.Event

namespace PluginFacts.Trace

/-- The events of reading a directory of classes. -/
def classDirectory (root : String) (d : ClassDirectory) : List Event :=
  ⟨.debug, s!"Found {d.inputs.length + d.malformed.length} class files under {root}"⟩
    :: d.malformed.map fun m => ⟨.warn, m.message⟩

/-- The events of reading the rules that a path leads to, given the files that were looked at. -/
def ruleFiles (path : String) (seen : List String) (result : Except RuleSourceFault RuleTable) :
    List Event :=
  seen.map (fun file => ⟨.debug, s!"Loading rules from {file}"⟩)
    ++ match result with
      | .ok t => [⟨.info, s!"Loaded {t.rules.length} capability rules from {path}"⟩]
      | .error _ => []

end PluginFacts.Trace
