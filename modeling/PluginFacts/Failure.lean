/-
# Failures

A run fails when its classes inherit from one another in a circle, when several classes compete
for a role, or when a plugin has no main class.
-/
import PluginFacts.Capability

namespace PluginFacts

/-- Why a run has no result. -/
inductive Failure where
  /-- Classes inherit from one another in a circle, listed from its first name back to it. -/
  | cyclicHierarchy (cycle : List String)
  /-- Several classes have a capability that only one may have. -/
  | several (role : Role) (candidates : List String)
  /-- The module has to have a main class and has none. -/
  | noEntryPoint (module : String)
deriving DecidableEq, Repr

namespace Failure

/-- What the holders of a role are called when there are several. -/
def plural : Role → String
  | .entryPoint => "plugin entry points"
  | .bootstrapHook => "bootstrap hooks"
  | .pluginLoader => "plugin loaders"

/-- The wording of a failure. -/
def message : Failure → String
  | cyclicHierarchy cycle => "cyclic class hierarchy: " ++ " -> ".intercalate cycle
  | several role candidates => s!"multiple {plural role}: " ++ ", ".intercalate candidates
  | noEntryPoint module => s!"no plugin entry point found in module '{module}'"

end Failure

end PluginFacts
