/-
# All or nothing

A verdict has a failure for each role that several classes compete for and that is not pinned, in
the order of roles, and one more if the module has to have a main class and has none.  If there is
any, the first of them is all that is left of the module; a manifest is only made where there is
none, and then no role is in doubt: the only class that stands first among the facts of a role is
the only class that has it.
-/
import PluginFacts.Proofs.Verdict.Outcome
import PluginFacts.Proofs.Verdict.Selection

namespace PluginFacts

namespace Verdict

variable {v : Verdict}

lemma manifest_of_fatal_eq_cons {f : Role × Failure} {fs : List (Role × Failure)}
    (h : v.fatal = f :: fs) : v.manifest = .error f.2 := by
  simp [manifest, failure?, h]

lemma manifest_of_fatal_eq_nil (h : v.fatal = []) :
    v.manifest = .ok {
      module := v.module
      entryPoint := v.holder .entryPoint
      bootstrapHook := v.holder .bootstrapHook
      loader := v.holder .pluginLoader
      listeners := v.listed .eventListener
      scheduledTasks := v.listed .scheduledTask } := by
  simp [manifest, failure?, h]

end Verdict

end PluginFacts
