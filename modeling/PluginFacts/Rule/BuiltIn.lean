/-
# The built-in rules

What the classes of a plugin for the server inherit from, as far as the manifest is concerned.
-/
import PluginFacts.Rule.Table

namespace PluginFacts.RuleTable

/-- The shape of a method that handles events. -/
def handlerMethod : MemberPredicate where
  kind := some .method
  annotated := some "org.bukkit.event.EventHandler"

/-- The shape of the method that a task consists of. -/
def runMethod : MemberPredicate where
  kind := some .method
  name := some "run"
  descriptor := some "()V"

/-- The rules for plugins. -/
def builtIn : RuleTable where
  rules := [
    { id := "paper/main"
      target := "org.bukkit.plugin.java.JavaPlugin"
      capability := .entryPoint
      description := "Plugin main class" },
    { id := "paper/bootstrapper"
      target := "io.papermc.paper.plugin.bootstrap.PluginBootstrap"
      capability := .bootstrapHook
      description := "Early bootstrap hook" },
    { id := "paper/loader"
      target := "io.papermc.paper.plugin.loader.PluginLoader"
      capability := .pluginLoader
      description := "Classpath loader" },
    { id := "bukkit/listener"
      target := "org.bukkit.event.Listener"
      capability := .eventListener
      description := "Event listener with handler methods"
      members := some handlerMethod },
    { id := "java/runnable-task"
      target := "java.lang.Runnable"
      capability := .scheduledTask
      description := "Runnable scheduled through the server scheduler"
      members := some runMethod },
    { id := "bukkit/runnable-task"
      target := "org.bukkit.scheduler.BukkitRunnable"
      capability := .scheduledTask
      description := "Self-scheduling BukkitRunnable"
      members := some runMethod }]
  externalTypes := ["org.bukkit.plugin.Plugin", "org.bukkit.event.EventHandler"]

/-- Nothing is wrong with the built-in rules. -/
theorem fault?_builtIn : builtIn.fault? = none := by
  decide

end PluginFacts.RuleTable
