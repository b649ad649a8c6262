/-
# Known types

Types outside the analysed classes are known by name only.  A registry lists the names that are
expected there; a supertype that is neither analysed nor listed is *unrecognised*, which is worth a
remark but changes no result.
-/
import PluginFacts.Class.Basic

namespace PluginFacts

/-- A set of names of known types. -/
structure Registry where
  /-- The names, each once. -/
  names : List String := []
deriving DecidableEq, Repr

namespace Registry

/-- The registry without any type. -/
def empty : Registry := {}

/-- Adds names. -/
def withTypes (r : Registry) (names : List String) : Registry :=
  ⟨names.foldl (fun known name => known.insert name) r.names⟩

/-- The types of the server that plugins build on. -/
def platform : Registry :=
  empty.withTypes
    ["org.bukkit.plugin.java.JavaPlugin",
     "org.bukkit.plugin.Plugin",
     "org.bukkit.event.Listener",
     "org.bukkit.scheduler.BukkitRunnable",
     "java.lang.Runnable",
     "io.papermc.paper.plugin.bootstrap.PluginBootstrap",
     "io.papermc.paper.plugin.loader.PluginLoader"]

/-- Whether a name is listed. -/
def isRecognized (r : Registry) (name : String) : Bool :=
  r.names.contains name

/-- The number of names. -/
def size (r : Registry) : Nat := r.names.length

end Registry

/-- Whether a superclass of this name ends a chain of superclasses without being one itself. -/
def isRootClass (name : String) : Bool :=
  name == objectClass || name == recordClass

end PluginFacts
