/-
# Capabilities

A capability is what a class of a plugin can be to the server that runs it.  Three of the five
are *roles*: the plugin's manifest names at most one class for each of them.  Any number of
classes may listen to events or be scheduled as tasks.
-/

namespace PluginFacts

/-- What a class can be to the server.  The order of the constructors is the order in which
capabilities are listed. -/
inductive Capability where
  /-- The main class, which the server instantiates. -/
  | entryPoint
  /-- The class that runs before the server has started. -/
  | bootstrapHook
  /-- The class that assembles the plugin's class path. -/
  | pluginLoader
  /-- A class with methods that handle events. -/
  | eventListener
  /-- A class whose instances the scheduler runs. -/
  | scheduledTask
deriving DecidableEq, Repr, Ord

/-- A capability that the manifest gives to at most one class. -/
inductive Role where
  /-- The main class. -/
  | entryPoint
  /-- The bootstrap hook. -/
  | bootstrapHook
  /-- The loader. -/
  | pluginLoader
deriving DecidableEq, Repr

namespace Capability

/-- Every capability, in order. -/
def all : List Capability :=
  [entryPoint, bootstrapHook, pluginLoader, eventListener, scheduledTask]

/-- The name of a capability in rule files and reports. -/
def name : Capability → String
  | entryPoint => "entry_point"
  | bootstrapHook => "bootstrap_hook"
  | pluginLoader => "plugin_loader"
  | eventListener => "event_listener"
  | scheduledTask => "scheduled_task"

instance : ToString Capability := ⟨name⟩

/-- The capability with the given name. -/
def ofName? (s : String) : Option Capability :=
  all.find? (·.name == s)

@[simp] theorem ofName?_name (k : Capability) : ofName? k.name = some k := by
  cases k <;> decide

/-- The role that a capability is, if only one class may have it. -/
def role? : Capability → Option Role
  | entryPoint => some .entryPoint
  | bootstrapHook => some .bootstrapHook
  | pluginLoader => some .pluginLoader
  | eventListener | scheduledTask => none

end Capability

namespace Role

/-- Every role, in order. -/
def all : List Role := [entryPoint, bootstrapHook, pluginLoader]

/-- The capability that a role is. -/
def capability : Role → Capability
  | entryPoint => .entryPoint
  | bootstrapHook => .bootstrapHook
  | pluginLoader => .pluginLoader

@[simp] theorem role?_capability (r : Role) : r.capability.role? = some r := by
  cases r <;> rfl

end Role

end PluginFacts
