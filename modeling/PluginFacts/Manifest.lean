/-
# Manifests

The facts that the manifest of a plugin states: which classes have the roles, and which ones listen
to events or run as tasks.  A verdict gives a manifest unless there is a failure among it, and then
that failure instead.
-/
import PluginFacts.Json.Record
import PluginFacts.Verdict

namespace PluginFacts

/-- The facts that the manifest of a plugin states. -/
structure Manifest where
  /-- The name of the module. -/
  module : String
  /-- The main class. -/
  entryPoint : Option String := none
  /-- The bootstrap hook. -/
  bootstrapHook : Option String := none
  /-- The loader. -/
  loader : Option String := none
  /-- The classes that handle events, by depth and name. -/
  listeners : List String := []
  /-- The classes that run as tasks, by depth and name. -/
  scheduledTasks : List String := []
deriving DecidableEq, Repr

namespace Manifest

/-- The manifest states nothing but the name of the module. -/
def isEmpty (m : Manifest) : Bool :=
  m.entryPoint.isNone && m.bootstrapHook.isNone && m.loader.isNone && m.listeners.isEmpty &&
    m.scheduledTasks.isEmpty

/-- A manifest as a JSON object. -/
def toJson (m : Manifest) : Json :=
  .obj [("module", .str m.module), ("entry_point", .strOrNull m.entryPoint),
    ("bootstrap_hook", .strOrNull m.bootstrapHook), ("loader", .strOrNull m.loader),
    ("listeners", .strings m.listeners), ("scheduled_tasks", .strings m.scheduledTasks)]

/-- The manifest that a JSON value describes. -/
def ofJson? (v : Json) : Option Manifest := do
  let r ← v.record?
    ["module", "entry_point", "bootstrap_hook", "loader", "listeners", "scheduled_tasks"] []
  return {
    module := ← r.required "module" Json.string?
    entryPoint := ← r.optional "entry_point" Json.string?
    bootstrapHook := ← r.optional "bootstrap_hook" Json.string?
    loader := ← r.optional "loader" Json.string?
    listeners := ← r.required "listeners" (Json.list? Json.string?)
    scheduledTasks := ← r.required "scheduled_tasks" (Json.list? Json.string?) }

end Manifest

/-- The order of matches in a list of the manifest: by depth and class. -/
def Match.listedLe (a b : Match) : Bool :=
  ((compare a.depth b.depth).then (compare a.className b.className)).isLE

namespace Verdict

/-- The classes that have a capability according to the facts, as the manifest lists them. -/
def listed (v : Verdict) (k : Capability) : List String :=
  ((v.factsOf k).mergeSort Match.listedLe).map (·.className)

/-- The class that has a role: the pinned one, or else the one that the facts give. -/
def holder (v : Verdict) (role : Role) : Option String :=
  v.pins.get? role <|> ((v.factsOf role.capability).head?.map (·.className))

/-- The manifest that a verdict gives. -/
def manifest (v : Verdict) : Except Failure Manifest :=
  match v.failure? with
  | some failure => .error failure
  | none => .ok {
      module := v.module
      entryPoint := v.holder .entryPoint
      bootstrapHook := v.holder .bootstrapHook
      loader := v.holder .pluginLoader
      listeners := v.listed .eventListener
      scheduledTasks := v.listed .scheduledTask }

end Verdict

end PluginFacts
