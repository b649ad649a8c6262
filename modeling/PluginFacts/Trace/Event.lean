/-
# Events

What a run says about itself while it goes on, for those who want to follow it.  Events change
nothing; each is worked out from the same values as the result of the step that it is about.
-/

namespace PluginFacts.Trace

/-- How important an event is. -/
inductive Level where
  | trace | debug | info | warn
deriving DecidableEq, Repr

/-- The name of a level. -/
def Level.name : Level → String
  | trace => "TRACE"
  | debug => "DEBUG"
  | info => "INFO"
  | warn => "WARN"

/-- Something that a run says. -/
structure Event where
  /-- How important it is. -/
  level : Level
  /-- What it says. -/
  text : String
deriving DecidableEq, Repr

end PluginFacts.Trace
