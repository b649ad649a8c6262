/-
# Batches

A batch is what the inputs of a run have to say together: one class for each name that they
declare, in order of names, and a report on every input that was left out.  Module descriptors
declare no class and are passed over in silence.
-/
import PluginFacts.Class.Namesakes
import PluginFacts.Diagnostic

namespace PluginFacts

/-- The classes that inputs declare, and what was left out. -/
structure Batch where
  /-- The classes, in order of their names, which are distinct. -/
  classes : List Class
  /-- The reports on inputs that were left out. -/
  diagnostics : List Diagnostic
deriving DecidableEq, Repr

/-- The report on the classes of a group that were left out, if there are any. -/
def Namesakes.duplicate? (g : Namesakes) : Option Duplicate :=
  if g.ignored = [] then none
  else some ⟨g.kept.name, g.kept.origin, g.ignored.map (·.origin)⟩

namespace Batch

/-- The report on an input that was refused. -/
def malformed? (i : ClassInput) : Option Malformed :=
  match i.read with
  | .ok _ => none
  | .error m => some m

/-- The class that an input declares. -/
def class? (i : ClassInput) : Option Class :=
  match i.read with
  | .ok c => if c.isModule then none else some c
  | .error _ => none

/-- The classes that inputs declare, grouped by name. -/
def groups (inputs : List ClassInput) : List Namesakes :=
  Namesakes.ofClasses (inputs.filterMap class?)

/-- The batch of some inputs. -/
def ofInputs (inputs : List ClassInput) : Batch where
  classes := (groups inputs).map (·.kept)
  diagnostics :=
    ((inputs.filterMap malformed?).map Diagnostic.malformed ++
      ((groups inputs).filterMap Namesakes.duplicate?).map Diagnostic.duplicate).mergeSort
        Diagnostic.le

end Batch

end PluginFacts
