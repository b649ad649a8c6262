/-
# The events of a run

One list of events for each step from class files to the manifest, in the order in which the step
comes upon them.
-/
import PluginFacts.Analysis
import PluginFacts.Text.Quoted
import PluginFacts.Trace.Event

namespace PluginFacts.Trace

/-- The event that an input is a class file. -/
def decoded (i : ClassInput) : List Event :=
  match ClassFile.decode i.bytes with
  | .ok f => [⟨.trace, s!"Parsed {f.name} (Java {ClassFile.javaRelease f.version}, " ++
      s!"{f.members.length} members)"⟩]
  | .error _ => []

/-- The event that an input was left out of a batch. -/
def leftOut (i : ClassInput) : List Event :=
  match i.read with
  | .ok c => if c.isModule then [⟨.debug, s!"Skipping module descriptor {c.origin}"⟩] else []
  | .error m => [⟨.warn, m.message⟩]

/-- The event that a name has several classes. -/
def severalInputs (g : Namesakes) : List Event :=
  if g.ignored = [] then []
  else [⟨.warn,
    s!"Class {g.kept.name} declared by several inputs, keeping {g.kept.origin}"⟩]

/-- The events of making a batch. -/
def batch (inputs : List ClassInput) : List Event :=
  let b := Batch.ofInputs inputs
  inputs.flatMap decoded ++ inputs.flatMap leftOut
    ++ (Batch.groups inputs).flatMap severalInputs
    ++ [⟨.info, s!"Loaded {b.classes.length} classes ({b.diagnostics.length} diagnostics)"⟩]

/-- The event that a class is not used because of an earlier one of its name. -/
def dropped (c : Class) : Event :=
  ⟨.debug, s!"Dropping second definition of {c.name} from {c.origin}"⟩

/-- The events of linking classes. -/
def hierarchy (cs : List Class) (r : Registry) : List Event :=
  (Namesakes.ofClasses cs).flatMap (fun g => g.ignored.map dropped)
    ++ match Hierarchy.build cs r with
      | .ok h => [⟨.debug, s!"Hierarchy graph: {h.size} classes, " ++
          s!"{h.unrecognized.length} unrecognized external types"⟩]
      | .error _ => []

/-- What a shape is called in events. -/
def shapeName : Shape → String
  | .notRequired => "NotRequired"
  | .satisfied => "Satisfied"
  | .missing => "Missing"

/-- The event that a class matches a rule. -/
def matched (m : Match) : Event :=
  let distance := if m.via.isSome then m.depth + 1 else 0
  ⟨.debug, s!"{m.className} matches {m.rule} at distance {distance} ({shapeName m.shape})"⟩

/-- The events of matching one class. -/
def matching (h : Hierarchy) (rules : List Rule) (id : Nat) : List Event :=
  (h.matchNode rules id).map matched

/-- The events of matching the classes that may have capabilities. -/
def matchingAll (h : Hierarchy) (rules : List Rule) (s : Settings) : List Event :=
  (h.subjects s).flatMap (matching h rules)
    ++ [⟨.info, s!"Matched {(h.matchAll rules s).length} capability candidates"⟩]

/-- The matches with the same claim as an earlier one in the list or among `seen`. -/
def repeated (seen : List Match) : List Match → List Match
  | [] => []
  | m :: l => if seen.any m.sameClaim then m :: repeated seen l else repeated (m :: seen) l

/-- The event that a fact is not used because of a better one. -/
def repetition (m : Match) : Event :=
  ⟨.debug, s!"Dropping duplicate {m.capability} match for {m.className} from rule {m.rule}"⟩

/-- The event that a class lacks the required shape. -/
def lack (m : Match) : Event :=
  ⟨.warn, s!"{m.className} reaches {m.capability} but lacks the required member shape " ++
    s!"(rule {m.rule})"⟩

/-- The event that the user gave a role to a class. -/
def pinned (p : Pins) (role : Role) : List Event :=
  (p.get? role).toList.map fun name =>
    ⟨.debug, s!"Using configured {role.capability} {name}, skipping detection"⟩

/-- The event that a capability that is no role was to be given to a class. -/
def pinning (k : Capability) : List Event :=
  match k.role? with
  | some _ => []
  | none => [⟨.warn, s!"{k} cannot be pinned to a single class"⟩]

/-- The events of giving a verdict. -/
def verdict (ms : List Match) (module : String) (s : Settings) : List Event :=
  let v := Verdict.ofMatches ms module s
  (repeated [] ((ms.mergeSort Match.le).filter Match.isFact)).map repetition
    ++ (Verdict.lacking ms).map lack
    ++ Role.all.flatMap (pinned s.pins)
    ++ [⟨.info, s!"Validated {v.facts.length} capability facts, {v.violations.length} violations"⟩]

/-- The events of making a manifest. -/
def manifest (v : Verdict) : List Event :=
  v.failure?.toList.map fun f => ⟨.debug, s!"Not emitting manifest facts: {f.message}"⟩

/-- A text between quotation marks, or that there is none. -/
def optionText : Option String → String
  | some s => "Some(" ++ Text.quoted s ++ ")"
  | none => "None"

/-- The event that a run is over. -/
def outcome : Except Failure Manifest → Event
  | .ok m => ⟨.info, s!"Resolved module '{m.module}': entry point {optionText m.entryPoint}, " ++
      s!"{m.listeners.length} listeners, {m.scheduledTasks.length} tasks"⟩
  | .error f => ⟨.warn, f.message⟩

/-- The events of a run on classes. -/
def classes (module : String) (cs : List Class) (t : RuleTable) (s : Settings) : List Event :=
  hierarchy cs (Registry.forRun t s)
    ++ match Hierarchy.build cs (Registry.forRun t s) with
      | .error f => [outcome (.error f)]
      | .ok h =>
        let ms := h.matchAll t.rules s
        let v := Verdict.ofMatches ms module s
        matchingAll h t.rules s ++ verdict ms module s ++ manifest v ++ [outcome v.manifest]

/-- The events of a run. -/
def run (module : String) (inputs : List ClassInput) (t : RuleTable) (s : Settings) : List Event :=
  match s.fault? with
  | some _ => []
  | none => batch inputs ++ classes module (Batch.ofInputs inputs).classes t s

end PluginFacts.Trace
