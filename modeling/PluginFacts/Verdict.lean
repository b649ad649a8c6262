/-
# Verdicts

A verdict sorts the matches of a module into facts and violations.  A class has a capability by its
best match that is a fact, where less depth is better and then the lesser rule; it is warned about
if it has only matches that lack the required shape.  Beyond that a module fails if several classes
compete for a role, or if it has to have a main class and has none.  Roles that the user has given
to a class are not examined.
-/
import PluginFacts.Diagnostic
import PluginFacts.Failure
import PluginFacts.FirstOfEach
import PluginFacts.Match.Basic

namespace PluginFacts

/-- Something wrong with the matches of a module. -/
inductive Violation where
  /-- A class lacks the shape for a capability that it reaches. -/
  | warning (w : Warning)
  /-- The module has no result, because of the given role. -/
  | fatal (role : Role) (failure : Failure)
deriving DecidableEq, Repr

namespace Violation

/-- The wording of a violation. -/
def message : Violation → String
  | warning w => w.message
  | fatal role failure => s!"{role.capability} (fatal): {failure.message}"

/-- The capability that a violation is about. -/
def capability : Violation → Capability
  | warning w => w.capability
  | fatal role _ => role.capability

/-- The violation leaves the module without a result. -/
def isFatal : Violation → Bool
  | warning _ => false
  | fatal _ _ => true

/-- The failure that a violation amounts to. -/
def failure? : Violation → Option Failure
  | warning _ => none
  | fatal _ failure => some failure

end Violation

namespace Match

/-- Two matches give the same class the same capability. -/
def sameClaim (a b : Match) : Bool :=
  a.capability == b.capability && a.className == b.className

/-- The first match of every class for every capability. -/
def firsts (l : List Match) : List Match :=
  firstOfEach sameClaim l

/-- The warning that a match without the required shape gives rise to. -/
def toWarning (m : Match) : Warning :=
  ⟨m.capability, m.className, m.rule, m.enclosing⟩

end Match

/-- The order of warnings: by class and capability. -/
def Warning.le (a b : Warning) : Bool :=
  ((compare a.className b.className).then (compare a.capability b.capability)).isLE

/-- What the matches of a module amount to. -/
structure Verdict where
  /-- The name of the module. -/
  module : String
  /-- The facts, in the order of matches, one for each class and capability. -/
  facts : List Match
  /-- The classes that have roles because the user says so. -/
  pins : Pins
  /-- The warnings, in order. -/
  warnings : List Warning
  /-- The failures, each with the role that it is about. -/
  fatal : List (Role × Failure)
deriving DecidableEq, Repr

namespace Verdict

/-- The facts of one capability among some. -/
def ofCapability (facts : List Match) (k : Capability) : List Match :=
  facts.filter (·.capability == k)

/-- The facts of one capability. -/
def factsOf (v : Verdict) (k : Capability) : List Match :=
  ofCapability v.facts k

/-- The failure of a role that several classes have according to the facts, unless it is pinned. -/
def rivalry? (facts : List Match) (pins : Pins) (role : Role) : Option (Role × Failure) :=
  if (pins.get? role).isSome then none
  else
    match (ofCapability facts role.capability).map (·.className) with
    | [] | [_] => none
    | names => some (role, .several role (names.mergeSort fun a b => (compare a b).isLE))

/-- The failure of a plugin without main class. -/
def vacancy? (module : String) (facts : List Match) (s : Settings) : Option (Role × Failure) :=
  if s.plugin ∧ s.pins.entryPoint.isNone ∧ (ofCapability facts .entryPoint).isEmpty then
    some (.entryPoint, .noEntryPoint module)
  else none

/-- The matches that are facts, the best one for every class and capability. -/
def bestFacts (ms : List Match) : List Match :=
  Match.firsts ((ms.mergeSort Match.le).filter Match.isFact)

/-- The best match of every class for every capability that it has no fact for. -/
def lacking (ms : List Match) : List Match :=
  let sorted := ms.mergeSort Match.le
  Match.firsts (sorted.filter fun m => !m.isFact && !sorted.any fun n => n.isFact && m.sameClaim n)

/-- The verdict on the matches of a module. -/
def ofMatches (ms : List Match) (module : String) (s : Settings) : Verdict :=
  let facts := bestFacts ms
  { module, facts, pins := s.pins
    warnings := ((lacking ms).map Match.toWarning).mergeSort Warning.le
    fatal := Role.all.filterMap (rivalry? facts s.pins) ++ (vacancy? module facts s).toList }

/-- Everything that is wrong: the warnings, then the failures. -/
def violations (v : Verdict) : List Violation :=
  v.warnings.map .warning ++ v.fatal.map fun f => .fatal f.1 f.2

/-- The failure that decides the run, if there is one. -/
def failure? (v : Verdict) : Option Failure :=
  v.fatal.head?.map (·.2)

/-- The class that has a capability because the user says so. -/
def pinned (v : Verdict) (k : Capability) : Option String :=
  k.role?.bind v.pins.get?

end Verdict

end PluginFacts
