/-
# Matches

A class matches a rule when it is the rule's target or reaches it by inheritance.  Whether the class
also has the shape that the rule asks for is noted in the match: a member counts if the class or any
class that it inherits from declares it.
-/
import PluginFacts.Match.Ancestry
import PluginFacts.Rule.Table
import PluginFacts.Settings

namespace PluginFacts

/-- Whether the shape that a rule asks for is there. -/
inductive Shape where
  /-- The rule asks for none. -/
  | notRequired
  /-- Some member has it. -/
  | satisfied
  /-- No member has it. -/
  | missing
deriving DecidableEq, Repr

namespace Shape

/-- The name of a shape in reports. -/
def name : Shape → String
  | notRequired => "not_required"
  | satisfied => "satisfied"
  | missing => "missing"

/-- The shape with the given name. -/
def ofName? (s : String) : Option Shape :=
  [notRequired, satisfied, missing].find? (·.name == s)

end Shape

/-- A class that reaches the target of a rule. -/
structure Match where
  /-- The name of the class. -/
  className : String
  /-- The index of its node. -/
  node : Nat
  /-- The capability that the rule gives. -/
  capability : Capability
  /-- The id of the rule. -/
  rule : String
  /-- How many types stand between the class and the target. -/
  depth : Nat
  /-- The first step on the way to the target, unless the class is the target. -/
  via : Option String
  /-- Whether the shape that the rule asks for is there. -/
  shape : Shape
  /-- The name of the outermost class around the class, unless that is the class itself. -/
  enclosing : Option String
deriving DecidableEq, Repr

namespace Match

/-- The match gives the class its capability. -/
def isFact (m : Match) : Bool := m.shape != .missing

theorem isFact_iff {m : Match} : m.isFact ↔ m.shape ≠ .missing :=
  bne_iff_ne

/-- The order of matches: by capability, depth, class and rule. -/
def le (a b : Match) : Bool :=
  (((compare a.capability b.capability).then (compare a.depth b.depth)).then
    ((compare a.className b.className).then (compare a.rule b.rule))).isLE

end Match

namespace Hierarchy

/-- Whether the shape that a rule asks for is there, given the types that the class reaches. -/
def shape (h : Hierarchy) (reached : List Ancestor) (r : Rule) : Shape :=
  match r.members with
  | none => .notRequired
  | some p =>
    let declares id := (h.nodes[id]?).any fun n => n.declared.members.any p.accepts
    if (reached.filterMap (·.node)).any declares then .satisfied else .missing

/-- The name of the outermost class around a node, unless that is the node itself. -/
def enclosingName (h : Hierarchy) (id : Nat) : Option String :=
  let outer := h.topLevel id
  if outer = id then none else some (h.name outer)

/-- The match of a node with a rule, given the types that the node reaches. -/
def matchRule (h : Hierarchy) (id : Nat) (reached : List Ancestor) (r : Rule) : Option Match := do
  let target ← reached.find? (·.name == r.target)
  return {
    className := h.name id
    node := id
    capability := r.capability
    rule := r.id
    depth := target.distance - 1
    via := target.via
    shape := h.shape reached r
    enclosing := h.enclosingName id }

/-- The matches of a node with rules, in the order of the rules. -/
def matchNode (h : Hierarchy) (rules : List Rule) (id : Nat) : List Match :=
  let reached := h.ancestry id
  rules.filterMap (h.matchRule id reached)

/-- The nodes of classes that may have capabilities. -/
def subjects (h : Hierarchy) (s : Settings) : List Nat :=
  (List.range h.size).filter fun id => (h.nodes[id]?).any fun n => s.isSubject n.declared

/-- The matches of all classes that may have capabilities. -/
def matchAll (h : Hierarchy) (rules : List Rule) (s : Settings) : List Match :=
  ((h.subjects s).flatMap (h.matchNode rules)).mergeSort Match.le

end Hierarchy

end PluginFacts
