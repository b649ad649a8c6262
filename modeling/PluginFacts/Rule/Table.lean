/-
# Rules

A rule gives a capability to every class that reaches its target by inheritance, if the class also
has a member of the shape that the rule asks for.  The rules of a table have targets and are told
apart by their ids.
-/
import PluginFacts.Capability
import PluginFacts.Rule.Predicate

namespace PluginFacts

/-- A rule. -/
structure Rule where
  /-- What the rule is called. -/
  id : String
  /-- The name of the type to reach. -/
  target : String
  /-- The capability that the rule gives. -/
  capability : Capability
  /-- What the rule is about, for the reader. -/
  description : String := ""
  /-- The shape that some member has to have. -/
  members : Option MemberPredicate := none
deriving DecidableEq, Repr

/-- A rule as a JSON object. -/
def Rule.toJson (r : Rule) : Json :=
  .obj <| [("id", .str r.id), ("target", .str r.target), ("kind", .str r.capability.name),
      ("desc", .str r.description)]
    ++ Json.optField "members" (r.members.map MemberPredicate.toJson)

/-- Rules, and types outside the analysed classes that are expected. -/
structure RuleTable where
  /-- The rules, in order. -/
  rules : List Rule
  /-- The names of expected types. -/
  externalTypes : List String := []
deriving DecidableEq, Repr

/-- What is wrong with the rules of a table. -/
inductive RuleFault where
  /-- The rule with this id has no target. -/
  | emptyTarget (id : String)
  /-- The id is that of an earlier rule. -/
  | duplicateId (id : String)
deriving DecidableEq, Repr

/-- The wording of a fault in the rules. -/
def RuleFault.message : RuleFault → String
  | emptyTarget id => s!"Rule '{id}' has an empty target"
  | duplicateId id => s!"Duplicate rule id '{id}'"

namespace RuleTable

/-- What is wrong with the first faulty rule, given the ids before. -/
def faultAfter (seen : List String) : List Rule → Option RuleFault
  | [] => none
  | r :: rs =>
    if r.target.isEmpty then some (.emptyTarget r.id)
    else if r.id ∈ seen then some (.duplicateId r.id)
    else faultAfter (r.id :: seen) rs

/-- What is wrong with the first faulty rule. -/
def fault? (t : RuleTable) : Option RuleFault :=
  faultAfter [] t.rules

/-- The table, if nothing is wrong with it. -/
def validated (t : RuleTable) : Except RuleFault RuleTable :=
  match t.fault? with
  | none => .ok t
  | some fault => .error fault

/-- The names that the table expects outside the analysed classes. -/
def knownTypes (t : RuleTable) : List String :=
  t.rules.map (·.target) ++ t.externalTypes

end RuleTable

end PluginFacts
