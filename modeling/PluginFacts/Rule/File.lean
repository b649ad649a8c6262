/-
# Rule files

A rule file is a YAML document with two lists: names of expected types, and rules.  What is written
there is put in order before it becomes a table: the name of a target may have slashes and blanks
around it, a rule without an id gets one from its capability and target, and a shape that says
nothing is none.
-/
import PluginFacts.ClassFile.TypeName
import PluginFacts.Rule.Table
import PluginFacts.Text.Blank
import PluginFacts.Yaml.Decode

namespace PluginFacts

/-- A rule as it is written. -/
structure RuleEntry where
  /-- The id, if there is one. -/
  id : Option String
  /-- The name of the target. -/
  target : String
  /-- The capability that the rule gives. -/
  capability : Capability
  /-- What the rule is about. -/
  description : String
  /-- The shape that some member has to have. -/
  members : Option MemberPredicate
deriving DecidableEq, Repr

/-- The content of a rule file. -/
structure RuleFile where
  /-- The names of expected types. -/
  externalTypes : List String
  /-- The rules. -/
  rules : List RuleEntry
deriving DecidableEq, Repr

open Yaml (Decode)

/-- The shape that a node describes. -/
def MemberPredicate.ofYaml (n : Yaml.Node Nat) : Decode MemberPredicate := do
  let parts := ["kind", "name", "descriptor", "annotation"]
  let r ← Decode.record (fun key => if key ∈ parts then some key else none) n
  return {
    kind := ← r.defaulted "kind" (Decode.option (Decode.name MemberKind.ofName?)) none
    name := ← r.defaulted "name" (Decode.option Decode.text) none
    descriptor := ← r.defaulted "descriptor" (Decode.option Decode.text) none
    annotated := ← r.defaulted "annotation" (Decode.option Decode.text) none }

namespace RuleEntry

/-- The part of a rule that a key stands for. -/
def part? : String → Option String
  | "id" => some "id"
  | "target" | "match" | "match_target" => some "target"
  | "kind" | "capability" => some "kind"
  | "desc" | "description" => some "desc"
  | "members" | "member" => some "members"
  | _ => none

/-- The rule that a node describes. -/
def ofYaml (n : Yaml.Node Nat) : Decode RuleEntry := do
  let r ← Decode.record part? n
  return {
    id := ← r.defaulted "id" (Decode.option Decode.text) none
    target := ← r.required "target" Decode.text
    capability := ← r.required "kind" (Decode.name Capability.ofName?)
    description := ← r.defaulted "desc" Decode.text ""
    members := ← r.defaulted "members" (Decode.option MemberPredicate.ofYaml) none }

/-- The name of the target in order. -/
def targetName (e : RuleEntry) : String :=
  ClassFile.dotted (Text.trim e.target)

/-- The id, or one made of the capability and the target if it is missing or blank. -/
def ruleId (e : RuleEntry) : String :=
  (e.id.filter (!Text.isBlankText ·)).getD s!"{e.capability}/{e.targetName}"

/-- The rule in order. -/
def toRule (e : RuleEntry) : Rule where
  id := e.ruleId
  target := e.targetName
  capability := e.capability
  description := e.description
  members := e.members.filter (!·.isEmpty)

end RuleEntry

namespace RuleFile

/-- The rule file that a node describes. -/
def ofYaml (n : Yaml.Node Nat) : Decode RuleFile := do
  let parts := ["external_types", "rules"]
  let r ← Decode.record (fun key => if key ∈ parts then some key else none) n
  return {
    externalTypes := ← r.defaulted "external_types" (Decode.list Decode.text) []
    rules := ← r.defaulted "rules" (Decode.list RuleEntry.ofYaml) [] }

/-- The rule file that a text holds. -/
def ofText? (text : String) : Option RuleFile := do
  Decode.run? ofYaml (← Yaml.Document.ofText? text)

end RuleFile

/-- The table of the rules in files, one file after another. -/
def RuleTable.ofFiles (files : List RuleFile) : Except RuleFault RuleTable :=
  validated {
    rules := files.flatMap fun f => f.rules.map RuleEntry.toRule
    externalTypes := files.flatMap (·.externalTypes) }

end PluginFacts
