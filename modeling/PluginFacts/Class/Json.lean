/-
# Classes and members as JSON

A field that says nothing is left out: the annotations of a member without any, and the origin of
a class without one.
-/
import PluginFacts.Class.Basic
import PluginFacts.Json.Record

namespace PluginFacts

namespace Member

/-- A member as a JSON object. -/
def toJson (m : Member) : Json :=
  .obj <| [("name", .str m.name), ("kind", .str m.kind.name), ("descriptor", .str m.descriptor),
      ("access", .nat m.access.toNat)]
    ++ if m.annotations.isEmpty then [] else [("annotations", .strings m.annotations)]

/-- The member that a JSON value describes. -/
def ofJson? (v : Json) : Option Member := do
  let r ← v.record? ["name", "kind", "descriptor", "access"] ["annotations"]
  return {
    name := ← r.required "name" Json.string?
    kind := ← r.required "kind" (Json.name? MemberKind.ofName?)
    descriptor := ← r.required "descriptor" Json.string?
    access := ← r.required "access" Json.word?
    annotations := ← r.defaulted "annotations" (Json.list? Json.string?) [] }

end Member

namespace Class

/-- A class as a JSON object. -/
def toJson (c : Class) : Json :=
  .obj <| [("name", .str c.name), ("superclass", .strOrNull c.superclass),
      ("interfaces", .strings c.interfaces), ("members", .arr (c.members.map Member.toJson)),
      ("enclosing", .strOrNull c.enclosing), ("access", .nat c.access.toNat),
      ("synthetic", .bool c.synthetic)]
    ++ if c.origin.isEmpty then [] else [("origin", .str c.origin)]

/-- The class that a JSON value describes. -/
def ofJson? (v : Json) : Option Class := do
  let r ← v.record?
    ["name", "superclass", "interfaces", "members", "enclosing", "access", "synthetic"] ["origin"]
  return {
    name := ← r.required "name" Json.string?
    superclass := ← r.optional "superclass" Json.string?
    interfaces := ← r.required "interfaces" (Json.list? Json.string?)
    members := ← r.required "members" (Json.list? Member.ofJson?)
    enclosing := ← r.optional "enclosing" Json.string?
    access := ← r.required "access" Json.word?
    synthetic := ← r.required "synthetic" Json.bool?
    origin := ← r.defaulted "origin" Json.string? "" }

end Class

end PluginFacts
