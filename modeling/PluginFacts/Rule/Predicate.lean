/-
# Shapes of members

A rule may ask for a member of a certain shape: of a kind, with a name, with a descriptor, with an
annotation.  What the predicate does not mention may be anything.
-/
import PluginFacts.Class.Member
import PluginFacts.Json.Record

namespace PluginFacts

/-- The shape that one member has to have. -/
structure MemberPredicate where
  /-- Whether it is a method or a field. -/
  kind : Option MemberKind := none
  /-- Its name. -/
  name : Option String := none
  /-- Its descriptor. -/
  descriptor : Option String := none
  /-- The type of an annotation on it. -/
  annotated : Option String := none
deriving DecidableEq, Repr

namespace MemberPredicate

/-- The predicate does not mention anything. -/
def isEmpty (p : MemberPredicate) : Bool :=
  p.kind.isNone && p.name.isNone && p.descriptor.isNone && p.annotated.isNone

/-- Whether a member has the shape. -/
def accepts (p : MemberPredicate) (m : Member) : Bool :=
  p.kind.all (· == m.kind) && p.name.all (· == m.name) && p.descriptor.all (· == m.descriptor) &&
    p.annotated.all m.hasAnnotation

/-- The shape in words: annotation, kind, name and descriptor. -/
def description (p : MemberPredicate) : String :=
  " ".intercalate <|
    (p.annotated.map ("@" ++ ·)).toList ++ [(p.kind.map MemberKind.name).getD "member"]
      ++ p.name.toList ++ p.descriptor.toList

/-- The predicate as a JSON object with the parts that it mentions. -/
def toJson (p : MemberPredicate) : Json :=
  .obj <| Json.optField "kind" (p.kind.map fun k => .str k.name) ++
    Json.optField "name" (p.name.map .str) ++
    Json.optField "descriptor" (p.descriptor.map .str) ++
    Json.optField "annotation" (p.annotated.map .str)

/-- The predicate that a JSON value describes. -/
def ofJson? (v : Json) : Option MemberPredicate := do
  let r ← v.record? [] ["kind", "name", "descriptor", "annotation"]
  return {
    kind := ← r.optional "kind" (Json.name? MemberKind.ofName?)
    name := ← r.optional "name" Json.string?
    descriptor := ← r.optional "descriptor" Json.string?
    annotated := ← r.optional "annotation" Json.string? }

end MemberPredicate

end PluginFacts
