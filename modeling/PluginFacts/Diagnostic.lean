/-
# Diagnostics

What a run found that does not stop it: an input that is no class file, inputs that declare the
same class, and a class that reaches a capability without having the shape that it takes.
-/
import PluginFacts.Capability
import PluginFacts.Input

namespace PluginFacts

/-- Several inputs declare the same class. -/
structure Duplicate where
  /-- The name of the class. -/
  name : String
  /-- The origin of the class that was kept. -/
  kept : String
  /-- The origins of the others. -/
  ignored : List String
deriving DecidableEq, Repr

/-- The wording of the report on a class that several inputs declare. -/
def Duplicate.message (d : Duplicate) : String :=
  s!"duplicate class {d.name}: kept {d.kept}, ignored " ++ ", ".intercalate d.ignored

/-- A class reaches the target of a rule, but nothing that it inherits has the shape that the rule
asks for. -/
structure Warning where
  /-- The capability that the rule gives. -/
  capability : Capability
  /-- The name of the class. -/
  className : String
  /-- The id of the rule. -/
  rule : String
  /-- The outermost class that encloses the class. -/
  enclosing : Option String
deriving DecidableEq, Repr

namespace Warning

/-- What is wrong with the class. -/
def complaint (w : Warning) : String :=
  s!"reaches {w.capability} but lacks the required member shape"

/-- The wording of a warning, which leaves out a class without a name. -/
def message (w : Warning) : String :=
  if w.className.isEmpty then s!"{w.capability} (warning): {w.complaint}"
  else match w.enclosing with
    | some outer => s!"{w.capability} {w.className} in {outer} (warning): {w.complaint}"
    | none => s!"{w.capability} {w.className} (warning): {w.complaint}"

end Warning

/-- What a run found that does not stop it. -/
inductive Diagnostic where
  /-- An input was refused. -/
  | malformed (m : Malformed)
  /-- Several inputs declare the same class. -/
  | duplicate (d : Duplicate)
  /-- A class lacks the shape for a capability that it reaches. -/
  | warning (w : Warning)
deriving DecidableEq, Repr

namespace Diagnostic

/-- The wording of a diagnostic. -/
def message : Diagnostic → String
  | malformed m => m.message
  | duplicate d => d.message
  | warning w => w.message

/-- The text by which the diagnostics of a batch are sorted: the origin that they are about. -/
def key : Diagnostic → String
  | malformed m => m.origin
  | duplicate d => d.kept
  | warning w => w.className

/-- The order of keys. -/
def le (a b : Diagnostic) : Bool :=
  (compare a.key b.key).isLE

end Diagnostic

end PluginFacts
