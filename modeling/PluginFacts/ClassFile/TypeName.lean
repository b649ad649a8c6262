/-
# Names of types

A class file separates the parts of a type's name by slashes and writes the type of an annotation
as a field type, `Lorg/bukkit/event/EventHandler;`.  Everywhere else names are dotted.
-/

namespace PluginFacts.ClassFile

/-- The dotted form of a name with slashes. -/
def dotted (name : String) : String :=
  String.ofList (name.toList.map fun c => if c = '/' then '.' else c)

/-- The dotted name of the class that a field type denotes, if it denotes one. -/
def annotationType? (descriptor : String) : Option String :=
  match descriptor.toList with
  | 'L' :: rest =>
    if rest.getLast? = some ';' ∧ rest.dropLast ≠ [] then
      some (dotted (String.ofList rest.dropLast))
    else none
  | _ => none

end PluginFacts.ClassFile
