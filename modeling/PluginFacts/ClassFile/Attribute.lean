/-
# Attributes of a class

An attribute is a named body of known length.  Those of a class that matter here say which class
it is nested in, or that the compiler made it up.  Where several attributes name an outer class,
the table of inner classes counts first, then the enclosing method, then the nest host, and of
several attributes of one kind the last.
-/
import PluginFacts.ClassFile.Pool

namespace PluginFacts.ClassFile

/-- Reads one attribute and makes of its name and body what `interpret` says. -/
def attributeEntry {α : Type} (p : Pool) (interpret : String → List UInt8 → Except Fault α) :
    Decode α := do
  let name ← p.text (← Decode.u16 .attributeName)
  let length ← Decode.u32 .attributeLength
  let body ← Decode.bytes .attributeBody length
  interpret name body

/-- What an attribute says about a class. -/
inductive ClassAttribute where
  /-- A table of inner classes, with the outer classes that it gives this class. -/
  | innerClasses (outer : List String)
  /-- The class was declared in a method of another class. -/
  | enclosingMethod (outer : String)
  /-- The class shares its private members with another one. -/
  | nestHost (host : String)
  /-- The compiler made the class up. -/
  | synthetic
  /-- Nothing that matters here. -/
  | other
deriving DecidableEq, Repr

namespace ClassAttribute

/-- Reads an entry of a table of inner classes and gives the outer class, if the entry is about the
class with the given name and has one. -/
def innerClass (p : Pool) (name : String) : Decode (Option String) := do
  let inner ← Decode.u16 .innerClassIndex
  let outer ← Decode.u16 .outerClassIndex
  Decode.skip .innerClassEntry 4
  if (← p.className inner) = name then p.className? outer else return none

/-- Reads a table of inner classes. -/
def innerClassTable (p : Pool) (name : String) : Decode ClassAttribute := do
  let count ← Decode.u16 .innerClassCount
  let outer ← Decode.times (innerClass p name) count
  return .innerClasses (outer.filterMap id)

/-- Reads a reference to an enclosing method; only its class counts. -/
def enclosingMethodRef (p : Pool) : Decode ClassAttribute := do
  return .enclosingMethod (← p.className (← Decode.u16 .enclosingClassIndex))

/-- Reads a reference to a nest host. -/
def nestHostRef (p : Pool) : Decode ClassAttribute := do
  return .nestHost (← p.className (← Decode.u16 .nestHostIndex))

/-- What the attribute with this name and body says about the class called `self`. -/
def interpret (p : Pool) (self name : String) (body : List UInt8) : Except Fault ClassAttribute :=
  match name with
  | "InnerClasses" => (innerClassTable p self).onBytes body
  | "EnclosingMethod" => (enclosingMethodRef p).onBytes body
  | "NestHost" => (nestHostRef p).onBytes body
  | "Synthetic" => .ok synthetic
  | _ => .ok other

/-- The outer classes from a table of inner classes. -/
def innerOuters : ClassAttribute → List String
  | innerClasses outer => outer
  | _ => []

/-- The outer class from an enclosing method. -/
def enclosingMethod? : ClassAttribute → Option String
  | enclosingMethod outer => some outer
  | _ => none

/-- The host from a nest. -/
def nestHost? : ClassAttribute → Option String
  | nestHost host => some host
  | _ => none

/-- The class that the attributes say a class is nested in. -/
def enclosing? (l : List ClassAttribute) : Option String :=
  (l.flatMap innerOuters).getLast? <|>
    (l.filterMap enclosingMethod?).getLast? <|>
      (l.filterMap nestHost?).getLast?

end ClassAttribute

end PluginFacts.ClassFile
