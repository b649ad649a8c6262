/-
# Class files

`ClassFile.decode` reads a compiled class from its bytes: the mark and version, the constant pool,
the class's name and supertypes, its fields and then its methods with the annotations on them, and
the attributes of the class.  Bytes after the last attribute are not looked at.  `ClassFile.toClass`
is the class that the file declares.
-/
import PluginFacts.Class.Basic
import PluginFacts.ClassFile.Annotation
import PluginFacts.ClassFile.Attribute

namespace PluginFacts

/-- What is read of a class file.  Names of types have slashes, except those of annotations. -/
structure ClassFile where
  /-- The major version of the format. -/
  version : Nat
  /-- The access flags. -/
  access : UInt16
  /-- The name of the class. -/
  name : String
  /-- The class it extends. -/
  superclass : Option String
  /-- The interfaces it implements. -/
  interfaces : List String
  /-- Its fields, then its methods. -/
  members : List Member
  /-- What its attributes say. -/
  attributes : List ClassFile.ClassAttribute
deriving DecidableEq, Repr

namespace ClassFile

/-- The word that every class file starts with. -/
def magic : Nat := 0xCAFEBABE

/-- The annotation types that an attribute of a member lists. -/
def memberAnnotations (p : Pool) (member name : String) (body : List UInt8) :
    Except Fault (List String) :=
  match name with
  | "RuntimeVisibleAnnotations" | "RuntimeInvisibleAnnotations" =>
    (annotations p body).mapError (.within (.annotations member))
  | _ => .ok []

/-- Reads a member. -/
def memberEntry (p : Pool) (kind : MemberKind) : Decode Member := do
  let access ← Decode.u16 .memberAccess
  let name ← p.text (← Decode.u16 .memberName)
  let descriptor ← p.text (← Decode.u16 .memberDescriptor)
  let count ← Decode.u16 .memberAttributeCount
  let annotations ← Decode.times (attributeEntry p (memberAnnotations p name)) count
  return { name, kind, descriptor, access := .ofNat access, annotations := annotations.flatten }

/-- Reads a table of members of one kind. -/
def memberTable (p : Pool) (kind : MemberKind) : Decode (List Member) := do
  let count ← Decode.u16 .memberCount
  Decode.times (memberEntry p kind) count

/-- Reads the mark of a class file. -/
def mark : Decode Unit := do
  let word ← (Decode.u32 .magic).within .start
  if word ≠ magic then throw (.wrongMagic word)

/-- Reads a reference to an interface. -/
def interfaceEntry (p : Pool) : Decode String := do
  let index ← Decode.u16 .interfaceIndex
  Decode.within .interface (p.className index)

/-- Reads a class file. -/
def parse : Decode ClassFile := do
  mark
  let _ ← Decode.u16 .minorVersion
  let version ← Decode.u16 .majorVersion
  let p ← Pool.decode
  let access ← Decode.u16 .access
  let this ← Decode.u16 .thisClass
  let name ← Decode.within .thisClass (p.className this)
  let super ← Decode.u16 .superClass
  let superclass ← Decode.within .superClass (p.className? super)
  let interfaces ← Decode.times (interfaceEntry p) (← Decode.u16 .interfaceCount)
  let fields ← memberTable p .field
  let methods ← memberTable p .method
  let count ← Decode.u16 .classAttributeCount
  let attributes ← Decode.times (attributeEntry p (ClassAttribute.interpret p name)) count
  return {
    version, access := .ofNat access, name, superclass, interfaces
    members := fields ++ methods, attributes }

/-- The class file that a string of bytes starts with. -/
def decode (bytes : List UInt8) : Except Fault ClassFile :=
  parse.onBytes bytes

/-- The class that a class file declares, labelled with the origin of the file. -/
def toClass (f : ClassFile) (origin : String) : Class where
  name := dotted f.name
  superclass := f.superclass.map dotted
  interfaces := f.interfaces.map dotted
  members := f.members
  enclosing := (ClassAttribute.enclosing? f.attributes).map dotted
  access := f.access
  synthetic := AccessFlag.synthetic.isSet f.access || f.attributes.contains .synthetic
  origin

/-- The release of Java that introduced a version of the format. -/
def javaRelease (version : Nat) : String :=
  match version with
  | 45 => "1.1"
  | 46 => "1.2"
  | 47 => "1.3"
  | 48 => "1.4"
  | n => if 49 ≤ n ∧ n ≤ 255 then toString (n - 44) else s!"unknown ({n})"

end ClassFile

end PluginFacts
