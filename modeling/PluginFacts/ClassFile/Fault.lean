/-
# Why bytes are no class file

A class file is refused for one of a few causes: the bytes end inside an item, an item has a value
that the format does not know, or an index does not lead to what it should.  Some items name the
place in which they failed.  `Fault.message` is the wording of every cause.
-/
import PluginFacts.Text.Quoted

namespace PluginFacts.ClassFile

/-- The items of a class file, by what is read. -/
inductive Item where
  | magic | minorVersion | majorVersion
  | poolCount | slotTag | textLength | text | classEntry | plainEntry | handleEntry | wideEntry
  | access | thisClass | superClass | interfaceCount | interfaceIndex
  | memberCount | memberAccess | memberName | memberDescriptor | memberAttributeCount
  | classAttributeCount | attributeName | attributeLength | attributeBody
  | annotationCount | annotationType | pairCount | elementName
  | valueTag | plainValue | enumValue | arrayLength
  | innerClassCount | innerClassIndex | outerClassIndex | innerClassEntry
  | enclosingClassIndex | nestHostIndex
deriving DecidableEq, Repr

/-- What an item is called in messages. -/
def Item.label : Item → String
  | magic => "magic"
  | minorVersion => "minor version"
  | majorVersion => "major version"
  | poolCount => "constant pool count"
  | slotTag => "constant pool tag"
  | textLength => "UTF8 length"
  | text => "UTF8 string"
  | classEntry => "class entry"
  | plainEntry => "constant pool entry"
  | handleEntry => "method handle entry"
  | wideEntry => "wide constant"
  | access => "access flags"
  | thisClass => "this_class"
  | superClass => "super_class"
  | interfaceCount => "interface count"
  | interfaceIndex => "interface index"
  | memberCount => "member count"
  | memberAccess => "member access flags"
  | memberName => "member name"
  | memberDescriptor => "member descriptor"
  | memberAttributeCount => "member attribute count"
  | classAttributeCount => "class attribute count"
  | attributeName => "attribute name"
  | attributeLength => "attribute length"
  | attributeBody => "attribute body"
  | annotationCount => "annotation count"
  | annotationType => "annotation type"
  | pairCount => "annotation pair count"
  | elementName => "annotation element name"
  | valueTag => "element value tag"
  | plainValue => "element value"
  | enumValue => "enum element value"
  | arrayLength => "array element count"
  | innerClassCount => "inner class count"
  | innerClassIndex => "inner class index"
  | outerClassIndex => "outer class index"
  | innerClassEntry => "inner class entry"
  | enclosingClassIndex => "enclosing class index"
  | nestHostIndex => "nest host index"

/-- The places that a message names before the cause. -/
inductive Place where
  /-- The first word of the file. -/
  | start
  /-- The reference of the class to itself. -/
  | thisClass
  /-- The reference to the superclass. -/
  | superClass
  /-- A reference to an interface. -/
  | interface
  /-- The annotations of the member with the given name. -/
  | annotations (member : String)
deriving DecidableEq, Repr

/-- The wording of a place. -/
def Place.message : Place → String
  | start => "File too small to be a valid class file"
  | thisClass => "Invalid this_class"
  | superClass => "Invalid super_class"
  | interface => "Invalid interface entry"
  | annotations member => "Malformed annotations on member " ++ member

/-- Why bytes are no class file. -/
inductive Fault where
  /-- The bytes end inside an item that starts at the offset. -/
  | truncated (item : Item) (offset : Nat)
  /-- The first word is not the mark of a class file. -/
  | wrongMagic (word : Nat)
  /-- A slot of the constant pool has an unknown tag. -/
  | unknownSlotTag (tag index : Nat)
  /-- The slot at an index holds no text. -/
  | notText (index : Nat)
  /-- The slot at an index holds no class. -/
  | notClass (index : Nat)
  /-- There is no slot at an index. -/
  | noSlot (index : Nat)
  /-- An element value has an unknown tag. -/
  | unknownValueTag (tag : Nat)
  /-- A cause, with the place where it arose. -/
  | within (place : Place) (cause : Fault)
deriving DecidableEq, Repr

/-- The wording of a fault: the place, if one is named, then the cause. -/
def Fault.message : Fault → String
  | truncated item offset => s!"Truncated {item.label} at offset 0x" ++ Text.hex offset
  | wrongMagic word => "Invalid class file magic number 0x" ++ Text.hexPadded 8 word
  | unknownSlotTag tag index => s!"Unknown constant pool tag {tag} at index {index}"
  | notText index => s!"Constant pool index {index} is not a UTF8 entry"
  | notClass index => s!"Constant pool index {index} is not a class entry"
  | noSlot index => s!"Constant pool index {index} out of range"
  | unknownValueTag tag => "Unknown element value tag " ++ Text.quotedChar (Char.ofNat tag)
  | within place cause => place.message ++ ": " ++ cause.message

end PluginFacts.ClassFile
