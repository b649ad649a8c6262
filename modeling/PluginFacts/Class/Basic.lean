/-
# Classes

A class as its class file declares it: what it extends and implements, what it declares, and
which class it is nested in.  Names of types are dotted, `org.bukkit.event.Listener`, and the name
of a nested class keeps its dollar sign, `a.b.Outer$Inner`.
-/
import PluginFacts.Class.Member

namespace PluginFacts

/-- The access flags that tell kinds of classes apart. -/
structure AccessFlag where
  /-- The bit of the flag. -/
  mask : UInt16

namespace AccessFlag

/-- The flag of an interface. -/
def interface : AccessFlag := ⟨0x0200⟩

/-- The flag of an abstract class. -/
def abstract : AccessFlag := ⟨0x0400⟩

/-- The flag of a class that the compiler made up. -/
def synthetic : AccessFlag := ⟨0x1000⟩

/-- The flag of a module descriptor. -/
def module : AccessFlag := ⟨0x8000⟩

/-- Whether the flag is set. -/
def isSet (f : AccessFlag) (access : UInt16) : Bool :=
  access &&& f.mask != 0

end AccessFlag

/-- The class at the root of every hierarchy. -/
def objectClass : String := "java.lang.Object"

/-- The class that every record extends. -/
def recordClass : String := "java.lang.Record"

/-- A class, interface or other type that a class file declares. -/
structure Class where
  /-- The dotted name. -/
  name : String
  /-- The class it extends; a root type extends none. -/
  superclass : Option String := some objectClass
  /-- The interfaces it implements, in order of declaration. -/
  interfaces : List String := []
  /-- The fields and methods it declares. -/
  members : List Member := []
  /-- The class it is nested in. -/
  enclosing : Option String := none
  /-- The access flags. -/
  access : UInt16 := 1
  /-- Whether the compiler made the class up. -/
  synthetic : Bool := false
  /-- Where the class file came from. -/
  origin : String := ""
deriving DecidableEq, Repr

namespace Class

/-- The class is an interface. -/
def isInterface (c : Class) : Bool := AccessFlag.interface.isSet c.access

/-- The class is abstract. -/
def isAbstract (c : Class) : Bool := AccessFlag.abstract.isSet c.access

/-- The class can be instantiated: it is neither an interface nor abstract. -/
def isConcrete (c : Class) : Bool := !c.isInterface && !c.isAbstract

/-- The class is declared inside another one. -/
def isNested (c : Class) : Bool := c.enclosing.isSome

/-- The class file declares a module and no class. -/
def isModule (c : Class) : Bool := AccessFlag.module.isSet c.access

/-- The class with another superclass. -/
def extending (c : Class) (superclass : String) : Class :=
  { c with superclass := some superclass }

/-- The class with one more interface. -/
def implementing (c : Class) (interface : String) : Class :=
  { c with interfaces := c.interfaces ++ [interface] }

/-- The class with one more member. -/
def declaring (c : Class) (m : Member) : Class :=
  { c with members := c.members ++ [m] }

/-- The class nested in another one. -/
def enclosedBy (c : Class) (outer : String) : Class :=
  { c with enclosing := some outer }

end Class

/-- The order of names, and of origins where names are equal. -/
def Class.le (a b : Class) : Bool :=
  ((compare a.name b.name).then (compare a.origin b.origin)).isLE

end PluginFacts
