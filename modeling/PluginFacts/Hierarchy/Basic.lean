/-
# Hierarchies

A hierarchy links classes by what they extend and implement.  Its nodes are the classes in order of
names, one for each name; a supertype is another node where the name is among them, and otherwise an
*external* type, of which nothing but the name is known.  The root classes are no superclass of
anything, but may be named as interfaces.

Which class encloses which is a second relation on the nodes, independent of the first.
-/
import PluginFacts.Hierarchy.Registry

namespace PluginFacts

/-- What a class names as its supertype. -/
inductive TypeRef where
  /-- The node with the given index. -/
  | inSet (id : Nat)
  /-- A type outside the analysed classes, and whether it is known. -/
  | external (name : String) (recognized : Bool)
deriving DecidableEq, Repr

/-- A class in a hierarchy. -/
structure Node where
  /-- The class as it was declared. -/
  declared : Class
  /-- What it extends, unless that is a root class. -/
  parent : Option TypeRef
  /-- What it implements, in order of declaration. -/
  interfaces : List TypeRef
  /-- The node that encloses it, unless that is the class itself. -/
  enclosing : Option Nat
deriving DecidableEq, Repr

/-- The supertypes of a class: what it extends, then what it implements. -/
def Node.supertypes (n : Node) : List TypeRef :=
  n.parent.toList ++ n.interfaces

/-- The node that a supertype is. -/
def TypeRef.id? : TypeRef → Option Nat
  | inSet id => some id
  | external _ _ => none

/-- Classes linked by inheritance. -/
structure Hierarchy where
  /-- The nodes in order of names, which are distinct. -/
  nodes : Array Node
deriving DecidableEq, Repr

namespace Hierarchy

/-- The number of nodes. -/
def size (h : Hierarchy) : Nat := h.nodes.size

/-- The supertypes of a node. -/
def supertypes (h : Hierarchy) (id : Nat) : List TypeRef :=
  (h.nodes[id]?.map Node.supertypes).getD []

/-- The supertypes of a node that are nodes. -/
def superclasses (h : Hierarchy) (id : Nat) : List Nat :=
  (h.supertypes id).filterMap TypeRef.id?

/-- The name of a node. -/
def name (h : Hierarchy) (id : Nat) : String :=
  (h.nodes[id]?.map (·.declared.name)).getD ""

/-- The name of a supertype. -/
def typeName (h : Hierarchy) : TypeRef → String
  | .inSet id => h.name id
  | .external name _ => name

/-- The node with a name. -/
def lookup (h : Hierarchy) (name : String) : Option Nat :=
  h.nodes.findIdx? fun n => n.declared.name == name

/-- The node that encloses a node. -/
def enclosing (h : Hierarchy) (id : Nat) : Option Nat :=
  h.nodes[id]?.bind (·.enclosing)

/-- Puts a node behind the others that the same node encloses. -/
def nest (h : Hierarchy) (table : Array (List Nat)) (inner : Nat) : Array (List Nat) :=
  match h.enclosing inner with
  | some outer => table.modify outer (· ++ [inner])
  | none => table

/-- The nodes that each node encloses.  The nodes are gone through in order, and each is put behind
the others at the node that encloses it. -/
def nestings (h : Hierarchy) : Array (List Nat) :=
  (List.range h.size).foldl h.nest (Array.replicate h.size [])

/-- The nodes that a node encloses, in order. -/
def nested (h : Hierarchy) (id : Nat) : List Nat :=
  h.nestings.getD id []

/-- The node that is reached by following the links to enclosing classes, at most `hops` times. -/
def outer (h : Hierarchy) : (hops id : Nat) → Nat
  | 0, id => id
  | hops + 1, id =>
    match h.enclosing id with
    | some id => outer h hops id
    | none => id

/-- The outermost class around a node.  A chain of distinct classes has fewer links than there are
nodes, so the bound only matters where classes are said to enclose one another. -/
def topLevel (h : Hierarchy) (id : Nat) : Nat :=
  h.outer (h.size + 1) id

/-- The supertypes that are neither in the hierarchy nor known, in order of names. -/
def unrecognized (h : Hierarchy) : List String :=
  let names := h.nodes.toList.flatMap fun n => n.supertypes.filterMap fun
    | .external name false => some name
    | _ => none
  names.eraseDups.mergeSort fun a b => (compare a b).isLE

/-- What a name stands for as a supertype. -/
def resolve (names : Array String) (r : Registry) (name : String) : TypeRef :=
  match names.findIdx? (· == name) with
  | some id => .inSet id
  | none => .external name (r.isRecognized name)

/-- The node with index `id` for a class. -/
def node (names : Array String) (r : Registry) (c : Class) (id : Nat) : Node where
  declared := c
  parent := (c.superclass.filter (!isRootClass ·)).map (resolve names r)
  interfaces := c.interfaces.map (resolve names r)
  enclosing := (c.enclosing.bind fun name => names.findIdx? (· == name)).filter (· != id)

/-- The classes that are linked: those of a list in order of names and origins, less every class
that follows one of the same name. -/
def distinct (cs : List Class) : List Class :=
  (cs.mergeSort Class.le).eraseRepsBy fun a b => a.name == b.name

/-- The hierarchy of some classes, of which the first of each name counts, without regard to
circles. -/
def link (cs : List Class) (r : Registry) : Hierarchy :=
  let kept := distinct cs
  let names := (kept.map (·.name)).toArray
  ⟨(kept.mapIdx fun id c => node names r c id).toArray⟩

end Hierarchy

end PluginFacts
