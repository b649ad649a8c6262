/-
# Nodes of YAML

A YAML document is a tree of nodes.  A node may have an anchor, and elsewhere an *alias* stands for
the node again.  `ρ` is the type of what anchors and aliases refer to each other by: names as they
are written, or numbers once the names are resolved.

Numbers are given to anchors in order: each gets the number of different names before it.  A name
that is used again therefore gets a new number, but the next new name gets the same one.  An alias
has the number that its name had last, and stands for the last node with that number.
-/

namespace PluginFacts.Yaml

/-- What a node may have in front of it. -/
structure Properties (ρ : Type) where
  /-- The anchor. -/
  anchor : Option ρ := none
  /-- The full name of the tag. -/
  tag : Option (List UInt8) := none

/-- A node. -/
inductive Node (ρ : Type) where
  /-- A reference to another node. -/
  | reference (target : ρ)
  /-- A scalar, and whether it is written without quotes. -/
  | scalar (properties : Properties ρ) (plain : Bool) (text : String)
  /-- A list. -/
  | seq (properties : Properties ρ) (elements : List (Node ρ))
  /-- A mapping. -/
  | map (properties : Properties ρ) (entries : List (Node ρ × Node ρ))

namespace Node

variable {ρ : Type}

/-- The scalar that stands where there is none. -/
def empty (p : Properties ρ) : Node ρ := scalar p true ""

mutual

/-- The number of steps in which a node is read: one for a scalar or alias, and one for each end of
a collection. -/
def weight : Node ρ → Nat
  | reference _ | scalar _ _ _ => 1
  | seq _ elements => 2 + weightAll elements
  | map _ entries => 2 + weightEntries entries

/-- The number of steps in which nodes are read. -/
def weightAll : List (Node ρ) → Nat
  | [] => 0
  | n :: ns => n.weight + weightAll ns

/-- The number of steps in which the entries of a mapping are read. -/
def weightEntries : List (Node ρ × Node ρ) → Nat
  | [] => 0
  | (k, v) :: es => k.weight + v.weight + weightEntries es

end

mutual

/-- The nodes with anchors, in the order in which they start. -/
def anchored : Node ρ → List (ρ × Node ρ)
  | reference _ => []
  | scalar p plain text => p.anchor.toList.map (·, scalar p plain text)
  | seq p elements => p.anchor.toList.map (·, seq p elements) ++ anchoredAll elements
  | map p entries => p.anchor.toList.map (·, map p entries) ++ anchoredEntries entries

/-- The nodes with anchors among some nodes. -/
def anchoredAll : List (Node ρ) → List (ρ × Node ρ)
  | [] => []
  | n :: ns => n.anchored ++ anchoredAll ns

/-- The nodes with anchors in the entries of a mapping. -/
def anchoredEntries : List (Node ρ × Node ρ) → List (ρ × Node ρ)
  | [] => []
  | (k, v) :: es => k.anchored ++ v.anchored ++ anchoredEntries es

end

/-- The names of anchors so far, with their numbers, the last one first. -/
abbrev Names := List (String × Nat)

/-- The names with one more anchor, and its number. -/
def Names.add (names : Names) (name : String) : Names × Nat :=
  let number := (names.map Prod.fst).eraseDups.length
  ((name, number) :: names, number)

/-- The properties of a node with the number of its anchor. -/
def number (names : Names) (p : Properties String) : Names × Properties Nat :=
  match p.anchor with
  | none => (names, { tag := p.tag })
  | some name =>
    let (names, number) := names.add name
    (names, { anchor := some number, tag := p.tag })

mutual

/-- The node with numbers for names, unless an alias has a name that is not known before it. -/
def resolve (names : Names) : Node String → Option (Names × Node Nat)
  | reference name => (names.lookup name).map fun n => (names, reference n)
  | scalar p plain text =>
    let (names, p) := number names p
    some (names, scalar p plain text)
  | seq p elements => do
    let (names, p) := number names p
    let (names, elements) ← resolveAll names elements
    return (names, seq p elements)
  | map p entries => do
    let (names, p) := number names p
    let (names, entries) ← resolveEntries names entries
    return (names, map p entries)

/-- The nodes with numbers for names. -/
def resolveAll (names : Names) : List (Node String) → Option (Names × List (Node Nat))
  | [] => some (names, [])
  | n :: ns => do
    let (names, n) ← resolve names n
    let (names, ns) ← resolveAll names ns
    return (names, n :: ns)

/-- The entries of a mapping with numbers for names. -/
def resolveEntries (names : Names) :
    List (Node String × Node String) → Option (Names × List (Node Nat × Node Nat))
  | [] => some (names, [])
  | (k, v) :: es => do
    let (names, k) ← resolve names k
    let (names, v) ← resolve names v
    let (names, es) ← resolveEntries names es
    return (names, (k, v) :: es)

end

end Node

end PluginFacts.Yaml
