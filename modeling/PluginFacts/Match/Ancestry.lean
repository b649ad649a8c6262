/-
# Ancestry

The types that a class reaches by going from each type to its supertypes, with the least number of
steps to each.  They are found in rounds: a round collects the types that are one step further away
than those before.  Of several shortest ways to a type the one whose first step has the least name
counts.  Types outside the hierarchy are reached but not passed through.

Each round that is not the last one reaches a node for the first time, so there are no more rounds
than nodes.
-/
import PluginFacts.FirstOfEach
import PluginFacts.Hierarchy.Basic

namespace PluginFacts

/-- A type that a class reaches. -/
structure Ancestor where
  /-- The name of the type. -/
  name : String
  /-- The least number of steps to it. -/
  distance : Nat
  /-- The first step on the way to it, unless the way is empty. -/
  via : Option String
  /-- The node that the type is, if it is one. -/
  node : Option Nat
deriving DecidableEq, Repr

namespace Ancestor

/-- The order of names, and of first steps where names are equal. -/
def le (a b : Ancestor) : Bool :=
  ((compare a.name b.name).then (compare a.via b.via)).isLE

/-- One of each name in a list, the first one. -/
def distinct (l : List Ancestor) : List Ancestor :=
  firstOfEach (fun a b => a.name == b.name) l

end Ancestor

namespace Hierarchy

/-- One step on from a type that was reached, to a supertype of it. -/
def step (h : Hierarchy) (a : Ancestor) (t : TypeRef) : Ancestor where
  name := h.typeName t
  distance := a.distance + 1
  via := some (a.via.getD (h.typeName t))
  node := t.id?

/-- The types that are one step further away than those of the round before, given the types that
were reached up to then. -/
def nextRound (h : Hierarchy) (reached round : List Ancestor) : List Ancestor :=
  let steps := round.flatMap fun a => ((a.node.map h.supertypes).getD []).map (h.step a)
  let new := steps.filter fun s => reached.all (·.name ≠ s.name)
  Ancestor.distinct (new.mergeSort Ancestor.le)

/-- The types that are reached in a number of further rounds, after those that were reached
before. -/
def rounds (h : Hierarchy) : (n : Nat) → (reached round : List Ancestor) → List Ancestor
  | 0, reached, _ => reached
  | n + 1, reached, round =>
    match h.nextRound reached round with
    | [] => reached
    | next => rounds h n (reached ++ next) next

/-- The types that a node reaches, nearest first, starting with the node itself. -/
def ancestry (h : Hierarchy) (id : Nat) : List Ancestor :=
  let start : Ancestor := { name := h.name id, distance := 0, via := none, node := some id }
  h.rounds h.size [start] [start]

end Hierarchy

end PluginFacts
