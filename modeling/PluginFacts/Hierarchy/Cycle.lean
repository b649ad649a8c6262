/-
# Circles in a hierarchy

No class may inherit from itself, directly or through others.  `Hierarchy.cycle?` looks for a circle
depth first: it follows the links from each node in turn, remembers the path that it is on and the
nodes that it has not come to, and has found a circle when a link leads back to the path.

The search goes step by step.  Every step takes a new node, follows one link or leaves one node, so
the nodes and links that are left, counted by `Search.work`, bound the number of steps.
-/
import PluginFacts.Failure
import PluginFacts.Hierarchy.Basic

namespace PluginFacts.Hierarchy

/-- How far a search for a circle has come.  The nodes that are neither fresh nor on the path are
finished. -/
structure Search where
  /-- The nodes that the search has not come to. -/
  fresh : List Nat
  /-- The path that the search is on, nearest node first, and of each node the links that it has not
  followed. -/
  path : List (Nat × List Nat)
deriving DecidableEq, Repr

namespace Search

/-- The nodes on the path, nearest first. -/
def nodes (s : Search) : List Nat :=
  s.path.map (·.1)

/-- One step of a search: the search that it leads to, or else the result, which is a circle or
nothing. -/
def step (next : Nat → List Nat) : Search → Search ⊕ Option (List Nat)
  | ⟨[], []⟩ => .inr none
  | ⟨start :: fresh, []⟩ => .inl ⟨fresh, [(start, next start)]⟩
  | ⟨fresh, (_, []) :: path⟩ => .inl ⟨fresh, path⟩
  | ⟨fresh, (id, link :: links) :: path⟩ =>
    if link ∈ fresh then
      .inl ⟨fresh.erase link, (link, next link) :: (id, links) :: path⟩
    else
      let nodes := id :: path.map (·.1)
      if link ∈ nodes then .inr (some (link :: (nodes.takeWhile (· ≠ link)).reverse))
      else .inl ⟨fresh, (id, links) :: path⟩

/-- The steps that are left at most: two for each fresh node and one for each node on the path, and
one for each link that was not followed. -/
def work (next : Nat → List Nat) (s : Search) : Nat :=
  (s.fresh.flatMap fun id => id :: id :: next id).length +
    (s.path.flatMap fun p => p.1 :: p.2).length

theorem length_flatMap_erase (f : Nat → List Nat) {l : List Nat} {a : Nat} (h : a ∈ l) :
    ((l.erase a).flatMap f).length + (f a).length = (l.flatMap f).length := by
  have hl := ((List.perm_cons_erase h).flatMap_right f).length_eq
  rw [List.flatMap_cons, List.length_append] at hl
  omega

theorem work_step {next : Nat → List Nat} {s t : Search} (h : step next s = .inl t) :
    t.work next < s.work next := by
  unfold step at h
  split at h
  · cases h
  · cases h
    simp only [work, List.flatMap_cons, List.flatMap_nil, List.length_append, List.length_cons,
      List.length_nil]
    omega
  · cases h
    simp only [work, List.flatMap_cons, List.length_append, List.length_cons, List.length_nil]
    omega
  · next fresh id link links path =>
    split at h
    · next hlink =>
      cases h
      have he := length_flatMap_erase (fun id => id :: id :: next id) hlink
      simp only [work, List.flatMap_cons, List.length_append, List.length_cons] at he ⊢
      omega
    · dsimp only at h
      split at h
      · cases h
      · cases h
        simp only [work, List.flatMap_cons, List.length_append, List.length_cons]
        omega

/-- The circle that a search finds, if there is one. -/
def run (next : Nat → List Nat) (s : Search) : Option (List Nat) :=
  match _h : step next s with
  | .inl t => run next t
  | .inr result => result
termination_by s.work next
decreasing_by exact work_step _h

end Search

/-- The nodes that a node links to, in the order in which the links are followed: the last supertype
comes first. -/
def links (h : Hierarchy) (id : Nat) : List Nat :=
  (h.superclasses id).reverse

/-- A circle among the nodes, if there is one. -/
def cycle? (h : Hierarchy) : Option (List Nat) :=
  Search.run h.links ⟨List.range h.size, []⟩

/-- The position of the least element of a list, the first one if there are several. -/
def leastIdx (l : List String) : Nat :=
  l.findIdx fun a => l.all fun b => (compare a b).isLE

/-- The names on a circle, from the least one all the way round to it again. -/
def closed (names : List String) : List String :=
  let turned := names.rotateLeft (leastIdx names)
  turned ++ turned.take 1

/-- The hierarchy of some classes, of which the first of each name counts. -/
def build (cs : List Class) (r : Registry) : Except Failure Hierarchy :=
  let h := link cs r
  match h.cycle? with
  | some cycle => .error (.cyclicHierarchy (closed (cycle.map h.name)))
  | none => .ok h

end PluginFacts.Hierarchy
