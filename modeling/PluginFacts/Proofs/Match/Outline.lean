/-
# What inheritance depends on

The *outline* of a hierarchy is what decides which types its classes reach and in which shape they
are found: the names of the nodes, their supertypes and the members that they declare.  Of a
supertype outside the hierarchy the outline has the name only, and not whether it is known; nor does
it say which class encloses which.  The searches for circles and for ancestors read nothing but the
outline, so they have the same results in hierarchies with the same outline.
-/
import Mathlib.Data.List.Basic
import PluginFacts.Hierarchy.Cycle
import PluginFacts.Match.Basic

namespace PluginFacts

/-- What a class names as its supertype, without regard to whether it is known. -/
def TypeRef.unmarked : TypeRef → TypeRef
  | .inSet id => .inSet id
  | .external name _ => .external name false

@[simp] lemma TypeRef.id?_unmarked (t : TypeRef) : t.unmarked.id? = t.id? := by
  cases t <;> rfl

/-- What of a node decides what it inherits and passes on. -/
structure Outline where
  /-- The name of the class. -/
  name : String
  /-- Its supertypes. -/
  supertypes : List TypeRef
  /-- The members that it declares. -/
  members : List Member

/-- The outline of a node. -/
def Node.outline (n : Node) : Outline where
  name := n.declared.name
  supertypes := n.supertypes.map TypeRef.unmarked
  members := n.declared.members

namespace Hierarchy

/-- The outlines of the nodes. -/
def outline (h : Hierarchy) : Array Outline :=
  h.nodes.map Node.outline

variable {h h' : Hierarchy}

@[simp] lemma typeName_unmarked (h : Hierarchy) (t : TypeRef) :
    h.typeName t.unmarked = h.typeName t := by
  cases t <;> rfl

lemma size_eq (h : Hierarchy) : h.size = h.outline.size := by
  simp [size, outline]

lemma name_eq (h : Hierarchy) (id : ℕ) : h.name id = (h.outline[id]?.map (·.name)).getD "" := by
  simp [name, outline, Node.outline, Function.comp_def]

lemma map_supertypes_eq (h : Hierarchy) (id : ℕ) :
    (h.supertypes id).map TypeRef.unmarked = (h.outline[id]?.map (·.supertypes)).getD [] := by
  cases hn : h.nodes[id]? <;> simp [supertypes, outline, Node.outline, hn]

section

variable (ho : h.outline = h'.outline)

include ho

lemma size_congr : h.size = h'.size := by
  rw [size_eq, ho, size_eq]

lemma name_congr : h.name = h'.name := by
  funext id
  rw [name_eq, ho, name_eq]

lemma typeName_congr : h.typeName = h'.typeName := by
  funext t
  cases t with
  | inSet id => exact congrFun (name_congr ho) id
  | external name known => rfl

lemma map_supertypes_congr (id : ℕ) :
    (h.supertypes id).map TypeRef.unmarked = (h'.supertypes id).map TypeRef.unmarked := by
  rw [map_supertypes_eq, ho, map_supertypes_eq]

/-! ## Circles -/

lemma superclasses_congr : h.superclasses = h'.superclasses := by
  have hunmarked (h : Hierarchy) (id : ℕ) :
      h.superclasses id = ((h.supertypes id).map TypeRef.unmarked).filterMap TypeRef.id? := by
    simp [superclasses, List.filterMap_map]
  funext id
  rw [hunmarked, map_supertypes_congr ho, hunmarked]

theorem cycle?_congr : h.cycle? = h'.cycle? := by
  have hlinks : h.links = h'.links := by
    funext id
    rw [links, superclasses_congr ho, links]
  rw [cycle?, cycle?, hlinks, size_congr ho]

/-! ## Ancestors -/

lemma map_step_congr (a : Ancestor) (id : ℕ) :
    (h.supertypes id).map (h.step a) = (h'.supertypes id).map (h'.step a) := by
  have hunmarked (h : Hierarchy) :
      (h.supertypes id).map (h.step a) =
        ((h.supertypes id).map TypeRef.unmarked).map (h.step a) := by
    simp [step]
  have hstep : h.step a = h'.step a := by
    funext t
    rw [step, step, typeName_congr ho]
  rw [hunmarked, map_supertypes_congr ho, hstep, hunmarked]

lemma nextRound_congr : h.nextRound = h'.nextRound := by
  have hsteps (a : Ancestor) : ((a.node.map h.supertypes).getD []).map (h.step a) =
      ((a.node.map h'.supertypes).getD []).map (h'.step a) := by
    cases a.node with
    | none => rfl
    | some id => exact map_step_congr ho a id
  funext reached round
  simp only [nextRound, hsteps]

lemma rounds_congr (n : ℕ) (reached round : List Ancestor) :
    h.rounds n reached round = h'.rounds n reached round := by
  induction n generalizing reached round with
  | zero => rfl
  | succ n ih =>
    rw [rounds, rounds, nextRound_congr ho]
    cases h'.nextRound reached round with
    | nil => rfl
    | cons a next => exact ih ..

theorem ancestry_congr : h.ancestry = h'.ancestry := by
  funext id
  rw [ancestry, ancestry, name_congr ho, size_congr ho, rounds_congr ho]

/-! ## Matches -/

lemma shape_congr : h.shape = h'.shape := by
  have hmembers (h : Hierarchy) (p : MemberPredicate) (id : ℕ) :
      (h.nodes[id]?).any (fun n => n.declared.members.any p.accepts) =
        (h.outline[id]?).any fun n => n.members.any p.accepts := by
    cases hn : h.nodes[id]? <;> simp [outline, Node.outline, hn]
  funext reached r
  simp only [shape, hmembers, ho]

lemma matchNode_congr (henclosing : h.enclosingName = h'.enclosingName) :
    h.matchNode = h'.matchNode := by
  funext rules id
  have hrule : h.matchRule id (h'.ancestry id) = h'.matchRule id (h'.ancestry id) := by
    funext r
    rw [matchRule, matchRule, name_congr ho, shape_congr ho, henclosing]
  rw [matchNode, matchNode, ancestry_congr ho, hrule]

/-- The same matches are found if, besides, the same classes may have capabilities and are enclosed
by the same ones. -/
theorem matchAll_congr (rules : List Rule) {s : Settings} (hsubjects : h.subjects s = h'.subjects s)
    (henclosing : h.enclosingName = h'.enclosingName) :
    h.matchAll rules s = h'.matchAll rules s := by
  rw [matchAll, matchAll, hsubjects, matchNode_congr ho henclosing]

end

end Hierarchy

end PluginFacts
