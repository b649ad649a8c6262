/-
# Classes of one name

Classes sorted by name fall into runs of one name each.  Of every run the first class is kept, so
that each name stands for one class; since origins decide among equal names, it is the one whose
origin comes first.
-/
import PluginFacts.Class.Basic

namespace PluginFacts

/-- Classes of one name. -/
structure Namesakes where
  /-- The class that comes first. -/
  kept : Class
  /-- The others, in order. -/
  ignored : List Class := []
deriving DecidableEq, Repr

namespace Namesakes

/-- One more class, in front: it joins the first group if the name is the same. -/
def add (c : Class) : List Namesakes → List Namesakes
  | [] => [⟨c, []⟩]
  | g :: gs => if c.name = g.kept.name then ⟨c, g.kept :: g.ignored⟩ :: gs else ⟨c, []⟩ :: g :: gs

/-- The runs of one name in a list of classes. -/
def runs : List Class → List Namesakes
  | [] => []
  | c :: cs => add c (runs cs)

/-- The classes of a list, grouped by name and in order of names. -/
def ofClasses (cs : List Class) : List Namesakes :=
  runs (cs.mergeSort Class.le)

/-- The classes that a group consists of. -/
def toList (g : Namesakes) : List Class :=
  g.kept :: g.ignored

theorem flatMap_toList_add (c : Class) (gs : List Namesakes) :
    (add c gs).flatMap toList = c :: gs.flatMap toList := by
  cases gs with
  | nil => rfl
  | cons g gs =>
    simp only [add]
    split <;> rfl

/-- The runs of a list are the list again when put together. -/
@[simp] theorem flatMap_toList_runs (cs : List Class) : (runs cs).flatMap toList = cs := by
  induction cs with
  | nil => rfl
  | cons c cs ih => rw [runs, flatMap_toList_add, ih]

end Namesakes

end PluginFacts
