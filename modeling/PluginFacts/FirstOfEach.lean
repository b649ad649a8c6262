/-
# The first of each

Of the elements of a list that count as the same, the first one is taken, and the
others are dropped.
-/

namespace PluginFacts

/-- The first of all the elements of a list that count as the same. -/
def firstOfEach {α : Type} (same : α → α → Bool) : List α → List α
  | [] => []
  | a :: l => a :: (firstOfEach same l).filter fun b => !same a b

end PluginFacts
