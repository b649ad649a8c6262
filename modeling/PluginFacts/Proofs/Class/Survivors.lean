/-
# The classes that count

Of several classes of one name only one counts: the one whose origin is least, and of those the one
that comes first.  `Survives` says so of a list of classes in any order, and `mem_survivors` that
these are the classes that grouping by name keeps.  Hence the classes that count come in the order
of their names, each name once, and sorting a second time changes nothing (`survivors_eq_self`).
-/
import Mathlib.Data.List.Nodup
import PluginFacts.Class.Namesakes
import PluginFacts.Proofs.Sorting

namespace PluginFacts

namespace Class

lemma isSortOrder_le : IsSortOrder Class.le :=
  .of_cmp (compareLex (compareOn Class.name) (compareOn Class.origin))

lemma le_iff {a b : Class} :
    a.le b ↔ a.name < b.name ∨ a.name = b.name ∧ a.origin ≤ b.origin := by
  rw [Class.le, Ordering.isLE_then_iff_or, compare_isLE_iff, compare_lt_iff_lt,
    Std.compare_eq_iff_eq]

lemma le_iff_origin_le {a b : Class} (h : a.name = b.name) : a.le b ↔ a.origin ≤ b.origin := by
  simp [le_iff, h]

lemma name_le_of_le {a b : Class} (h : a.le b) : a.name ≤ b.name := by
  rcases le_iff.1 h with h | ⟨h, -⟩
  · exact le_of_lt h
  · exact le_of_eq h

/-- Whether two classes have one name. -/
def namesake (a b : Class) : Bool := a.name == b.name

@[simp] lemma namesake_iff (a b : Class) : namesake a b ↔ a.name = b.name := by
  simp [namesake]

end Class

/-- A class of a list counts if no class of its name has a lesser origin, and none that comes before
it has the same origin. -/
def Survives (cs : List Class) (c : Class) : Prop :=
  ∃ before after, cs = before ++ c :: after ∧
    (∀ d ∈ before, d.name = c.name → c.origin < d.origin) ∧
    ∀ d ∈ after, d.name = c.name → c.origin ≤ d.origin

/-- The classes of a list that count, in order of their names. -/
def survivors (cs : List Class) : List Class :=
  (Namesakes.ofClasses cs).map (·.kept)

/-- A class in front of groups is kept, and of the classes kept before it drops the one of its name,
which is that of the first group if there is one. -/
lemma map_kept_add {c : Class} {gs : List Namesakes}
    (hdiff : (gs.map (·.kept)).Pairwise fun a b => Class.namesake a b = false)
    (hle : ∀ g ∈ gs.head?, c.name ≤ g.kept.name ∧ ∀ e ∈ gs, g.kept.name ≤ e.kept.name) :
    (Namesakes.add c gs).map (·.kept) =
      c :: (gs.map (·.kept)).filter fun e => !Class.namesake c e := by
  cases gs with
  | nil => rfl
  | cons g gs =>
    obtain ⟨hcg, hge⟩ := hle g rfl
    rw [List.map_cons, List.pairwise_cons] at hdiff
    by_cases hname : c.name = g.kept.name
    · -- the class joins the first group, whose first class is dropped on the other side
      have hfirst : Class.namesake c g.kept = true := (Class.namesake_iff _ _).2 hname
      have hothers : (gs.map (·.kept)).filter (fun e => !Class.namesake c e) =
          gs.map (·.kept) := by
        refine List.filter_eq_self.2 ?_
        intro e he
        have hne := hdiff.1 e he
        simp only [Class.namesake, beq_eq_false_iff_ne] at hne
        simp [Class.namesake, hname, hne]
      simp [Namesakes.add, hname, hfirst, hothers]
    · -- the class starts a group of its own, and no later class has its name
      have hlt : c.name < g.kept.name := lt_of_le_of_ne hcg hname
      have hall : ((g :: gs).map (·.kept)).filter (fun e => !Class.namesake c e) =
          (g :: gs).map (·.kept) := by
        refine List.filter_eq_self.2 ?_
        intro e he
        obtain ⟨g', hg', rfl⟩ := List.mem_map.1 he
        simp [Class.namesake, ne_of_lt (lt_of_lt_of_le hlt (hge g' hg'))]
      rw [hall, Namesakes.add, if_neg hname]
      rfl

/-- The runs of a list in order of names start with the first class of each name. -/
lemma map_kept_runs {cs : List Class} (hcs : cs.Pairwise fun a b => a.name ≤ b.name) :
    (Namesakes.runs cs).map (·.kept) = firstOfEach Class.namesake cs := by
  induction cs with
  | nil => rfl
  | cons c cs ih =>
    rw [List.pairwise_cons] at hcs
    have ih := ih hcs.2
    have hsorted : ((Namesakes.runs cs).map (·.kept)).Pairwise fun a b => a.name ≤ b.name := by
      rw [ih]
      exact hcs.2.sublist (firstOfEach_sublist _ _)
    rw [Namesakes.runs, firstOfEach, ← ih]
    refine map_kept_add ?_ ?_
    · rw [ih]
      exact pairwise_firstOfEach cs
    · intro g hg
      obtain ⟨gs, hruns⟩ := List.head?_eq_some_iff.1 hg
      rw [hruns] at ih hsorted ⊢
      have hmem : g.kept ∈ firstOfEach Class.namesake cs := by
        rw [← ih]
        exact List.mem_cons_self
      refine ⟨hcs.1 _ (mem_of_mem_firstOfEach hmem), ?_⟩
      intro e he
      rcases List.mem_cons.1 he with rfl | he
      · exact le_refl _
      · exact (List.pairwise_cons.1 hsorted).1 _ (List.mem_map.2 ⟨e, he, rfl⟩)

lemma survivors_eq (cs : List Class) :
    survivors cs = firstOfEach Class.namesake (cs.mergeSort Class.le) :=
  map_kept_runs ((Class.isSortOrder_le.pairwise_sort cs).imp fun h => Class.name_le_of_le h)

/-- The classes that count come in order of their names, and no name comes twice. -/
theorem pairwise_survivors (cs : List Class) :
    (survivors cs).Pairwise fun a b => a.name < b.name := by
  rw [survivors_eq]
  have hle := (Class.isSortOrder_le.pairwise_sort cs).sublist
    (firstOfEach_sublist Class.namesake (cs.mergeSort Class.le))
  refine hle.imp₂ ?_ (pairwise_firstOfEach _)
  intro a b hab hne
  rw [Class.namesake, beq_eq_false_iff_ne] at hne
  exact lt_of_le_of_ne (Class.name_le_of_le hab) hne

/-- Classes that come in order of their names, and of which no two have the same name, all count. -/
theorem survivors_eq_self {cs : List Class} (h : cs.Pairwise fun a b => a.name < b.name) :
    survivors cs = cs := by
  have hle : cs.Pairwise fun a b => Class.le a b = true :=
    h.imp fun hab => Class.le_iff.2 (Or.inl hab)
  rw [survivors_eq, List.mergeSort_of_pairwise hle, firstOfEach_eq_self]
  exact h.imp fun hab => by simp [Class.namesake, ne_of_lt hab]

/-- The classes that count all count among themselves. -/
@[simp] lemma survivors_survivors (cs : List Class) : survivors (survivors cs) = survivors cs :=
  survivors_eq_self (pairwise_survivors cs)

/-- The names of the classes that count are the names of all classes. -/
lemma exists_mem_survivors {cs : List Class} {c : Class} (hc : c ∈ cs) :
    ∃ d ∈ survivors cs, d.name = c.name := by
  rw [survivors_eq]
  exact exists_mem_firstOfEach Class.namesake_iff (List.mem_mergeSort.2 hc)

/-- Grouping by name keeps the classes that count. -/
theorem mem_survivors {cs : List Class} {c : Class} : c ∈ survivors cs ↔ Survives cs c := by
  have hkept := Class.isSortOrder_le.mem_firstOfEach_sort_iff (l := cs) (a := c)
    (q := fun _ => true) Class.namesake_iff fun _ _ => Class.le_iff_origin_le
  rw [List.filter_true, ← survivors_eq] at hkept
  simpa [Survives] using hkept

lemma mem_of_mem_survivors {cs : List Class} {c : Class} (hc : c ∈ survivors cs) : c ∈ cs := by
  obtain ⟨before, after, rfl, -⟩ := mem_survivors.1 hc
  exact List.mem_append_cons_self

/-- Which classes count does not depend on the order of classes with distinct origins. -/
theorem ofClasses_eq_of_perm {cs₁ cs₂ : List Class} (hp : cs₁.Perm cs₂)
    (horigin : (cs₁.map (·.origin)).Nodup) :
    Namesakes.ofClasses cs₁ = Namesakes.ofClasses cs₂ := by
  rw [Namesakes.ofClasses, Namesakes.ofClasses, Class.isSortOrder_le.sort_eq_of_perm hp]
  intro a ha b hb hab hba
  have heq : a.origin = b.origin := by
    rcases Class.le_iff.1 hab with h | ⟨-, h⟩
    · exact absurd h (not_lt_of_ge (Class.name_le_of_le hba))
    · rcases Class.le_iff.1 hba with h' | ⟨-, h'⟩
      · exact absurd (Class.name_le_of_le hab) (not_le_of_gt h')
      · exact le_antisymm h h'
  exact List.inj_on_of_nodup_map horigin ha hb heq

end PluginFacts
