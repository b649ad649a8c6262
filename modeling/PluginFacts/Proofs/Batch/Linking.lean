/-
# Batches and hierarchies keep the same classes

Of several classes of one name one is kept, and this is decided twice: when a batch is made, where
the others are grouped with it to be reported, and when classes are linked, where the sorted list is
rid of repetitions.  Both keep the classes that count, `Batch.classes_ofInputs` and
`Hierarchy.distinct_eq`, so a hierarchy of all classes that the inputs yield is the one of the
classes of the batch, and of the latter no class is dropped (`Batch.build_yielded`).
-/
import PluginFacts.Proofs.Analysis.InputOrder
import PluginFacts.Proofs.Hierarchy.Circle

namespace PluginFacts.Batch

/-- The classes that are read from inputs, in the order of the inputs and without module
descriptors. -/
def yielded (inputs : List ClassInput) : List Class :=
  (inputs.filterMap (·.read.toOption)).filter (!·.isModule)

lemma filterMap_class? (inputs : List ClassInput) : inputs.filterMap class? = yielded inputs := by
  have hclass (i : ClassInput) : class? i = i.read.toOption.filter (!·.isModule) := by
    rw [class?]
    cases i.read with
    | error m => rfl
    | ok c => cases hc : c.isModule <;> simp [Except.toOption, Option.filter, hc]
  simp only [yielded, List.filter_filterMap, ← hclass]

/-- Grouping by name keeps the classes that count. -/
lemma classes_ofInputs (inputs : List ClassInput) :
    (ofInputs inputs).classes = survivors (yielded inputs) := by
  rw [← filterMap_class?]
  rfl

/-- **One class for each name.**  A batch keeps the same classes as are linked when all classes that
the inputs yield are linked, so the hierarchy is the same, or is refused for the same circle.  When
the classes of a batch are linked, none of them is dropped: they are the classes of the nodes. -/
theorem build_yielded (inputs : List ClassInput) (r : Registry) :
    (ofInputs inputs).classes = Hierarchy.distinct (yielded inputs) ∧
      Hierarchy.build (yielded inputs) r = Hierarchy.build (ofInputs inputs).classes r ∧
      Hierarchy.distinct (ofInputs inputs).classes = (ofInputs inputs).classes ∧
      ∀ h, Hierarchy.build (ofInputs inputs).classes r = .ok h →
        h.size = (ofInputs inputs).classes.length ∧
          ∀ i : ℕ, (h.nodes[i]?).map (·.declared) = (ofInputs inputs).classes[i]? := by
  rw [classes_ofInputs]
  refine ⟨(Hierarchy.distinct_eq _).symm, (Hierarchy.build_survivors _ r).symm, ?_, ?_⟩
  · rw [Hierarchy.distinct_eq, survivors_survivors]
  · intro h hb
    obtain ⟨rfl, -⟩ := Hierarchy.build_eq_ok_iff.1 hb
    have hclasses : (Hierarchy.link (survivors (yielded inputs)) r).classes =
        survivors (yielded inputs) := by
      rw [Hierarchy.classes_link, survivors_survivors]
    refine ⟨?_, ?_⟩
    · rw [← Hierarchy.length_classes, hclasses]
    · intro i
      rw [← Hierarchy.classes_getElem?, hclasses]

lemma yielded_rivalInputs : yielded Analysis.rivalInputs =
    [{ name := "A", superclass := none, access := 0x21, origin := "b.class" },
      { name := "A", superclass := none, access := 0x21, origin := "a.class" }] := by
  decide +kernel

lemma classes_rivalInputs : (ofInputs Analysis.rivalInputs).classes =
    [{ name := "A", superclass := none, access := 0x21, origin := "a.class" }] := by
  rw [classes_ofInputs, yielded_rivalInputs, survivors_eq,
    Class.isSortOrder_le.sort_eq_of_perm (List.Perm.swap _ _ _) (by decide),
    List.mergeSort_of_pairwise (by decide)]
  decide

/-- Two inputs declare the same class, and the one with the lesser origin is the only node. -/
theorem build_yielded_rivalInputs :
    ∃ h, Hierarchy.build (ofInputs Analysis.rivalInputs).classes .empty = .ok h ∧
      Hierarchy.build (yielded Analysis.rivalInputs) .empty = .ok h ∧ h.size = 1 ∧
      (h.nodes[0]?).map (·.declared.origin) = some "a.class" := by
  have hno : ¬ HasCircle {d | d ∈ (ofInputs Analysis.rivalInputs).classes} := by
    rw [classes_rivalInputs]
    exact not_hasCircle_of_not_names (by simp [Class.Names])
  obtain ⟨hb, -⟩ := Hierarchy.build_eq_ok_of_pairwise (r := .empty) (pairwise_survivors _) hno
  obtain ⟨-, hbuild, -, hnodes⟩ := build_yielded Analysis.rivalInputs .empty
  obtain ⟨hsize, hdeclared⟩ := hnodes _ hb
  have horigin := congrArg (Option.map (·.origin)) (hdeclared 0)
  rw [classes_rivalInputs] at hsize horigin
  rw [Option.map_map] at horigin
  exact ⟨_, hb, hbuild.trans hb, hsize, horigin⟩

end PluginFacts.Batch
