/-
# Gaining and missing capabilities

A class gains a capability by a rule whose target it reaches and whose shape it shows, at the depth
at which it reaches the target.  The matches of a hierarchy that are facts are just these
(`IsLinked.hasFact_matchAll_iff`): what the rules are called and by which first step a class reaches
a target makes no difference here.

By a rule whose target it reaches but whose shape it does not show a class misses the capability.
The matches that are no facts are just these, and here the rules are told apart
(`IsLinked.exists_missing_iff`).
-/
import PluginFacts.Proofs.Match.Description
import PluginFacts.Proofs.Verdict.Facts

namespace PluginFacts

/-- A class that may have capabilities gains one by some rule at some depth. -/
def Gains (D : Set Class) (rules : List Rule) (s : Settings) (k : Capability) (a : String) (n : ℕ) :
    Prop :=
  ∃ c ∈ D, c.name = a ∧ s.isSubject c ∧ ∃ r ∈ rules, r.capability = k ∧
    (∀ p, r.members = some p → Shows D a p) ∧ ∃ d, Distance D a r.target d ∧ n = d - 1

/-- A class that may have capabilities reaches the target of a rule at some depth, but does not show
the shape that the rule asks for. -/
def Misses (D : Set Class) (rules : List Rule) (s : Settings) (k : Capability) (a : String) (n : ℕ)
    (i : String) : Prop :=
  ∃ c ∈ D, c.name = a ∧ s.isSubject c ∧ ∃ r ∈ rules, r.capability = k ∧ r.id = i ∧
    (∃ p, r.members = some p ∧ ¬ Shows D a p) ∧ ∃ d, Distance D a r.target d ∧ n = d - 1

/-- A match does not miss a shape if its class shows what the rule asks for. -/
lemma Match.Describes.shape_ne_missing_iff {D : Set Class} {c : Class} {r : Rule} {m : Match}
    (h : m.Describes D c r) : m.shape ≠ .missing ↔ ∀ p, r.members = some p → Shows D c.name p := by
  have hshape := h.hasShape
  cases hm : m.shape with
  | notRequired =>
    rw [hm] at hshape
    have hnone : r.members = none := hshape
    simp [hnone]
  | satisfied =>
    rw [hm] at hshape
    obtain ⟨p, hp, hshows⟩ := hshape
    simp [hp, hshows]
  | missing =>
    rw [hm] at hshape
    obtain ⟨p, hp, hshows⟩ := hshape
    simp [hp, hshows]

/-- A match misses a shape if its class does not show what the rule asks for. -/
lemma Match.Describes.shape_eq_missing_iff {D : Set Class} {c : Class} {r : Rule} {m : Match}
    (h : m.Describes D c r) :
    m.shape = .missing ↔ ∃ p, r.members = some p ∧ ¬ Shows D c.name p := by
  rw [← not_iff_not, ← Ne, h.shape_ne_missing_iff, not_exists]
  exact forall_congr' fun p => not_and_not_right.symm

namespace Hierarchy

variable {h : Hierarchy} {rules : List Rule} {s : Settings} {m : Match}

/-- The matches of a hierarchy are those of the classes that may have capabilities. -/
lemma mem_matchAll_iff :
    m ∈ h.matchAll rules s ↔
      ∃ id c, h.classes[id]? = some c ∧ s.isSubject c ∧ m ∈ h.matchNode rules id := by
  rw [matchAll, List.mem_mergeSort, List.mem_flatMap]
  constructor
  · rintro ⟨id, hid, hm⟩
    rw [subjects, List.mem_filter, Option.any_eq_true_iff_get] at hid
    obtain ⟨-, hsome, hsubject⟩ := hid
    refine ⟨id, _, ?_, hsubject, hm⟩
    rw [classes_getElem?, Option.map_eq_some_iff]
    exact ⟨_, (Option.some_get hsome).symm, rfl⟩
  · rintro ⟨id, c, hc, hsubject, hm⟩
    refine ⟨id, ?_, hm⟩
    have hlt := lt_size_of_classes hc
    rw [classes_getElem?, Option.map_eq_some_iff] at hc
    obtain ⟨node, hnode, rfl⟩ := hc
    rw [subjects, List.mem_filter, List.mem_range, hnode, Option.any_some]
    exact ⟨hlt, hsubject⟩

/-- A match of a hierarchy describes how a class that may have capabilities reaches the target of a
rule. -/
lemma IsLinked.exists_describes (hl : h.IsLinked) (hm : m ∈ h.matchAll rules s) :
    ∃ c, h.classes[m.node]? = some c ∧ s.isSubject c ∧ m.enclosing = h.enclosingName m.node ∧
      ∃ r ∈ rules, m.Describes {d | d ∈ h.classes} c r := by
  obtain ⟨id, c, hc, hsubject, hm⟩ := mem_matchAll_iff.1 hm
  obtain ⟨r, hr, hmr⟩ := List.mem_filterMap.1 hm
  obtain ⟨-, rfl, -, -, henclosing⟩ := of_matchRule_eq_some hmr
  obtain ⟨-, -, hdescribes⟩ := ((hl.isComplete_ancestry hc).matchRule_spec hc r).2 m hmr
  exact ⟨c, hc, hsubject, henclosing, r, hr, hdescribes⟩

/-- Every class that may have capabilities has a match with each rule whose target it reaches. -/
lemma IsLinked.exists_mem_matchAll (hl : h.IsLinked) {c : Class} (hc : c ∈ h.classes)
    (hsubject : s.isSubject c) {r : Rule} (hr : r ∈ rules) {n : ℕ}
    (hway : Way {d | d ∈ h.classes} n c.name r.target) :
    ∃ m ∈ h.matchAll rules s, m.Describes {d | d ∈ h.classes} c r := by
  obtain ⟨id, hid⟩ := exists_classes_of_mem hc
  have hspec := (hl.isComplete_ancestry hid).matchRule_spec hid r
  cases hmr : h.matchRule id (h.ancestry id) r with
  | none => exact absurd ⟨n, hway⟩ (hspec.1 hmr)
  | some m =>
    exact ⟨m, mem_matchAll_iff.2 ⟨id, c, hid, hsubject, List.mem_filterMap.2 ⟨r, hr, hmr⟩⟩,
      (hspec.2 m hmr).2.2⟩

/-- The facts among the matches of a hierarchy say which classes gain which capabilities. -/
theorem IsLinked.hasFact_matchAll_iff (hl : h.IsLinked) (k : Capability) (a : String) (n : ℕ) :
    Verdict.HasFact (h.matchAll rules s) k a n ↔ Gains {d | d ∈ h.classes} rules s k a n := by
  constructor
  · rintro ⟨m, hm, hfact, rfl, rfl, rfl⟩
    obtain ⟨c, hc, hsubject, -, r, hr, hdescribes⟩ := hl.exists_describes hm
    obtain ⟨d, hd, hdepth, -⟩ := hdescribes.way
    rw [hdescribes.className_eq]
    exact ⟨c, List.mem_of_getElem? hc, rfl, hsubject, r, hr, hdescribes.capability_eq.symm,
      hdescribes.shape_ne_missing_iff.1 hfact, d, hd, hdepth⟩
  · rintro ⟨c, hc, rfl, hsubject, r, hr, rfl, hshows, d, hd, rfl⟩
    obtain ⟨m, hm, hdescribes⟩ := hl.exists_mem_matchAll hc hsubject hr hd.1
    obtain ⟨d', hd', hdepth, -⟩ := hdescribes.way
    obtain rfl := hd.unique hd'
    exact ⟨m, hm, hdescribes.shape_ne_missing_iff.2 hshows, hdescribes.capability_eq,
      hdescribes.className_eq, hdepth⟩

/-- The matches of a hierarchy that miss a shape say which classes miss which capabilities, by which
rules. -/
theorem IsLinked.exists_missing_iff (hl : h.IsLinked) (k : Capability) (a : String) (n : ℕ)
    (i : String) :
    (∃ m ∈ h.matchAll rules s, m.shape = .missing ∧ m.claim = (k, a) ∧ m.depth = n ∧ m.rule = i) ↔
      Misses {d | d ∈ h.classes} rules s k a n i := by
  constructor
  · rintro ⟨m, hm, hmissing, hclaim, rfl, rfl⟩
    obtain ⟨rfl, rfl⟩ := Prod.mk.inj hclaim
    obtain ⟨c, hc, hsubject, -, r, hr, hdescribes⟩ := hl.exists_describes hm
    obtain ⟨d, hd, hdepth, -⟩ := hdescribes.way
    rw [hdescribes.className_eq]
    exact ⟨c, List.mem_of_getElem? hc, rfl, hsubject, r, hr, hdescribes.capability_eq.symm,
      hdescribes.rule_eq.symm, hdescribes.shape_eq_missing_iff.1 hmissing, d, hd, hdepth⟩
  · rintro ⟨c, hc, rfl, hsubject, r, hr, rfl, rfl, hmisses, d, hd, rfl⟩
    obtain ⟨m, hm, hdescribes⟩ := hl.exists_mem_matchAll hc hsubject hr hd.1
    obtain ⟨d', hd', hdepth, -⟩ := hdescribes.way
    obtain rfl := hd.unique hd'
    exact ⟨m, hm, hdescribes.shape_eq_missing_iff.2 hmisses,
      Prod.ext hdescribes.capability_eq hdescribes.className_eq, hdepth, hdescribes.rule_eq⟩

end Hierarchy

end PluginFacts
