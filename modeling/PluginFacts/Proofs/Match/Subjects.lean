/-
# Which classes may have capabilities

Scope, exclusions and the other filters of the settings decide which classes the matches are about,
and nothing else.  What a class reaches and in which shape does not depend on them (`matchNode` has
no part for settings), so the matches under some settings are those of all classes that are about
the ones that may have capabilities, in the same order.  That order is strict: no two matches have
the same capability, depth, class and rule.
-/
import PluginFacts.Proofs.Match.Locality
import PluginFacts.Proofs.Match.RuleChoice

namespace PluginFacts

/-- By these settings every class may have capabilities. -/
structure Settings.IsPermissive (s : Settings) : Prop where
  scope_eq : s.scope = []
  exclude_eq : s.exclude = []
  includeAbstract : s.includeAbstract
  includeSynthetic : s.includeSynthetic
  skipNested_eq : s.skipNested = false

lemma Settings.IsPermissive.isSubject {s : Settings} (hs : s.IsPermissive) (c : Class) :
    s.isSubject c := by
  simp [Settings.isSubject, inScope, hs.scope_eq, hs.exclude_eq, hs.includeAbstract,
    hs.includeSynthetic, hs.skipNested_eq]

namespace Match

/-- One match comes before another: by capability, depth, class and rule. -/
def Precedes (a b : Match) : Prop :=
  compare a.capability b.capability = .lt ∨ a.capability = b.capability ∧
    (a.depth < b.depth ∨ a.depth = b.depth ∧
      (a.className < b.className ∨ a.className = b.className ∧ a.rule < b.rule))

lemma precedes_of_le {a b : Match} (hab : a.le b) (hba : ¬ b.le a) : a.Precedes b := by
  have hne : order a b ≠ .eq := by
    intro heq
    have hba' : order b a = .eq := Std.OrientedCmp.eq_symm heq
    exact hba (Ordering.isLE_of_eq_eq hba')
  have hlt : order a b = .lt := (Ordering.isLE_iff_eq_lt_or_eq_eq.1 hab).resolve_right hne
  simp only [order, compareLex, compareOn, Ordering.then_eq_lt, Ordering.then_eq_eq,
    compare_lt_iff_lt, Std.compare_eq_iff_eq] at hlt
  rw [Precedes]
  tauto

end Match

lemma flatMap_filter {α β : Type} (p : α → Bool) (f : α → List β) (l : List α) :
    (l.filter p).flatMap f = l.flatMap fun a => if p a then f a else [] := by
  induction l with
  | nil => rfl
  | cons a l ih => cases hp : p a <;> simp [hp, ih]

namespace Hierarchy

variable {h : Hierarchy} {rules : List Rule} {s p : Settings} {id : ℕ}

/-- A class has at most one match with each rule. -/
lemma pairwise_matchNode (hids : (rules.map (·.id)).Nodup) (id : ℕ) :
    (h.matchNode rules id).Pairwise fun m m' => m.rule ≠ m'.rule := by
  rw [matchNode, List.pairwise_filterMap]
  refine (List.pairwise_map.1 hids).imp ?_
  intro r r' hne m hm m' hm'
  obtain ⟨-, -, -, hrule, -⟩ := of_matchRule_eq_some hm
  obtain ⟨-, -, -, hrule', -⟩ := of_matchRule_eq_some hm'
  rwa [hrule, hrule']

lemma node_of_mem_matchNode {m : Match} (hm : m ∈ h.matchNode rules id) : m.node = id := by
  obtain ⟨r, -, hmr⟩ := List.mem_filterMap.1 hm
  exact (of_matchRule_eq_some hmr).2.1

lemma nodup_matchAll (hids : (rules.map (·.id)).Nodup) (s : Settings) :
    (h.matchAll rules s).Nodup := by
  rw [matchAll, (List.mergeSort_perm _ _).nodup_iff, List.nodup_iff_pairwise_ne,
    List.pairwise_flatMap]
  constructor
  · intro id _
    exact (pairwise_matchNode hids id).imp fun hne heq => hne (congrArg Match.rule heq)
  · -- matches of different nodes differ in the node
    refine (List.nodup_range.filter _).imp ?_
    rintro id id' hne m hm m' hm' rfl
    exact hne ((node_of_mem_matchNode hm).symm.trans (node_of_mem_matchNode hm'))

/-- The matches of a hierarchy come in order, no two in the same place. -/
lemma IsLinked.pairwise_matchAll (hl : h.IsLinked) (hids : (rules.map (·.id)).Nodup)
    (s : Settings) : (h.matchAll rules s).Pairwise Match.Precedes := by
  have hle : (h.matchAll rules s).Pairwise fun m m' => Match.le m m' = true :=
    Match.isSortOrder_le.pairwise_sort _
  refine (hle.and (nodup_matchAll hids s)).imp_of_mem ?_
  rintro m m' hm hm' ⟨hle, hne⟩
  exact Match.precedes_of_le hle fun hle' => hne (hl.eq_of_le_of_le hids hm hm' hle hle')

/-- The matches under some settings are picked from those of all classes. -/
lemma matchAll_eq_filter_of_isPermissive (h : Hierarchy) (rules : List Rule) (s : Settings)
    (hp : p.IsPermissive) :
    h.matchAll rules s = (h.matchAll rules p).filter fun m =>
      (h.nodes[m.node]?).any fun n => s.isSubject n.declared := by
  have hall : h.subjects p = List.range h.size := by
    refine List.filter_eq_self.2 fun id hid => ?_
    rw [List.mem_range, size] at hid
    simp [hid, hp.isSubject]
  rw [matchAll, matchAll, ← Match.isSortOrder_le.sort_filter, List.filter_flatMap, hall, subjects,
    flatMap_filter]
  congr 1
  refine List.flatMap_congr fun id _ => ?_
  -- all matches of a node are picked or none
  have hnode : ∀ m ∈ h.matchNode rules id,
      ((h.nodes[m.node]?).any fun n => s.isSubject n.declared) =
        (h.nodes[id]?).any fun n => s.isSubject n.declared :=
    fun m hm => by rw [node_of_mem_matchNode hm]
  rw [List.filter_congr hnode]
  cases (h.nodes[id]?).any fun n => s.isSubject n.declared <;> simp

/-- **Filters select and do not alter.**  The matches of a hierarchy without circles, by a table
that is not faulty, come in strict order.  They are those matches under permissive settings whose
classes may have capabilities, and they are all the matches of the nodes of such classes. -/
theorem matchAll_eq_filter_isSubject {cs : List Class} {known : Registry}
    (hb : build cs known = .ok h) {t : RuleTable} (ht : t.fault? = none) (s : Settings)
    (hp : p.IsPermissive) :
    (h.matchAll t.rules s).Pairwise Match.Precedes ∧
      h.matchAll t.rules s = (h.matchAll t.rules p).filter (fun m =>
        (h.nodes[m.node]?).any fun n => s.isSubject n.declared) ∧
      ∀ m, m ∈ h.matchAll t.rules s ↔
        ∃ id c, h.classes[id]? = some c ∧ s.isSubject c ∧ m ∈ h.matchNode t.rules id :=
  ⟨(isLinked_of_build_eq_ok hb).pairwise_matchAll (RuleTable.fault?_eq_none_iff.1 ht).nodup s,
    matchAll_eq_filter_of_isPermissive h t.rules s hp, fun _ => mem_matchAll_iff⟩

/-- The class that is extended, as an abstract one. -/
def abstractBase : Class := { base with access := AccessFlag.abstract.mask }

/-- The abstract class may not have capabilities, but its member still counts for the class that
extends it. -/
theorem matchAll_eq_filter_isSubject_heir :
    (RuleTable.mk heirRules []).fault? = none ∧
      ({ includeAbstract := true, includeSynthetic := true } : Settings).IsPermissive ∧
      ({} : Settings).isSubject abstractBase = false ∧
      ∃ h, build [abstractBase, heir] .empty = .ok h ∧
        (h.matchAll heirRules {}).Pairwise Match.Precedes ∧
        h.matchAll heirRules {} =
          (h.matchAll heirRules { includeAbstract := true, includeSynthetic := true }).filter
            (fun m => (h.nodes[m.node]?).any fun n => ({} : Settings).isSubject n.declared) ∧
        ∃ m ∈ h.matchAll heirRules {}, m.className = "x.Heir" ∧ m.shape = .satisfied := by
  have ht : (RuleTable.mk heirRules []).fault? = none := by decide
  have hp : ({ includeAbstract := true, includeSynthetic := true } : Settings).IsPermissive :=
    ⟨rfl, rfl, rfl, rfl, rfl⟩
  obtain ⟨hb, hclasses⟩ := build_heir [abstractBase, heir] .empty (by decide) (by decide)
  obtain ⟨hstrict, hfilter, -⟩ := matchAll_eq_filter_isSubject hb ht {} hp
  refine ⟨ht, hp, by decide, _, hb, hstrict, hfilter, ?_⟩
  have hheir : heir ∈ (link [abstractBase, heir] .empty).classes := by simp [hclasses]
  have hbase : abstractBase ∈ (link [abstractBase, heir] .empty).classes := by simp [hclasses]
  have hway :
      Way {d | d ∈ (link [abstractBase, heir] .empty).classes} 1 heir.name abstractBase.name :=
    .head ⟨heir, hheir, rfl, Or.inl ⟨rfl, by decide⟩⟩ (.refl _)
  obtain ⟨m, hm, hdescribes⟩ := (isLinked_of_build_eq_ok hb).exists_mem_matchAll (s := {}) hheir
    (by decide) (r := heirRules[1]) (List.getElem_mem _) hway
  have hshows : HasShape {d | d ∈ (link [abstractBase, heir] .empty).classes} heir.name heirRules[1]
      .satisfied :=
    ⟨_, rfl, abstractBase, hbase, ⟨1, hway⟩, base.members[0], List.getElem_mem _,
      MemberPredicate.accepts_iff.1 (by decide)⟩
  exact ⟨m, hm, hdescribes.className_eq, hdescribes.hasShape.unique hshows⟩

end Hierarchy

end PluginFacts
