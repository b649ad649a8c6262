/-
# Rules do not affect one another

The rules of a table that is not faulty have different ids, so a match is told apart from all others
by its class and its rule, and the order of matches leaves no two of them in doubt
(`IsLinked.eq_of_le_of_le`).  Hence the matches by some rules of a table are those matches by the
table that name one of these rules, and they stand in the same order: rules can be left out, added
or moved without an effect on the matches by the others.
-/
import PluginFacts.Proofs.Match.Gains

namespace PluginFacts

/-! ## Tables without fault -/

namespace RuleTable

/-- The rules have targets and different ids. -/
structure IsSound (rs : List Rule) : Prop where
  /-- Every rule has a target. -/
  target_ne : ∀ r ∈ rs, r.target ≠ ""
  /-- No id is used twice. -/
  nodup : (rs.map (·.id)).Nodup

lemma faultAfter_eq_none_iff {seen : List String} {rs : List Rule} :
    faultAfter seen rs = none ↔
      (∀ r ∈ rs, r.target ≠ "" ∧ r.id ∉ seen) ∧ (rs.map (·.id)).Nodup := by
  induction rs generalizing seen with
  | nil => simp [faultAfter]
  | cons r rs ih =>
    rw [faultAfter]
    split
    · next htarget => simp [String.isEmpty_iff.1 htarget]
    · next htarget =>
      split
      · next hseen => simp [hseen]
      · next hseen =>
        rw [String.isEmpty_iff] at htarget
        rw [ih, List.forall_mem_cons, List.map_cons, List.nodup_cons, List.mem_map]
        simp only [List.mem_cons, not_or]
        constructor
        · rintro ⟨hall, hnodup⟩
          exact ⟨⟨⟨htarget, hseen⟩, fun x hx => ⟨(hall x hx).1, (hall x hx).2.2⟩⟩,
            fun ⟨x, hx, hid⟩ => (hall x hx).2.1 hid, hnodup⟩
        · rintro ⟨⟨-, hall⟩, hnew, hnodup⟩
          exact ⟨fun x hx => ⟨(hall x hx).1, fun hid => hnew ⟨x, hx, hid⟩, (hall x hx).2⟩, hnodup⟩

/-- A table is not faulty if its rules are sound. -/
theorem fault?_eq_none_iff {t : RuleTable} : t.fault? = none ↔ IsSound t.rules := by
  rw [fault?, faultAfter_eq_none_iff]
  simp only [List.not_mem_nil, not_false_iff, and_true]
  exact ⟨fun h => ⟨h.1, h.2⟩, fun h => ⟨h.target_ne, h.nodup⟩⟩

lemma eq_of_id_eq {t : RuleTable} (ht : t.fault? = none) {r r' : Rule} (hr : r ∈ t.rules)
    (hr' : r' ∈ t.rules) (hid : r.id = r'.id) : r = r' :=
  List.inj_on_of_nodup_map (fault?_eq_none_iff.1 ht).nodup hr hr' hid

lemma nodup_rules {t : RuleTable} (ht : t.fault? = none) : t.rules.Nodup :=
  (fault?_eq_none_iff.1 ht).nodup.of_map _

/-- The rules of a table are found again in a larger one by their ids. -/
lemma perm_filter_rules {t t' : RuleTable} (ht : t.fault? = none) (ht' : t'.fault? = none)
    (hsub : t'.rules ⊆ t.rules) :
    (t.rules.filter fun r => r.id ∈ t'.rules.map (·.id)).Perm t'.rules := by
  refine (List.perm_ext_iff_of_nodup ((nodup_rules ht).filter _) (nodup_rules ht')).2 ?_
  intro r
  rw [List.mem_filter, decide_eq_true_eq, List.mem_map]
  constructor
  · rintro ⟨hr, r', hr', hid⟩
    exact eq_of_id_eq ht (hsub hr') hr hid ▸ hr'
  · intro hr
    exact ⟨hsub hr, r, hr, rfl⟩

end RuleTable

/-! ## Matches by some rules -/

lemma Match.className_eq_and_rule_eq_of_le {a b : Match} (hab : a.le b) (hba : b.le a) :
    a.className = b.className ∧ a.rule = b.rule := by
  have heq : Match.order a b = .eq := Std.OrientedCmp.isLE_antisymm hab hba
  rw [compareLex_eq_eq, compareLex_eq_eq, compareLex_eq_eq] at heq
  exact ⟨Std.compare_eq_iff_eq.1 heq.2.1, Std.compare_eq_iff_eq.1 heq.2.2⟩

namespace Hierarchy

variable {h : Hierarchy} {rules : List Rule} {s : Settings}

/-- The matches of a node by some of the rules are those matches by all of them that name one of
these. -/
lemma matchNode_filter (h : Hierarchy) (rules : List Rule) (ids : List String) (id : ℕ) :
    (h.matchNode rules id).filter (fun m => m.rule ∈ ids) =
      h.matchNode (rules.filter fun r => r.id ∈ ids) id := by
  rw [matchNode, matchNode, List.filter_filterMap, List.filterMap_filter]
  refine List.filterMap_congr ?_
  intro r _
  cases hm : h.matchRule id (h.ancestry id) r with
  | none => simp
  | some m =>
    obtain ⟨-, -, -, hrule, -⟩ := of_matchRule_eq_some hm
    rw [Option.filter_some, hrule]

lemma matchAll_filter (h : Hierarchy) (rules : List Rule) (ids : List String) (s : Settings) :
    (h.matchAll rules s).filter (fun m => m.rule ∈ ids) =
      h.matchAll (rules.filter fun r => r.id ∈ ids) s := by
  rw [matchAll, ← Match.isSortOrder_le.sort_filter, List.filter_flatMap, matchAll]
  simp only [matchNode_filter]

/-- No two matches of a hierarchy come before each other. -/
lemma IsLinked.eq_of_le_of_le (hl : h.IsLinked) (hids : (rules.map (·.id)).Nodup) {m m' : Match}
    (hm : m ∈ h.matchAll rules s) (hm' : m' ∈ h.matchAll rules s) (hle : m.le m') (hle' : m'.le m) :
    m = m' := by
  obtain ⟨id, c, hc, -, hm⟩ := mem_matchAll_iff.1 hm
  obtain ⟨id', c', hc', -, hm'⟩ := mem_matchAll_iff.1 hm'
  obtain ⟨r, hr, hmr⟩ := List.mem_filterMap.1 hm
  obtain ⟨r', hr', hmr'⟩ := List.mem_filterMap.1 hm'
  obtain ⟨hname, -, -, hrule, -⟩ := of_matchRule_eq_some hmr
  obtain ⟨hname', -, -, hrule', -⟩ := of_matchRule_eq_some hmr'
  obtain ⟨hclasses, hrules⟩ := Match.className_eq_and_rule_eq_of_le hle hle'
  -- the class decides the node and the id decides the rule
  rw [hname, hname'] at hclasses
  obtain rfl := hl.name_inj (lt_size_of_classes hc) (lt_size_of_classes hc') hclasses
  rw [hrule, hrule'] at hrules
  obtain rfl := List.inj_on_of_nodup_map hids hr hr' hrules
  rw [hmr, Option.some.injEq] at hmr'
  exact hmr'

lemma IsLinked.matchAll_eq_of_perm (hl : h.IsLinked) (hids : (rules.map (·.id)).Nodup)
    {rules' : List Rule} (hp : rules.Perm rules') : h.matchAll rules s = h.matchAll rules' s := by
  refine Match.isSortOrder_le.sort_eq_of_perm ?_ ?_
  · exact List.Perm.flatMap_left _ fun id _ => hp.filterMap _
  · intro m hm m' hm' hle hle'
    exact hl.eq_of_le_of_le hids (List.mem_mergeSort.2 hm) (List.mem_mergeSort.2 hm') hle hle'

/-- **Rules do not affect one another.**  If the rules of a table that is not faulty are among those
of another one, the matches by them are the matches by the other table that name one of them, in the
same order.  So the order of the rules in a table makes no difference. -/
theorem matchAll_eq_filter {cs : List Class} {known : Registry} (hb : build cs known = .ok h)
    {t t' : RuleTable} (ht : t.fault? = none) (ht' : t'.fault? = none) (hsub : t'.rules ⊆ t.rules)
    (s : Settings) :
    h.matchAll t'.rules s =
        (h.matchAll t.rules s).filter (fun m => m.rule ∈ t'.rules.map (·.id)) ∧
      (t'.rules.Perm t.rules → h.matchAll t'.rules s = h.matchAll t.rules s) := by
  have hl := isLinked_of_build_eq_ok hb
  have hids := (RuleTable.fault?_eq_none_iff.1 ht').nodup
  refine ⟨?_, fun hp => hl.matchAll_eq_of_perm hids hp⟩
  rw [matchAll_filter]
  exact hl.matchAll_eq_of_perm hids (RuleTable.perm_filter_rules ht ht' hsub).symm

/-- A class that implements an interface from elsewhere. -/
def implementor : Class where
  name := "x.Main"
  interfaces := ["y.Top"]

/-- Rules for the class and its interface. -/
def manyRules : RuleTable where
  rules :=
    [{ id := "a", target := "y.Top", capability := .eventListener },
      { id := "b", target := "x.Main", capability := .entryPoint },
      { id := "c", target := "y.Top", capability := .scheduledTask }]

/-- Two of the rules, in another order. -/
def fewRules : RuleTable where
  rules :=
    [{ id := "c", target := "y.Top", capability := .scheduledTask },
      { id := "a", target := "y.Top", capability := .eventListener }]

/-- The matches by two of three rules, and by all of them the other way round. -/
theorem matchAll_eq_filter_fewRules :
    manyRules.fault? = none ∧ fewRules.fault? = none ∧ fewRules.rules ⊆ manyRules.rules ∧
      ∃ h, build [implementor] .empty = .ok h ∧
        h.matchAll fewRules.rules {} =
            (h.matchAll manyRules.rules {}).filter (fun m => m.rule ∈ ["c", "a"]) ∧
          h.matchAll manyRules.rules.reverse {} = h.matchAll manyRules.rules {} := by
  have hno : ¬ HasCircle {d | d ∈ survivors [implementor]} := by
    rw [survivors_eq_self (by decide)]
    exact not_hasCircle_of_not_names (by simp [Class.Names, implementor, objectClass])
  have hb : build [implementor] .empty = .ok (link [implementor] .empty) :=
    build_eq_ok_iff.2 ⟨rfl, hno⟩
  have ht : manyRules.fault? = none := by decide
  have ht' : fewRules.fault? = none := by decide
  have hsub : fewRules.rules ⊆ manyRules.rules := by decide
  have hreverse : (RuleTable.mk manyRules.rules.reverse []).fault? = none := by decide
  exact ⟨ht, ht', hsub, _, hb, (matchAll_eq_filter hb ht ht' hsub {}).1,
    (matchAll_eq_filter hb ht hreverse (by decide) {}).2 (List.reverse_perm _)⟩

end Hierarchy

end PluginFacts
