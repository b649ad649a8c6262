/-
# What a group of namesakes consists of

Grouping by name takes the classes of a list apart: every class is in one group, and the group of a
name consists of all classes of this name, in order of their origins.  The groups are runs of the
sorted list, so this follows from two facts: the classes of a run have one name, and no two runs
have the same.
-/
import Mathlib.Algebra.GroupWithZero.Nat
import PluginFacts.Proofs.Class.Survivors

namespace PluginFacts

namespace Namesakes

variable {cs : List Class} {g : Namesakes}

/-- The classes of a run have one name. -/
lemma name_eq_of_mem_runs (hg : g ∈ runs cs) {c : Class} (hc : c ∈ g.toList) :
    c.name = g.kept.name := by
  induction cs generalizing g with
  | nil => exact absurd hg List.not_mem_nil
  | cons d cs ih =>
    rw [runs] at hg
    cases hruns : runs cs with
    | nil =>
      rw [hruns, add, List.mem_singleton] at hg
      subst hg
      obtain rfl := List.mem_singleton.1 hc
      rfl
    | cons first others =>
      rw [hruns] at ih hg
      by_cases hname : d.name = first.kept.name
      · rw [add, if_pos hname] at hg
        rcases List.mem_cons.1 hg with rfl | hg
        · rcases List.mem_cons.1 hc with rfl | hc
          · rfl
          · exact (ih List.mem_cons_self hc).trans hname.symm
        · exact ih (List.mem_cons_of_mem _ hg) hc
      · rw [add, if_neg hname] at hg
        rcases List.mem_cons.1 hg with rfl | hg
        · obtain rfl := List.mem_singleton.1 hc
          rfl
        · exact ih hg hc

lemma pairwise_ofClasses (cs : List Class) :
    (ofClasses cs).Pairwise fun g g' => g.kept.name ≠ g'.kept.name :=
  (List.pairwise_map.1 (pairwise_survivors cs)).imp ne_of_lt

/-- Of groups of distinct names, the classes of one name are those of its group. -/
lemma filter_flatMap_toList {gs : List Namesakes}
    (hdiff : gs.Pairwise fun g g' => g.kept.name ≠ g'.kept.name)
    (hname : ∀ g ∈ gs, ∀ c ∈ g.toList, c.name = g.kept.name) (hg : g ∈ gs) :
    (gs.flatMap toList).filter (fun c => c.name == g.kept.name) = g.toList := by
  induction gs with
  | nil => exact absurd hg List.not_mem_nil
  | cons first others ih =>
    rw [List.pairwise_cons] at hdiff
    have hothers := ih hdiff.2 (fun g hg => hname g (List.mem_cons_of_mem _ hg))
    rw [List.flatMap_cons, List.filter_append]
    rcases List.mem_cons.1 hg with rfl | hg
    · have hself : g.toList.filter (fun c => c.name == g.kept.name) = g.toList := by
        refine List.filter_eq_self.2 ?_
        intro c hc
        simp [hname g List.mem_cons_self c hc]
      have hnone : (others.flatMap toList).filter (fun c => c.name == g.kept.name) = [] := by
        refine List.filter_eq_nil_iff.2 ?_
        intro c hc
        obtain ⟨g', hg', hc⟩ := List.mem_flatMap.1 hc
        rw [beq_iff_eq, hname g' (List.mem_cons_of_mem _ hg') c hc]
        exact (hdiff.1 g' hg').symm
      rw [hself, hnone, List.append_nil]
    · have hnone : first.toList.filter (fun c => c.name == g.kept.name) = [] := by
        refine List.filter_eq_nil_iff.2 ?_
        intro c hc
        rw [beq_iff_eq, hname first List.mem_cons_self c hc]
        exact hdiff.1 g hg
      rw [hnone, List.nil_append, hothers hg]

lemma toList_of_mem_ofClasses (hg : g ∈ ofClasses cs) :
    g.toList = (cs.mergeSort Class.le).filter fun c => c.name == g.kept.name := by
  rw [← filter_flatMap_toList (pairwise_ofClasses cs)
    (fun _ hg _ hc => name_eq_of_mem_runs hg hc) hg, ofClasses, flatMap_toList_runs]

/-- The group of a name consists of all classes of this name. -/
theorem toList_perm (hg : g ∈ ofClasses cs) :
    g.toList.Perm (cs.filter fun c => c.name == g.kept.name) := by
  rw [toList_of_mem_ofClasses hg]
  exact (List.mergeSort_perm cs Class.le).filter _

/-- Among classes of which no two have the same name, every class stands alone. -/
lemma ignored_eq_nil (hnodup : (cs.map (·.name)).Nodup) (hg : g ∈ ofClasses cs) :
    g.ignored = [] := by
  have hnames : (g.toList.map (·.name)).Nodup :=
    ((toList_perm hg).map _).nodup_iff.2 (hnodup.sublist (List.filter_sublist.map _))
  refine List.eq_nil_iff_forall_not_mem.2 fun d hd => ?_
  have hname : d.name = g.kept.name := name_eq_of_mem_runs hg (List.mem_cons_of_mem _ hd)
  exact (List.nodup_cons.1 hnames).1 (List.mem_map.2 ⟨d, hd, hname⟩)

/-- Every class is in one group. -/
theorem flatMap_toList_perm (cs : List Class) : ((ofClasses cs).flatMap toList).Perm cs := by
  rw [ofClasses, flatMap_toList_runs]
  exact List.mergeSort_perm cs Class.le

/-- Of classes of which no two have the same name, all are kept. -/
theorem map_kept_perm (hnodup : (cs.map (·.name)).Nodup) :
    ((ofClasses cs).map (·.kept)).Perm cs := by
  have hkept : (ofClasses cs).flatMap toList = (ofClasses cs).map (·.kept) := by
    rw [← List.flatMap_pure_eq_map]
    exact List.flatMap_congr fun g hg => by rw [toList, ignored_eq_nil hnodup hg]; rfl
  exact hkept ▸ flatMap_toList_perm cs

end Namesakes

end PluginFacts
