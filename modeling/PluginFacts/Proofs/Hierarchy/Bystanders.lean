/-
# Classes that have nothing to do with others

Among more classes, some classes are found again as they were (`HasBystanders`): the others have new
names and are named by none of them.  Then the classes that counted still count, at other nodes
perhaps, and going outward leads from a class to the same classes as before
(`HasBystanders.rel_outward`).

Where a chain of enclosing classes ends, the outermost class is its end, with or without the others.
A chain that runs into a circle is followed for as many links as there are nodes and one more, so
the place on the circle where the search stops moves on with every class that is added
(`HasBystanders.same_topLevel_iff`).
-/
import Mathlib.Data.Int.ModEq
import Mathlib.Dynamics.PeriodicPts.Lemmas
import PluginFacts.Proofs.Hierarchy.Outermost

namespace PluginFacts

/-- The second list has the classes of the first one, and others with new names that none of them
names. -/
structure HasBystanders (cs cs' : List Class) : Prop where
  /-- The classes with the old names are the old classes. -/
  filter_eq : cs'.filter (fun d => d.name ∈ cs.map (·.name)) = cs
  /-- An old class names no new class as a supertype. -/
  mem_of_names : ∀ c ∈ cs, ∀ d ∈ cs', c.Names d.name → d.name ∈ cs.map (·.name)
  /-- An old class is not said to be nested in a new one. -/
  mem_of_enclosing : ∀ c ∈ cs, ∀ d ∈ cs', c.enclosing = some d.name → d.name ∈ cs.map (·.name)

namespace HasBystanders

variable {cs cs' : List Class}

/-- Classes that are put behind others are bystanders if they have new names and are not named. -/
lemma of_append {extra : List Class}
    (hextra : ∀ e ∈ extra, ∀ c ∈ cs,
      c.name ≠ e.name ∧ ¬c.Names e.name ∧ c.enclosing ≠ some e.name) :
    HasBystanders cs (cs ++ extra) where
  filter_eq := by
    have hold : ∀ c ∈ cs, c.name ∈ cs.map (·.name) := fun c hc => List.mem_map.2 ⟨c, hc, rfl⟩
    have hnew : ∀ e ∈ extra, e.name ∉ cs.map (·.name) := by
      intro e he hmem
      obtain ⟨c, hc, hname⟩ := List.mem_map.1 hmem
      exact (hextra e he c hc).1 hname
    rw [List.filter_append, List.filter_eq_self.2 (by simpa using hold),
      List.filter_eq_nil_iff.2 (by simpa using hnew), List.append_nil]
  mem_of_names := by
    intro c hc d hd hnames
    rcases List.mem_append.1 hd with hd | hd
    · exact List.mem_map.2 ⟨d, hd, rfl⟩
    · exact absurd hnames (hextra d hd c hc).2.1
  mem_of_enclosing := by
    intro c hc d hd henclosing
    rcases List.mem_append.1 hd with hd | hd
    · exact List.mem_map.2 ⟨d, hd, rfl⟩
    · exact absurd henclosing (hextra d hd c hc).2.2

variable (hcs : HasBystanders cs cs')

include hcs

/-- Of the old classes the same ones count. -/
lemma mem_survivors_iff {c : Class} :
    c ∈ survivors cs ↔ c ∈ survivors cs' ∧ c.name ∈ cs.map (·.name) := by
  have hname : c ∈ survivors cs → c.name ∈ cs.map (·.name) := fun hc =>
    List.mem_map.2 ⟨c, mem_of_mem_survivors hc, rfl⟩
  have hkept (hc : c.name ∈ cs.map (·.name)) : c ∈ survivors cs ↔ c ∈ survivors cs' := by
    have hsort : cs.mergeSort Class.le =
        (cs'.mergeSort Class.le).filter fun d => d.name ∈ cs.map (·.name) := by
      rw [← Class.isSortOrder_le.sort_filter, hcs.filter_eq]
    rw [survivors_eq, survivors_eq, mem_firstOfEach_iff Class.namesake_iff,
      mem_firstOfEach_iff Class.namesake_iff, hsort, List.find?_filter]
    -- a class of the same name has an old name
    have hsame : (fun d => decide (decide (d.name ∈ cs.map (·.name)) = true ∧
        Class.namesake c d = true)) = Class.namesake c := by
      funext d
      by_cases hd : c.name = d.name
      · simp [Class.namesake, ← hd, hc]
      · simp [Class.namesake, hd]
    rw [hsame]
  constructor
  · intro hc
    exact ⟨(hkept (hname hc)).1 hc, hname hc⟩
  · rintro ⟨hc, hold⟩
    exact (hkept hold).2 hc

lemma survivors_eq_filter :
    survivors cs = (survivors cs').filter fun d => d.name ∈ cs.map (·.name) := by
  refine eq_of_pairwise_of_mem_iff (r := fun a b : Class => a.name < b.name) ?_
    (pairwise_survivors cs) ((pairwise_survivors cs').filter _) ?_
  · exact fun a b hab hba => lt_asymm hab hba
  · intro c
    rw [hcs.mem_survivors_iff, List.mem_filter, decide_eq_true_eq]

lemma size_link_le {r r' : Registry} :
    (Hierarchy.link cs r).size ≤ (Hierarchy.link cs' r').size := by
  rw [← Hierarchy.length_classes, ← Hierarchy.length_classes, Hierarchy.classes_link,
    Hierarchy.classes_link, hcs.survivors_eq_filter]
  exact List.length_filter_le _ _

end HasBystanders

namespace Hierarchy

/-- Two nodes of two hierarchies have the same class. -/
def SameClass (h h' : Hierarchy) (id id' : ℕ) : Prop :=
  ∃ c, h.classes[id]? = some c ∧ h'.classes[id']? = some c

namespace SameClass

variable {h h' : Hierarchy} {a b a' b' : ℕ}

lemma name_eq (hab : SameClass h h' a a') : h.name a = h'.name a' := by
  obtain ⟨c, hc, hc'⟩ := hab
  rw [name_of_classes hc, name_of_classes hc']

lemma lt_size (hab : SameClass h h' a a') : a < h.size := by
  obtain ⟨c, hc, -⟩ := hab
  exact lt_size_of_classes hc

lemma lt_size' (hab : SameClass h h' a a') : a' < h'.size := by
  obtain ⟨c, -, hc'⟩ := hab
  exact lt_size_of_classes hc'

lemma eq_iff (hl : h.IsLinked) (hl' : h'.IsLinked) (ha : SameClass h h' a a')
    (hb : SameClass h h' b b') : a = b ↔ a' = b' := by
  constructor
  · rintro rfl
    exact hl'.name_inj ha.lt_size' hb.lt_size' (ha.name_eq.symm.trans hb.name_eq)
  · rintro rfl
    exact hl.name_inj ha.lt_size hb.lt_size (ha.name_eq.trans hb.name_eq.symm)

end SameClass

lemma exists_of_rel_some {r : ℕ → ℕ → Prop} {a : ℕ} {place : Option ℕ}
    (h : Option.Rel r (some a) place) : ∃ b, place = some b ∧ r a b := by
  cases h with
  | some hab => exact ⟨_, rfl, hab⟩

/-- From a chain that runs into a circle the search takes all links that it may take. -/
lemma outward_topLevel_of_circle {h : Hierarchy} {id c m p : ℕ} (hc : h.outward m id = some c)
    (hcc : h.outward (p + 1) c = some c) : h.outward (h.size + 1) id = some (h.topLevel id) := by
  obtain ⟨n, -, hout, hend | rfl⟩ := exists_outward_eq_outer h (h.size + 1) id
  · exact absurd hend (ne_none_of_circle hc hcc hout)
  · exact hout

/-- The circle that a chain runs into is that of the node where the search stops. -/
lemma minimalPeriod_topLevel {h : Hierarchy} {id a n p : ℕ}
    (hin : ∀ a b, h.enclosing b = some a → a < h.size) (hid : id < h.size)
    (ha : h.outward n id = some a) (hp : IsLeast {p | 0 < p ∧ h.outward p a = some a} p) :
    Function.minimalPeriod h.further (some (h.topLevel id)) = p := by
  have hper : Function.IsPeriodicPt h.further p (some a) := hp.1.2
  have hperiod : Function.minimalPeriod h.further (some a) = p :=
    le_antisymm (hper.minimalPeriod_le hp.1.1)
      (hp.2 ⟨hper.minimalPeriod_pos hp.1.1, Function.isPeriodicPt_minimalPeriod _ _⟩)
  obtain ⟨k, rfl⟩ := Nat.exists_eq_succ_of_ne_zero (Nat.ne_of_gt hp.1.1)
  obtain ⟨q, -, hq⟩ := (isOutermost_topLevel hin hid).mem_circle n a k ha hp.1.2
  rw [← hq, outward,
    Function.minimalPeriod_apply_iterate (Function.mk_mem_periodicPts hp.1.1 hper), hperiod]

lemma enclosing_eq_some_iff_name {cs : List Class} {r : Registry} {a b : ℕ} {c d : Class}
    (hc : (link cs r).classes[a]? = some c) (hd : (link cs r).classes[b]? = some d) :
    (link cs r).enclosing b = some a ↔ d.enclosing = some c.name ∧ c.name ≠ d.name := by
  rw [enclosing_eq_some_iff hc hd, ← name_of_classes hc, ← name_of_classes hd]
  have hinj : a = b ↔ (link cs r).name a = (link cs r).name b :=
    ⟨congrArg _, (isLinked_link cs r).name_inj (lt_size_of_classes hc) (lt_size_of_classes hd)⟩
  rw [Ne, hinj]

end Hierarchy

namespace HasBystanders

open Hierarchy

variable {cs cs' : List Class} {r r' : Registry} {id id' : ℕ} (hcs : HasBystanders cs cs')
  (hid : SameClass (link cs r) (link cs' r') id id')

include hcs hid

/-! ## Going outward -/

/-- An old class is nested in the same class as before. -/
lemma rel_enclosing : Option.Rel (SameClass (link cs r) (link cs' r')) ((link cs r).enclosing id)
    ((link cs' r').enclosing id') := by
  obtain ⟨c, hc, hc'⟩ := hid
  have hmem : c ∈ cs := by
    rw [classes_link] at hc
    exact mem_of_mem_survivors (List.mem_of_getElem? hc)
  cases hout : (link cs r).enclosing id with
  | some a =>
    obtain ⟨d, hd⟩ := exists_class_of_lt (enclosing_lt_size hout)
    have hd' : d ∈ (link cs' r').classes := by
      rw [classes_link] at hd ⊢
      exact (hcs.mem_survivors_iff.1 (List.mem_of_getElem? hd)).1
    obtain ⟨a', ha'⟩ := exists_classes_of_mem hd'
    rw [(enclosing_eq_some_iff_name ha' hc').2 ((enclosing_eq_some_iff_name hd hc).1 hout)]
    exact .some ⟨d, hd, ha'⟩
  | none =>
    cases hout' : (link cs' r').enclosing id' with
    | none => exact .none
    | some a' =>
      obtain ⟨d, hd'⟩ := exists_class_of_lt (enclosing_lt_size hout')
      have hinside := (enclosing_eq_some_iff_name hd' hc').1 hout'
      -- the class that it is nested in is an old one, so it was nested in it before
      have hd : d ∈ (link cs r).classes := by
        rw [classes_link] at hd' ⊢
        have hcounts := List.mem_of_getElem? hd'
        exact hcs.mem_survivors_iff.2 ⟨hcounts,
          hcs.mem_of_enclosing c hmem d (mem_of_mem_survivors hcounts) hinside.1⟩
      obtain ⟨a, ha⟩ := exists_classes_of_mem hd
      rw [(enclosing_eq_some_iff_name ha hc).2 hinside] at hout
      cases hout

lemma rel_outward (n : ℕ) : Option.Rel (SameClass (link cs r) (link cs' r'))
    ((link cs r).outward n id) ((link cs' r').outward n id') := by
  induction n with
  | zero => exact .some hid
  | succ n ih =>
    rw [outward_succ, outward_succ]
    generalize (link cs r).outward n id = place, (link cs' r').outward n id' = place' at ih ⊢
    cases ih with
    | none => exact .none
    | some hab => exact hcs.rel_enclosing hab

/-- What is reached before is reached still. -/
lemma exists_outward_eq {n a : ℕ} (ha : (link cs r).outward n id = some a) :
    ∃ a', (link cs' r').outward n id' = some a' ∧ SameClass (link cs r) (link cs' r') a a' := by
  have hrel := hcs.rel_outward hid n
  rw [ha] at hrel
  exact exists_of_rel_some hrel

/-! ## The outermost class -/

/-- The end of a chain stays its end. -/
lemma same_topLevel_of_ends {n e : ℕ} (he : (link cs r).outward n id = some e)
    (hend : (link cs r).enclosing e = none) :
    SameClass (link cs r) (link cs' r') ((link cs r).topLevel id) ((link cs' r').topLevel id') := by
  obtain ⟨e', he', hee⟩ := hcs.exists_outward_eq hid he
  have hend' : (link cs' r').enclosing e' = none := by
    have hrel := hcs.rel_enclosing hee
    rw [hend] at hrel
    generalize (link cs' r').enclosing e' = place at hrel
    cases hrel
    rfl
  have htop := isOutermost_topLevel (fun _ _ => enclosing_lt_size) hid.lt_size
  have htop' := isOutermost_topLevel (fun _ _ => enclosing_lt_size) hid.lt_size'
  rw [(htop.eq_of_ends n e he hend).1, (htop'.eq_of_ends n e' he' hend').1]
  exact hee

/-- On a circle the search stops at the same class if and only if the classes that are added take it
round and round to where it was. -/
theorem same_topLevel_iff {n a p : ℕ} (ha : (link cs r).outward n id = some a)
    (hp : IsLeast {p | 0 < p ∧ (link cs r).outward p a = some a} p) :
    SameClass (link cs r) (link cs' r') ((link cs r).topLevel id) ((link cs' r').topLevel id') ↔
      (link cs r).size ≡ (link cs' r').size [MOD p] := by
  have hl := isLinked_link cs r
  have hl' := isLinked_link cs' r'
  have hle : (link cs r).size ≤ (link cs' r').size := hcs.size_link_le
  have hperiod := minimalPeriod_topLevel (fun _ _ => enclosing_lt_size) hid.lt_size ha hp
  obtain ⟨k, rfl⟩ := Nat.exists_eq_succ_of_ne_zero (Nat.ne_of_gt hp.1.1)
  have htop := outward_topLevel_of_circle ha hp.1.2
  -- the circle is there among more classes too
  obtain ⟨a', ha', haa⟩ := hcs.exists_outward_eq hid ha
  have hcircle' : (link cs' r').outward (k + 1) a' = some a' := by
    obtain ⟨x, hx, hax⟩ := hcs.exists_outward_eq haa hp.1.2
    rw [hx, (SameClass.eq_iff hl hl' hax haa).1 rfl]
  have htop' := outward_topLevel_of_circle ha' hcircle'
  -- so the search among them stops where it would stop here if it took as many links more
  obtain ⟨x, hx, hxtop⟩ : ∃ x, (link cs r).outward ((link cs' r').size - (link cs r).size)
      ((link cs r).topLevel id) = some x ∧
      SameClass (link cs r) (link cs' r') x ((link cs' r').topLevel id') := by
    have hrel := hcs.rel_outward hid ((link cs' r').size + 1)
    have hlinks : (link cs' r').size + 1 =
        (link cs' r').size - (link cs r).size + ((link cs r).size + 1) := by omega
    rw [htop', hlinks, outward_add htop] at hrel
    generalize Hierarchy.outward _ _ _ = place at hrel
    cases hrel with
    | some hxtop => exact ⟨_, rfl, hxtop⟩
  have hsame : SameClass (link cs r) (link cs' r') ((link cs r).topLevel id)
      ((link cs' r').topLevel id') ↔ x = (link cs r).topLevel id := by
    constructor
    · exact fun h => (SameClass.eq_iff hl hl' hxtop h).2 rfl
    · exact fun h => h ▸ hxtop
  have hback : x = (link cs r).topLevel id ↔ Function.IsPeriodicPt (link cs r).further
      ((link cs' r').size - (link cs r).size) (some ((link cs r).topLevel id)) := by
    rw [Function.IsPeriodicPt, Function.IsFixedPt, ← outward, hx, Option.some.injEq]
  rw [hsame, hback, Function.isPeriodicPt_iff_minimalPeriod_dvd, hperiod, Nat.modEq_iff_dvd' hle]

end HasBystanders
end PluginFacts
