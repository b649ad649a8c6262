/-
# The outermost class around a class

From a node one can go outward, to the node that encloses it, and further on from there (`outward`).
Classes may say of one another that they enclose each other, so this may go on for ever. What is
found as the outermost node is described by `IsOutermost`: the chain of enclosing nodes ends there,
or else it has run into a circle and the node is on the circle.

The search takes a limited number of links.  That this is enough is a matter of counting: if a chain
has as many links as there are nodes, it comes to some node twice (`exists_lt_outward_eq`).  Then it
never ends, so a chain that ends has fewer links and is not cut short; and then the node where the
search stops is past the place where the chain closes up.
-/
import Mathlib.Data.Finset.Card
import Mathlib.Dynamics.PeriodicPts.Defs
import PluginFacts.Proofs.Hierarchy.Enclosing

namespace PluginFacts.Hierarchy

/-- One link outward, if there is one. -/
def further (h : Hierarchy) (place : Option ℕ) : Option ℕ :=
  place.bind h.enclosing

/-- The node that `n` links outward lead to, if there are as many. -/
def outward (h : Hierarchy) (n id : ℕ) : Option ℕ :=
  h.further^[n] (some id)

/-- The node is the outermost one around a node, as far as there is one. -/
structure IsOutermost (h : Hierarchy) (id top : ℕ) : Prop where
  /-- It is a node. -/
  lt_size : top < h.size
  /-- It is reached by some links, of which there is at most one more than nodes. -/
  exists_outward_eq : ∃ n ≤ h.size + 1, h.outward n id = some top
  /-- The chain of enclosing nodes ends or comes back to one of its nodes. -/
  ends_or_returns : (∃ n e, h.outward n id = some e ∧ h.enclosing e = none) ∨
    ∃ n c p, h.outward n id = some c ∧ h.outward (p + 1) c = some c
  /-- If the chain ends, it ends at this node, and has fewer links than there are nodes. -/
  eq_of_ends : ∀ n e, h.outward n id = some e → h.enclosing e = none → top = e ∧ n < h.size
  /-- If the chain runs into a circle, the node is on the circle. -/
  mem_circle : ∀ n c p, h.outward n id = some c → h.outward (p + 1) c = some c →
    ∃ q ≤ p, h.outward q c = some top

variable {h : Hierarchy} {a b c e id m n p : ℕ}

/-! ## Going outward -/

lemma outward_succ (h : Hierarchy) (n id : ℕ) :
    h.outward (n + 1) id = (h.outward n id).bind h.enclosing :=
  Function.iterate_succ_apply' _ _ _

lemma outward_add (hb : h.outward m id = some b) (n : ℕ) :
    h.outward (n + m) id = h.outward n b := by
  rw [outward, Function.iterate_add_apply]
  exact congrArg _ hb

lemma outward_succ_of_enclosing (hb : h.enclosing id = some b) (n : ℕ) :
    h.outward (n + 1) id = h.outward n b :=
  outward_add (m := 1) hb n

lemma outward_succ_eq_none (he : h.outward n id = some e) (hend : h.enclosing e = none) :
    h.outward (n + 1) id = none := by
  rw [outward_succ, he, Option.bind_some, hend]

/-- Before a node that is reached, there is a node after any number of links. -/
lemma exists_outward_of_le (hmn : m ≤ n) (hb : h.outward n id = some b) :
    ∃ a, h.outward m id = some a := by
  rw [← Option.ne_none_iff_exists']
  intro hnone
  obtain ⟨k, rfl⟩ := Nat.exists_eq_add_of_le' hmn
  have hnone' : h.outward (k + m) id = none := by
    rw [outward, Function.iterate_add_apply]
    exact (congrArg _ hnone).trans (Function.iterate_fixed rfl k)
  rw [hnone'] at hb
  cases hb

/-- Past its end a chain comes to no node. -/
lemma le_of_ends (he : h.outward n id = some e) (hend : h.enclosing e = none)
    (hb : h.outward m id = some b) : m ≤ n := by
  by_contra hlt
  obtain ⟨a, ha⟩ := exists_outward_of_le (Nat.lt_of_not_le hlt) hb
  rw [outward_succ_eq_none he hend] at ha
  cases ha

/-- A chain ends at one node only. -/
lemma end_unique (he : h.outward n id = some e) (hend : h.enclosing e = none)
    (hb : h.outward m id = some b) (hend' : h.enclosing b = none) : b = e := by
  obtain rfl : m = n := le_antisymm (le_of_ends he hend hb) (le_of_ends hb hend' he)
  exact Option.some.inj (hb.symm.trans he)

/-- A chain that runs into a circle does not end. -/
lemma ne_none_of_circle (hc : h.outward m id = some c) (hcc : h.outward (p + 1) c = some c)
    (hb : h.outward n id = some b) : h.enclosing b ≠ none := by
  intro hend
  have hper : Function.IsPeriodicPt h.further (p + 1) (some c) := hcc
  have hround : h.outward ((n + 1) * (p + 1) + m) id = some c := by
    rw [outward_add hc]
    exact hper.const_mul (n + 1)
  have hle := le_of_ends hb hend hround
  have hmul : n + 1 ≤ (n + 1) * (p + 1) := Nat.le_mul_of_pos_right _ (Nat.succ_pos p)
  omega

/-- The search follows links until there is none or the limit is reached. -/
lemma exists_outward_eq_outer (h : Hierarchy) (hops id : ℕ) :
    ∃ n ≤ hops, h.outward n id = some (h.outer hops id) ∧
      (h.enclosing (h.outer hops id) = none ∨ n = hops) := by
  induction hops generalizing id with
  | zero => exact ⟨0, le_refl 0, rfl, Or.inr rfl⟩
  | succ hops ih =>
    cases hid : h.enclosing id with
    | none => exact ⟨0, Nat.zero_le _, by rw [outer, hid]; rfl, Or.inl (by rw [outer, hid, hid])⟩
    | some b =>
      obtain ⟨n, hn, hout, hstop⟩ := ih b
      rw [outer, hid]
      refine ⟨n + 1, Nat.succ_le_succ hn, ?_, hstop.imp_right (congrArg Nat.succ)⟩
      rw [outward_succ_of_enclosing hid, hout]

/-! ## Chains as long as the hierarchy -/

section Inside

variable (hin : ∀ a b, h.enclosing b = some a → a < h.size)

include hin

lemma lt_size_of_outward (hid : id < h.size) (hb : h.outward n id = some b) : b < h.size := by
  cases n with
  | zero =>
    obtain rfl : id = b := Option.some.inj hb
    exact hid
  | succ n =>
    rw [outward_succ, Option.bind_eq_some_iff] at hb
    obtain ⟨a, -, hab⟩ := hb
    exact hin b a hab

/-- A chain of as many links as there are nodes comes to some node twice. -/
theorem exists_lt_outward_eq (hid : id < h.size) (hn : h.size ≤ n) (hb : h.outward n id = some b) :
    ∃ i j, i < j ∧ j ≤ n ∧ h.outward i id = h.outward j id := by
  have hmaps : Set.MapsTo (fun i => h.outward i id) (Finset.range (n + 1))
      ((Finset.range h.size).map .some) := by
    intro i hi
    obtain ⟨a, ha⟩ := exists_outward_of_le (Nat.le_of_lt_succ (Finset.mem_range.1 hi)) hb
    have hlt := lt_size_of_outward hin hid ha
    simpa [ha] using hlt
  have hcard : ((Finset.range h.size).map .some).card < (Finset.range (n + 1)).card := by
    rw [Finset.card_map, Finset.card_range, Finset.card_range]
    omega
  obtain ⟨i, hi, j, hj, hij, heq⟩ :=
    Finset.exists_ne_map_eq_of_card_lt_of_maps_to hcard hmaps
  rw [Finset.mem_range] at hi hj
  rcases lt_or_gt_of_ne hij with hlt | hgt
  · exact ⟨i, j, hlt, by omega, heq⟩
  · exact ⟨j, i, hgt, by omega, heq.symm⟩

/-- A chain that ends has fewer links than there are nodes. -/
theorem lt_size_of_ends (hid : id < h.size) (he : h.outward n id = some e)
    (hend : h.enclosing e = none) : n < h.size := by
  by_contra hn
  obtain ⟨i, j, hij, hj, heq⟩ := exists_lt_outward_eq hin hid (Nat.not_lt.1 hn) he
  -- from the second place on, the end would be reached as from the first one, and sooner
  obtain ⟨x, hx⟩ := exists_outward_of_le hj he
  have hfrom : h.outward (n - j) x = some e := by
    rw [← outward_add hx, Nat.sub_add_cancel hj, he]
  have hsooner : h.outward (n - j + i) id = some e := by
    rw [outward_add (heq.trans hx), hfrom]
  have hle := le_of_ends hsooner hend he
  omega

/-- The node that a search with more links than nodes comes to is on a circle. -/
theorem exists_isPeriodicPt (hid : id < h.size) (hn : h.size ≤ n) (hb : h.outward n id = some b) :
    ∃ d, 0 < d ∧ Function.IsPeriodicPt h.further d (some b) := by
  obtain ⟨i, j, hij, hj, heq⟩ := exists_lt_outward_eq hin hid hn hb
  obtain ⟨x, hx⟩ := exists_outward_of_le hj hb
  have hxx : Function.IsPeriodicPt h.further (j - i) (some x) := by
    have hback := outward_add (heq.trans hx) (j - i)
    rw [Nat.sub_add_cancel (le_of_lt hij), hx] at hback
    exact hback.symm
  have hxb : h.further^[n - j] (some x) = some b := by
    have hfrom := outward_add hx (n - j)
    rw [Nat.sub_add_cancel hj, hb] at hfrom
    exact hfrom.symm
  refine ⟨j - i, by omega, ?_⟩
  rw [← hxb]
  exact hxx.apply_iterate (n - j)

/-- The node that such a search comes to is on every circle that the chain runs into. -/
theorem exists_outward_eq_of_circle (hid : id < h.size) (hc : h.outward m id = some c)
    (hcc : h.outward (p + 1) c = some c) (hn : h.size ≤ n) (hb : h.outward n id = some b) :
    ∃ q ≤ p, h.outward q c = some b := by
  obtain ⟨d, hd, hbb⟩ := exists_isPeriodicPt hin hid hn hb
  -- after some more rounds the node is reached from the circle
  have hle : m ≤ m * d + n := le_add_right (Nat.le_mul_of_pos_right m hd)
  have hround : h.outward (m * d + n) id = some b := by
    rw [outward_add hb]
    exact hbb.const_mul m
  rw [← Nat.sub_add_cancel hle, outward_add hc] at hround
  refine ⟨(m * d + n - m) % (p + 1), Nat.le_of_lt_succ (Nat.mod_lt _ (Nat.succ_pos p)), ?_⟩
  have hper : Function.IsPeriodicPt h.further (p + 1) (some c) := hcc
  exact (hper.iterate_mod_apply _).trans hround

theorem isOutermost_topLevel (hid : id < h.size) : h.IsOutermost id (h.topLevel id) := by
  obtain ⟨n, hn, hout, hstop⟩ := exists_outward_eq_outer h (h.size + 1) id
  rw [← topLevel] at hout hstop
  refine ⟨lt_size_of_outward hin hid hout, ⟨n, hn, hout⟩, ?_, ?_, ?_⟩
  · rcases hstop with hend | rfl
    · exact Or.inl ⟨n, _, hout, hend⟩
    · obtain ⟨d, hd, hper⟩ := exists_isPeriodicPt hin hid (Nat.le_succ _) hout
      obtain ⟨p, rfl⟩ := Nat.exists_eq_succ_of_ne_zero (Nat.ne_of_gt hd)
      exact Or.inr ⟨_, _, p, hout, hper⟩
  · intro m e he hend
    have hlt := lt_size_of_ends hin hid he hend
    rcases hstop with hend' | rfl
    · exact ⟨end_unique he hend hout hend', hlt⟩
    · have hle := le_of_ends he hend hout
      omega
  · intro m c p hc hcc
    rcases hstop with hend | rfl
    · exact absurd hend (ne_none_of_circle hc hcc hout)
    · exact exists_outward_eq_of_circle hin hid hc hcc (Nat.le_succ _) hout

end Inside

/-- **Outermost classes.**  In a hierarchy that is built, however its classes enclose one another,
the outermost node is found around every node: the end of the chain of enclosing nodes, or else a
node on the circle that the chain runs into.  If the chain ends, all nodes on it have its end as
their outermost node, and so has the end itself. -/
theorem isOutermost_of_build {cs : List Class} {r : Registry} (hb : build cs r = .ok h)
    (hid : id < h.size) :
    h.IsOutermost id (h.topLevel id) ∧
      ∀ n e, h.outward n id = some e → h.enclosing e = none →
        (∀ m b, h.outward m id = some b → h.topLevel b = h.topLevel id) ∧
          h.topLevel (h.topLevel id) = h.topLevel id := by
  obtain ⟨rfl, -⟩ := build_eq_ok_iff.1 hb
  have hin (a b : ℕ) (hab : (link cs r).enclosing b = some a) : a < (link cs r).size :=
    enclosing_lt_size hab
  have htop := isOutermost_topLevel hin hid
  refine ⟨htop, ?_⟩
  intro n e he hend
  have hall : ∀ m b, (link cs r).outward m id = some b →
      (link cs r).topLevel b = (link cs r).topLevel id := by
    intro m b hmb
    -- the rest of the chain leads from the node to the same end
    have hrest : (link cs r).outward (n - m) b = some e := by
      rw [← outward_add hmb, Nat.sub_add_cancel (le_of_ends he hend hmb), he]
    have hbtop := isOutermost_topLevel hin (lt_size_of_outward hin hid hmb)
    rw [(hbtop.eq_of_ends _ e hrest hend).1, (htop.eq_of_ends n e he hend).1]
  obtain ⟨k, -, hk⟩ := htop.exists_outward_eq
  exact ⟨hall, hall k _ hk⟩

/-- The outermost class of a chain that ends, and that of one that runs into a circle. -/
theorem isOutermost_of_build_insideOut :
    ∃ h, build insideOut .empty = .ok h ∧ 5 < h.size ∧ 2 < h.size ∧ h.topLevel 5 = 3 ∧
      ∃ q ≤ 1, h.outward q 1 = some (h.topLevel 2) := by
  obtain ⟨hb, hclasses⟩ := build_insideOut
  have henclosing {a b : ℕ} {c d : Class} (hc : insideOut[a]? = some c)
      (hd : insideOut[b]? = some d) (hname : d.enclosing = some c.name ∧ a ≠ b) :
      (link insideOut .empty).enclosing b = some a := by
    rw [← hclasses] at hc hd
    exact (enclosing_eq_some_iff hc hd).2 hname
  have h54 := henclosing (a := 4) (b := 5) rfl rfl (by decide)
  have h43 := henclosing (a := 3) (b := 4) rfl rfl (by decide)
  have h21 := henclosing (a := 1) (b := 2) rfl rfl (by decide)
  have h10 := henclosing (a := 0) (b := 1) rfl rfl (by decide)
  have h01 := henclosing (a := 1) (b := 0) rfl rfl (by decide)
  have h3 : (link insideOut .empty).enclosing 3 = none := by
    rw [enclosing_link, ← classes_link insideOut .empty, hclasses]
    rfl
  have hsize : (link insideOut .empty).size = 6 := by
    rw [← length_classes, hclasses]
    rfl
  have h5 : 5 < (link insideOut .empty).size := by omega
  have h2 : 2 < (link insideOut .empty).size := by omega
  refine ⟨_, hb, h5, h2, ?_, ?_⟩
  · refine ((isOutermost_of_build hb h5).1.eq_of_ends 2 3 ?_ h3).1
    rw [outward_succ_of_enclosing h54, outward_succ_of_enclosing h43]
    rfl
  · refine (isOutermost_of_build hb h2).1.mem_circle 1 1 1 ?_ ?_
    · rw [outward_succ_of_enclosing h21]
      rfl
    · rw [outward_succ_of_enclosing h10, outward_succ_of_enclosing h01]
      rfl

end PluginFacts.Hierarchy
