/-
# Hierarchies without circles

A hierarchy is refused if and only if some class inherits from itself, and then the reported names
are a circle of classes, from the least name all the way round to it again.

The search for a circle goes by the numbers of nodes, `Search.Inv.run`; here its result is read as a
statement about names.
-/
import Mathlib.Data.Finset.Max
import PluginFacts.Proofs.Hierarchy.Linked
import PluginFacts.Proofs.Hierarchy.Search

namespace PluginFacts

section Circle

variable {α β : Type} {R : α → α → Prop} {S : β → β → Prop}

lemma transGen_of_isChain {a b : α} {l : List α} (h : List.IsChain R (a :: l ++ [b])) :
    Relation.TransGen R a b := by
  induction l generalizing a with
  | nil => exact .single (List.isChain_cons_cons.1 h).1
  | cons c l ih =>
    obtain ⟨hac, hrest⟩ := List.isChain_cons_cons.1 h
    exact .head hac (ih hrest)

lemma exists_rel_of_isChain {b : α} {l : List α} (h : List.IsChain R (l ++ [b])) :
    ∀ a ∈ l, ∃ c, R a c := by
  intro a ha
  obtain ⟨before, after, rfl⟩ := List.append_of_mem ha
  rw [List.append_assoc, List.cons_append] at h
  have hchain := (List.isChain_split.1 h).2
  cases after with
  | nil => exact ⟨b, (List.isChain_cons_cons.1 hchain).1⟩
  | cons c after => exact ⟨c, (List.isChain_cons_cons.1 hchain).1⟩

namespace IsCircle

/-- From an element of a circle one comes back to it. -/
lemma exists_transGen {l : List α} (h : IsCircle R l) : ∃ a, Relation.TransGen R a a := by
  obtain ⟨-, a, l', -, hchain⟩ := h
  exact ⟨a, transGen_of_isChain hchain⟩

lemma exists_rel {l : List α} (h : IsCircle R l) : ∀ a ∈ l, ∃ b, R a b := by
  obtain ⟨-, a, l', rfl, hchain⟩ := h
  exact exists_rel_of_isChain hchain

/-- A circle stays one when its elements are renamed. -/
lemma map {f : α → β} {l : List α} (h : IsCircle R l) (hR : ∀ a b, R a b → S (f a) (f b))
    (hf : ∀ a ∈ l, ∀ b ∈ l, f a = f b → a = b) : IsCircle S (l.map f) := by
  obtain ⟨hnodup, a, l', rfl, hchain⟩ := h
  refine ⟨hnodup.map_on hf, f a, l'.map f, rfl, ?_⟩
  have hmap := (List.isChain_map f).2 (hchain.imp hR)
  simpa using hmap

/-- It does not matter where a circle begins. -/
lemma rotate {p q : List α} {a : α} (h : IsCircle R (p ++ a :: q)) :
    IsCircle R (a :: (q ++ p)) := by
  obtain ⟨hnodup, b, l', hl, hchain⟩ := h
  refine ⟨?_, a, q ++ p, rfl, ?_⟩
  · exact (List.perm_append_comm.nodup_iff.1 hnodup)
  · rw [← hl, List.append_assoc, List.cons_append] at hchain
    obtain ⟨hp, hq⟩ := List.isChain_split.1 hchain
    cases p with
    | nil =>
      obtain ⟨rfl, -⟩ := List.cons.inj hl
      simpa using hq
    | cons c p =>
      obtain ⟨rfl, -⟩ := List.cons.inj hl
      have hjoin : a :: (q ++ c :: p) ++ [a] = (a :: q) ++ c :: (p ++ [a]) := by simp
      rw [hjoin]
      exact List.isChain_split.2 ⟨hq, hp⟩

end IsCircle

end Circle

/-- The names on a circle as they are reported: from the least one all the way round to it again. -/
structure IsRound (R : String → String → Prop) (names : List String) : Prop where
  /-- There is a first name and a last one. -/
  two_le_length : 2 ≤ names.length
  /-- The last name is the first one. -/
  head?_eq_getLast? : names.head? = names.getLast?
  /-- Each name is related to the next one. -/
  isChain : names.IsChain R
  /-- No name comes twice before the first one comes again. -/
  nodup : names.dropLast.Nodup
  /-- The first name is the least one. -/
  least : ∀ a, names.head? = some a → ∀ b ∈ names, a ≤ b

namespace Hierarchy

/-- The least name splits the names, and its position is the number of names before it. -/
lemma exists_leastIdx {l : List String} (hl : l ≠ []) :
    ∃ p a q, l = p ++ a :: q ∧ leastIdx l = p.length ∧ ∀ b ∈ l, a ≤ b := by
  have hne : l.toFinset.Nonempty := List.toFinset_nonempty_iff l |>.2 hl
  obtain ⟨m, hm, hmin⟩ := l.toFinset.exists_min_image id hne
  have hlt : leastIdx l < l.length := by
    refine List.findIdx_lt_length_of_exists ⟨m, List.mem_toFinset.1 hm, ?_⟩
    rw [List.all_eq_true]
    intro b hb
    exact compare_isLE_iff.2 (hmin b (List.mem_toFinset.2 hb))
  refine ⟨l.take (leastIdx l), l[leastIdx l], l.drop (leastIdx l + 1), ?_, ?_, ?_⟩
  · rw [← List.drop_eq_getElem_cons, List.take_append_drop]
  · rw [List.length_take, min_eq_left (le_of_lt hlt)]
  · intro b hb
    have hleast := List.findIdx_getElem (w := hlt)
    rw [List.all_eq_true] at hleast
    exact compare_isLE_iff.1 (hleast b hb)

lemma rotateLeft_append {p q : List String} {a : String} :
    (p ++ a :: q).rotateLeft p.length = a :: (q ++ p) := by
  rw [List.rotateLeft]
  split
  · next hlen =>
    have hp : p = [] := List.eq_nil_of_length_eq_zero (by simp at hlen; omega)
    have hq : q = [] := List.eq_nil_of_length_eq_zero (by simp at hlen; omega)
    simp [hp, hq]
  · have hmod : p.length % (p ++ a :: q).length = p.length :=
      Nat.mod_eq_of_lt (by simp)
    rw [hmod]
    simp

/-- The names on a circle are reported from the least one all the way round. -/
lemma isRound_closed {R : String → String → Prop} {names : List String} (h : IsCircle R names) :
    IsRound R (closed names) := by
  have hne : names ≠ [] := by
    obtain ⟨-, a, l', rfl, -⟩ := h
    exact List.cons_ne_nil a l'
  obtain ⟨p, a, q, rfl, hidx, hleast⟩ := exists_leastIdx hne
  have hclosed : closed (p ++ a :: q) = a :: (q ++ p) ++ [a] := by
    rw [closed, hidx, rotateLeft_append]
    rfl
  -- turned so that the least name comes first, the chain of the circle ends with that name
  obtain ⟨hnodup, b, l', hl, hchain⟩ := h.rotate
  obtain ⟨rfl, rfl⟩ := List.cons.inj hl
  rw [hclosed]
  refine ⟨?_, ?_, hchain, ?_, ?_⟩
  · rw [List.length_append, List.length_cons, List.length_singleton]
    omega
  · rw [List.getLast?_append]
    rfl
  · rw [List.dropLast_concat]
    exact hnodup
  · intro c hc b hb
    obtain rfl : a = c := by simpa using hc
    refine hleast b ?_
    simp only [List.cons_append, List.mem_cons, List.mem_append] at hb ⊢
    tauto

namespace IsLinked

variable {h : Hierarchy} (hl : h.IsLinked)

include hl

lemma mem_links_iff {i j : ℕ} :
    j ∈ h.links i ↔
      i < h.size ∧ j < h.size ∧ Inherits {d | d ∈ h.classes} (h.name i) (h.name j) := by
  rw [links, List.mem_reverse, hl.mem_superclasses_iff]

/-- From node to node one comes as far as from class to class. -/
lemma exists_transGen_links {i : ℕ} (hi : i < h.size) {b : String}
    (hb : Relation.TransGen (Inherits {d | d ∈ h.classes}) (h.name i) b) :
    ∃ j < h.size, h.name j = b ∧ Relation.TransGen (fun i j => j ∈ h.links i) i j := by
  induction hb with
  | single hab =>
    obtain ⟨d, hd, rfl⟩ := hab.2
    obtain ⟨j, hj⟩ := exists_classes_of_mem hd
    have hlt := lt_size_of_classes hj
    rw [← name_of_classes hj] at hab
    exact ⟨j, hlt, name_of_classes hj, .single (hl.mem_links_iff.2 ⟨hi, hlt, hab⟩)⟩
  | tail _ hbc ih =>
    obtain ⟨k, hk, rfl, hik⟩ := ih
    obtain ⟨d, hd, rfl⟩ := hbc.2
    obtain ⟨j, hj⟩ := exists_classes_of_mem hd
    have hlt := lt_size_of_classes hj
    rw [← name_of_classes hj] at hbc
    exact ⟨j, hlt, name_of_classes hj, hik.tail (hl.mem_links_iff.2 ⟨hk, hlt, hbc⟩)⟩

/-- The search finds a circle of classes if there is one. -/
theorem cycle?_spec :
    match h.cycle? with
    | none => ¬ HasCircle {d | d ∈ h.classes}
    | some cycle => IsCircle (Inherits {d | d ∈ h.classes}) (cycle.map h.name) := by
  have hnext : ∀ v, h.size ≤ v → h.links v = [] := by
    intro v hv
    refine List.eq_nil_iff_forall_not_mem.2 ?_
    intro w hw
    exact absurd (hl.mem_links_iff.1 hw).1 (Nat.not_lt.2 hv)
  have hrun := (Search.Inv.range hnext).run
  rw [cycle?]
  cases hcycle : Search.run h.links ⟨List.range h.size, []⟩ with
  | none =>
    rw [hcycle] at hrun
    -- a circle of names would be one of nodes, of which there is none
    rintro ⟨a, ha⟩
    obtain ⟨b, ⟨⟨c, hc, rfl, -⟩, -⟩, -⟩ := Relation.TransGen.head'_iff.1 ha
    obtain ⟨i, hi⟩ := exists_classes_of_mem hc
    rw [← name_of_classes hi] at ha
    obtain ⟨j, hj, hname, hij⟩ := hl.exists_transGen_links (lt_size_of_classes hi) ha
    rw [hl.name_inj hj (lt_size_of_classes hi) hname] at hij
    exact hrun i hij
  | some cycle =>
    rw [hcycle] at hrun
    -- a node on a circle has a link, so it is a node of the hierarchy, where names differ
    refine hrun.map (fun i j hij => (hl.mem_links_iff.1 hij).2.2) ?_
    intro i hi j hj hij
    obtain ⟨i', hi'⟩ := hrun.exists_rel i hi
    obtain ⟨j', hj'⟩ := hrun.exists_rel j hj
    exact hl.name_inj (hl.mem_links_iff.1 hi').1 (hl.mem_links_iff.1 hj').1 hij

end IsLinked

/-! ## Building a hierarchy -/

variable {cs : List Class} {r : Registry}

/-- Classes without a circle are linked. -/
lemma build_eq_ok_iff {h : Hierarchy} :
    build cs r = .ok h ↔ h = link cs r ∧ ¬ HasCircle {d | d ∈ survivors cs} := by
  have hspec := (isLinked_link cs r).cycle?_spec
  rw [classes_link] at hspec
  rw [build]
  cases hcycle : (link cs r).cycle? with
  | none =>
    rw [hcycle] at hspec
    simp only [Except.ok.injEq]
    exact ⟨fun heq => ⟨heq.symm, hspec⟩, fun heq => heq.1.symm⟩
  | some cycle =>
    rw [hcycle] at hspec
    simp only [reduceCtorEq, false_iff, not_and, not_not]
    exact fun _ => hspec.exists_transGen

/-- It makes no difference to a hierarchy if only the classes that count are linked. -/
lemma build_survivors (cs : List Class) (r : Registry) : build (survivors cs) r = build cs r := by
  have hlink : link (survivors cs) r = link cs r := by
    rw [link_eq, link_eq, survivors_survivors]
  rw [build, build, hlink]

/-- Classes in order of their names, of which no two have the same name, are linked as they are if
they are in no circle. -/
lemma build_eq_ok_of_pairwise (hcs : cs.Pairwise fun a b => a.name < b.name)
    (hno : ¬ HasCircle {d | d ∈ cs}) :
    build cs r = .ok (link cs r) ∧ (link cs r).classes = cs := by
  have hsurvive : survivors cs = cs := survivors_eq_self hcs
  rw [build_eq_ok_iff, classes_link, hsurvive]
  exact ⟨⟨rfl, hno⟩, rfl⟩

/-- A hierarchy that is built is linked as its classes say. -/
lemma isLinked_of_build_eq_ok {h : Hierarchy} (hb : build cs r = .ok h) : h.IsLinked := by
  obtain ⟨rfl, -⟩ := build_eq_ok_iff.1 hb
  exact isLinked_link cs r

/-- Classes with a circle are refused, with the names on a circle. -/
lemma exists_isRound_of_build_eq_error {failure : Failure} (hb : build cs r = .error failure) :
    HasCircle {d | d ∈ survivors cs} ∧
      ∃ names, failure = .cyclicHierarchy names ∧
        IsRound (Inherits {d | d ∈ survivors cs}) names := by
  have hspec := (isLinked_link cs r).cycle?_spec
  rw [classes_link] at hspec
  rw [build] at hb
  cases hcycle : (link cs r).cycle? with
  | none => rw [hcycle] at hb; cases hb
  | some cycle =>
    rw [hcycle] at hspec hb
    cases hb
    exact ⟨hspec.exists_transGen, _, rfl, isRound_closed hspec⟩

/-- **Circles are found.**  Classes are refused if and only if one of those that count inherits
from itself; then the failure lists the names on a circle, from the least one all the way round
to it again. The search comes to an end in any case, after a number of steps that the nodes and
links bound. -/
theorem build_error_iff_hasCircle (cs : List Class) (r : Registry) :
    ((∃ failure, build cs r = .error failure) ↔ HasCircle {c | Survives cs c}) ∧
    (∀ failure, build cs r = .error failure →
      ∃ names, failure = .cyclicHierarchy names ∧ IsRound (Inherits {c | Survives cs c}) names) ∧
    ∃ n ≤ (Search.mk (List.range (link cs r).size) []).work (link cs r).links + 1,
      Search.after (link cs r).links n ⟨List.range (link cs r).size, []⟩ =
        .inr (link cs r).cycle? := by
  have hD : {c | Survives cs c} = {c | c ∈ survivors cs} := by
    ext c
    exact mem_survivors.symm
  rw [hD]
  refine ⟨⟨?_, ?_⟩, ?_, Search.exists_after_eq_run _ _⟩
  · rintro ⟨failure, hb⟩
    exact (exists_isRound_of_build_eq_error hb).1
  · intro hcircle
    cases hb : build cs r with
    | error failure => exact ⟨failure, rfl⟩
    | ok h => exact absurd hcircle (build_eq_ok_iff.1 hb).2
  · intro failure hb
    exact (exists_isRound_of_build_eq_error hb).2

/-- Two classes that extend each other. -/
def twoInACircle : List Class :=
  [{ name := "x.B", superclass := some "x.A" }, { name := "x.A", superclass := some "x.B" }]

/-- Two classes that extend each other are a circle. -/
theorem exists_isRound_twoInACircle :
    ∃ names, build twoInACircle .platform = .error (.cyclicHierarchy names) ∧
      IsRound (Inherits {c | Survives twoInACircle c}) names := by
  have ha : Survives twoInACircle { name := "x.A", superclass := some "x.B" } :=
    ⟨[{ name := "x.B", superclass := some "x.A" }], [], rfl, by simp, by simp⟩
  have hb : Survives twoInACircle { name := "x.B", superclass := some "x.A" } :=
    ⟨[], [{ name := "x.A", superclass := some "x.B" }], rfl, by simp, by simp⟩
  have hab : Inherits {c | Survives twoInACircle c} "x.A" "x.B" :=
    ⟨⟨_, ha, rfl, Or.inl ⟨rfl, by decide, by decide⟩⟩, _, hb, rfl⟩
  have hba : Inherits {c | Survives twoInACircle c} "x.B" "x.A" :=
    ⟨⟨_, hb, rfl, Or.inl ⟨rfl, by decide, by decide⟩⟩, _, ha, rfl⟩
  have hspec := build_error_iff_hasCircle twoInACircle .platform
  obtain ⟨failure, hfailure⟩ := hspec.1.2 ⟨"x.A", .head hab (.single hba)⟩
  obtain ⟨names, rfl, hround⟩ := hspec.2.1 failure hfailure
  exact ⟨names, hfailure, hround⟩

end Hierarchy

end PluginFacts
