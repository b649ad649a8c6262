/-
# Which class encloses which

The nodes are enclosed as their classes say: a node is enclosed by the node of the name that its
class gives as the one around it, unless that is the node itself (`enclosing_link_eq_some_iff`).

The other direction is a table, which is filled in one pass over the nodes.  `HoldsBelow` says what
is in the table when the nodes below some number were gone through; one node more keeps it up
(`HoldsBelow.nest`), and so the nodes that a node encloses are in the end all that it encloses, in
order (`nested_eq_filter`).
-/
import Mathlib.Data.List.Range
import PluginFacts.Proofs.Hierarchy.Circle

namespace PluginFacts.Hierarchy

variable {h : Hierarchy} {a b n : ℕ} {table : Array (List ℕ)}

/-! ## The table of enclosed nodes -/

/-- The table has a place for each node, and there the nodes below `n` that the node encloses, in
order. -/
structure HoldsBelow (h : Hierarchy) (n : ℕ) (table : Array (List ℕ)) : Prop where
  size_eq : table.size = h.size
  getD_eq : ∀ a < h.size, table.getD a [] = (List.range n).filter fun b => h.enclosing b == some a

lemma getD_modify (f : List ℕ → List ℕ) (ha : a < table.size) :
    (table.modify b f).getD a [] = if b = a then f (table.getD a []) else table.getD a [] := by
  rw [Array.getD_eq_getD_getElem?, Array.getD_eq_getD_getElem?, Array.getElem?_modify,
    Array.getElem?_eq_getElem ha]
  split <;> rfl

namespace HoldsBelow

lemma replicate (h : Hierarchy) : h.HoldsBelow 0 (Array.replicate h.size []) where
  size_eq := Array.size_replicate
  getD_eq a ha := by simp [Array.getD_eq_getD_getElem?, ha]

/-- One node is put behind the others that the same node encloses. -/
lemma nest (ht : h.HoldsBelow n table) : h.HoldsBelow (n + 1) (h.nest table n) := by
  cases hn : h.enclosing n with
  | none =>
    refine ⟨by rw [Hierarchy.nest, hn, ht.size_eq], ?_⟩
    intro a ha
    rw [Hierarchy.nest, hn, ht.getD_eq a ha, List.range_succ, List.filter_append]
    simp [hn]
  | some outer =>
    refine ⟨by rw [Hierarchy.nest, hn, Array.size_modify, ht.size_eq], ?_⟩
    intro a ha
    rw [Hierarchy.nest, hn, getD_modify _ (ht.size_eq ▸ ha), ht.getD_eq a ha, List.range_succ,
      List.filter_append]
    split
    · next houter => simp [hn, houter]
    · next houter => simp [hn, houter]

/-- The pass over the nodes fills the table. -/
theorem foldl (h : Hierarchy) (n : ℕ) :
    h.HoldsBelow n ((List.range n).foldl h.nest (Array.replicate h.size [])) := by
  induction n with
  | zero => exact .replicate h
  | succ n ih =>
    rw [List.range_succ, List.foldl_append]
    exact ih.nest

end HoldsBelow

/-- The nodes that a node encloses are all those, in order. -/
theorem nested_eq_filter (ha : a < h.size) :
    h.nested a = (List.range h.size).filter fun b => h.enclosing b == some a :=
  (HoldsBelow.foldl h h.size).getD_eq a ha

lemma nested_of_size_le (ha : h.size ≤ a) : h.nested a = [] := by
  have hsize : h.nestings.size = h.size := (HoldsBelow.foldl h h.size).size_eq
  rw [nested, Array.getD_eq_getD_getElem?, Array.getElem?_eq_none (by omega)]
  rfl

lemma lt_size_of_enclosing (hb : h.enclosing b = some a) : b < h.size := by
  by_contra hge
  have hnone : h.nodes[b]? = none := by simpa [size] using hge
  rw [enclosing, hnone] at hb
  cases hb

lemma mem_nested_iff : b ∈ h.nested a ↔ a < h.size ∧ h.enclosing b = some a := by
  by_cases ha : a < h.size
  · rw [nested_eq_filter ha, List.mem_filter, List.mem_range, beq_iff_eq]
    exact ⟨fun hb => ⟨ha, hb.2⟩, fun hb => ⟨lt_size_of_enclosing hb.2, hb.2⟩⟩
  · rw [nested_of_size_le (Nat.not_lt.1 ha)]
    simp [ha]

lemma pairwise_nested (h : Hierarchy) (a : ℕ) : (h.nested a).Pairwise (· < ·) := by
  by_cases ha : a < h.size
  · rw [nested_eq_filter ha]
    exact List.pairwise_lt_range.filter _
  · rw [nested_of_size_le (Nat.not_lt.1 ha)]
    exact List.Pairwise.nil

/-! ## What the classes say -/

section Link

variable {cs : List Class} {r : Registry}

lemma enclosing_link (b : ℕ) :
    (link cs r).enclosing b = ((survivors cs)[b]?).bind fun c =>
      (node ((survivors cs).map (·.name)).toArray r c b).enclosing := by
  rw [enclosing, getElem?_nodes_link, Option.bind_map]
  rfl

/-- A node is enclosed by the node of the name that its class gives, unless that is the
node itself. -/
theorem enclosing_link_eq_some_iff :
    (link cs r).enclosing b = some a ↔
      ∃ c d, (survivors cs)[a]? = some c ∧ (survivors cs)[b]? = some d ∧
        d.enclosing = some c.name ∧ a ≠ b := by
  rw [enclosing_link, Option.bind_eq_some_iff]
  simp only [node, Option.filter_eq_some_iff, Option.bind_eq_some_iff, findIdx?_names_eq_some_iff,
    bne_iff_ne]
  constructor
  · rintro ⟨d, hd, ⟨name, hname, c, hc, rfl⟩, hne⟩
    exact ⟨c, d, hc, hd, hname, hne⟩
  · rintro ⟨c, d, hc, hd, hname, hne⟩
    exact ⟨d, hd, ⟨c.name, hname, c, hc, rfl⟩, hne⟩

lemma enclosing_lt_size (hb : (link cs r).enclosing b = some a) : a < (link cs r).size := by
  obtain ⟨c, -, hc, -⟩ := enclosing_link_eq_some_iff.1 hb
  rw [← classes_link cs r] at hc
  exact lt_size_of_classes hc

lemma enclosing_eq_some_iff {c d : Class} (hc : (link cs r).classes[a]? = some c)
    (hd : (link cs r).classes[b]? = some d) :
    (link cs r).enclosing b = some a ↔ d.enclosing = some c.name ∧ a ≠ b := by
  rw [classes_link] at hc hd
  rw [enclosing_link_eq_some_iff]
  constructor
  · rintro ⟨c', d', hc', hd', hname, hne⟩
    obtain rfl : c' = c := Option.some.inj (hc'.symm.trans hc)
    obtain rfl : d' = d := Option.some.inj (hd'.symm.trans hd)
    exact ⟨hname, hne⟩
  · rintro ⟨hname, hne⟩
    exact ⟨c, d, hc, hd, hname, hne⟩

/-- **Enclosing and nested nodes.**  In a hierarchy that is built, a node is enclosed by the node of
the class that its own class gives as the one around it, unless these are the same; it is one of the
nodes that this node encloses, and of no others; and these are listed in order. -/
theorem enclosing_eq_some_iff_mem_nested (hb : build cs r = .ok h) :
    (∀ a b c d, h.classes[a]? = some c → h.classes[b]? = some d →
      (h.enclosing b = some a ↔ d.enclosing = some c.name ∧ a ≠ b)) ∧
    (∀ a b, h.enclosing b = some a ↔ b ∈ h.nested a) ∧
    (∀ a, (h.nested a).Pairwise (· < ·)) ∧
    ∀ a a' b, b ∈ h.nested a → b ∈ h.nested a' → a = a' := by
  obtain ⟨rfl, -⟩ := build_eq_ok_iff.1 hb
  refine ⟨fun a b c d hc hd => enclosing_eq_some_iff hc hd, ?_, pairwise_nested _, ?_⟩
  · intro a b
    rw [mem_nested_iff]
    exact ⟨fun hab => ⟨enclosing_lt_size hab, hab⟩, fun hab => hab.2⟩
  · intro a a' b hba hba'
    have henclosing := (mem_nested_iff.1 hba).2
    rw [(mem_nested_iff.1 hba').2] at henclosing
    exact (Option.some.inj henclosing).symm

end Link

/-- Two classes that enclose each other and one inside them, and a class with one inside it and
another one inside that. -/
def insideOut : List Class :=
  [{ name := "x.A", enclosing := some "x.B" }, { name := "x.B", enclosing := some "x.A" },
    { name := "x.C", enclosing := some "x.B" }, { name := "y.A" },
    { name := "y.A$1", enclosing := some "y.A" }, { name := "y.A$1$1", enclosing := some "y.A$1" }]

lemma build_insideOut :
    build insideOut .empty = .ok (link insideOut .empty) ∧
      (link insideOut .empty).classes = insideOut :=
  build_eq_ok_of_pairwise (by decide)
    (not_hasCircle_of_not_names (by simp [insideOut, Class.Names, objectClass]))

/-- Two classes that enclose each other are enclosed by each other and by no other class. -/
theorem enclosing_eq_some_iff_mem_nested_insideOut :
    ∃ h, build insideOut .empty = .ok h ∧ 0 ∈ h.nested 1 ∧ 1 ∈ h.nested 0 ∧ 2 ∈ h.nested 1 ∧
      2 ∉ h.nested 0 ∧ (h.nested 1).Pairwise (· < ·) := by
  obtain ⟨hb, hclasses⟩ := build_insideOut
  obtain ⟨hsay, hmem, hpairwise, hunique⟩ := enclosing_eq_some_iff_mem_nested hb
  rw [hclasses] at hsay
  have h01 := (hmem 1 0).1 ((hsay 1 0 _ _ rfl rfl).2 (by decide))
  have h10 := (hmem 0 1).1 ((hsay 0 1 _ _ rfl rfl).2 (by decide))
  have h21 := (hmem 1 2).1 ((hsay 1 2 _ _ rfl rfl).2 (by decide))
  exact ⟨_, hb, h01, h10, h21, fun h20 => absurd (hunique 0 1 2 h20 h21) (by decide), hpairwise 1⟩

end PluginFacts.Hierarchy
