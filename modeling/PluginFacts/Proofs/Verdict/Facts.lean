/-
# The facts of a verdict

The facts of a verdict are the best matches of the classes, one for each class and capability, in
the order of matches.  `Match.IsBest` says which match is the best in the list as it comes, before
any sort: the first one of the least depth and rule.

So the facts of one capability rank the classes that have it: by the least depth at which they have
it, and then by name.  `IsRanking` says what a ranking is for any notion of depth, and a ranking is
determined by that (`IsRanking.unique`).
-/
import Mathlib.Data.Prod.Lex
import Mathlib.Order.Bounds.Basic
import PluginFacts.Proofs.Sorting
import PluginFacts.Verdict

namespace PluginFacts

/-! ## Rankings -/

/-- One name comes before another: its least depth is less, or the least depths are equal and
the name is. -/
def Precedes (P : String → ℕ → Prop) (a b : String) : Prop :=
  ∃ m n, IsLeast {i | P a i} m ∧ IsLeast {i | P b i} n ∧ (m < n ∨ m = n ∧ a < b)

/-- A list of the names that are at some depth, by their least depths and then by the names. -/
structure IsRanking (P : String → ℕ → Prop) (l : List String) : Prop where
  mem_iff : ∀ a, a ∈ l ↔ ∃ n, P a n
  pairwise : l.Pairwise (Precedes P)

variable {P : String → ℕ → Prop} {l l' : List String}

lemma Precedes.asymm {a b : String} (hab : Precedes P a b) : ¬ Precedes P b a := by
  rintro ⟨n', m', hn', hm', hnm⟩
  obtain ⟨m, n, hm, hn, hmn⟩ := hab
  -- least depths are unique, so both comparisons are of the same numbers
  obtain rfl := hm.unique hm'
  obtain rfl := hn.unique hn'
  rcases hmn with hlt | ⟨rfl, hlt⟩
  · rcases hnm with hlt' | ⟨rfl, -⟩
    · exact lt_asymm hlt hlt'
    · exact lt_irrefl _ hlt
  · rcases hnm with hlt' | ⟨-, hlt'⟩
    · exact lt_irrefl _ hlt'
    · exact lt_asymm hlt hlt'

namespace IsRanking

lemma nodup (h : IsRanking P l) : l.Nodup := by
  refine h.pairwise.imp ?_
  rintro a b hab rfl
  exact hab.asymm hab

/-- There is only one ranking. -/
theorem unique (h : IsRanking P l) (h' : IsRanking P l') : l = l' :=
  eq_of_pairwise_of_mem_iff (fun _ _ hab => hab.asymm) h.pairwise h'.pairwise
    fun a => (h.mem_iff a).trans (h'.mem_iff a).symm

/-- The first name of a ranking is the only one if there are no two. -/
lemma head?_eq_some_iff (h : IsRanking P l)
    (hone : ∀ a b, (∃ n, P a n) → (∃ n, P b n) → a = b) (a : String) :
    l.head? = some a ↔ ∃ n, P a n := by
  rw [← h.mem_iff]
  cases l with
  | nil => simp
  | cons b l =>
    have hb : b ∈ b :: l := List.mem_cons_self
    rw [List.head?_cons, Option.some.injEq]
    constructor
    · rintro rfl
      exact hb
    · intro ha
      exact hone b a ((h.mem_iff b).1 hb) ((h.mem_iff a).1 ha)

end IsRanking

/-! ## The order of matches -/

namespace Capability

lemma compare_eq (a b : Capability) : compare a b = compare a.ctorIdx b.ctorIdx := by
  cases a <;> cases b <;> rfl

instance : Std.TransOrd Capability where
  eq_swap := by
    intro a b
    rw [compare_eq a b, compare_eq b a]
    exact Std.OrientedCmp.eq_swap
  isLE_trans := by
    intro a b c hab hbc
    rw [compare_eq] at hab hbc ⊢
    exact Std.TransCmp.isLE_trans hab hbc

instance : Std.LawfulEqOrd Capability where
  eq_of_compare {a b} := by cases a <;> cases b <;> decide

end Capability

namespace Match

variable {a b : Match}

/-- How two matches compare, which is what the order of matches goes by. -/
abbrev order : Match → Match → Ordering :=
  compareLex (compareLex (compareOn Match.capability) (compareOn Match.depth))
    (compareLex (compareOn Match.className) (compareOn Match.rule))

lemma isSortOrder_le : IsSortOrder Match.le :=
  .of_cmp order

/-- Matches of one capability are in order of depth, then of classes, then of rules. -/
lemma le_iff (h : a.capability = b.capability) :
    a.le b ↔ a.depth < b.depth ∨ a.depth = b.depth ∧
      (a.className < b.className ∨ a.className = b.className ∧ a.rule ≤ b.rule) := by
  rw [Match.le, h, Std.ReflOrd.compare_self, Ordering.eq_then, Ordering.isLE_then_iff_or,
    Ordering.isLE_then_iff_or, compare_isLE_iff, compare_lt_iff_lt, compare_lt_iff_lt,
    Std.compare_eq_iff_eq, Std.compare_eq_iff_eq]

/-- What a match claims: that a class has a capability. -/
def claim (m : Match) : Capability × String :=
  (m.capability, m.className)

lemma sameClaim_iff (a b : Match) : a.sameClaim b ↔ a.claim = b.claim := by
  simp [sameClaim, claim]

/-- How good a match is among those of its claim: its depth decides, and then its rule. -/
def rank (m : Match) : ℕ ×ₗ String :=
  toLex (m.depth, m.rule)

lemma le_iff_rank_le (h : a.claim = b.claim) : a.le b ↔ a.rank ≤ b.rank := by
  obtain ⟨hk, hname⟩ := Prod.mk.inj h
  simp [le_iff hk, rank, Prod.Lex.toLex_le_toLex, hname]

/-- Where a match stands among the facts of its capability: its depth decides, and
then its class. -/
def place (m : Match) : ℕ ×ₗ String :=
  toLex (m.depth, m.className)

lemma place_lt_of_le (hk : a.capability = b.capability) (hle : a.le b) (hne : a.claim ≠ b.claim) :
    a.place < b.place := by
  rw [place, place, Prod.Lex.toLex_lt_toLex]
  rcases (le_iff hk).1 hle with hlt | ⟨heq, hlt | ⟨hname, -⟩⟩
  · exact Or.inl hlt
  · exact Or.inr ⟨heq, hlt⟩
  · -- the rule does not decide between different claims
    exact absurd (Prod.ext hk hname) hne

end Match

/-! ## The best matches -/

namespace Match

variable {q : Match → Bool} {ms : List Match} {f m : Match}

/-- A match of a kind is the best one of its claim: the first of those that have the least rank. -/
def IsBest (q : Match → Prop) (ms : List Match) (f : Match) : Prop :=
  q f ∧ ∃ before after, ms = before ++ f :: after ∧
    (∀ m ∈ before, q m → m.claim = f.claim → f.rank < m.rank) ∧
    ∀ m ∈ after, q m → m.claim = f.claim → f.rank ≤ m.rank

namespace IsBest

lemma mem {q : Match → Prop} (h : IsBest q ms f) : f ∈ ms := by
  obtain ⟨-, before, after, rfl, -⟩ := h
  simp

lemma rank_le {q : Match → Prop} (h : IsBest q ms f) (hm : m ∈ ms) (hq : q m)
    (hclaim : m.claim = f.claim) : f.rank ≤ m.rank := by
  obtain ⟨-, before, after, rfl, hbefore, hafter⟩ := h
  rcases List.mem_append.1 hm with hm | hm
  · exact le_of_lt (hbefore m hm hq hclaim)
  · rcases List.mem_cons.1 hm with rfl | hm
    · exact le_refl _
    · exact hafter m hm hq hclaim

/-- Only what the kind says of matches of the claim matters. -/
lemma congr {q q' : Match → Prop} (h : IsBest q ms f)
    (hq : ∀ m ∈ ms, m.claim = f.claim → (q m ↔ q' m)) : IsBest q' ms f := by
  refine ⟨(hq f h.mem rfl).1 h.1, ?_⟩
  obtain ⟨-, before, after, rfl, hbefore, hafter⟩ := h
  refine ⟨before, after, rfl, fun m hm hm' hclaim => ?_, fun m hm hm' hclaim => ?_⟩
  · exact hbefore m hm ((hq m (by simp [hm]) hclaim).2 hm') hclaim
  · exact hafter m hm ((hq m (by simp [hm]) hclaim).2 hm') hclaim

end IsBest

/-- The best match of every class for every capability, among the matches of a kind. -/
def bestOf (q : Match → Bool) (ms : List Match) : List Match :=
  firsts ((ms.mergeSort Match.le).filter q)

theorem mem_bestOf_iff : f ∈ bestOf q ms ↔ IsBest (fun m => q m) ms f :=
  isSortOrder_le.mem_firstOfEach_sort_iff sameClaim_iff fun _ _ => le_iff_rank_le

/-- Every claim of a match of the kind is the claim of a best match. -/
lemma exists_mem_bestOf (hm : m ∈ ms) (hq : q m) : ∃ f ∈ bestOf q ms, f.claim = m.claim :=
  exists_mem_firstOfEach sameClaim_iff (List.mem_filter.2 ⟨List.mem_mergeSort.2 hm, hq⟩)

/-- The best matches come in order, and no two have the same claim. -/
lemma pairwise_bestOf (q : Match → Bool) (ms : List Match) :
    (bestOf q ms).Pairwise fun a b => a.le b ∧ a.claim ≠ b.claim := by
  have hle : (bestOf q ms).Pairwise fun a b => Match.le a b = true :=
    ((isSortOrder_le.pairwise_sort ms).filter _).sublist (firstOfEach_sublist _ _)
  refine hle.imp₂ ?_ (pairwise_firstOfEach _)
  intro a b hab hne
  refine ⟨hab, ?_⟩
  rw [Ne, ← sameClaim_iff, hne]
  exact Bool.false_ne_true

end Match

/-! ## The facts -/

namespace Verdict

variable {ms : List Match} {f : Match} {k : Capability}

/-- The facts are the best matches among those that are facts. -/
lemma bestFacts_eq (ms : List Match) : bestFacts ms = Match.bestOf Match.isFact ms :=
  rfl

lemma mem_bestFacts_iff : f ∈ bestFacts ms ↔ f.IsBest (fun m => m.shape ≠ .missing) ms := by
  simp only [bestFacts_eq, Match.mem_bestOf_iff, Match.isFact_iff]

@[simp] lemma mem_ofCapability {fs : List Match} :
    f ∈ ofCapability fs k ↔ f ∈ fs ∧ f.capability = k := by
  rw [ofCapability, List.mem_filter, beq_iff_eq]

/-- A class has a capability at a depth, according to a match that does not miss a shape. -/
def HasFact (ms : List Match) (k : Capability) (a : String) (n : ℕ) : Prop :=
  ∃ m ∈ ms, m.shape ≠ .missing ∧ m.capability = k ∧ m.className = a ∧ m.depth = n

/-- The best match of a class for a capability has the least depth. -/
lemma isLeast_depth (hf : f ∈ ofCapability (bestFacts ms) k) :
    IsLeast {n | HasFact ms k f.className n} f.depth := by
  obtain ⟨hbest, hk⟩ := mem_ofCapability.1 hf
  rw [mem_bestFacts_iff] at hbest
  refine ⟨⟨f, hbest.mem, hbest.1, hk, rfl, rfl⟩, ?_⟩
  rintro n ⟨m, hm, hfact, hmk, hname, rfl⟩
  have hclaim : m.claim = f.claim := by
    rw [Match.claim, Match.claim, hk, hmk, hname]
  rcases Prod.Lex.toLex_le_toLex.1 (hbest.rank_le hm hfact hclaim) with hlt | ⟨heq, -⟩
  · exact le_of_lt hlt
  · exact le_of_eq heq

/-- The facts of a capability stand in order of their places, one for each class. -/
theorem pairwise_bestFacts (ms : List Match) (k : Capability) :
    (ofCapability (bestFacts ms) k).Pairwise fun f g =>
      f.place < g.place ∧ f.className ≠ g.className := by
  rw [bestFacts_eq]
  refine ((Match.pairwise_bestOf Match.isFact ms).filter _).imp_of_mem ?_
  rintro f g hf hg ⟨hle, hne⟩
  have hk : f.capability = g.capability :=
    (mem_ofCapability.1 hf).2.trans (mem_ofCapability.1 hg).2.symm
  exact ⟨Match.place_lt_of_le hk hle hne, fun hname => hne (Prod.ext hk hname)⟩

/-- The facts of a capability rank the classes that have it. -/
theorem isRanking_bestFacts (ms : List Match) (k : Capability) :
    IsRanking (HasFact ms k) ((ofCapability (bestFacts ms) k).map (·.className)) where
  mem_iff a := by
    rw [List.mem_map]
    constructor
    · rintro ⟨f, hf, rfl⟩
      exact ⟨f.depth, (isLeast_depth hf).1⟩
    · rintro ⟨n, m, hm, hfact, rfl, rfl, rfl⟩
      obtain ⟨f, hf, hclaim⟩ := Match.exists_mem_bestOf hm (Match.isFact_iff.2 hfact)
      rw [Match.claim, Match.claim, Prod.mk.injEq] at hclaim
      exact ⟨f, mem_ofCapability.2 ⟨hf, hclaim.1⟩, hclaim.2⟩
  pairwise := by
    rw [List.pairwise_map]
    refine (pairwise_bestFacts ms k).imp_of_mem ?_
    rintro f g hf hg ⟨hlt, -⟩
    exact ⟨f.depth, g.depth, isLeast_depth hf, isLeast_depth hg, Prod.Lex.toLex_lt_toLex.1 hlt⟩

end Verdict

end PluginFacts
