/-
# The types that a class reaches

`Hierarchy.ancestry` finds every type that a class reaches, with the length of the shortest way to
it and the least first step among all ways of that length (`isComplete_ancestry`).

The types are found in rounds.  After `k` rounds the types at distances up to `k` are reached, and
the last round consists of those at distance `k`; this is `Level`, and a further round keeps it up
(`Level.next`).  Since no type is further away than there are classes, as many rounds are enough,
and more of them find nothing (`rounds_eq_ancestry`).
-/
import PluginFacts.Match.Ancestry
import PluginFacts.Proofs.Hierarchy.Linked

namespace PluginFacts

namespace Ancestor

lemma isSortOrder_le : IsSortOrder Ancestor.le :=
  .of_cmp (compareLex (compareOn Ancestor.name) (compareOn Ancestor.via))

/-- Of two ways to one type the one whose first step is less comes first. -/
lemma via_le_of_le {a b : Ancestor} {v w : String} (h : a.le b) (hname : a.name = b.name)
    (ha : a.via = some v) (hb : b.via = some w) : v ≤ w := by
  rw [le, hname, ha, hb, Ordering.isLE_then_iff_or, Std.compare_eq_iff_eq, compare_lt_iff_lt] at h
  rcases h with h | ⟨-, h⟩
  · exact absurd h (lt_irrefl _)
  · exact compare_isLE_iff.1 h

lemma sameName_iff (a b : Ancestor) : (a.name == b.name) = true ↔ a.name = b.name := by
  simp

/-- What is kept of ways to several types: the way that comes first, for each type. -/
lemma mem_distinct_sort {l : List Ancestor} {a : Ancestor} (h : a ∈ distinct (l.mergeSort le)) :
    a ∈ l ∧ ∀ b ∈ l, a.name = b.name → a.le b := by
  refine ⟨List.mem_mergeSort.1 (mem_of_mem_firstOfEach h), ?_⟩
  intro b hb hname
  exact rel_of_mem_firstOfEach (r := fun a b => le a b = true) isSortOrder_le.refl sameName_iff
    (isSortOrder_le.pairwise_sort l) h (List.mem_mergeSort.2 hb) hname

lemma exists_mem_distinct_sort {l : List Ancestor} {b : Ancestor} (hb : b ∈ l) :
    ∃ a ∈ distinct (l.mergeSort le), a.name = b.name :=
  exists_mem_firstOfEach sameName_iff (List.mem_mergeSort.2 hb)

end Ancestor

namespace Hierarchy

/-- What is said of a type that is reached from the type `a` is true. -/
structure IsReached (h : Hierarchy) (a : String) (x : Ancestor) : Prop where
  /-- The distance is the length of a shortest way. -/
  distance : Distance {d | d ∈ h.classes} a x.name x.distance
  /-- The first step is the least one of all shortest ways. -/
  firstStep : FirstStep {d | d ∈ h.classes} a x.name x.distance x.via
  /-- The type is the node of its name, if there is one. -/
  node_eq_some_iff : ∀ i : ℕ, x.node = some i ↔ ∃ d, h.classes[i]? = some d ∧ d.name = x.name

/-- The types at distances up to `k` are reached, the ones at distance `k` in the last round. -/
structure Level (h : Hierarchy) (a : String) (k : ℕ) (reached round : List Ancestor) : Prop where
  /-- What is said of the types is true. -/
  sound : ∀ x ∈ reached, h.IsReached a x ∧ x.distance ≤ k
  /-- No type is missing. -/
  complete : ∀ b n, n ≤ k → Distance {d | d ∈ h.classes} a b n → ∃ x ∈ reached, x.name = b
  /-- The last round consists of the types that are furthest away. -/
  mem_round_iff : ∀ x, x ∈ round ↔ x ∈ reached ∧ x.distance = k

/-- All types that are reached are listed, and what is said of them is true. -/
structure IsComplete (h : Hierarchy) (a : String) (reached : List Ancestor) : Prop where
  /-- What is said of the types is true. -/
  sound : ∀ x ∈ reached, h.IsReached a x
  /-- No type is missing. -/
  complete : ∀ b n, Way {d | d ∈ h.classes} n a b → ∃ x ∈ reached, x.name = b

/-- The steps that lead on from a round to types that were not reached before. -/
def newSteps (h : Hierarchy) (reached round : List Ancestor) : List Ancestor :=
  (round.flatMap fun a => ((a.node.map h.supertypes).getD []).map (h.step a)).filter
    fun s => reached.all (·.name ≠ s.name)

lemma nextRound_eq (h : Hierarchy) (reached round : List Ancestor) :
    h.nextRound reached round =
      Ancestor.distinct ((h.newSteps reached round).mergeSort Ancestor.le) :=
  rfl

lemma mem_newSteps_iff {h : Hierarchy} {reached round : List Ancestor} {s : Ancestor} :
    s ∈ h.newSteps reached round ↔
      (∃ x ∈ round, ∃ i, x.node = some i ∧ ∃ t ∈ h.supertypes i, h.step x t = s) ∧
        ∀ y ∈ reached, y.name ≠ s.name := by
  simp only [newSteps, List.mem_filter, List.mem_flatMap, List.mem_map, List.all_eq_true,
    decide_eq_true_eq]
  refine and_congr_left fun _ => exists_congr fun x => and_congr_right fun _ => ?_
  cases x.node with
  | none => simp
  | some i => simp

section Levels

variable {h : Hierarchy} (hl : h.IsLinked) {a : String} {k : ℕ} {reached round : List Ancestor}

include hl

/-- The way to the class itself is empty. -/
lemma level_zero {id : ℕ} (hid : id < h.size) (start : Ancestor)
    (hstart : start = { name := h.name id, distance := 0, via := none, node := some id }) :
    Level h (h.name id) 0 [start] [start] := by
  subst hstart
  refine ⟨?_, ?_, ?_⟩
  · intro x hx
    obtain rfl := List.mem_singleton.1 hx
    refine ⟨⟨Distance.zero _, Or.inl ⟨rfl, rfl⟩, ?_⟩, le_refl _⟩
    intro i
    constructor
    · rintro heq
      obtain rfl := Option.some.inj heq
      obtain ⟨d, hd⟩ := exists_class_of_lt hid
      exact ⟨d, hd, (name_of_classes hd).symm⟩
    · rintro ⟨d, hd, hname⟩
      rw [← name_of_classes hd] at hname
      rw [hl.name_inj (lt_size_of_classes hd) hid hname]
  · intro b n hn hb
    obtain rfl : n = 0 := by omega
    refine ⟨_, List.mem_singleton_self _, ?_⟩
    cases hb.1
    rfl
  · intro x
    rw [List.mem_singleton]
    constructor
    · rintro rfl
      exact ⟨rfl, rfl⟩
    · exact fun hx => hx.1

/-- A step leads to a type that is one link further away, on a shortest way. -/
lemma Level.newSteps_sound (hlevel : Level h a k reached round) {s : Ancestor}
    (hs : s ∈ h.newSteps reached round) :
    Distance {d | d ∈ h.classes} a s.name (k + 1) ∧ s.distance = k + 1 ∧
      (∃ v, s.via = some v ∧ Link {d | d ∈ h.classes} a v ∧ Way {d | d ∈ h.classes} k v s.name) ∧
      ∀ i : ℕ, s.node = some i ↔ ∃ d, h.classes[i]? = some d ∧ d.name = s.name := by
  obtain ⟨⟨x, hx, i, hi, t, ht, rfl⟩, hnew⟩ := mem_newSteps_iff.1 hs
  obtain ⟨hxr, hk⟩ := (hlevel.mem_round_iff x).1 hx
  obtain ⟨hreached, -⟩ := hlevel.sound x hxr
  obtain ⟨d, hd, hname⟩ := (hreached.node_eq_some_iff i).1 hi
  have hlink : Link {d | d ∈ h.classes} x.name (h.typeName t) := by
    rw [← hname, ← name_of_classes hd]
    exact (hl.link_iff (lt_size_of_classes hd) _).2 ⟨t, ht, rfl⟩
  have hway : Way {d | d ∈ h.classes} (k + 1) a (h.typeName t) := by
    rw [← hk]
    exact hreached.distance.1.snoc hlink
  refine ⟨⟨hway, ?_⟩, ?_, ?_, hl.id?_eq_some_iff ht⟩
  · -- a shorter way would have led there in an earlier round
    intro m hm
    by_contra hlt
    obtain ⟨m', hm', hdist⟩ := Distance.exists_le hm
    obtain ⟨y, hy, hyname⟩ := hlevel.complete _ m' (by omega) hdist
    exact hnew y hy hyname
  · simp only [step, hk]
  · rcases hreached.firstStep with ⟨h0, hvia⟩ | ⟨m, v, hm, hvia, hv⟩
    · have hxa : x.name = a := by
        have h0way := hreached.distance.1
        rw [h0] at h0way
        cases h0way
        rfl
      obtain rfl : k = 0 := by omega
      exact ⟨h.typeName t, by simp [step, hvia], hxa ▸ hlink, .refl _⟩
    · obtain rfl : k = m + 1 := by omega
      exact ⟨v, by simp [step, hvia], hv.1.1, hv.1.2.snoc hlink⟩

/-- Every shortest way to a type that is one link further away is matched by a step, whose first
step is no greater. -/
lemma Level.exists_newSteps (hlevel : Level h a k reached round) {b v : String}
    (hb : Distance {d | d ∈ h.classes} a b (k + 1)) (hav : Link {d | d ∈ h.classes} a v)
    (hvb : Way {d | d ∈ h.classes} k v b) :
    ∃ s ∈ h.newSteps reached round, s.name = b ∧ ∃ w ≤ v, s.via = some w := by
  -- the last but one type on the way
  obtain ⟨p, hap, hpb, hfirst⟩ : ∃ p, Distance {d | d ∈ h.classes} a p k ∧
      Link {d | d ∈ h.classes} p b ∧
      ∀ via, FirstStep {d | d ∈ h.classes} a p k via → via.getD b ≤ v := by
    cases k with
    | zero =>
      cases hvb
      refine ⟨a, Distance.zero a, hav, ?_⟩
      rintro via (⟨-, rfl⟩ | ⟨m, w, hm, -⟩)
      · exact le_refl _
      · omega
    | succ m =>
      obtain ⟨p, hvp, hpb⟩ := hvb.exists_last
      have hway : Way {d | d ∈ h.classes} (m + 1) a p := .head hav hvp
      refine ⟨p, ⟨hway, ?_⟩, hpb, ?_⟩
      · intro n hn
        have hle := hb.2 (hn.snoc hpb)
        omega
      · rintro via (⟨h0, -⟩ | ⟨m', w, hm, rfl, hw⟩)
        · omega
        · obtain rfl : m = m' := by omega
          exact hw.2 ⟨hav, hvp⟩
  obtain ⟨x, hx, rfl⟩ := hlevel.complete p k (le_refl _) hap
  obtain ⟨hreached, -⟩ := hlevel.sound x hx
  have hk : x.distance = k := hreached.distance.unique hap
  obtain ⟨d, hd, hname, hdb⟩ := hpb
  obtain ⟨i, hi⟩ := exists_classes_of_mem hd
  obtain ⟨t, ht, rfl⟩ := (hl.names_iff hi b).1 hdb
  refine ⟨h.step x t, mem_newSteps_iff.2 ⟨?_, ?_⟩, rfl, _, ?_, rfl⟩
  · refine ⟨x, (hlevel.mem_round_iff x).2 ⟨hx, hk⟩, i, ?_, t, ht, rfl⟩
    exact (hreached.node_eq_some_iff i).2 ⟨d, hi, hname⟩
  · intro y hy hyname
    obtain ⟨hyreached, hyk⟩ := hlevel.sound y hy
    have hdist := hyreached.distance
    rw [hyname] at hdist
    have heq := hdist.unique hb
    omega
  · rw [← hk] at hfirst
    exact hfirst _ hreached.firstStep

/-- A round reaches the types that are one link further away. -/
theorem Level.next (hlevel : Level h a k reached round) :
    Level h a (k + 1) (reached ++ h.nextRound reached round) (h.nextRound reached round) := by
  have hnext : ∀ x ∈ h.nextRound reached round, h.IsReached a x ∧ x.distance = k + 1 := by
    intro x hx
    rw [nextRound_eq] at hx
    obtain ⟨hxs, hleast⟩ := Ancestor.mem_distinct_sort hx
    obtain ⟨hdist, hk, ⟨v, hv, hlink, hway⟩, hnode⟩ := hlevel.newSteps_sound hl hxs
    refine ⟨⟨hk ▸ hdist, ?_, hnode⟩, hk⟩
    -- of the steps to this type the least one was kept, and every shortest way has a step
    refine Or.inr ⟨k, v, hk, hv, ⟨hlink, hway⟩, ?_⟩
    rintro w ⟨haw, hwx⟩
    obtain ⟨s, hs, hname, w', hw', hvia⟩ := hlevel.exists_newSteps hl hdist haw hwx
    exact le_trans (Ancestor.via_le_of_le (hleast s hs hname.symm) hname.symm hv hvia) hw'
  refine ⟨?_, ?_, ?_⟩
  · intro x hx
    rcases List.mem_append.1 hx with hx | hx
    · obtain ⟨hreached, hle⟩ := hlevel.sound x hx
      exact ⟨hreached, by omega⟩
    · obtain ⟨hreached, heq⟩ := hnext x hx
      exact ⟨hreached, le_of_eq heq⟩
  · intro b n hn hb
    rcases Nat.lt_or_ge k n with hlt | hle
    · obtain rfl : n = k + 1 := by omega
      cases hb.1 with
      | @head _ _ v _ hav hvb =>
        obtain ⟨s, hs, rfl, -⟩ := hlevel.exists_newSteps hl hb hav hvb
        obtain ⟨x, hx, hname⟩ := Ancestor.exists_mem_distinct_sort hs
        exact ⟨x, List.mem_append_right _ hx, hname⟩
    · obtain ⟨x, hx, hname⟩ := hlevel.complete b n hle hb
      exact ⟨x, List.mem_append_left _ hx, hname⟩
  · intro x
    constructor
    · intro hx
      exact ⟨List.mem_append_right _ hx, (hnext x hx).2⟩
    · rintro ⟨hx, hk⟩
      rcases List.mem_append.1 hx with hx | hx
      · have hle := (hlevel.sound x hx).2
        omega
      · exact hx

/-- A round without types is the last one. -/
lemma Level.isComplete_of_nextRound_eq_nil (hlevel : Level h a k reached round)
    (hnil : h.nextRound reached round = []) : IsComplete h a reached := by
  refine ⟨fun x hx => (hlevel.sound x hx).1, ?_⟩
  intro b n hb
  obtain ⟨m, -, hm⟩ := Distance.exists_le hb
  rcases Nat.lt_or_ge k m with hlt | hle
  · -- some type on the way would be in the round
    obtain ⟨i, rfl⟩ : ∃ i, m = k + 1 + i := ⟨m - (k + 1), by omega⟩
    obtain ⟨c, hc, -⟩ := hm.split
    have hnext := hlevel.next hl
    rw [hnil, List.append_nil] at hnext
    obtain ⟨x, hx, rfl⟩ := hnext.complete c (k + 1) (le_refl _) hc
    obtain ⟨hreached, hxk⟩ := hlevel.sound x hx
    have heq := hreached.distance.unique hc
    omega
  · exact hlevel.complete b m hle hm

/-- No type is further away than there are nodes. -/
lemma Level.nextRound_eq_nil (hlevel : Level h a k reached round) (hk : h.size ≤ k) :
    h.nextRound reached round = [] := by
  refine List.eq_nil_iff_forall_not_mem.2 ?_
  intro x hx
  have hnext := hlevel.next hl
  obtain ⟨hreached, -⟩ := hnext.sound x (List.mem_append_right _ hx)
  have hxk := ((hnext.mem_round_iff x).1 hx).2
  have hle := hreached.distance.le_length
  rw [length_classes] at hle
  omega

/-- As many rounds as there are nodes are enough. -/
lemma Level.isComplete_rounds {n : ℕ} (hlevel : Level h a k reached round) (hn : h.size ≤ k + n) :
    IsComplete h a (h.rounds n reached round) := by
  induction n generalizing k reached round with
  | zero => exact hlevel.isComplete_of_nextRound_eq_nil hl (hlevel.nextRound_eq_nil hl hn)
  | succ n ih =>
    rw [rounds]
    split
    · next hnil => exact hlevel.isComplete_of_nextRound_eq_nil hl hnil
    · exact ih (hlevel.next hl) (by omega)

/-- More rounds than there are nodes find nothing more. -/
lemma Level.rounds_succ {n : ℕ} (hlevel : Level h a k reached round) (hn : h.size ≤ k + n) :
    h.rounds (n + 1) reached round = h.rounds n reached round := by
  induction n generalizing k reached round with
  | zero => simp only [rounds, hlevel.nextRound_eq_nil hl hn]
  | succ n ih =>
    rw [rounds]
    conv_rhs => rw [rounds]
    split
    · rfl
    · exact ih (hlevel.next hl) (by omega)

/-- **Ancestry.**  A node reaches the types that there are ways to, and what is said of
them is true. -/
theorem isComplete_ancestry {id : ℕ} (hid : id < h.size) :
    IsComplete h (h.name id) (h.ancestry id) :=
  (level_zero hl hid _ rfl).isComplete_rounds hl (by omega)

/-- The rounds come to an end: from the number of nodes on, more of them change nothing. -/
theorem rounds_eq_ancestry {id : ℕ} (hid : id < h.size) (start : Ancestor)
    (hstart : start = { name := h.name id, distance := 0, via := none, node := some id }) {n : ℕ}
    (hn : h.size ≤ n) : h.rounds n [start] [start] = h.ancestry id := by
  induction n, hn using Nat.le_induction with
  | base => rw [ancestry, hstart]
  | succ n hn ih => rw [(level_zero hl hid start hstart).rounds_succ hl (by omega), ih]

end Levels

end Hierarchy

end PluginFacts
