/-
# What a match says

A class matches the rules whose targets it reaches, and each match says how: over how many other
types, by which first step, and whether some member that the class has or inherits is of the shape
that the rule asks for.  `Match.Describes` says what that means without regard to how it is found
out, and leaves nothing open (`Match.Describes.finding_eq`); `matchNode_describes` says that a class
has just these matches, one for each such rule.
-/
import PluginFacts.Match.Basic
import PluginFacts.Proofs.Hierarchy.Circle
import PluginFacts.Proofs.Match.Ancestry

namespace PluginFacts

/-- A member is all that the predicate mentions. -/
def MemberPredicate.Fits (p : MemberPredicate) (m : Member) : Prop :=
  (∀ k, p.kind = some k → m.kind = k) ∧ (∀ s, p.name = some s → m.name = s) ∧
    (∀ s, p.descriptor = some s → m.descriptor = s) ∧ ∀ s, p.annotated = some s → s ∈ m.annotations

lemma MemberPredicate.accepts_iff {p : MemberPredicate} {m : Member} : p.accepts m ↔ p.Fits m := by
  simp only [accepts, Fits, Bool.and_eq_true, and_assoc, Option.all_eq_true, beq_iff_eq,
    Member.hasAnnotation, List.contains_iff_mem]
  refine and_congr ?_ (and_congr ?_ (and_congr ?_ Iff.rfl)) <;>
    exact forall_congr' fun _ => imp_congr_right fun _ => eq_comm

/-- Some member that a class has or inherits fits. -/
def Shows (D : Set Class) (a : String) (p : MemberPredicate) : Prop :=
  ∃ d ∈ D, (∃ n, Way D n a d.name) ∧ ∃ m ∈ d.members, p.Fits m

/-- The shape in which a class is found by a rule. -/
def HasShape (D : Set Class) (a : String) (r : Rule) : Shape → Prop
  | .notRequired => r.members = none
  | .satisfied => ∃ p, r.members = some p ∧ Shows D a p
  | .missing => ∃ p, r.members = some p ∧ ¬ Shows D a p

lemma HasShape.unique {D : Set Class} {a : String} {r : Rule} {shape shape' : Shape}
    (h : HasShape D a r shape) (h' : HasShape D a r shape') : shape = shape' := by
  cases shape <;> cases shape' <;> grind [HasShape]

/-- The class reaches the target of the rule, and the match says how. -/
structure Match.Describes (D : Set Class) (c : Class) (r : Rule) (m : Match) : Prop where
  /-- The match is about the class. -/
  className_eq : m.className = c.name
  /-- The match is about the capability that the rule gives. -/
  capability_eq : m.capability = r.capability
  /-- The match is about the rule. -/
  rule_eq : m.rule = r.id
  /-- The depth is the number of types between the class and the target on a shortest way, and the
  way begins with the least first step. -/
  way : ∃ n, Distance D c.name r.target n ∧ m.depth = n - 1 ∧ FirstStep D c.name r.target n m.via
  /-- The shape is the one in which the class is found. -/
  hasShape : HasShape D c.name r m.shape

namespace Match

/-- What a match says of its class: which capability the class reaches, by which rule, at which
depth, by which first step and in which shape. -/
def finding (m : Match) : String × Capability × String × ℕ × Option String × Shape :=
  (m.className, m.capability, m.rule, m.depth, m.via, m.shape)

/-- What a match says is decided by the class and the rule. -/
lemma Describes.finding_eq {D : Set Class} {c : Class} {r : Rule} {m m' : Match}
    (h : m.Describes D c r) (h' : m'.Describes D c r) : m.finding = m'.finding := by
  obtain ⟨n, hn, hdepth, hvia⟩ := h.way
  obtain ⟨n', hn', hdepth', hvia'⟩ := h'.way
  obtain rfl := hn.unique hn'
  have hshape : m.shape = m'.shape := HasShape.unique h.hasShape h'.hasShape
  rw [finding, finding, h.className_eq, h'.className_eq, h.capability_eq, h'.capability_eq,
    h.rule_eq, h'.rule_eq, hdepth, hdepth', hvia.unique hvia', hshape]

end Match

namespace Hierarchy

section Node

variable {h : Hierarchy} {id : ℕ} {c : Class} {reached : List Ancestor}

/-- The classes that a class reaches are the nodes among all types that it reaches. -/
lemma IsComplete.mem_nodes_iff (hr : IsComplete h c.name reached) {i : ℕ} :
    i ∈ reached.filterMap (·.node) ↔
      ∃ d, h.classes[i]? = some d ∧ ∃ n, Way {d | d ∈ h.classes} n c.name d.name := by
  rw [List.mem_filterMap]
  constructor
  · rintro ⟨x, hx, hi⟩
    obtain ⟨d, hd, hname⟩ := ((hr.sound x hx).node_eq_some_iff i).1 hi
    exact ⟨d, hd, x.distance, hname ▸ (hr.sound x hx).distance.1⟩
  · rintro ⟨d, hd, n, hway⟩
    obtain ⟨x, hx, hname⟩ := hr.complete d.name n hway
    exact ⟨x, hx, ((hr.sound x hx).node_eq_some_iff i).2 ⟨d, hd, hname.symm⟩⟩

lemma IsComplete.hasShape (hr : IsComplete h c.name reached) (r : Rule) :
    HasShape {d | d ∈ h.classes} c.name r (h.shape reached r) := by
  rw [shape]
  cases hp : r.members with
  | none => exact hp
  | some p =>
    have hshows : ((reached.filterMap (·.node)).any fun i =>
        (h.nodes[i]?).any fun n => n.declared.members.any p.accepts) = true ↔
        Shows {d | d ∈ h.classes} c.name p := by
      rw [List.any_eq_true]
      constructor
      · rintro ⟨i, hi, hany⟩
        obtain ⟨d, hd, n, hway⟩ := hr.mem_nodes_iff.1 hi
        rw [classes_getElem?, Option.map_eq_some_iff] at hd
        obtain ⟨node, hnode, rfl⟩ := hd
        rw [hnode, Option.any_some, List.any_eq_true] at hany
        obtain ⟨m, hm, hfits⟩ := hany
        have hmem : node.declared ∈ h.classes := by
          refine List.mem_of_getElem? (i := i) ?_
          rw [classes_getElem?, hnode, Option.map_some]
        exact ⟨node.declared, hmem, ⟨n, hway⟩, m, hm, MemberPredicate.accepts_iff.1 hfits⟩
      · rintro ⟨d, hd, hway, m, hm, hfits⟩
        obtain ⟨i, hi⟩ := exists_classes_of_mem hd
        refine ⟨i, hr.mem_nodes_iff.2 ⟨d, hi, hway⟩, ?_⟩
        rw [classes_getElem?, Option.map_eq_some_iff] at hi
        obtain ⟨node, hnode, rfl⟩ := hi
        rw [hnode, Option.any_some, List.any_eq_true]
        exact ⟨m, hm, MemberPredicate.accepts_iff.2 hfits⟩
    -- the shape is there if and only if the class shows it
    simp only
    split
    · next hany => exact ⟨p, hp, hshows.1 hany⟩
    · next hany => exact ⟨p, hp, fun hs => hany (hshows.2 hs)⟩

/-- What a match says that the types that the node reaches have no part in. -/
lemma of_matchRule_eq_some {r : Rule} {m : Match} (hm : h.matchRule id reached r = some m) :
    m.className = h.name id ∧ m.node = id ∧ m.capability = r.capability ∧ m.rule = r.id ∧
      m.enclosing = h.enclosingName id := by
  rw [matchRule, Option.bind_eq_bind, Option.bind_eq_some_iff] at hm
  obtain ⟨x, -, hm⟩ := hm
  cases hm
  exact ⟨rfl, rfl, rfl, rfl, rfl⟩

/-- A class matches a rule if it reaches the target, and the match says how. -/
theorem IsComplete.matchRule_spec (hr : IsComplete h c.name reached) (hc : h.classes[id]? = some c)
    (r : Rule) :
    (h.matchRule id reached r = none → ¬ ∃ n, Way {d | d ∈ h.classes} n c.name r.target) ∧
    ∀ m, h.matchRule id reached r = some m →
      (∃ n, Way {d | d ∈ h.classes} n c.name r.target) ∧
        m.node = id ∧ m.Describes {d | d ∈ h.classes} c r := by
  cases hfind : reached.find? (·.name == r.target) with
  | none =>
    refine ⟨?_, ?_⟩
    · rintro - ⟨n, hway⟩
      obtain ⟨x, hx, hname⟩ := hr.complete _ n hway
      exact absurd hname (by simpa using List.find?_eq_none.1 hfind x hx)
    · intro m hm
      rw [matchRule, hfind] at hm
      cases hm
  | some x =>
    have hreached := hr.sound x (List.mem_of_find?_eq_some hfind)
    have hname : x.name = r.target := by simpa using List.find?_some hfind
    refine ⟨?_, ?_⟩
    · intro hnone
      rw [matchRule, hfind] at hnone
      cases hnone
    · intro m hm
      rw [matchRule, hfind] at hm
      cases hm
      refine ⟨⟨x.distance, hname ▸ hreached.distance.1⟩, rfl, ?_⟩
      exact {
        className_eq := name_of_classes hc
        capability_eq := rfl
        rule_eq := rfl
        way := ⟨x.distance, hname ▸ hreached.distance, rfl, hname ▸ hreached.firstStep⟩
        hasShape := hr.hasShape r }

/-- All that a node reaches is known of its class. -/
lemma IsLinked.isComplete_ancestry (hl : h.IsLinked) (hc : h.classes[id]? = some c) :
    IsComplete h c.name (h.ancestry id) := by
  rw [← name_of_classes hc]
  exact Hierarchy.isComplete_ancestry hl (lt_size_of_classes hc)

end Node

/-- What a function picks from a list, and how it describes that, element by element. -/
lemma forall₂_filterMap {α β : Type} {p : α → Prop} [DecidablePred p] {q : α → β → Prop}
    {f : α → Option β} {l : List α}
    (hf : ∀ a, (f a = none → ¬ p a) ∧ ∀ b, f a = some b → p a ∧ q a b) :
    List.Forall₂ q (l.filter fun a => decide (p a)) (l.filterMap f) := by
  induction l with
  | nil => exact List.Forall₂.nil
  | cons a l ih =>
    cases hfa : f a with
    | none =>
      have ha : ¬ p a := (hf a).1 hfa
      simpa [hfa, ha] using ih
    | some b =>
      obtain ⟨ha, hq⟩ := (hf a).2 b hfa
      simpa [hfa, ha] using List.Forall₂.cons hq ih

open Classical in
/-- **Matches of a class.**  In a hierarchy without circles a class has one match for each rule
whose target it is or reaches, in the order of the rules, and every match describes how the class
reaches the target.  From the number of nodes on, more rounds of the walk change nothing. -/
theorem matchNode_describes {cs : List Class} {known : Registry} {h : Hierarchy}
    (hb : build cs known = .ok h) (rules : List Rule) {id : ℕ} {c : Class}
    (hc : h.classes[id]? = some c) :
    List.Forall₂ (fun r m => m.node = id ∧ m.Describes {d | d ∈ h.classes} c r)
      (rules.filter fun r => decide (∃ n, Way {d | d ∈ h.classes} n c.name r.target))
      (h.matchNode rules id) ∧
    ∀ n, h.size ≤ n →
      h.rounds n [{ name := c.name, distance := 0, via := none, node := some id }]
        [{ name := c.name, distance := 0, via := none, node := some id }] = h.ancestry id := by
  have hl : h.IsLinked := by
    obtain ⟨rfl, -⟩ := build_eq_ok_iff.1 hb
    exact isLinked_link cs known
  refine ⟨forall₂_filterMap fun r => (hl.isComplete_ancestry hc).matchRule_spec hc r, ?_⟩
  intro n hn
  exact rounds_eq_ancestry hl (lt_size_of_classes hc) _ (by rw [name_of_classes hc]) hn

/-- A class that extends one class and implements another one. -/
def ofTwo : Class where
  name := "x.Main"
  superclass := some "x.Right"
  interfaces := ["x.Left"]

/-- A class that reaches a type by two shortest ways and inherits a method on one of them. -/
def twoWays : List Class :=
  [{ name := "x.Left", interfaces := ["y.Top"] }, ofTwo,
    { name := "x.Right", superclass := some "y.Top",
      members := [{ name := "run", kind := .method, descriptor := "()V", access := 1 }] }]

/-- A rule whose target is not reached and one that asks for a method. -/
def topRules : List Rule :=
  [{ id := "absent", target := "y.Absent", capability := .scheduledTask },
    { id := "top", target := "y.Top", capability := .eventListener,
      members := some { kind := some .method, name := some "run" } }]

lemma not_way_twoWays : ¬ ∃ n, Way {d | d ∈ twoWays} n "x.Main" "y.Absent" := by
  rintro ⟨n, hway⟩
  have hclosed : ∀ a ∈ {a | a ≠ "y.Absent"}, ∀ b, Link {d | d ∈ twoWays} a b → b ≠ "y.Absent" := by
    rintro a - b ⟨c, hc, -, hnames⟩ rfl
    have hnone : ∀ c ∈ twoWays, ¬ c.Names "y.Absent" := by decide
    exact hnone c hc hnames
  exact hway.mem_of_closed hclosed (by decide) rfl

/-- Of the two first steps the one with the lesser name counts, although the other one is a step to
the superclass. -/
lemma firstStep_twoWays :
    FirstStep {d | d ∈ twoWays} "x.Main" "y.Top" 2 (some "x.Left") := by
  refine .inr ⟨1, _, rfl, rfl, ⟨by decide, .head (show Link _ _ "y.Top" by decide) (.refl _)⟩, ?_⟩
  rintro v ⟨⟨c, hc, hname, hnames⟩, -⟩
  have honly : ∀ c ∈ twoWays, c.name = "x.Main" → c = ofTwo := by decide
  obtain rfl := honly c hc hname
  rcases hnames with ⟨hsuper, -⟩ | hmem
  · cases hsuper
    decide
  · exact (List.mem_singleton.1 hmem).ge

lemma describes_twoWays : Match.Describes {d | d ∈ twoWays} ofTwo topRules[1]
    ⟨"x.Main", 1, .eventListener, "top", 1, some "x.Left", .satisfied, none⟩ where
  className_eq := rfl
  capability_eq := rfl
  rule_eq := rfl
  way := ⟨2, .two (b := "x.Left") (by decide) (by decide) (by decide) (by decide), rfl,
    firstStep_twoWays⟩
  hasShape := ⟨_, rfl, twoWays[2], List.getElem_mem _,
    ⟨1, .head (show Link _ _ "x.Right" by decide) (.refl _)⟩, _, List.mem_singleton_self _,
    MemberPredicate.accepts_iff.1 (by decide)⟩

open Classical in
/-- What the rules find of a class that reaches the target of one of them by two shortest ways. -/
theorem matchNode_describes_twoWays :
    ∃ h, build twoWays .platform = .ok h ∧ h.classes[1]? = some ofTwo ∧
      (h.matchNode topRules 1).map Match.finding =
        [("x.Main", .eventListener, "top", 1, some "x.Left", .satisfied)] ∧
      ∀ n, h.size ≤ n →
        h.rounds n [{ name := "x.Main", distance := 0, via := none, node := some 1 }]
          [{ name := "x.Main", distance := 0, via := none, node := some 1 }] = h.ancestry 1 := by
  have hrank : ∀ c ∈ twoWays, ∀ d ∈ twoWays, c.Names d.name →
      (if d.name = "x.Main" then 1 else 0) < if c.name = "x.Main" then 1 else 0 := by
    decide
  obtain ⟨hb, hclasses⟩ := build_eq_ok_of_pairwise (r := .platform)
    (show twoWays.Pairwise _ by decide)
    (not_hasCircle_of_rank (fun a => if a = "x.Main" then 1 else 0) hrank)
  have hc : (link twoWays .platform).classes[1]? = some ofTwo := by
    rw [hclasses]
    rfl
  obtain ⟨hmatches, hrounds⟩ := matchNode_describes hb topRules hc
  have hreached : ∃ n, Way {d | d ∈ twoWays} n "x.Main" "y.Top" := by
    obtain ⟨n, hn, -⟩ := describes_twoWays.way
    exact ⟨n, hn.1⟩
  have hfilter : (topRules.filter fun r =>
      decide (∃ n, Way {d | d ∈ twoWays} n ofTwo.name r.target)) = [topRules[1]] := by
    simp [topRules, ofTwo, not_way_twoWays, hreached]
  rw [hclasses, hfilter, List.forall₂_cons_left_iff] at hmatches
  obtain ⟨m, ms, ⟨-, hm⟩, hms, heq⟩ := hmatches
  rw [List.forall₂_nil_left_iff] at hms
  refine ⟨_, hb, hc, ?_, hrounds⟩
  rw [heq, hms, List.map_singleton, hm.finding_eq describes_twoWays]
  rfl

end Hierarchy

end PluginFacts
