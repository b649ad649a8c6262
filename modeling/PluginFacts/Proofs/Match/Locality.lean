/-
# What a class is found to be depends on what it reaches

Two sets of classes agree from a class on if they agree at every type that the class reaches in the
first of them: the type is a class of both, with the same supertypes and members, or of neither.
Then the class reaches the same types in both (`AgreeFrom.way_iff`), since every link on a way
starts at such a type, and so the distances, first steps and shapes are the same.  As these decide
what a match says (`Match.Describes.finding_eq`), the matches of the class say the same in both
hierarchies, however many other classes there are and however the nodes are numbered.
-/
import PluginFacts.Proofs.Match.Description

namespace PluginFacts

/-- A name is that of a class in both sets, with the same supertypes and members, or in neither. -/
def AgreeAt (D D' : Set Class) (a : String) : Prop :=
  (∃ c ∈ D, ∃ c' ∈ D', c.name = a ∧ c'.name = a ∧ c.superclass = c'.superclass ∧
    c.interfaces = c'.interfaces ∧ c.members = c'.members) ∨
  (∀ c ∈ D, c.name ≠ a) ∧ ∀ c' ∈ D', c'.name ≠ a

/-- Two sets of classes agree at every type that is reached from a type in the first one. -/
def AgreeFrom (D D' : Set Class) (a : String) : Prop :=
  ∀ n b, Way D n a b → AgreeAt D D' b

variable {D D' : Set Class} {a b : String} {n : ℕ}

namespace AgreeAt

lemma symm (h : AgreeAt D D' a) : AgreeAt D' D a := by
  rcases h with ⟨c, hc, c', hc', hname, hname', hsuper, hinterfaces, hmembers⟩ | ⟨hno, hno'⟩
  · exact Or.inl ⟨c', hc', c, hc, hname', hname, hsuper.symm, hinterfaces.symm, hmembers.symm⟩
  · exact Or.inr ⟨hno', hno⟩

/-- A class of the first set has a counterpart in the second one. -/
lemma exists_counterpart (h : AgreeAt D D' a) (hD : Set.InjOn Class.name D) {c : Class} (hc : c ∈ D)
    (hname : c.name = a) : ∃ c' ∈ D', c'.name = a ∧ c.superclass = c'.superclass ∧
      c.interfaces = c'.interfaces ∧ c.members = c'.members := by
  rcases h with ⟨d, hd, c', hc', hdname, hname', halike⟩ | ⟨hno, -⟩
  · obtain rfl := hD hc hd (hname.trans hdname.symm)
    exact ⟨c', hc', hname', halike⟩
  · exact absurd hname (hno c hc)

lemma link (h : AgreeAt D D' a) (hD : Set.InjOn Class.name D) (hab : Link D a b) : Link D' a b := by
  obtain ⟨c, hc, hname, hnames⟩ := hab
  obtain ⟨c', hc', hname', hsuper, hinterfaces, -⟩ := h.exists_counterpart hD hc hname
  rw [Class.Names, hsuper, hinterfaces] at hnames
  exact ⟨c', hc', hname', hnames⟩

end AgreeAt

namespace AgreeFrom

lemma agreeAt (h : AgreeFrom D D' a) : AgreeAt D D' a :=
  h 0 a (.refl a)

/-- Sets that differ only in classes that are not reached agree. -/
lemma of_mem_iff (h : ∀ d n, Way D n a d.name → (d ∈ D ↔ d ∈ D')) : AgreeFrom D D' a := by
  intro n b hway
  by_cases hb : ∃ c ∈ D, c.name = b
  · obtain ⟨c, hc, rfl⟩ := hb
    exact Or.inl ⟨c, hc, c, (h c n hway).1 hc, rfl, rfl, rfl, rfl, rfl⟩
  · refine Or.inr ⟨fun c hc hname => hb ⟨c, hc, hname⟩, ?_⟩
    rintro c hc rfl
    exact hb ⟨c, (h c n hway).2 hc, rfl⟩

lemma of_link (h : AgreeFrom D D' a) (hab : Link D a b) : AgreeFrom D D' b :=
  fun n c hbc => h (n + 1) c (.head hab hbc)

lemma way (h : AgreeFrom D D' a) (hD : Set.InjOn Class.name D) (hway : Way D n a b) :
    Way D' n a b := by
  induction hway with
  | refl => exact .refl _
  | head hab _ ih => exact .head (h.agreeAt.link hD hab) (ih (h.of_link hab))

/-- No way is added in the second set, as its first link would be one of the first set. -/
lemma way_of_way (h : AgreeFrom D D' a) (hD' : Set.InjOn Class.name D') (hway : Way D' n a b) :
    Way D n a b := by
  induction hway with
  | refl => exact .refl _
  | head hab _ ih =>
    have hlink := h.agreeAt.symm.link hD' hab
    exact .head hlink (ih (h.of_link hlink))

section Unique

variable (h : AgreeFrom D D' a) (hD : Set.InjOn Class.name D) (hD' : Set.InjOn Class.name D')

include h hD hD'

lemma way_iff : Way D n a b ↔ Way D' n a b :=
  ⟨h.way hD, h.way_of_way hD'⟩

lemma link_iff : Link D a b ↔ Link D' a b :=
  ⟨h.agreeAt.link hD, h.agreeAt.symm.link hD'⟩

lemma distance_iff : Distance D a b n ↔ Distance D' a b n := by
  simp only [Distance, h.way_iff hD hD']

lemma firstStep_iff {via : Option String} : FirstStep D a b n via ↔ FirstStep D' a b n via := by
  have hfirst (m : ℕ) (v : String) :
      (Link D a v ∧ Way D m v b) ↔ (Link D' a v ∧ Way D' m v b) := by
    constructor
    · rintro ⟨hlink, hway⟩
      exact ⟨(h.link_iff hD hD').1 hlink, (h.of_link hlink).way hD hway⟩
    · rintro ⟨hlink, hway⟩
      have hlink := (h.link_iff hD hD').2 hlink
      exact ⟨hlink, (h.of_link hlink).way_of_way hD' hway⟩
  simp only [FirstStep, hfirst]

lemma shows_iff {p : MemberPredicate} : Shows D a p ↔ Shows D' a p := by
  constructor
  · rintro ⟨d, hd, ⟨n, hway⟩, m, hm, hfits⟩
    obtain ⟨d', hd', hname, -, -, hmembers⟩ := (h n _ hway).exists_counterpart hD hd rfl
    exact ⟨d', hd', ⟨n, hname ▸ h.way hD hway⟩, m, hmembers ▸ hm, hfits⟩
  · rintro ⟨d', hd', ⟨n, hway⟩, m, hm, hfits⟩
    have hway := h.way_of_way hD' hway
    obtain ⟨d, hd, hname, -, -, hmembers⟩ := (h n _ hway).symm.exists_counterpart hD' hd' rfl
    exact ⟨d, hd, ⟨n, hname ▸ hway⟩, m, hmembers ▸ hm, hfits⟩

lemma hasShape_iff {r : Rule} {shape : Shape} : HasShape D a r shape ↔ HasShape D' a r shape := by
  cases shape <;> simp only [HasShape, h.shows_iff hD hD']

end Unique

end AgreeFrom

namespace Match

lemma Describes.of_agreeFrom {c c' : Class} {r : Rule} {m : Match} (hm : m.Describes D c r)
    (h : AgreeFrom D D' c.name) (hD : Set.InjOn Class.name D) (hD' : Set.InjOn Class.name D')
    (hname : c.name = c'.name) : m.Describes D' c' r where
  className_eq := hm.className_eq.trans hname
  capability_eq := hm.capability_eq
  rule_eq := hm.rule_eq
  way := by
    obtain ⟨n, hn, hdepth, hvia⟩ := hm.way
    rw [← hname]
    exact ⟨n, (h.distance_iff hD hD').1 hn, hdepth, (h.firstStep_iff hD hD').1 hvia⟩
  hasShape := hname ▸ (h.hasShape_iff hD hD').1 hm.hasShape

end Match

namespace Hierarchy

/-- Hierarchies that agree from a class on have the same findings for it, rule by rule. -/
lemma map_finding_matchNode {cs cs' : List Class} {known known' : Registry} {h h' : Hierarchy}
    (hb : build cs known = .ok h) (hb' : build cs' known' = .ok h') {id id' : ℕ} {c c' : Class}
    (hc : h.classes[id]? = some c) (hc' : h'.classes[id']? = some c') (hname : c.name = c'.name)
    (hagree : AgreeFrom {d | d ∈ h.classes} {d | d ∈ h'.classes} c.name) (rules : List Rule) :
    (h.matchNode rules id).map Match.finding = (h'.matchNode rules id').map Match.finding := by
  have hl := isLinked_of_build_eq_ok hb
  have hl' := isLinked_of_build_eq_ok hb'
  rw [matchNode, matchNode, List.map_filterMap, List.map_filterMap]
  refine List.filterMap_congr ?_
  intro r _
  have hspec := (hl.isComplete_ancestry hc).matchRule_spec hc r
  have hspec' := (hl'.isComplete_ancestry hc').matchRule_spec hc' r
  have hway : (∃ n, Way {d | d ∈ h.classes} n c.name r.target) ↔
      ∃ n, Way {d | d ∈ h'.classes} n c'.name r.target := by
    rw [← hname]
    exact exists_congr fun n => hagree.way_iff hl.injOn_name hl'.injOn_name
  cases hm : h.matchRule id (h.ancestry id) r with
  | none =>
    cases hm' : h'.matchRule id' (h'.ancestry id') r with
    | none => rfl
    | some m' => exact absurd (hway.2 (hspec'.2 m' hm').1) (hspec.1 hm)
  | some m =>
    obtain ⟨hreaches, -, hdescribes⟩ := hspec.2 m hm
    cases hm' : h'.matchRule id' (h'.ancestry id') r with
    | none => exact absurd (hway.1 hreaches) (hspec'.1 hm')
    | some m' =>
      obtain ⟨-, -, hdescribes'⟩ := hspec'.2 m' hm'
      have heq := (hdescribes.of_agreeFrom hagree hl.injOn_name hl'.injOn_name hname).finding_eq
        hdescribes'
      rw [Option.map_some, Option.map_some, heq]

/-- **Matches depend on what a class reaches.**  If two hierarchies without circles agree at every
type that a class reaches in the first of them, the matches of this class say the same in both,
rule by rule.  In particular they do if the hierarchies differ only in classes that this class
does not reach. -/
theorem matchNode_eq_of_agreeFrom {cs cs' : List Class} {known known' : Registry} {h h' : Hierarchy}
    (hb : build cs known = .ok h) (hb' : build cs' known' = .ok h') {id id' : ℕ} {c c' : Class}
    (hc : h.classes[id]? = some c) (hc' : h'.classes[id']? = some c') (hname : c.name = c'.name)
    (rules : List Rule) :
    (AgreeFrom {d | d ∈ h.classes} {d | d ∈ h'.classes} c.name →
      (h.matchNode rules id).map Match.finding = (h'.matchNode rules id').map Match.finding) ∧
    ((∀ d n, Way {d | d ∈ h.classes} n c.name d.name → (d ∈ h.classes ↔ d ∈ h'.classes)) →
      (h.matchNode rules id).map Match.finding = (h'.matchNode rules id').map Match.finding) := by
  have hagree := fun h => map_finding_matchNode hb hb' hc hc' hname h rules
  exact ⟨hagree, fun hmem => hagree (.of_mem_iff hmem)⟩

/-- A class that extends a class and implements an interface from elsewhere. -/
def heir : Class where
  name := "x.Heir"
  superclass := some "x.Base"
  interfaces := ["y.Top"]

/-- The class that is extended. -/
def base : Class where
  name := "x.Base"
  members := [{ name := "run", kind := .method, descriptor := "()V", access := 1 }]

/-- The same two classes with another one before them, in which the one that is
extended is nested. -/
def baseNested : List Class :=
  [{ name := "a.First" }, base.enclosedBy "a.First", heir]

/-- Rules for both supertypes. -/
def heirRules : List Rule :=
  [{ id := "top", target := "y.Top", capability := .eventListener },
    { id := "base", target := "x.Base", capability := .scheduledTask,
      members := some { name := some "run" } }]

/-- Where one class alone has supertypes, all links are its links. -/
lemma link_heir {cs : List Class}
    (hcs : ∀ c ∈ cs, c = heir ∨ c.superclass = some objectClass ∧ c.interfaces = []) {a b : String}
    (hab : Link {d | d ∈ cs} a b) : a = "x.Heir" ∧ (b = "x.Base" ∨ b = "y.Top") := by
  obtain ⟨c, hc, rfl, hnames⟩ := hab
  rcases hcs c hc with rfl | ⟨hsuper, hinterfaces⟩
  · refine ⟨rfl, ?_⟩
    rcases hnames with ⟨heq, -⟩ | hmem
    · exact Or.inl (Option.some.inj heq).symm
    · exact Or.inr (List.mem_singleton.1 hmem)
  · rcases hnames with ⟨heq, hne, -⟩ | hmem
    · exact absurd (Option.some.inj (hsuper.symm.trans heq)).symm hne
    · rw [hinterfaces] at hmem
      exact absurd hmem List.not_mem_nil

lemma build_heir (cs : List Class) (known : Registry)
    (hsorted : cs.Pairwise fun a b => a.name < b.name)
    (hcs : ∀ c ∈ cs, c = heir ∨ c.superclass = some objectClass ∧ c.interfaces = []) :
    build cs known = .ok (link cs known) ∧ (link cs known).classes = cs := by
  refine build_eq_ok_of_pairwise hsorted ?_
  refine not_hasCircle_of_rank (fun a => if a = "x.Heir" then 1 else 0) ?_
  intro c hc d _ hcd
  obtain ⟨hheir, hbase | htop⟩ := link_heir hcs ⟨c, hc, rfl, hcd⟩
  · rw [hheir, hbase]
    decide
  · rw [hheir, htop]
    decide

lemma agreeFrom_heir : AgreeFrom {d | d ∈ [base, heir]} {d | d ∈ baseNested} "x.Heir" := by
  intro n b hway
  have hb : b ∈ ({"x.Heir", "x.Base", "y.Top"} : Set String) := by
    refine hway.mem_of_closed ?_ (Set.mem_insert _ _)
    intro a _ b hab
    have hcs : ∀ c ∈ [base, heir],
        c = heir ∨ c.superclass = some objectClass ∧ c.interfaces = [] := by decide
    exact Set.mem_insert_of_mem _ (link_heir hcs hab).2
  rcases hb with rfl | rfl | rfl
  · exact Or.inl ⟨heir, by simp, heir, by simp [baseNested], rfl, rfl, rfl, rfl, rfl⟩
  · exact Or.inl ⟨base, by simp, base.enclosedBy "a.First", by simp [baseNested], rfl, rfl,
      rfl, rfl, rfl⟩
  · exact Or.inr ⟨by simp [base, heir], by simp [baseNested, base, heir, Class.enclosedBy]⟩

/-- A class more, which shifts the nodes, and a nesting of what is inherited from change
no finding. -/
theorem matchNode_eq_of_agreeFrom_heir :
    ∃ h h', build [base, heir] .empty = .ok h ∧ build baseNested .platform = .ok h' ∧
      h.classes[1]? = some heir ∧ h'.classes[2]? = some heir ∧
      AgreeFrom {d | d ∈ h.classes} {d | d ∈ h'.classes} heir.name ∧
      (h.matchNode heirRules 1).map Match.finding =
        (h'.matchNode heirRules 2).map Match.finding := by
  obtain ⟨hb, hclasses⟩ := build_heir [base, heir] .empty (by decide) (by decide)
  obtain ⟨hb', hclasses'⟩ := build_heir baseNested .platform (by decide) (by decide)
  have hc : (link [base, heir] .empty).classes[1]? = some heir := by
    rw [hclasses]
    rfl
  have hc' : (link baseNested .platform).classes[2]? = some heir := by
    rw [hclasses']
    rfl
  have hagree : AgreeFrom {d | d ∈ (link [base, heir] .empty).classes}
      {d | d ∈ (link baseNested .platform).classes} heir.name := by
    rw [hclasses, hclasses']
    exact agreeFrom_heir
  exact ⟨_, _, hb, hb', hc, hc', hagree,
    (matchNode_eq_of_agreeFrom hb hb' hc hc' rfl heirRules).1 hagree⟩

end Hierarchy

end PluginFacts
