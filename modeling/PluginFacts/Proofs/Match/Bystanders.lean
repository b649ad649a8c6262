/-
# Matches among more classes

Classes that have nothing to do with a class make no difference to what is found of it: its matches
are the same, and the outermost class around it is the same if there is one.  If there is none,
because classes are said to enclose one another, some class on their circle is noted instead; which
one depends on how many classes there are in all (`enclosing_eq_of_hasBystanders`).
-/
import PluginFacts.Proofs.Hierarchy.Bystanders
import PluginFacts.Proofs.Match.Subjects

namespace PluginFacts

namespace Hierarchy

variable {h : Hierarchy} {rules : List Rule} {s : Settings} {id : ℕ} {c : Class} {m : Match}

lemma topLevel_link_lt_size {cs : List Class} {r : Registry} (hid : id < (link cs r).size) :
    (link cs r).topLevel id < (link cs r).size :=
  (isOutermost_topLevel (fun _ _ => enclosing_lt_size) hid).lt_size

/-- Whether the outermost class is the class itself can be told by the names. -/
lemma IsLinked.enclosingName_eq (hl : h.IsLinked) (hid : id < h.size)
    (htop : h.topLevel id < h.size) :
    h.enclosingName id =
      if h.name (h.topLevel id) = h.name id then none else some (h.name (h.topLevel id)) := by
  have hself : h.topLevel id = id ↔ h.name (h.topLevel id) = h.name id :=
    ⟨congrArg _, hl.name_inj htop hid⟩
  rw [enclosingName]
  simp only [hself]

/-- The match of a node, by its class. -/
lemma IsLinked.node_eq (hl : h.IsLinked) (hc : h.classes[id]? = some c) {i : ℕ} (hi : i < h.size)
    (hm : m ∈ h.matchNode rules i) : m.className = c.name ↔ i = id := by
  obtain ⟨r, -, hmr⟩ := List.mem_filterMap.1 hm
  rw [(of_matchRule_eq_some hmr).1, ← name_of_classes hc]
  exact ⟨hl.name_inj hi (lt_size_of_classes hc), congrArg _⟩

lemma mem_subjects_iff (hc : h.classes[id]? = some c) : id ∈ h.subjects s ↔ s.isSubject c := by
  have hid := lt_size_of_classes hc
  rw [classes_getElem?, Option.map_eq_some_iff] at hc
  obtain ⟨node, hnode, rfl⟩ := hc
  simp [subjects, hnode, hid]

/-- The matches of a hierarchy with a class are those of its node, in order. -/
lemma IsLinked.filter_className_matchAll (hl : h.IsLinked) (hc : h.classes[id]? = some c) :
    (h.matchAll rules s).filter (fun m => m.className = c.name) =
      if s.isSubject c then (h.matchNode rules id).mergeSort Match.le else [] := by
  have hnode : ∀ i ∈ h.subjects s, (h.matchNode rules i).filter (fun m => m.className = c.name) =
      if i == id then h.matchNode rules i else [] := by
    intro i hi
    have hlt : i < h.size := List.mem_range.1 (List.mem_filter.1 hi).1
    by_cases heq : i = id
    · rw [heq, beq_self_eq_true, if_pos rfl, List.filter_eq_self]
      intro m hm
      exact decide_eq_true ((hl.node_eq hc (lt_size_of_classes hc) hm).2 rfl)
    · rw [beq_eq_false_iff_ne.2 heq, if_neg Bool.false_ne_true, List.filter_eq_nil_iff]
      intro m hm hname
      exact heq ((hl.node_eq hc hlt hm).1 (of_decide_eq_true hname))
  have hnodup : (h.subjects s).Nodup := List.nodup_range.filter _
  rw [matchAll, ← Match.isSortOrder_le.sort_filter, List.filter_flatMap, List.flatMap_congr hnode,
    ← flatMap_filter, List.filter_beq]
  by_cases hsubject : s.isSubject c
  · rw [List.count_eq_one_of_mem hnodup ((mem_subjects_iff hc).2 hsubject), if_pos hsubject]
    simp
  · rw [List.count_eq_zero_of_not_mem (mt (mem_subjects_iff hc).1 hsubject), if_neg hsubject]
    simp

lemma IsLinked.enclosing_of_mem_matchAll (hl : h.IsLinked) (hc : h.classes[id]? = some c)
    (hm : m ∈ h.matchAll rules s) (hname : m.className = c.name) :
    m.enclosing = h.enclosingName id := by
  obtain ⟨i, d, hd, -, hm⟩ := mem_matchAll_iff.1 hm
  obtain rfl := (hl.node_eq hc (lt_size_of_classes hd) hm).1 hname
  obtain ⟨r, -, hmr⟩ := List.mem_filterMap.1 hm
  exact (of_matchRule_eq_some hmr).2.2.2.2

end Hierarchy

namespace Match

/-- The order of matches is one of what they say. -/
lemma map_finding_sort (ms : List Match) :
    (ms.mergeSort le).map finding = (ms.map finding).mergeSort fun x y =>
      (((compare x.2.1 y.2.1).then (compare x.2.2.2.1 y.2.2.2.1)).then
        ((compare x.1 y.1).then (compare x.2.2.1 y.2.2.1))).isLE :=
  List.map_mergeSort fun _ _ _ _ => rfl

end Match

namespace HasBystanders

open Hierarchy

variable {cs cs' : List Class} {r r' : Registry} {id id' : ℕ} (hcs : HasBystanders cs cs')

include hcs

/-- Nodes of one name have the same class if it is an old one. -/
lemma sameClass_iff {a a' : ℕ} (ha : a < (link cs r).size) (ha' : a' < (link cs' r').size) :
    SameClass (link cs r) (link cs' r') a a' ↔ (link cs r).name a = (link cs' r').name a' := by
  refine ⟨SameClass.name_eq, fun hname => ?_⟩
  obtain ⟨c, hc⟩ := exists_class_of_lt ha
  obtain ⟨c', hc'⟩ := exists_class_of_lt ha'
  have hmem : c ∈ (link cs' r').classes := by
    rw [classes_link] at hc ⊢
    exact (hcs.mem_survivors_iff.1 (List.mem_of_getElem? hc)).1
  rw [name_of_classes hc, name_of_classes hc'] at hname
  obtain rfl := (isLinked_link cs' r').eq_of_mem_of_name hc' hmem hname
  exact ⟨c, hc, hc'⟩

/-- What is noted of the outermost class is the same if and only if the search stops at the same
class. -/
lemma enclosingName_eq_iff (hid : SameClass (link cs r) (link cs' r') id id') :
    (link cs r).enclosingName id = (link cs' r').enclosingName id' ↔
      SameClass (link cs r) (link cs' r') ((link cs r).topLevel id)
        ((link cs' r').topLevel id') := by
  have htop := topLevel_link_lt_size hid.lt_size
  have htop' := topLevel_link_lt_size hid.lt_size'
  rw [hcs.sameClass_iff htop htop', (isLinked_link cs r).enclosingName_eq hid.lt_size htop,
    (isLinked_link cs' r').enclosingName_eq hid.lt_size' htop', hid.name_eq]
  by_cases hself : (link cs r).name ((link cs r).topLevel id) = (link cs' r').name id'
  · by_cases hself' : (link cs' r').name ((link cs' r').topLevel id') = (link cs' r').name id'
    · simp [hself, hself']
    · simp [hself, hself', Ne.symm hself']
  · by_cases hself' : (link cs' r').name ((link cs' r').topLevel id') = (link cs' r').name id'
    · simp [hself, hself']
    · simp [hself, hself']

/-- From an old class on, the old classes and all classes agree. -/
lemma agreeFrom {c : Class} (hc : c ∈ (link cs r).classes) :
    AgreeFrom {d | d ∈ (link cs r).classes} {d | d ∈ (link cs' r').classes} c.name := by
  refine .of_mem_iff fun d n hway => ?_
  have hsurvives : d ∈ survivors cs ↔ d ∈ survivors cs' ∧ d.name ∈ cs.map (·.name) :=
    hcs.mem_survivors_iff
  simp only [classes_link, Set.mem_ofPred_eq] at hc hway ⊢
  refine ⟨fun hd => (hsurvives.1 hd).1, fun hd => hsurvives.2 ⟨hd, ?_⟩⟩
  cases n with
  | zero =>
    have hname : c.name = d.name := by
      generalize d.name = x at hway
      cases hway
      rfl
    exact List.mem_map.2 ⟨c, mem_of_mem_survivors hc, hname⟩
  | succ n =>
    -- the last link of the way is one of an old class
    obtain ⟨b, -, e, he, -, hnames⟩ := hway.exists_last
    exact hcs.mem_of_names e (mem_of_mem_survivors he) d (mem_of_mem_survivors hd) hnames

end HasBystanders

namespace Hierarchy

/-- **Bystanders.**  Classes that have new names, and that no class names as a supertype or as the
class that it is nested in, are added to others.  Then the matches of each of the others say the
same as before.  They name the same outermost class if the chain of enclosing classes ends; if it
runs into a circle, they do so if and only if the number of classes that are added is a multiple of
the length of the circle. -/
theorem enclosing_eq_of_hasBystanders {cs cs' : List Class} {known : Registry} {h h' : Hierarchy}
    (hcs : HasBystanders cs cs') (hb : build cs known = .ok h) (hb' : build cs' known = .ok h')
    {id : ℕ} {c : Class} (hc : h.classes[id]? = some c) (rules : List Rule) (s : Settings) :
    c ∈ h'.classes ∧
    ((h.matchAll rules s).filter fun m => m.className = c.name).map Match.finding =
      ((h'.matchAll rules s).filter fun m => m.className = c.name).map Match.finding ∧
    ∀ m ∈ h.matchAll rules s, ∀ m' ∈ h'.matchAll rules s,
      m.className = c.name → m'.className = c.name →
      (∃ n e, h.outward n id = some e ∧ h.enclosing e = none ∧ m.enclosing = m'.enclosing) ∨
      ∃ n a p, h.outward n id = some a ∧ IsLeast {p | 0 < p ∧ h.outward p a = some a} p ∧
        (m.enclosing = m'.enclosing ↔ h.size ≡ h'.size [MOD p]) := by
  have hl := isLinked_of_build_eq_ok hb
  have hl' := isLinked_of_build_eq_ok hb'
  have hlink := (build_eq_ok_iff.1 hb).1
  have hlink' := (build_eq_ok_iff.1 hb').1
  have hmem : c ∈ h'.classes := by
    rw [hlink, classes_link] at hc
    rw [hlink', classes_link]
    exact (hcs.mem_survivors_iff.1 (List.mem_of_getElem? hc)).1
  obtain ⟨id', hc'⟩ := exists_classes_of_mem hmem
  refine ⟨hmem, ?_, ?_⟩
  · have hagree : AgreeFrom {d | d ∈ h.classes} {d | d ∈ h'.classes} c.name := by
      rw [hlink, hlink']
      exact hcs.agreeFrom (hlink ▸ List.mem_of_getElem? hc)
    rw [hl.filter_className_matchAll hc, hl'.filter_className_matchAll hc']
    by_cases hsubject : s.isSubject c
    · rw [if_pos hsubject, if_pos hsubject, Match.map_finding_sort, Match.map_finding_sort,
        map_finding_matchNode hb hb' hc hc' rfl hagree rules]
    · rw [if_neg hsubject, if_neg hsubject]
  · intro m hm m' hm' hname hname'
    rw [hl.enclosing_of_mem_matchAll hc hm hname, hl'.enclosing_of_mem_matchAll hc' hm' hname']
    have hsame : SameClass h h' id id' := ⟨c, hc, hc'⟩
    subst hlink hlink'
    rw [hcs.enclosingName_eq_iff hsame]
    rcases (isOutermost_topLevel (fun _ _ => enclosing_lt_size) hsame.lt_size).ends_or_returns with
      ⟨n, e, he, hend⟩ | ⟨n, a, p, ha, hback⟩
    · exact Or.inl ⟨n, e, he, hend, hcs.same_topLevel_of_ends hsame he hend⟩
    · classical
      have hex : ∃ p, 0 < p ∧ (link cs known).outward p a = some a := ⟨p + 1, Nat.succ_pos p, hback⟩
      have hleast : IsLeast {p | 0 < p ∧ (link cs known).outward p a = some a} (Nat.find hex) :=
        ⟨Nat.find_spec hex, fun q hq => Nat.find_min' hex hq⟩
      exact Or.inr ⟨n, a, Nat.find hex, ha, hleast, hcs.same_topLevel_iff hsame ha hleast⟩

/-- Two classes that are said to enclose each other. -/
def eachOther : List Class :=
  [{ name := "x.A", enclosing := some "x.B" }, { name := "x.B", enclosing := some "x.A" }]

/-- A rule for the first of them. -/
def ruleForFirst : List Rule :=
  [{ id := "a", target := "x.A", capability := .entryPoint }]

/-- The two classes and one that has nothing to do with them. -/
def eachOtherAndOne : List Class := eachOther ++ [{ name := "x.C" }]

/-- The two classes and two that have nothing to do with them. -/
def eachOtherAndTwo : List Class := eachOther ++ [{ name := "x.C" }, { name := "x.D" }]

section EachOther

variable {cs : List Class} (hsorted : cs.Pairwise fun a b => a.name < b.name)
  (hfirst : cs[0]? = some eachOther[0]) (hsecond : cs[1]? = some eachOther[1])

include hsorted hfirst

lemma classes_of_first :
    (link cs .empty).classes[0]? = some eachOther[0] := by
  rw [classes_link, survivors_eq_self hsorted, hfirst]

/-- The first of the two classes has a match, whatever the other classes are. -/
lemma exists_match_of_first :
    ∃ m ∈ (link cs .empty).matchAll ruleForFirst {},
      m.className = "x.A" ∧ m.enclosing = (link cs .empty).enclosingName 0 := by
  have hl := isLinked_link cs .empty
  have h0 := classes_of_first hsorted hfirst
  have hrule : { id := "a", target := "x.A", capability := .entryPoint } ∈ ruleForFirst :=
    List.mem_singleton.2 rfl
  obtain ⟨m, hm, hdescribes⟩ :=
    hl.exists_mem_matchAll (s := {}) (List.mem_of_getElem? h0) (by decide) hrule (.refl "x.A")
  exact ⟨m, hm, hdescribes.className_eq, hl.enclosing_of_mem_matchAll h0 hm hdescribes.className_eq⟩

include hsecond

lemma enclosing_eachOther : (link cs .empty).enclosing 0 = some 1 ∧
    (link cs .empty).enclosing 1 = some 0 := by
  have h0 := classes_of_first hsorted hfirst
  have h1 : (link cs .empty).classes[1]? = some eachOther[1] := by
    rw [classes_link, survivors_eq_self hsorted, hsecond]
  exact ⟨(enclosing_eq_some_iff h1 h0).2 (by decide), (enclosing_eq_some_iff h0 h1).2 (by decide)⟩

end EachOther

lemma build_of_not_names {cs : List Class} (hsorted : cs.Pairwise fun a b => a.name < b.name)
    (hnames : ∀ c ∈ cs, ∀ d ∈ cs, ¬c.Names d.name) :
    build cs .empty = .ok (link cs .empty) ∧ (link cs .empty).size = cs.length := by
  obtain ⟨hb, hclasses⟩ := build_eq_ok_of_pairwise hsorted (not_hasCircle_of_not_names hnames)
  exact ⟨hb, by rw [← length_classes, hclasses]⟩

/-- With one class more the search for an outermost class stops at the other class of a circle. -/
theorem enclosing_ne_eachOther :
    HasBystanders eachOther eachOtherAndOne ∧
      ∃ h h', build eachOther .empty = .ok h ∧ build eachOtherAndOne .empty = .ok h' ∧
        ∃ m ∈ h.matchAll ruleForFirst {}, ∃ m' ∈ h'.matchAll ruleForFirst {},
          m.className = "x.A" ∧ m'.className = "x.A" ∧
            m.enclosing = some "x.B" ∧ m'.enclosing = none := by
  have hsorted : eachOther.Pairwise fun a b => a.name < b.name := by decide
  have hsorted' : eachOtherAndOne.Pairwise fun a b => a.name < b.name := by decide
  obtain ⟨hb, hsize⟩ := build_of_not_names hsorted (by simp [eachOther, Class.Names, objectClass])
  obtain ⟨hb', hsize'⟩ := build_of_not_names hsorted'
    (by simp [eachOtherAndOne, eachOther, Class.Names, objectClass])
  obtain ⟨h01, h10⟩ := enclosing_eachOther hsorted rfl rfl
  obtain ⟨h01', h10'⟩ := enclosing_eachOther hsorted' rfl rfl
  obtain ⟨m, hm, hname, henclosing⟩ := exists_match_of_first hsorted rfl
  obtain ⟨m', hm', hname', henclosing'⟩ := exists_match_of_first hsorted' rfl
  -- three links lead from the first class to the second one, and four lead back to the first one
  have htop : (link eachOther .empty).topLevel 0 = 1 := by
    rw [topLevel, hsize]
    show (link eachOther .empty).outer 3 0 = 1
    simp [outer, h01, h10]
  have htop' : (link eachOtherAndOne .empty).topLevel 0 = 0 := by
    rw [topLevel, hsize']
    show (link eachOtherAndOne .empty).outer 4 0 = 0
    simp [outer, h01', h10']
  refine ⟨.of_append (by simp [eachOther, Class.Names, objectClass]), _, _, hb, hb', m, hm, m', hm',
    hname, hname', ?_, ?_⟩
  · have h1 : (link eachOther .empty).classes[1]? = some eachOther[1] := by
      rw [classes_link, survivors_eq_self hsorted]
      rfl
    rw [henclosing, enclosingName, htop, if_neg Nat.one_ne_zero, name_of_classes h1]
    rfl
  · rw [henclosing', enclosingName, htop', if_pos rfl]

/-- With two classes more it stops at the same class. -/
theorem enclosing_eq_of_hasBystanders_eachOther :
    HasBystanders eachOther eachOtherAndTwo ∧
      ∃ h h', build eachOther .empty = .ok h ∧ build eachOtherAndTwo .empty = .ok h' ∧
        h.classes[0]? = some eachOther[0] ∧
        ∃ m ∈ h.matchAll ruleForFirst {}, ∃ m' ∈ h'.matchAll ruleForFirst {},
          m.className = "x.A" ∧ m'.className = "x.A" ∧ m.enclosing = m'.enclosing := by
  have hcs : HasBystanders eachOther eachOtherAndTwo :=
    .of_append (by simp [eachOther, Class.Names, objectClass])
  have hsorted : eachOther.Pairwise fun a b => a.name < b.name := by decide
  have hsorted' : eachOtherAndTwo.Pairwise fun a b => a.name < b.name := by decide
  obtain ⟨hb, hsize⟩ := build_of_not_names hsorted (by simp [eachOther, Class.Names, objectClass])
  obtain ⟨hb', hsize'⟩ := build_of_not_names hsorted'
    (by simp [eachOtherAndTwo, eachOther, Class.Names, objectClass])
  have h0 := classes_of_first hsorted rfl
  obtain ⟨h01, h10⟩ := enclosing_eachOther hsorted rfl rfl
  obtain ⟨m, hm, hname, -⟩ := exists_match_of_first hsorted rfl
  obtain ⟨m', hm', hname', -⟩ := exists_match_of_first hsorted' rfl
  refine ⟨hcs, _, _, hb, hb', h0, m, hm, m', hm', hname, hname', ?_⟩
  obtain ⟨-, -, hall⟩ := enclosing_eq_of_hasBystanders hcs hb hb' h0 ruleForFirst {}
  rcases hall m hm m' hm' hname hname' with ⟨n, e, -, -, heq⟩ | ⟨n, a, p, ha, hp, hiff⟩
  · exact heq
  · -- the circle has two classes, and so many are added
    have hlt := lt_size_of_outward (fun _ _ => enclosing_lt_size) (lt_size_of_classes h0) ha
    have hround : (link eachOther .empty).outward 2 a = some a := by
      obtain rfl | rfl : a = 0 ∨ a = 1 := by
        rw [hsize] at hlt
        exact Nat.le_one_iff_eq_zero_or_eq_one.1 (Nat.le_of_lt_succ hlt)
      · rw [outward_succ_of_enclosing h01, outward_succ_of_enclosing h10]
        rfl
      · rw [outward_succ_of_enclosing h10, outward_succ_of_enclosing h01]
        rfl
    have hle : p ≤ 2 := hp.2 ⟨by decide, hround⟩
    have hpos := hp.1.1
    refine hiff.2 ?_
    rw [hsize, hsize']
    obtain rfl | rfl : p = 1 ∨ p = 2 := by omega
    · decide
    · decide

end Hierarchy

end PluginFacts
