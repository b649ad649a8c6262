/-
# Nesting is for reports alone

Which class encloses which is noted next to what the classes inherit, and matches and warnings pass
the note on.  `unnested` drops it, from a class, a node, a match, a warning and what is made of
them.  Every stage of a run makes of things without the note what it makes of the things themselves,
without the note:

* `Hierarchy.unnested_link`: the classes are linked to the same hierarchy;
* `Hierarchy.unnested_matchAll`: the hierarchy has the same matches, unless nested classes
  are passed over;
* `Verdict.unnested_ofMatches` and `Verdict.manifest_unnested`: the matches amount to the same
  verdict, and the verdict gives the same manifest.

So it makes no difference to a run what the classes say about nesting, and they may even be said to
enclose one another.
-/
import PluginFacts.Manifest
import PluginFacts.Proofs.Hierarchy.Circle
import PluginFacts.Proofs.Match.Outline

namespace PluginFacts

/-! ## Dropping the note -/

/-- The class without the class that it is nested in. -/
def Class.unnested (c : Class) : Class :=
  { c with enclosing := none }

/-- The node without what encloses it. -/
def Node.unnested (n : Node) : Node :=
  { n with declared := n.declared.unnested, enclosing := none }

/-- The hierarchy without what encloses what. -/
def Hierarchy.unnested (h : Hierarchy) : Hierarchy :=
  ⟨h.nodes.map Node.unnested⟩

/-- The match without the class around its class. -/
def Match.unnested (m : Match) : Match :=
  { m with enclosing := none }

/-- The warning without the class around its class. -/
def Warning.unnested (w : Warning) : Warning :=
  { w with enclosing := none }

/-- The violation without the class around its class. -/
def Violation.unnested : Violation → Violation
  | warning w => warning w.unnested
  | fatal role failure => fatal role failure

/-- The verdict without what encloses the classes of its facts and warnings. -/
def Verdict.unnested (v : Verdict) : Verdict :=
  { v with facts := v.facts.map Match.unnested, warnings := v.warnings.map Warning.unnested }

namespace Match

lemma map_unnested_sort (ms : List Match) :
    (ms.mergeSort le).map unnested = (ms.map unnested).mergeSort le :=
  List.map_mergeSort fun _ _ _ _ => rfl

lemma map_unnested_firsts (ms : List Match) :
    (firsts ms).map unnested = firsts (ms.map unnested) := by
  have hclaim (a b : Match) : sameClaim a.unnested b.unnested = sameClaim a b := rfl
  rw [firsts, map_firstOfEach hclaim, firsts]

end Match

/-! ## Hierarchies -/

/-- The same classes count. -/
lemma map_unnested_survivors (cs : List Class) :
    (survivors cs).map Class.unnested = survivors (cs.map Class.unnested) := by
  have hsort : (cs.mergeSort Class.le).map Class.unnested =
      (cs.map Class.unnested).mergeSort Class.le :=
    List.map_mergeSort fun _ _ _ _ => rfl
  have hname (a b : Class) : Class.namesake a.unnested b.unnested = Class.namesake a b := rfl
  rw [survivors_eq, survivors_eq, ← hsort, map_firstOfEach hname]

namespace Hierarchy

variable {h h' : Hierarchy} {cs cs' : List Class}

/-- Classes are linked in the same way. -/
theorem unnested_link (cs : List Class) (r : Registry) :
    (link cs r).unnested = link (cs.map Class.unnested) r := by
  have hnode (names : Array String) (c : Class) (id : ℕ) :
      (node names r c id).unnested = node names r c.unnested id := rfl
  have hnames : (survivors cs).map (·.name) =
      (survivors (cs.map Class.unnested)).map (·.name) := by
    rw [← map_unnested_survivors, List.map_map]
    rfl
  rw [link_eq, link_eq, ← hnames, ← map_unnested_survivors, unnested, List.map_toArray]
  congr 2
  refine List.ext_getElem? ?_
  intro id
  simp [hnode, Function.comp_def]

lemma outline_unnested (h : Hierarchy) : h.unnested.outline = h.outline := by
  have houtline (n : Node) : n.unnested.outline = n.outline := rfl
  simp [outline, unnested, houtline, Function.comp_def]

/-! ## Matches -/

lemma enclosingName_unnested (h : Hierarchy) (id : ℕ) : h.unnested.enclosingName id = none := by
  have henclosing (id : ℕ) : h.unnested.enclosing id = none := by
    cases hn : h.nodes[id]? <;> simp [enclosing, unnested, Node.unnested, hn]
  have hlevel : h.unnested.topLevel id = id := by
    rw [topLevel, outer, henclosing]
  rw [enclosingName, if_pos hlevel]

/-- The same classes may have capabilities, unless nested ones are passed over. -/
lemma subjects_unnested (h : Hierarchy) {s : Settings} (hs : s.skipNested = false) :
    h.unnested.subjects s = h.subjects s := by
  have hsubject (c : Class) : s.isSubject c.unnested = s.isSubject c := by
    simp only [Settings.isSubject, hs, Bool.false_and]
    rfl
  have hnode (id : ℕ) : (h.unnested.nodes[id]?).any (fun n => s.isSubject n.declared) =
      (h.nodes[id]?).any fun n => s.isSubject n.declared := by
    cases hn : h.nodes[id]? <;> simp [unnested, Node.unnested, hn, hsubject]
  simp only [subjects, size_congr (outline_unnested h), hnode]

lemma unnested_matchRule (h : Hierarchy) (id : ℕ) (reached : List Ancestor) (r : Rule) :
    (h.matchRule id reached r).map Match.unnested = h.unnested.matchRule id reached r := by
  rw [matchRule, matchRule, enclosingName_unnested, name_congr (outline_unnested h),
    shape_congr (outline_unnested h)]
  cases reached.find? (·.name == r.target) <;> rfl

lemma unnested_matchNode (h : Hierarchy) (rules : List Rule) (id : ℕ) :
    (h.matchNode rules id).map Match.unnested = h.unnested.matchNode rules id := by
  rw [matchNode, matchNode, List.map_filterMap, ancestry_congr (outline_unnested h)]
  simp only [unnested_matchRule]

/-- The same matches are found. -/
theorem unnested_matchAll (h : Hierarchy) (rules : List Rule) {s : Settings}
    (hs : s.skipNested = false) :
    (h.matchAll rules s).map Match.unnested = h.unnested.matchAll rules s := by
  rw [matchAll, matchAll, Match.map_unnested_sort, List.map_flatMap, subjects_unnested h hs]
  simp only [unnested_matchNode]

end Hierarchy

/-! ## Verdicts -/

namespace Verdict

variable {ms : List Match}

lemma map_unnested_bestFacts (ms : List Match) :
    (bestFacts ms).map Match.unnested = bestFacts (ms.map Match.unnested) := by
  rw [bestFacts, Match.map_unnested_firsts, bestFacts, ← Match.map_unnested_sort, List.filter_map]
  rfl

lemma map_unnested_lacking (ms : List Match) :
    (lacking ms).map Match.unnested = lacking (ms.map Match.unnested) := by
  rw [lacking, Match.map_unnested_firsts, lacking, ← Match.map_unnested_sort, List.filter_map]
  simp only [List.any_map]
  rfl

lemma ofCapability_unnested (facts : List Match) (k : Capability) :
    ofCapability (facts.map Match.unnested) k = (ofCapability facts k).map Match.unnested :=
  List.filter_map

lemma rivalry?_unnested (facts : List Match) (pins : Pins) :
    rivalry? (facts.map Match.unnested) pins = rivalry? facts pins := by
  funext role
  rw [rivalry?, ofCapability_unnested, List.map_map, rivalry?]
  rfl

lemma vacancy?_unnested (module : String) (facts : List Match) (s : Settings) :
    vacancy? module (facts.map Match.unnested) s = vacancy? module facts s := by
  rw [vacancy?, ofCapability_unnested, List.isEmpty_map, vacancy?]

/-- The matches amount to the same verdict. -/
theorem unnested_ofMatches (ms : List Match) (module : String) (s : Settings) :
    (ofMatches ms module s).unnested = ofMatches (ms.map Match.unnested) module s := by
  have hsort (ws : List Warning) :
      (ws.mergeSort Warning.le).map Warning.unnested =
        (ws.map Warning.unnested).mergeSort Warning.le :=
    List.map_mergeSort fun _ _ _ _ => rfl
  have hwarnings : (((lacking ms).map Match.toWarning).mergeSort Warning.le).map Warning.unnested =
      ((lacking (ms.map Match.unnested)).map Match.toWarning).mergeSort Warning.le := by
    rw [hsort, ← map_unnested_lacking, List.map_map, List.map_map]
    rfl
  simp only [ofMatches, unnested, hwarnings, ← map_unnested_bestFacts, rivalry?_unnested,
    vacancy?_unnested]

/-- The verdict gives the same manifest. -/
theorem manifest_unnested (v : Verdict) : v.unnested.manifest = v.manifest := by
  have hfacts (k : Capability) : v.unnested.factsOf k = (v.factsOf k).map Match.unnested :=
    ofCapability_unnested v.facts k
  have hholder (role : Role) : v.unnested.holder role = v.holder role := by
    rw [holder, holder, hfacts, List.head?_map, Option.map_map]
    rfl
  have hlisted (k : Capability) : v.unnested.listed k = v.listed k := by
    have hsort : ((v.factsOf k).mergeSort Match.listedLe).map Match.unnested =
        ((v.factsOf k).map Match.unnested).mergeSort Match.listedLe :=
      List.map_mergeSort fun _ _ _ _ => rfl
    rw [listed, listed, hfacts, ← hsort, List.map_map]
    rfl
  simp only [manifest, hholder, hlisted]
  rfl

lemma violations_unnested (v : Verdict) :
    v.unnested.violations = v.violations.map Violation.unnested := by
  simp [violations, unnested, Violation.unnested, Function.comp_def]

end Verdict

/-! ## What classes say about nesting -/

namespace Hierarchy

variable {cs cs' : List Class}

/-- Classes that differ in what encloses them alone are refused for the same circle, or they are
linked to hierarchies that differ in that alone. -/
lemma build_unnested (hcs : cs.map Class.unnested = cs'.map Class.unnested) (r : Registry) :
    (∃ failure, build cs r = .error failure ∧ build cs' r = .error failure) ∨
      ∃ h h', build cs r = .ok h ∧ build cs' r = .ok h' ∧ h.unnested = h'.unnested := by
  have hlink : (link cs r).unnested = (link cs' r).unnested := by
    rw [unnested_link, hcs, ← unnested_link]
  have houtline : (link cs r).outline = (link cs' r).outline := by
    rw [← outline_unnested, hlink, outline_unnested]
  simp only [build, cycle?_congr houtline, name_congr houtline]
  cases (link cs' r).cycle? with
  | some cycle => exact Or.inl ⟨_, rfl, rfl⟩
  | none => exact Or.inr ⟨_, _, rfl, rfl, hlink⟩

end Hierarchy

namespace Verdict

open Hierarchy

/-- **Nesting is for reports alone.**  Take classes twice, and let them differ in what they say
encloses them, and in nothing else.  They are refused for the same failure, or they are linked to
hierarchies that differ in what encloses what.  If nested classes are not passed over, the matches
and the violations then differ in what encloses their classes at most, and the manifest or the
failure is the same. -/
theorem manifest_eq_of_unnested_eq {cs cs' : List Class}
    (hcs : cs.map Class.unnested = cs'.map Class.unnested) (r : Registry) (rules : List Rule)
    (module : String) {s : Settings} (hs : s.skipNested = false) :
    (∃ failure, build cs r = .error failure ∧ build cs' r = .error failure) ∨
      ∃ h h', build cs r = .ok h ∧ build cs' r = .ok h' ∧ h.unnested = h'.unnested ∧
        (h.matchAll rules s).map Match.unnested = (h'.matchAll rules s).map Match.unnested ∧
        (ofMatches (h.matchAll rules s) module s).violations.map Violation.unnested =
          (ofMatches (h'.matchAll rules s) module s).violations.map Violation.unnested ∧
        (ofMatches (h.matchAll rules s) module s).manifest =
          (ofMatches (h'.matchAll rules s) module s).manifest := by
  rcases build_unnested hcs r with herror | ⟨h, h', hb, hb', hh⟩
  · exact Or.inl herror
  · refine Or.inr ⟨h, h', hb, hb', hh, ?_⟩
    have hmatches : (h.matchAll rules s).map Match.unnested =
        (h'.matchAll rules s).map Match.unnested := by
      rw [unnested_matchAll h rules hs, hh, ← unnested_matchAll h' rules hs]
    have hverdict : (ofMatches (h.matchAll rules s) module s).unnested =
        (ofMatches (h'.matchAll rules s) module s).unnested := by
      rw [unnested_ofMatches, hmatches, ← unnested_ofMatches]
    refine ⟨hmatches, ?_, ?_⟩
    · rw [← violations_unnested, hverdict, violations_unnested]
    · rw [← manifest_unnested, hverdict, manifest_unnested]

/-- Two classes that implement an interface from elsewhere, nested as the names of the classes
around them say. -/
def implementors (around around' : Option String) : List Class :=
  [{ name := "x.A", interfaces := ["y.Top"], enclosing := around },
    { name := "x.B", interfaces := ["y.Top"], enclosing := around' }]

/-- Two rules for the interface, one of which asks for a member that the classes do not have. -/
def topRules : List Rule :=
  [{ id := "main", target := "y.Top", capability := .entryPoint },
    { id := "task", target := "y.Top", capability := .scheduledTask,
      members := some { name := some "run" } }]

lemma exists_build_implementors (around around' : Option String) :
    ∃ h, build (implementors around around') .empty = .ok h := by
  have hlt : "x.A" < "x.B" := by decide
  refine ⟨_, (build_eq_ok_of_pairwise (List.pairwise_pair.2 hlt) ?_).1⟩
  exact not_hasCircle_of_not_names (by simp [Class.Names, objectClass])

/-- Two classes that are not nested, and the same classes each around the other. -/
theorem manifest_eq_of_unnested_eq_implementors :
    (implementors none none).map Class.unnested =
        (implementors (some "x.B") (some "x.A")).map Class.unnested ∧
      ({} : Settings).skipNested = false ∧
      ∃ h h', build (implementors none none) .empty = .ok h ∧
        build (implementors (some "x.B") (some "x.A")) .empty = .ok h' ∧
        (ofMatches (h.matchAll topRules {}) "m" {}).violations.map Violation.unnested =
          (ofMatches (h'.matchAll topRules {}) "m" {}).violations.map Violation.unnested ∧
        (ofMatches (h.matchAll topRules {}) "m" {}).manifest =
          (ofMatches (h'.matchAll topRules {}) "m" {}).manifest := by
  have hcs : (implementors none none).map Class.unnested =
      (implementors (some "x.B") (some "x.A")).map Class.unnested := rfl
  have hs : ({} : Settings).skipNested = false := rfl
  refine ⟨hcs, hs, ?_⟩
  rcases manifest_eq_of_unnested_eq hcs .empty topRules "m" hs with
    ⟨failure, hb, -⟩ | ⟨h, h', hb, hb', -, -, hviolations, hmanifest⟩
  · obtain ⟨h, hok⟩ := exists_build_implementors none none
    rw [hok] at hb
    cases hb
  · exact ⟨h, h', hb, hb', hviolations, hmanifest⟩

end Verdict

end PluginFacts
