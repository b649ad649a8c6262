/-
# Known types change no result

Which types are known outside the analysed classes is noted in the supertypes of a hierarchy, and
nothing that follows reads the note: a hierarchy has the same circle and the same matches without it
(`cycle?_unmarked`, `matchAll_unmarked`).  As classes are linked in the same way whatever is known,
neither the types that a rule table lists nor those that the settings list have a part in what a run
results in.
-/
import PluginFacts.Analysis
import PluginFacts.Proofs.Match.Outline

namespace PluginFacts

/-- The node without regard to which of its supertypes are known. -/
def Node.unmarked (n : Node) : Node :=
  { n with
    parent := n.parent.map TypeRef.unmarked
    interfaces := n.interfaces.map TypeRef.unmarked }

@[simp] lemma TypeRef.unmarked_unmarked (t : TypeRef) : t.unmarked.unmarked = t.unmarked := by
  cases t <;> rfl

@[simp] lemma Node.outline_unmarked (n : Node) : n.unmarked.outline = n.outline := by
  cases hp : n.parent <;> simp [outline, unmarked, supertypes, hp]

namespace Hierarchy

/-- The hierarchy without regard to which types outside it are known. -/
def unmarked (h : Hierarchy) : Hierarchy :=
  ⟨h.nodes.map Node.unmarked⟩

variable {h h' : Hierarchy}

lemma outline_unmarked (h : Hierarchy) : h.unmarked.outline = h.outline := by
  simp [outline, unmarked, Function.comp_def]

theorem cycle?_unmarked (h : Hierarchy) : h.unmarked.cycle? = h.cycle? :=
  cycle?_congr (outline_unmarked h)

lemma name_unmarked (h : Hierarchy) : h.unmarked.name = h.name :=
  name_congr (outline_unmarked h)

lemma subjects_unmarked (h : Hierarchy) (s : Settings) : h.unmarked.subjects s = h.subjects s := by
  have hsubject (id : ℕ) : (h.unmarked.nodes[id]?).any (fun n => s.isSubject n.declared) =
      (h.nodes[id]?).any fun n => s.isSubject n.declared := by
    cases hn : h.nodes[id]? <;> simp [unmarked, Node.unmarked, hn]
  simp only [subjects, size_congr (outline_unmarked h), hsubject]

lemma enclosingName_unmarked (h : Hierarchy) : h.unmarked.enclosingName = h.enclosingName := by
  have henclosing : h.unmarked.enclosing = h.enclosing := by
    funext id
    cases hn : h.nodes[id]? <;> simp [enclosing, unmarked, Node.unmarked, hn]
  have houter (hops id : ℕ) : h.unmarked.outer hops id = h.outer hops id := by
    induction hops generalizing id with
    | zero => rfl
    | succ hops ih =>
      rw [outer, outer, henclosing]
      cases h.enclosing id with
      | none => rfl
      | some id => exact ih id
  funext id
  rw [enclosingName, enclosingName, topLevel, topLevel, houter, size_congr (outline_unmarked h),
    name_unmarked]

theorem matchAll_unmarked (h : Hierarchy) (rules : List Rule) (s : Settings) :
    h.unmarked.matchAll rules s = h.matchAll rules s :=
  matchAll_congr (outline_unmarked h) rules (subjects_unmarked h s) (enclosingName_unmarked h)

/-- Classes are linked in the same way whatever is known. -/
lemma unmarked_link (cs : List Class) (r r' : Registry) :
    (link cs r).unmarked = (link cs r').unmarked := by
  have hresolve (names : Array String) (r : Registry) (a : String) :
      (resolve names r a).unmarked = resolve names .empty a := by
    rw [resolve, resolve]
    cases names.findIdx? (· == a) <;> rfl
  have hnode (names : Array String) (r : Registry) (c : Class) (id : ℕ) :
      (node names r c id).unmarked = node names .empty c id := by
    simp [node, Node.unmarked, Function.comp_def, hresolve]
  have hlink (r : Registry) : (link cs r).unmarked = link cs .empty := by
    rw [link, link, unmarked, List.map_toArray]
    congr 2
    refine List.ext_getElem? ?_
    intro id
    simp [hnode, Function.comp_def]
  rw [hlink, hlink]

/-- Classes are refused or linked whatever is known: refused for the same circle, or linked to
hierarchies that have the same matches. -/
lemma build_agree (cs : List Class) (r r' : Registry) :
    (∃ failure, build cs r = .error failure ∧ build cs r' = .error failure) ∨
      ∃ h h', build cs r = .ok h ∧ build cs r' = .ok h' ∧ h.unmarked = h'.unmarked ∧
        ∀ rules s, h.matchAll rules s = h'.matchAll rules s := by
  have hlink := unmarked_link cs r r'
  have hcycle : (link cs r).cycle? = (link cs r').cycle? := by
    rw [← cycle?_unmarked, hlink, cycle?_unmarked]
  have hname : (link cs r).name = (link cs r').name := by
    rw [← name_unmarked, hlink, name_unmarked]
  simp only [build, hcycle, hname]
  cases (link cs r').cycle? with
  | some cycle => exact Or.inl ⟨_, rfl, rfl⟩
  | none =>
    refine Or.inr ⟨_, _, rfl, rfl, hlink, ?_⟩
    intro rules s
    rw [← matchAll_unmarked, hlink, matchAll_unmarked]

end Hierarchy

namespace Analysis

/-- **Known types change no result.**  A run has the same outcome and the same reports whatever
types the rule table and the settings list.  For any classes and any known types, the classes are
refused for the same failure, or they are linked in the same way, except for the note of what is
known, and have the same matches. -/
theorem run_eq_of_knownTypes :
    (∀ (module : String) (inputs : List ClassInput) (rules : List Rule) (s : Settings)
      (known known' listed listed' : List String),
        run module inputs ⟨rules, known⟩ { s with externalTypes := listed } =
          run module inputs ⟨rules, known'⟩ { s with externalTypes := listed' }) ∧
    ∀ (cs : List Class) (r r' : Registry),
      (∃ failure, Hierarchy.build cs r = .error failure ∧ Hierarchy.build cs r' = .error failure) ∨
        ∃ h h', Hierarchy.build cs r = .ok h ∧ Hierarchy.build cs r' = .ok h' ∧
          h.unmarked = h'.unmarked ∧ ∀ rules s, h.matchAll rules s = h'.matchAll rules s := by
  refine ⟨?_, Hierarchy.build_agree⟩
  intro module inputs rules s known known' listed listed'
  cases hs : s.fault? with
  | some fault =>
    have hfault (names : List String) : { s with externalTypes := names }.fault? = some fault := hs
    rw [run, run, hfault, hfault]
  | none =>
    have hfault (names : List String) : { s with externalTypes := names }.fault? = none := hs
    rw [run, run, hfault, hfault, ofBatch, ofBatch]
    rcases Hierarchy.build_agree (Batch.ofInputs inputs).classes
      (Registry.forRun ⟨rules, known⟩ { s with externalTypes := listed })
      (Registry.forRun ⟨rules, known'⟩ { s with externalTypes := listed' }) with
        ⟨failure, hb, hb'⟩ | ⟨h, h', hb, hb', -, hmatches⟩
    · rw [hb, hb']
    · -- of the settings, those that decide on the matches and the verdict are the same
      have hms : h.matchAll rules { s with externalTypes := listed } =
          h'.matchAll rules { s with externalTypes := listed' } := hmatches rules s
      simp only [hb, hb', hms]
      rfl

end Analysis

end PluginFacts
