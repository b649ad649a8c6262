/-
# What a run reports

A run reports what was found in its inputs and then, unless its classes are in a circle, what it
warns about.  A class that may have capabilities is warned about if it misses a capability by some
rule and gains it by none; `Hierarchy.Warns` says which warnings these are and in which order they
come, in terms of the classes and rules alone, and leaves no choice (`Hierarchy.Warns.unique`).
Whether the run ends with a manifest or fails makes no difference to this, and what it fails for is
not among the reports.
-/
import PluginFacts.Proofs.Analysis.Outcome
import PluginFacts.Proofs.Verdict.Selection

namespace PluginFacts

/-- A class misses a capability by some rule and gains it by none. -/
def Lacks (D : Set Class) (rules : List Rule) (s : Settings) (k : Capability) (a : String) : Prop :=
  (∃ n i, Misses D rules s k a n i) ∧ ∀ n, ¬ Gains D rules s k a n

/-- The violation that a diagnostic reports, if it reports one. -/
def Diagnostic.violation? : Diagnostic → Option Violation
  | .malformed _ | .duplicate _ => none
  | .warning w => some (.warning w)

namespace Hierarchy

/-- The warnings are those that the classes of a hierarchy call for. -/
structure Warns (h : Hierarchy) (rules : List Rule) (s : Settings) (ws : List Warning) : Prop where
  /-- The warnings come in order of classes and then of capabilities, one for each. -/
  pairwise : ws.Pairwise Warning.Precedes
  /-- There is a warning about each class that lacks a capability, and about no other. -/
  exists_iff : ∀ k a, (∃ w ∈ ws, w.capability = k ∧ w.className = a) ↔
    Lacks {d | d ∈ h.classes} rules s k a
  /-- The warning names the rule by which the class misses the capability at the least depth, and of
  several such rules the one that comes first. -/
  rule_least : ∀ w ∈ ws, ∃ n, Misses {d | d ∈ h.classes} rules s w.capability w.className n w.rule ∧
    ∀ n' i, Misses {d | d ∈ h.classes} rules s w.capability w.className n' i →
      n < n' ∨ n = n' ∧ w.rule ≤ i
  /-- The warning names the outermost class around the class, unless that is the class itself. -/
  enclosing_eq : ∀ w ∈ ws, ∀ id < h.size, h.name id = w.className →
    w.enclosing = if h.topLevel id = id then none else some (h.name (h.topLevel id))

variable {h : Hierarchy} {rules : List Rule} {s : Settings}

namespace Warns

variable {ws ws' : List Warning} {w : Warning}

/-- What is called for decides all that a warning says. -/
lemma mem_of_mem (hws : h.Warns rules s ws) (hws' : h.Warns rules s ws') (hw : w ∈ ws) :
    w ∈ ws' := by
  have hlacks := (hws.exists_iff _ _).1 ⟨w, hw, rfl, rfl⟩
  obtain ⟨w', hw', hk, hname⟩ := (hws'.exists_iff _ _).2 hlacks
  have hrule : w.rule = w'.rule := by
    obtain ⟨n, hmisses, hleast⟩ := hws.rule_least w hw
    obtain ⟨n', hmisses', hleast'⟩ := hws'.rule_least w' hw'
    rw [hk, hname] at hmisses' hleast'
    rcases hleast n' w'.rule hmisses' with hlt | ⟨rfl, hle⟩
    · rcases hleast' n w.rule hmisses with hlt' | ⟨rfl, -⟩
      · exact absurd hlt' (lt_asymm hlt)
      · exact absurd hlt (lt_irrefl _)
    · rcases hleast' n w.rule hmisses with hlt' | ⟨-, hle'⟩
      · exact absurd hlt' (lt_irrefl _)
      · exact le_antisymm hle hle'
  have henclosing : w.enclosing = w'.enclosing := by
    obtain ⟨⟨n, i, c, hc, hcname, -⟩, -⟩ := hlacks
    obtain ⟨id, hid⟩ := exists_classes_of_mem hc
    have hlt := lt_size_of_classes hid
    rw [← name_of_classes hid] at hcname
    rw [hws.enclosing_eq w hw id hlt hcname, hws'.enclosing_eq w' hw' id hlt (hname ▸ hcname)]
  have heq : w = w' := by
    cases w
    cases w'
    rw [Warning.mk.injEq]
    exact ⟨hk.symm, hname.symm, hrule, henclosing⟩
  exact heq ▸ hw'

/-- There is only one list of the warnings that are called for. -/
theorem unique (hws : h.Warns rules s ws) (hws' : h.Warns rules s ws') : ws = ws' :=
  eq_of_pairwise_of_mem_iff (fun _ _ hvw => hvw.asymm) hws.pairwise hws'.pairwise
    fun _ => ⟨hws.mem_of_mem hws', hws'.mem_of_mem hws⟩

end Warns

/-- The claims without facts are those of classes that lack a capability. -/
lemma IsLinked.fallsShort_iff (hl : h.IsLinked) {m : Match} (hm : m ∈ h.matchAll rules s) :
    Verdict.FallsShort (h.matchAll rules s) m ↔
      Lacks {d | d ∈ h.classes} rules s m.capability m.className := by
  constructor
  · intro hshort
    refine ⟨⟨m.depth, m.rule, (hl.exists_missing_iff ..).1 ⟨m, hm, hshort m hm rfl, rfl, rfl, rfl⟩⟩,
      ?_⟩
    intro n hgains
    obtain ⟨f, hf, hfact, hk, hname, -⟩ := (hl.hasFact_matchAll_iff ..).2 hgains
    exact hfact (hshort f hf (Prod.ext hk hname))
  · rintro ⟨-, hnone⟩ n hn hclaim
    obtain ⟨hk, hname⟩ := Prod.mk.inj hclaim
    by_contra hfact
    exact hnone n.depth ((hl.hasFact_matchAll_iff ..).1 ⟨n, hn, hfact, hk, hname, rfl⟩)

/-- The verdict on the matches of a hierarchy has the warnings that the classes call for. -/
theorem IsLinked.warns_ofMatches (hl : h.IsLinked) (module : String) :
    h.Warns rules s (Verdict.ofMatches (h.matchAll rules s) module s).warnings where
  pairwise := Verdict.pairwise_warnings _ module s
  exists_iff k a := by
    constructor
    · rintro ⟨w, hw, rfl, rfl⟩
      obtain ⟨m, hm, rfl, hshort, -⟩ := Verdict.exists_of_mem_warnings hw
      exact (hl.fallsShort_iff hm).1 hshort
    · intro hlacks
      obtain ⟨n, i, hmisses⟩ := hlacks.1
      obtain ⟨m, hm, -, hclaim, -⟩ := (hl.exists_missing_iff ..).2 hmisses
      obtain ⟨rfl, rfl⟩ := Prod.mk.inj hclaim
      obtain ⟨w, hw, hwm⟩ := Verdict.exists_mem_warnings hm ((hl.fallsShort_iff hm).2 hlacks)
      exact ⟨w, hw, congrArg Prod.fst hwm, congrArg Prod.snd hwm⟩
  rule_least w hw := by
    obtain ⟨m, hm, rfl, hshort, hleast⟩ := Verdict.exists_of_mem_warnings hw
    refine ⟨m.depth, (hl.exists_missing_iff ..).1 ⟨m, hm, hshort m hm rfl, rfl, rfl, rfl⟩, ?_⟩
    intro n i hmisses
    obtain ⟨m', hm', -, hclaim, rfl, rfl⟩ := (hl.exists_missing_iff ..).2 hmisses
    exact hleast m' hm' hclaim
  enclosing_eq w hw id hid hname := by
    obtain ⟨m, hm, rfl, -⟩ := Verdict.exists_of_mem_warnings hw
    obtain ⟨c, hc, -, henclosing, r, -, hdescribes⟩ := hl.exists_describes hm
    -- the class of the match has only one node
    have hnode : m.node = id := by
      refine hl.name_inj (lt_size_of_classes hc) hid ?_
      rw [name_of_classes hc, hname]
      exact hdescribes.className_eq.symm
    rw [hnode] at henclosing
    exact henclosing

end Hierarchy

/-- The reports of a batch are about inputs and not about matches. -/
lemma Batch.filterMap_violation?_diagnostics (inputs : List ClassInput) :
    (ofInputs inputs).diagnostics.filterMap Diagnostic.violation? = [] := by
  rw [List.filterMap_eq_nil_iff]
  intro d hd
  rcases List.mem_append.1 (List.mem_mergeSort.1 hd) with hd | hd
  · obtain ⟨m, -, rfl⟩ := List.mem_map.1 hd
    rfl
  · obtain ⟨m, -, rfl⟩ := List.mem_map.1 hd
    rfl

lemma filterMap_violation?_warnings (ws : List Warning) :
    (ws.map Diagnostic.warning).filterMap Diagnostic.violation? = ws.map .warning := by
  rw [List.filterMap_map]
  exact congrFun List.filterMap_eq_map ws

namespace Analysis

/-- **Reports of a run.**  With settings that are not faulty, the reports of a run are those of the
batch of its inputs, in their order.  If the classes are in no circle, the warnings that they call
for follow, in order, whether there is a manifest or not.  So of all that is wrong with the matches
just that is reported which does not make the run fail. -/
theorem run_diagnostics (module : String) (inputs : List ClassInput) (t : RuleTable) {s : Settings}
    (hs : s.fault? = none) :
    ∃ a, run module inputs t s = .ok a ∧
      (HasCircle {d | d ∈ (Batch.ofInputs inputs).classes} →
        a.diagnostics = (Batch.ofInputs inputs).diagnostics ∧
          a.diagnostics.filterMap Diagnostic.violation? = []) ∧
      (¬ HasCircle {d | d ∈ (Batch.ofInputs inputs).classes} → ∃ h ws,
        Hierarchy.build (Batch.ofInputs inputs).classes (Registry.forRun t s) = .ok h ∧
          h.classes = (Batch.ofInputs inputs).classes ∧
          a.diagnostics = (Batch.ofInputs inputs).diagnostics ++ ws.map .warning ∧
          h.Warns t.rules s ws ∧
          a.diagnostics.filterMap Diagnostic.violation? =
            (Verdict.ofMatches (h.matchAll t.rules s) module s).violations.filter
              fun v => !v.isFatal) := by
  have hcs := Batch.survivors_classes inputs
  refine ⟨ofBatch module (Batch.ofInputs inputs) t s, by rw [run, hs], ?_⟩
  have hviolations := Batch.filterMap_violation?_diagnostics inputs
  rw [ofBatch]
  cases hb : Hierarchy.build (Batch.ofInputs inputs).classes (Registry.forRun t s) with
  | error failure =>
    obtain ⟨hcircle, -⟩ := Hierarchy.exists_isRound_of_build_eq_error hb
    rw [hcs] at hcircle
    exact ⟨fun _ => ⟨rfl, hviolations⟩, fun hno => absurd hcircle hno⟩
  | ok h =>
    obtain ⟨rfl, hno⟩ := Hierarchy.build_eq_ok_iff.1 hb
    rw [hcs] at hno
    have hl := Hierarchy.isLinked_link (Batch.ofInputs inputs).classes (Registry.forRun t s)
    have hclasses : (Hierarchy.link (Batch.ofInputs inputs).classes (Registry.forRun t s)).classes =
        (Batch.ofInputs inputs).classes := by
      rw [Hierarchy.classes_link, hcs]
    refine ⟨fun hcircle => absurd hcircle hno, fun _ => ?_⟩
    refine ⟨_, _, rfl, hclasses, rfl, hl.warns_ofMatches module, ?_⟩
    rw [List.filterMap_append, hviolations, List.nil_append, Verdict.filter_not_isFatal,
      filterMap_violation?_warnings]

/-- A class file that declares the class `B`, nested in the class `A`. -/
def nestedClassFile : List UInt8 :=
  [0xCA, 0xFE, 0xBA, 0xBE, 0, 0, 0, 55, 0, 6, 1, 0, 1, 66, 7, 0, 1, 1, 0, 1, 65, 7, 0, 3, 1, 0, 8,
    78, 101, 115, 116, 72, 111, 115, 116, 0, 0x21, 0, 2, 0, 0, 0, 0, 0, 0, 0, 0, 0, 1, 0, 5, 0, 0,
    0, 2, 0, 4]

/-- The class of an empty class file. -/
def emptyClass : Class where
  name := "A"
  superclass := none
  access := 0x21
  origin := "A.class"

/-- The classes of an empty class file and one that is nested in it. -/
def nestedClasses : List Class :=
  [emptyClass,
    { name := "B", superclass := none, access := 0x21, enclosing := some "A", origin := "B.class" }]

/-- Two rules for the nested class, by both of which it misses a capability. -/
def missedRules : RuleTable where
  rules :=
    [{ id := "z", target := "B", capability := .scheduledTask,
       members := some { name := some "run" } },
      { id := "y", target := "B", capability := .scheduledTask,
        members := some { name := some "run" } }]

lemma survivors_nested : survivors nestedClasses = nestedClasses :=
  survivors_eq_self (by decide)

lemma classes_nested :
    (Batch.ofInputs [⟨"A.class", emptyClassFile⟩, ⟨"B.class", nestedClassFile⟩]).classes =
      nestedClasses := by
  have hread : [⟨"A.class", emptyClassFile⟩, ⟨"B.class", nestedClassFile⟩].filterMap Batch.class? =
      nestedClasses := by
    decide +kernel
  calc (Batch.ofInputs [⟨"A.class", emptyClassFile⟩, ⟨"B.class", nestedClassFile⟩]).classes
      = survivors ([⟨"A.class", emptyClassFile⟩, ⟨"B.class", nestedClassFile⟩].filterMap
          Batch.class?) := rfl
    _ = nestedClasses := by rw [hread, survivors_nested]

lemma not_hasCircle_nested : ¬ HasCircle {d | d ∈ nestedClasses} :=
  not_hasCircle_of_not_names (by simp [nestedClasses, Class.Names, emptyClass])

lemma not_shows_nested (p : MemberPredicate) : ¬ Shows {d | d ∈ nestedClasses} "B" p := by
  rintro ⟨d, hd, -, m, hm, -⟩
  simp only [nestedClasses, Set.mem_ofPred_eq, List.mem_cons, List.not_mem_nil, or_false] at hd
  rcases hd with rfl | rfl <;> exact absurd hm List.not_mem_nil

lemma misses_nested :
    Misses {d | d ∈ nestedClasses} missedRules.rules {} .scheduledTask "B" 0 "y" :=
  ⟨nestedClasses[1], List.getElem_mem _, rfl, by decide, missedRules.rules[1],
    List.getElem_mem _, rfl, rfl, ⟨_, rfl, not_shows_nested _⟩, 0, Distance.zero "B", rfl⟩

lemma lacks_nested :
    Lacks {d | d ∈ nestedClasses} missedRules.rules {} .scheduledTask "B" := by
  refine ⟨⟨0, "y", misses_nested⟩, ?_⟩
  rintro n ⟨c, -, -, -, r, hr, -, hgains, -⟩
  simp only [missedRules, List.mem_cons, List.not_mem_nil, or_false] at hr
  rcases hr with rfl | rfl <;> exact not_shows_nested _ (hgains _ rfl)

/-- The class that is nested lacks the capability; the warning about it names the rule that comes
first and the class around it. -/
theorem run_diagnostics_nested :
    ({} : Settings).fault? = none ∧ ∃ a,
      run "m" [⟨"A.class", emptyClassFile⟩, ⟨"B.class", nestedClassFile⟩] missedRules {} = .ok a ∧
        .warning ⟨.scheduledTask, "B", "y", some "A"⟩ ∈ a.diagnostics := by
  have hs : ({} : Settings).fault? = none := by decide
  obtain ⟨a, ha, -, hwarns⟩ := run_diagnostics "m"
    [⟨"A.class", emptyClassFile⟩, ⟨"B.class", nestedClassFile⟩] missedRules hs
  rw [classes_nested] at hwarns
  obtain ⟨h, ws, hb, hclasses, hdiagnostics, hws, -⟩ := hwarns not_hasCircle_nested
  have hlacks := lacks_nested
  have hmisses := misses_nested
  rw [← hclasses] at hlacks hmisses
  obtain ⟨w, hw, hk, hname⟩ := (hws.exists_iff .scheduledTask "B").2 hlacks
  have hrule : w.rule = "y" := by
    obtain ⟨n, ⟨c, -, -, -, r, hr, -, hid, -⟩, hleast⟩ := hws.rule_least w hw
    rw [← hk, ← hname] at hmisses
    rcases hleast 0 "y" hmisses with hlt | ⟨-, hle⟩
    · exact absurd hlt (Nat.not_lt_zero n)
    · simp only [missedRules, List.mem_cons, List.not_mem_nil, or_false] at hr
      rcases hr with rfl | rfl
      · rw [← hid] at hle
        exact absurd hle (by decide)
      · exact hid.symm
  have henclosing : w.enclosing = some "A" := by
    obtain ⟨rfl, -⟩ := Hierarchy.build_eq_ok_iff.1 hb
    rw [Hierarchy.link_eq, survivors_nested] at hws
    exact (hws.enclosing_eq w hw 1 (by decide) (by rw [hname]; rfl)).trans (by decide +kernel)
  refine ⟨hs, a, ha, ?_⟩
  rw [hdiagnostics]
  refine List.mem_append_right _ (List.mem_map.2 ⟨w, hw, ?_⟩)
  rw [← hk, ← hname, ← hrule, ← henclosing]

end Analysis

end PluginFacts
