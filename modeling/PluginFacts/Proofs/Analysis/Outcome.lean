/-
# What a run results in

The result of a run, said of the classes that its inputs declare and of nothing in between: classes
that inherit from one another in a circle fail, and otherwise the outcome is the one that follows
from which classes gain which capabilities by the rules.
-/
import PluginFacts.Proofs.Analysis.InputOrder
import PluginFacts.Proofs.Match.Gains
import PluginFacts.Proofs.Verdict.Outcome

namespace PluginFacts

/-- The classes of a batch all count. -/
lemma Batch.survivors_classes (inputs : List ClassInput) :
    survivors (ofInputs inputs).classes = (ofInputs inputs).classes :=
  survivors_survivors (inputs.filterMap class?)

namespace Hierarchy

variable {cs : List Class} {r : Registry} {rules : List Rule} {s : Settings}

/-- In a hierarchy the facts say what the classes that count gain. -/
lemma hasFact_matchAll_link (hcs : survivors cs = cs) :
    Verdict.HasFact ((link cs r).matchAll rules s) = Gains {d | d ∈ cs} rules s := by
  have hclasses : (link cs r).classes = cs := by rw [classes_link, hcs]
  funext k a n
  rw [(isLinked_link cs r).hasFact_matchAll_iff k a n, hclasses]

end Hierarchy

namespace Analysis

/-- **Outcome of a run.**  With settings that are not faulty, a run fails with a circle if the
classes of its inputs inherit from one another in a circle; if they do not, it ends with the outcome
that follows from which classes gain which capabilities, and with no other. -/
theorem run_outcome (module : String) (inputs : List ClassInput) (t : RuleTable) {s : Settings}
    (hs : s.fault? = none) :
    ∃ a, run module inputs t s = .ok a ∧
      (HasCircle {d | d ∈ (Batch.ofInputs inputs).classes} →
        ∃ cycle, a.outcome = .error (.cyclicHierarchy cycle)) ∧
      (¬ HasCircle {d | d ∈ (Batch.ofInputs inputs).classes} → ∀ o, a.outcome = o ↔
        Outcome (Gains {d | d ∈ (Batch.ofInputs inputs).classes} t.rules s) s module o) := by
  have hcs := Batch.survivors_classes inputs
  refine ⟨ofBatch module (Batch.ofInputs inputs) t s, by rw [run, hs], ?_, ?_⟩
  · intro hcircle
    rw [← hcs] at hcircle
    rw [ofBatch]
    cases hb : Hierarchy.build (Batch.ofInputs inputs).classes (Registry.forRun t s) with
    | error failure =>
      obtain ⟨-, cycle, rfl, -⟩ := Hierarchy.exists_isRound_of_build_eq_error hb
      exact ⟨cycle, rfl⟩
    | ok h => exact absurd hcircle (Hierarchy.build_eq_ok_iff.1 hb).2
  · intro hno o
    -- without a circle the classes are linked, and the verdict is on the matches of all of them
    have hb : Hierarchy.build (Batch.ofInputs inputs).classes (Registry.forRun t s) =
        .ok (Hierarchy.link (Batch.ofInputs inputs).classes (Registry.forRun t s)) :=
      Hierarchy.build_eq_ok_iff.2 ⟨rfl, hcs.symm ▸ hno⟩
    have houtcome := Verdict.outcome_ofMatches
      ((Hierarchy.link (Batch.ofInputs inputs).classes (Registry.forRun t s)).matchAll t.rules s)
      module s
    rw [Hierarchy.hasFact_matchAll_link hcs] at houtcome
    rw [ofBatch, hb]
    constructor
    · rintro rfl
      exact houtcome
    · intro ho
      exact houtcome.unique ho

/-- The class of `baseFile`. -/
def baseClass : Class where
  name := "p.Base"
  superclass := some "x.Plugin"
  members := [{ name := "load", kind := .method, descriptor := "()V", access := 1 }]
  access := 0x0421
  origin := "p/Base.class"

/-- The class of `mainFile`, of which two inputs are given. -/
def mainClass : Class where
  name := "p.Main"
  superclass := some "p.Base"
  access := 0x21
  origin := "p/Copy.class"

/-- The class of `otherFile`. -/
def otherClass : Class where
  name := "q.Other"
  superclass := some "p.Base"
  access := 0x21
  origin := "q/Other.class"

/-- The classes of `pluginInputs`. -/
def pluginClasses : List Class := [baseClass, mainClass, otherClass]

lemma classes_pluginInputs : (Batch.ofInputs pluginInputs).classes = pluginClasses := by
  have hread : pluginInputs.filterMap Batch.class? =
      [baseClass, mainClass, { mainClass with origin := "p/Main.class" }, otherClass] := by
    decide +kernel
  calc (Batch.ofInputs pluginInputs).classes
      = survivors (pluginInputs.filterMap Batch.class?) := rfl
    _ = pluginClasses := by
        rw [hread, survivors_eq, List.mergeSort_of_pairwise (by decide)]
        decide

lemma not_hasCircle_pluginClasses : ¬ HasCircle {d | d ∈ pluginClasses} := by
  have hrank : ∀ c ∈ pluginClasses, ∀ d ∈ pluginClasses, c.Names d.name →
      (if d.name = "p.Base" then 0 else 1) < if c.name = "p.Base" then 0 else 1 := by
    decide
  exact not_hasCircle_of_rank (fun a => if a = "p.Base" then 0 else 1) hrank

/-- The only class that gains something is the main class, which inherits the method: its superclass
is abstract, and the third class is not in scope. -/
lemma gains_pluginClasses_iff {k : Capability} {a : String} {n : ℕ} :
    Gains {d | d ∈ pluginClasses} pluginRules.rules pluginSettings k a n ↔
      a = "p.Main" ∧ (k = .entryPoint ∧ n = 1 ∨ k = .scheduledTask ∧ n = 0) := by
  have hbase : Distance {d | d ∈ pluginClasses} "p.Main" "p.Base" 1 := .one (by decide) (by decide)
  have hplugin : Distance {d | d ∈ pluginClasses} "p.Main" "x.Plugin" 2 :=
    .two (b := "p.Base") (by decide) (by decide) (by decide) (by decide)
  constructor
  · rintro ⟨c, hc, rfl, hsubject, r, hr, rfl, -, d, hd, rfl⟩
    have honly : ∀ c ∈ pluginClasses, pluginSettings.isSubject c → c = mainClass := by decide
    obtain rfl := honly c hc hsubject
    simp only [pluginRules, List.mem_cons, List.not_mem_nil, or_false] at hr
    rcases hr with rfl | rfl
    · obtain rfl := hd.unique hplugin
      exact ⟨rfl, .inl ⟨rfl, rfl⟩⟩
    · obtain rfl := hd.unique hbase
      exact ⟨rfl, .inr ⟨rfl, rfl⟩⟩
  · rintro ⟨rfl, ⟨rfl, rfl⟩ | ⟨rfl, rfl⟩⟩
    · refine ⟨pluginClasses[1], List.getElem_mem _, rfl, by decide, pluginRules.rules[0],
        List.getElem_mem _, rfl, ?_, 2, hplugin, rfl⟩
      rintro p ⟨⟩
      exact ⟨pluginClasses[0], List.getElem_mem _, ⟨1, hbase.1⟩, _, List.mem_singleton_self _,
        MemberPredicate.accepts_iff.1 (by decide)⟩
    · exact ⟨pluginClasses[1], List.getElem_mem _, rfl, by decide, pluginRules.rules[1],
        List.getElem_mem _, rfl, by rintro p ⟨⟩, 1, hbase, rfl⟩

/-- The manifest of a module with one class that gains capabilities and a pinned loader. -/
theorem run_outcome_pluginInputs :
    pluginSettings.fault? = none ∧ ∃ a, run "m" pluginInputs pluginRules pluginSettings = .ok a ∧
      a.outcome = .ok { module := "m", entryPoint := some "p.Main", loader := some "p.Loader",
                        scheduledTasks := ["p.Main"] } := by
  have hs : pluginSettings.fault? = none := by decide
  obtain ⟨a, ha, -, houtcome⟩ := run_outcome "m" pluginInputs pluginRules hs
  rw [classes_pluginInputs] at houtcome
  have hgains : Gains {d | d ∈ pluginClasses} pluginRules.rules pluginSettings = fun k a n =>
      a = "p.Main" ∧ (k = .entryPoint ∧ n = 1 ∨ k = .scheduledTask ∧ n = 0) := by
    funext k a n
    exact propext gains_pluginClasses_iff
  refine ⟨hs, a, ha, (houtcome not_hasCircle_pluginClasses _).2 ?_⟩
  rw [hgains]
  refine .manifest ?_ ?_ ?_
  · rintro role ⟨-, b, c, hbc, ⟨_, rfl, -⟩, ⟨_, rfl, -⟩⟩
    exact hbc rfl
  · rintro ⟨-, -, hvacant⟩
    exact hvacant "p.Main" ⟨1, rfl, .inl ⟨rfl, rfl⟩⟩
  · exact {
      module_eq := rfl
      entryPoint := by simp [IsHolder, pluginSettings, Pins.get?, Holds, Role.capability, eq_comm]
      bootstrapHook := by simp [IsHolder, pluginSettings, Pins.get?, Holds, Role.capability]
      loader := rfl
      listeners := ⟨by simp, List.Pairwise.nil⟩
      scheduledTasks := ⟨by simp, List.pairwise_singleton _ _⟩ }

end Analysis

end PluginFacts
