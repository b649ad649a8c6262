/-
# Inputs that declare no class

An input that is refused, or that holds a module descriptor, declares no class and so takes no part
in what follows the reading of the inputs.  Of a refused input there is a report, and as the reports
are sorted by a comparison of keys that keeps the order of equal ones, this report is put between
the others without moving them, wherever the input stands.
-/
import PluginFacts.Proofs.Analysis.InputOrder

namespace PluginFacts

namespace Batch

variable {i : ClassInput}

lemma class?_eq_none_of_read_eq_error {m : Malformed} (h : i.read = .error m) :
    class? i = none := by
  rw [class?, h]

lemma class?_eq_none_of_isModule {c : Class} (h : i.read = .ok c) (hc : c.isModule) :
    class? i = none := by
  rw [class?, h]
  simp [hc]

lemma malformed?_eq_none_of_read_eq_ok {c : Class} (h : i.read = .ok c) : malformed? i = none := by
  rw [malformed?, h]

/-- An input that declares no class changes no group. -/
lemma groups_insert (h : class? i = none) (before after : List ClassInput) :
    groups (before ++ i :: after) = groups (before ++ after) := by
  rw [groups, groups, List.filterMap_append, List.filterMap_append, List.filterMap_cons_none h]

/-- A refused input adds one report to those of the others and changes no class. -/
theorem ofInputs_insert_malformed {m : Malformed} (h : i.read = .error m)
    (before after : List ClassInput) :
    ∃ d d', (ofInputs (before ++ after)).diagnostics = d ++ d' ∧
      ofInputs (before ++ i :: after) =
        ⟨(ofInputs (before ++ after)).classes, d ++ .malformed m :: d'⟩ := by
  have hgroups := groups_insert (class?_eq_none_of_read_eq_error h) before after
  have hle : IsSortOrder Diagnostic.le := .of_cmp (compareOn Diagnostic.key)
  obtain ⟨d, d', hsort, hinsert⟩ := hle.exists_sort_insert
    ((before.filterMap malformed?).map .malformed)
    ((after.filterMap malformed?).map .malformed ++
      ((groups (before ++ after)).filterMap Namesakes.duplicate?).map .duplicate) (.malformed m)
  refine ⟨d, d', ?_, ?_⟩
  · rw [ofInputs, List.filterMap_append, List.map_append, List.append_assoc]
    exact hsort
  · rw [ofInputs, hgroups, List.filterMap_append,
      List.filterMap_cons_some (malformed?_eq_some_iff.2 h), List.map_append, List.map_cons,
      List.append_assoc, List.cons_append, hinsert]
    rfl

/-- An input of a module descriptor changes nothing. -/
theorem ofInputs_insert_module {c : Class} (h : i.read = .ok c) (hc : c.isModule)
    (before after : List ClassInput) :
    ofInputs (before ++ i :: after) = ofInputs (before ++ after) := by
  have hgroups := groups_insert (class?_eq_none_of_isModule h hc) before after
  rw [ofInputs, ofInputs, hgroups, List.filterMap_append, List.filterMap_append,
    List.filterMap_cons_none (malformed?_eq_none_of_read_eq_ok h)]

end Batch

namespace Analysis

/-- The run on a batch passes on the reports of the batch and does not look at them. -/
lemma ofBatch_eq (module : String) (cs : List Class) (t : RuleTable) (s : Settings) :
    ∃ outcome found, ∀ d, ofBatch module ⟨cs, d⟩ t s = ⟨outcome, d ++ found⟩ := by
  cases hb : Hierarchy.build cs (Registry.forRun t s) with
  | error failure => exact ⟨.error failure, [], fun d => by rw [ofBatch, hb, List.append_nil]⟩
  | ok h => exact ⟨_, _, fun d => by rw [ofBatch, hb]⟩

/-- **Bad inputs are contained.**  With settings that are not faulty, an input more, wherever
it stands, that is refused leaves the outcome as it is and adds to the reports, without moving
any of them, the one that it was refused; and an input of a module descriptor leaves the whole
run as it is. -/
theorem run_insert_input (module : String) (before after : List ClassInput) (i : ClassInput)
    (t : RuleTable) {s : Settings} (hs : s.fault? = none) :
    ∃ a, run module (before ++ after) t s = .ok a ∧
      (∀ m, i.read = .error m → m.origin = i.origin ∧
        ∃ d d', a.diagnostics = d ++ d' ∧
          run module (before ++ i :: after) t s = .ok ⟨a.outcome, d ++ .malformed m :: d'⟩) ∧
      ∀ c, i.read = .ok c → c.isModule → run module (before ++ i :: after) t s = .ok a := by
  obtain ⟨outcome, found, hbatch⟩ :=
    ofBatch_eq module (Batch.ofInputs (before ++ after)).classes t s
  refine ⟨⟨outcome, (Batch.ofInputs (before ++ after)).diagnostics ++ found⟩, ?_, ?_, ?_⟩
  · rw [run, hs]
    exact congrArg Except.ok (hbatch _)
  · intro m hm
    obtain ⟨d, d', hd, hinsert⟩ := Batch.ofInputs_insert_malformed hm before after
    refine ⟨ClassInput.origin_of_read_eq_error hm, d, d' ++ found, ?_, ?_⟩
    · rw [hd, List.append_assoc]
    · rw [run, hs, hinsert, hbatch, List.append_assoc, List.cons_append]
  · intro c hc hmodule
    rw [run, hs, Batch.ofInputs_insert_module hc hmodule]
    exact congrArg Except.ok (hbatch _)

/-- A class file of a module descriptor. -/
def moduleFile : List UInt8 :=
  [0xCA, 0xFE, 0xBA, 0xBE, 0, 0, 0, 53, 0, 3, 1, 0, 1, 77, 7, 0, 1, 0x80, 0, 0, 2, 0, 0, 0, 0, 0, 0,
    0, 0, 0, 0]

/-- An input without content, and then a module descriptor, between two inputs that declare the same
class. -/
theorem run_insert_input_pluginInputs :
    pluginSettings.fault? = none ∧ ∃ a d d',
      run "m" pluginInputs pluginRules pluginSettings = .ok a ∧ a.diagnostics = d ++ d' ∧
      run "m" (pluginInputs.take 2 ++ ⟨"p/Bad.class", []⟩ :: pluginInputs.drop 2) pluginRules
          pluginSettings =
        .ok ⟨a.outcome, d ++
          .malformed ⟨"p/Bad.class", .notClassFile (.within .start (.truncated .magic 0))⟩ :: d'⟩ ∧
      run "m" (pluginInputs.take 2 ++ ⟨"module-info.class", moduleFile⟩ :: pluginInputs.drop 2)
          pluginRules pluginSettings = .ok a := by
  have hs : pluginSettings.fault? = none := by decide
  have hmodule : ∃ c, ClassInput.read ⟨"module-info.class", moduleFile⟩ = .ok c ∧ c.isModule :=
    ⟨{ name := "M", superclass := none, access := 0x8000, origin := "module-info.class" },
      by decide +kernel, by decide⟩
  obtain ⟨c, hc, hmod⟩ := hmodule
  obtain ⟨a, ha, herror, -⟩ := run_insert_input "m" (pluginInputs.take 2) (pluginInputs.drop 2)
    ⟨"p/Bad.class", []⟩ pluginRules hs
  obtain ⟨a', ha', -, hskip⟩ := run_insert_input "m" (pluginInputs.take 2) (pluginInputs.drop 2)
    ⟨"module-info.class", moduleFile⟩ pluginRules hs
  obtain ⟨-, d, d', hd, hrun⟩ := herror _ rfl
  rw [ha, Except.ok.injEq] at ha'
  exact ⟨hs, a, d, d', ha, hd, hrun, ha' ▸ hskip c hc hmod⟩

end Analysis

end PluginFacts
