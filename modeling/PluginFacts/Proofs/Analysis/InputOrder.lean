/-
# The order of inputs

A run on inputs of distinct origins does not depend on the order in which they are given.  The
origin says which input a report of the batch is about, and two reports on one input are the same
report: an input is refused or declares a class, and a class is kept in one group only.  So the
reports have only one order, as the classes have by their names and origins, and all that follows is
computed from the batch.
-/
import PluginFacts.Analysis
import PluginFacts.Proofs.Class.Survivors

namespace PluginFacts

namespace ClassInput

variable {i : ClassInput}

lemma origin_of_read_eq_ok {c : Class} (h : i.read = .ok c) : c.origin = i.origin := by
  rw [read] at h
  split at h
  · cases h
    rfl
  · cases h

lemma origin_of_read_eq_error {m : Malformed} (h : i.read = .error m) : m.origin = i.origin := by
  rw [read] at h
  split at h
  · cases h
  · cases h
    rfl

end ClassInput

namespace Batch

lemma read_of_class? {i : ClassInput} {c : Class} (h : class? i = some c) : i.read = .ok c := by
  rw [class?] at h
  split at h
  · next hread =>
    split at h
    · cases h
    · cases h
      exact hread
  · cases h

lemma malformed?_eq_some_iff {i : ClassInput} {m : Malformed} :
    malformed? i = some m ↔ i.read = .error m := by
  rw [malformed?]
  cases i.read <;> simp

/-- The classes of inputs have the origins of the inputs. -/
lemma origins_sublist (inputs : List ClassInput) :
    ((inputs.filterMap class?).map (·.origin)).Sublist (inputs.map (·.origin)) := by
  induction inputs with
  | nil => exact List.Sublist.refl _
  | cons i inputs ih =>
    cases hc : class? i with
    | none =>
      rw [List.filterMap_cons_none hc]
      exact ih.cons _
    | some c =>
      rw [List.filterMap_cons_some hc, List.map_cons, List.map_cons,
        ClassInput.origin_of_read_eq_ok (read_of_class? hc)]
      exact ih.cons_cons _

/-- The class that a group keeps is the class of an input. -/
lemma exists_read_of_mem_groups {inputs : List ClassInput} {g : Namesakes}
    (hg : g ∈ groups inputs) : ∃ i ∈ inputs, i.read = .ok g.kept := by
  have hkept : g.kept ∈ survivors (inputs.filterMap class?) := List.mem_map.2 ⟨g, hg, rfl⟩
  obtain ⟨i, hi, hclass⟩ := List.mem_filterMap.1 (mem_of_mem_survivors hkept)
  exact ⟨i, hi, read_of_class? hclass⟩

/-- A class is kept in one group only. -/
lemma eq_of_kept_eq {inputs : List ClassInput} {g g' : Namesakes} (hg : g ∈ groups inputs)
    (hg' : g' ∈ groups inputs) (h : g.kept = g'.kept) : g = g' := by
  have hnodup : (survivors (inputs.filterMap class?)).Nodup := by
    refine (pairwise_survivors _).imp ?_
    rintro a b hlt rfl
    exact lt_irrefl _ hlt
  exact List.inj_on_of_nodup_map hnodup hg hg' h

/-- The report is about the input. -/
def IsAbout (inputs : List ClassInput) (i : ClassInput) : Diagnostic → Prop
  | .malformed m => i.read = .error m
  | .duplicate d => ∃ g ∈ groups inputs, g.duplicate? = some d ∧ i.read = .ok g.kept
  | .warning _ => False

variable {inputs : List ClassInput} {i : ClassInput} {d d' : Diagnostic}

/-- The key of a report is the origin of the input that it is about. -/
lemma IsAbout.key_eq (h : IsAbout inputs i d) : d.key = i.origin := by
  cases d with
  | malformed m => exact ClassInput.origin_of_read_eq_error h
  | duplicate d =>
    obtain ⟨g, -, hd, hread⟩ := h
    rw [Namesakes.duplicate?] at hd
    split at hd
    · cases hd
    · cases hd
      exact ClassInput.origin_of_read_eq_ok hread
  | warning w => exact h.elim

/-- There is only one report about an input. -/
lemma IsAbout.unique (h : IsAbout inputs i d) (h' : IsAbout inputs i d') : d = d' := by
  cases d with
  | malformed m =>
    replace h : i.read = .error m := h
    cases d' with
    | malformed m' =>
      replace h' : i.read = .error m' := h'
      rw [h, Except.error.injEq] at h'
      rw [h']
    | duplicate d' =>
      obtain ⟨g', -, -, hread'⟩ := h'
      rw [h] at hread'
      cases hread'
    | warning w' => exact h'.elim
  | duplicate d =>
    obtain ⟨g, hg, hd, hread⟩ := h
    cases d' with
    | malformed m' =>
      replace h' : i.read = .error m' := h'
      rw [hread] at h'
      cases h'
    | duplicate d' =>
      obtain ⟨g', hg', hd', hread'⟩ := h'
      rw [hread, Except.ok.injEq] at hread'
      obtain rfl := eq_of_kept_eq hg hg' hread'
      rw [hd, Option.some.injEq] at hd'
      rw [hd']
    | warning w' => exact h'.elim
  | warning w => exact h.elim

/-- Every report of a batch is about an input. -/
lemma exists_isAbout (hd : d ∈ (inputs.filterMap malformed?).map Diagnostic.malformed ++
      ((groups inputs).filterMap Namesakes.duplicate?).map Diagnostic.duplicate) :
    ∃ i ∈ inputs, IsAbout inputs i d := by
  rcases List.mem_append.1 hd with hd | hd
  · obtain ⟨m, hm, rfl⟩ := List.mem_map.1 hd
    obtain ⟨i, hi, hread⟩ := List.mem_filterMap.1 hm
    exact ⟨i, hi, malformed?_eq_some_iff.1 hread⟩
  · obtain ⟨r, hr, rfl⟩ := List.mem_map.1 hd
    obtain ⟨g, hg, hgr⟩ := List.mem_filterMap.1 hr
    obtain ⟨i, hi, hread⟩ := exists_read_of_mem_groups hg
    exact ⟨i, hi, g, hg, hgr, hread⟩

/-- The groups of inputs with distinct origins do not depend on their order. -/
lemma groups_eq_of_perm {inputs₁ inputs₂ : List ClassInput} (hp : inputs₁.Perm inputs₂)
    (horigin : (inputs₁.map (·.origin)).Nodup) : groups inputs₁ = groups inputs₂ :=
  ofClasses_eq_of_perm (hp.filterMap class?) (horigin.sublist (origins_sublist inputs₁))

/-- The batch of inputs with distinct origins does not depend on their order. -/
theorem ofInputs_eq_of_perm {inputs₁ inputs₂ : List ClassInput} (hp : inputs₁.Perm inputs₂)
    (horigin : (inputs₁.map (·.origin)).Nodup) : ofInputs inputs₁ = ofInputs inputs₂ := by
  have hgroups := groups_eq_of_perm hp horigin
  have hle : IsSortOrder Diagnostic.le := .of_cmp (compareOn Diagnostic.key)
  rw [ofInputs, ofInputs, ← hgroups, Batch.mk.injEq]
  refine ⟨rfl, hle.sort_eq_of_perm (((hp.filterMap malformed?).map _).append_right _) ?_⟩
  intro a ha b hb hab hba
  -- two reports with one key are about one input
  obtain ⟨i, hi, hai⟩ := exists_isAbout ha
  obtain ⟨j, hj, hbj⟩ := exists_isAbout hb
  have hkey : a.key = b.key := le_antisymm (compare_isLE_iff.1 hab) (compare_isLE_iff.1 hba)
  rw [hai.key_eq, hbj.key_eq] at hkey
  obtain rfl := List.inj_on_of_nodup_map horigin hi hj hkey
  exact hai.unique hbj

end Batch

namespace Analysis

/-- **Order of inputs.**  A run on inputs with distinct origins does not depend on their order: it
ends with the same manifest or the same failure, and with the same reports in the same order. -/
theorem run_eq_of_perm (module : String) {inputs₁ inputs₂ : List ClassInput}
    (hp : inputs₁.Perm inputs₂) (horigin : (inputs₁.map (·.origin)).Nodup) (t : RuleTable)
    (s : Settings) : run module inputs₁ t s = run module inputs₂ t s := by
  rw [run, run, Batch.ofInputs_eq_of_perm hp horigin]

/-- A class file that declares the class `A` and nothing in it. -/
def emptyClassFile : List UInt8 :=
  [0xCA, 0xFE, 0xBA, 0xBE, 0, 0, 0, 52, 0, 3, 1, 0, 1, 65, 7, 0, 1, 0, 0x21, 0, 2, 0, 0, 0, 0, 0, 0,
    0, 0, 0, 0]

/-- Three inputs, of which two declare the same class and the third declares none. -/
def rivalInputs : List ClassInput :=
  [⟨"b.class", emptyClassFile⟩, ⟨"a.class", emptyClassFile⟩, ⟨"c.class", []⟩]

/-- A class file of the abstract class `p.Base`, which extends `x.Plugin` and has a
method `load`. -/
def baseFile : List UInt8 :=
  [0xCA, 0xFE, 0xBA, 0xBE, 0, 0, 0, 52, 0, 7, 1, 0, 6, 112, 47, 66, 97, 115, 101, 7, 0, 1, 1, 0, 8,
    120, 47, 80, 108, 117, 103, 105, 110, 7, 0, 3, 1, 0, 4, 108, 111, 97, 100, 1, 0, 3, 40, 41, 86,
    0x04, 0x21, 0, 2, 0, 4, 0, 0, 0, 0, 0, 1, 0, 1, 0, 5, 0, 6, 0, 0, 0, 0]

/-- A class file of the class `p.Main`, which extends `p.Base`. -/
def mainFile : List UInt8 :=
  [0xCA, 0xFE, 0xBA, 0xBE, 0, 0, 0, 52, 0, 5, 1, 0, 6, 112, 47, 77, 97, 105, 110, 7, 0, 1, 1, 0, 6,
    112, 47, 66, 97, 115, 101, 7, 0, 3, 0, 0x21, 0, 2, 0, 4, 0, 0, 0, 0, 0, 0, 0, 0]

/-- A class file of the class `q.Other`, which extends `p.Base`. -/
def otherFile : List UInt8 :=
  [0xCA, 0xFE, 0xBA, 0xBE, 0, 0, 0, 52, 0, 5, 1, 0, 7, 113, 47, 79, 116, 104, 101, 114, 7, 0, 1, 1,
    0, 6, 112, 47, 66, 97, 115, 101, 7, 0, 3, 0, 0x21, 0, 2, 0, 4, 0, 0, 0, 0, 0, 0, 0, 0]

/-- Two classes that extend a third one; one of them is declared by two inputs. -/
def pluginInputs : List ClassInput :=
  [⟨"p/Base.class", baseFile⟩, ⟨"p/Copy.class", mainFile⟩, ⟨"p/Main.class", mainFile⟩,
    ⟨"q/Other.class", otherFile⟩]

/-- A rule that asks for a method and whose target is no class of the inputs, and one whose target
is such a class. -/
def pluginRules : RuleTable where
  rules :=
    [{ id := "plugin", target := "x.Plugin", capability := .entryPoint,
       members := some { kind := some .method, name := some "load" } },
      { id := "task", target := "p.Base", capability := .scheduledTask }]

/-- Settings by which some classes are out of scope and one role is pinned. -/
def pluginSettings : Settings where
  scope := ["p."]
  pins := { pluginLoader := some "p.Loader" }

/-- The order of inputs among which are some that declare the same class and one that
declares none. -/
theorem run_eq_of_perm_rivalInputs :
    (rivalInputs ++ pluginInputs).Perm (pluginInputs ++ rivalInputs.reverse) ∧
      ((rivalInputs ++ pluginInputs).map (·.origin)).Nodup ∧
      run "m" (rivalInputs ++ pluginInputs) pluginRules pluginSettings =
        run "m" (pluginInputs ++ rivalInputs.reverse) pluginRules pluginSettings := by
  have hp : (rivalInputs ++ pluginInputs).Perm (pluginInputs ++ rivalInputs.reverse) :=
    List.perm_append_comm.trans ((List.reverse_perm rivalInputs).symm.append_left pluginInputs)
  have horigin : ((rivalInputs ++ pluginInputs).map (·.origin)).Nodup := by decide
  exact ⟨hp, horigin, run_eq_of_perm "m" hp horigin pluginRules pluginSettings⟩

end Analysis

end PluginFacts
