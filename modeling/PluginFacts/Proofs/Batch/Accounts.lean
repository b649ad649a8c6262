/-
# What becomes of each input

A batch accounts for the inputs that it is made from: an input is refused and reported, or holds a
module descriptor, or declares a class that is kept, or one that is reported as left out since an
input with a lesser origin, or an earlier one with the same, declares a class of the same name.
`AccountsFor` says so of a batch and its inputs in terms of the inputs alone, and
`accountsFor_ofInputs` that this is how batches are made.
-/
import PluginFacts.Proofs.Analysis.InputOrder
import PluginFacts.Proofs.Class.Groups

namespace PluginFacts

namespace ClassInput

/-- The input declares the class. -/
def Declares (i : ClassInput) (c : Class) : Prop :=
  i.read = .ok c ∧ ¬ c.isModule

/-- The input declares a class of the given name. -/
def DeclaresName (i : ClassInput) (name : String) : Prop :=
  ∃ c, i.Declares c ∧ c.name = name

/-- The input holds a module descriptor. -/
def HoldsModule (i : ClassInput) : Prop :=
  ∃ c, i.read = .ok c ∧ c.isModule

instance (i : ClassInput) (name : String) : Decidable (i.DeclaresName name) :=
  match h : i.read with
  | .ok c => decidable_of_iff (¬ c.isModule ∧ c.name = name) (by simp [DeclaresName, Declares, h])
  | .error _ => isFalse (by simp [DeclaresName, Declares, h])

instance (i : ClassInput) : Decidable i.HoldsModule :=
  match h : i.read with
  | .ok c => decidable_of_iff c.isModule (by simp [HoldsModule, h])
  | .error _ => isFalse (by simp [HoldsModule, h])

end ClassInput

namespace Batch

/-- The inputs that declare a class of the given name. -/
def declarers (inputs : List ClassInput) (name : String) : List ClassInput :=
  inputs.filter (·.DeclaresName name)

/-- The reports of a batch on refused inputs. -/
def malformed (b : Batch) : List Malformed :=
  b.diagnostics.filterMap fun | .malformed m => some m | _ => none

/-- The reports of a batch on classes that several inputs declare. -/
def duplicates (b : Batch) : List Duplicate :=
  b.diagnostics.filterMap fun | .duplicate d => some d | _ => none

/-- Nothing of the inputs is lost in the batch, and nothing is added. -/
structure AccountsFor (b : Batch) (inputs : List ClassInput) : Prop where
  /-- The classes come in order of their names, each name once. -/
  pairwise_classes : b.classes.Pairwise fun c d => c.name < d.name
  /-- The names are those that the inputs declare. -/
  exists_class_iff : ∀ name, (∃ c ∈ b.classes, c.name = name) ↔ ∃ i ∈ inputs, i.DeclaresName name
  /-- A class is that of the input with the least origin, and of the first one with this origin. -/
  declares_first : ∀ c ∈ b.classes, ∃ before i after, inputs = before ++ i :: after ∧ i.Declares c ∧
    (∀ j ∈ before, j.DeclaresName c.name → i.origin < j.origin) ∧
    ∀ j ∈ after, j.DeclaresName c.name → i.origin ≤ j.origin
  /-- There is one report on each name that several inputs declare, and none on other names. -/
  nodup_duplicates : (b.duplicates.map (·.name)).Nodup
  mem_duplicates_iff : ∀ name, name ∈ b.duplicates.map (·.name) ↔ 2 ≤ (declarers inputs name).length
  /-- It names the origin that was kept, and those of all other inputs, in order. -/
  kept_duplicate : ∀ d ∈ b.duplicates, ∃ c ∈ b.classes, c.name = d.name ∧ c.origin = d.kept
  duplicate_perm : ∀ d ∈ b.duplicates,
    (d.kept :: d.ignored).Perm ((declarers inputs d.name).map (·.origin))
  pairwise_ignored : ∀ d ∈ b.duplicates, d.ignored.Pairwise (· ≤ ·)
  /-- There is one report on each refused input. -/
  malformed_perm : b.malformed.Perm (inputs.filterMap malformed?)
  /-- There are no other reports, and these come in order of the origins that they are about. -/
  ne_warning : ∀ d ∈ b.diagnostics, ∀ w, d ≠ .warning w
  pairwise_diagnostics : b.diagnostics.Pairwise fun d e => d.key ≤ e.key
  /-- Every input is counted once. -/
  length_inputs : inputs.length = b.malformed.length + inputs.countP (·.HoldsModule) +
    b.classes.length + (b.duplicates.map (·.ignored.length)).sum

variable {inputs : List ClassInput} {i : ClassInput}

lemma class?_eq_some_iff {c : Class} : class? i = some c ↔ i.Declares c := by
  rw [class?, ClassInput.Declares]
  cases i.read with
  | error m => simp
  | ok d =>
    simp only [Except.ok.injEq]
    split
    · next hd =>
      simp only [reduceCtorEq, false_iff, not_and, not_not]
      rintro rfl
      exact hd
    · next hd =>
      simp only [Option.some.injEq, iff_self_and]
      rintro rfl
      exact hd

/-- The origins of the classes of a name are those of the inputs that declare one. -/
lemma map_origin_filter (inputs : List ClassInput) (name : String) :
    ((inputs.filterMap class?).filter fun c => c.name == name).map (·.origin) =
      (declarers inputs name).map (·.origin) := by
  induction inputs with
  | nil => rfl
  | cons i inputs ih =>
    rw [declarers] at ih ⊢
    cases hc : class? i with
    | none =>
      have hno : ¬ i.DeclaresName name := by
        rintro ⟨c, hdecl, -⟩
        rw [← class?_eq_some_iff, hc] at hdecl
        cases hdecl
      rw [List.filterMap_cons_none hc, ih, List.filter_cons_of_neg (by simpa using hno)]
    | some c =>
      have hdecl := class?_eq_some_iff.1 hc
      have hiff : i.DeclaresName name ↔ c.name = name := by
        constructor
        · rintro ⟨d, hd, rfl⟩
          rw [← class?_eq_some_iff, hc, Option.some.injEq] at hd
          rw [hd]
        · exact fun hname => ⟨c, hdecl, hname⟩
      rw [List.filterMap_cons_some hc]
      by_cases hname : c.name = name
      · rw [List.filter_cons_of_pos (by simpa using hname),
          List.filter_cons_of_pos (by simpa using hiff.2 hname), List.map_cons, List.map_cons, ih,
          ClassInput.origin_of_read_eq_ok hdecl.1]
      · rw [List.filter_cons_of_neg (by simpa using hname),
          List.filter_cons_of_neg (by simpa using fun h => hname (hiff.1 h)), ih]

/-- A group consists of the classes of the inputs that declare its name. -/
lemma origins_perm {g : Namesakes} (hg : g ∈ groups inputs) :
    (g.toList.map (·.origin)).Perm ((declarers inputs g.kept.name).map (·.origin)) := by
  rw [← map_origin_filter]
  exact (Namesakes.toList_perm hg).map _

lemma malformed_perm (inputs : List ClassInput) :
    (ofInputs inputs).malformed.Perm (inputs.filterMap malformed?) := by
  refine ((List.mergeSort_perm _ _).filterMap _).trans (.of_eq ?_)
  simp [List.filterMap_append, List.filterMap_map]

lemma duplicates_perm (inputs : List ClassInput) :
    (ofInputs inputs).duplicates.Perm ((groups inputs).filterMap Namesakes.duplicate?) := by
  refine ((List.mergeSort_perm _ _).filterMap _).trans (.of_eq ?_)
  simp [List.filterMap_append, List.filterMap_map]

lemma mem_duplicates {d : Duplicate} (hd : d ∈ (ofInputs inputs).duplicates) :
    ∃ g ∈ groups inputs, g.ignored ≠ [] ∧
      d = ⟨g.kept.name, g.kept.origin, g.ignored.map (·.origin)⟩ := by
  obtain ⟨g, hg, hd⟩ := List.mem_filterMap.1 ((duplicates_perm inputs).mem_iff.1 hd)
  rw [Namesakes.duplicate?] at hd
  split at hd
  · cases hd
  · next hne => exact ⟨g, hg, hne, (Option.some.inj hd).symm⟩

/-- The classes of a batch are those that count among the classes of the inputs. -/
lemma exists_class_iff (inputs : List ClassInput) (name : String) :
    (∃ c ∈ (ofInputs inputs).classes, c.name = name) ↔ ∃ i ∈ inputs, i.DeclaresName name := by
  constructor
  · rintro ⟨c, hc, rfl⟩
    obtain ⟨i, hi, hclass⟩ := List.mem_filterMap.1 (mem_of_mem_survivors hc)
    exact ⟨i, hi, c, class?_eq_some_iff.1 hclass, rfl⟩
  · rintro ⟨i, hi, c, hdecl, rfl⟩
    exact exists_mem_survivors (List.mem_filterMap.2 ⟨i, hi, class?_eq_some_iff.2 hdecl⟩)

lemma declares_first {c : Class} (hc : c ∈ (ofInputs inputs).classes) :
    ∃ before i after, inputs = before ++ i :: after ∧ i.Declares c ∧
      (∀ j ∈ before, j.DeclaresName c.name → i.origin < j.origin) ∧
      ∀ j ∈ after, j.DeclaresName c.name → i.origin ≤ j.origin := by
  obtain ⟨before, after, hsplit, hbefore, hafter⟩ := mem_survivors.1 hc
  -- the input stands where its class stands, between inputs without a class
  obtain ⟨inputs₁, rest, rfl, rfl, hrest⟩ := List.filterMap_eq_append_iff.1 hsplit
  obtain ⟨skipped, i, inputs₂, rfl, hskipped, hclass, rfl⟩ := List.filterMap_eq_cons_iff.1 hrest
  have hdecl := class?_eq_some_iff.1 hclass
  rw [ClassInput.origin_of_read_eq_ok hdecl.1] at hbefore hafter
  refine ⟨inputs₁ ++ skipped, i, inputs₂, by simp, hdecl, ?_, ?_⟩
  · rintro j hj ⟨d, hd, hname⟩
    rw [← ClassInput.origin_of_read_eq_ok hd.1]
    have hclass' := class?_eq_some_iff.2 hd
    rcases List.mem_append.1 hj with hj | hj
    · exact hbefore d (List.mem_filterMap.2 ⟨j, hj, hclass'⟩) hname
    · rw [hskipped j hj] at hclass'
      cases hclass'
  · rintro j hj ⟨d, hd, hname⟩
    rw [← ClassInput.origin_of_read_eq_ok hd.1]
    exact hafter d (List.mem_filterMap.2 ⟨j, hj, class?_eq_some_iff.2 hd⟩) hname

lemma name_of_duplicate? {g : Namesakes} {d : Duplicate} (hd : g.duplicate? = some d) :
    d.name = g.kept.name := by
  rw [Namesakes.duplicate?] at hd
  split at hd
  · cases hd
  · cases hd
    rfl

lemma nodup_duplicates (inputs : List ClassInput) :
    ((ofInputs inputs).duplicates.map (·.name)).Nodup := by
  rw [((duplicates_perm inputs).map _).nodup_iff, List.Nodup, List.pairwise_map,
    List.pairwise_filterMap]
  refine (Namesakes.pairwise_ofClasses (inputs.filterMap class?)).imp ?_
  intro g g' hne d hd d' hd'
  rwa [name_of_duplicate? hd, name_of_duplicate? hd']

lemma mem_duplicates_iff (inputs : List ClassInput) (name : String) :
    name ∈ (ofInputs inputs).duplicates.map (·.name) ↔ 2 ≤ (declarers inputs name).length := by
  have hlength : ∀ g ∈ groups inputs,
      (declarers inputs g.kept.name).length = g.ignored.length + 1 := by
    intro g hg
    have h := (origins_perm hg).length_eq
    rw [List.length_map, List.length_map] at h
    rw [← h, Namesakes.toList, List.length_cons]
  rw [List.mem_map]
  constructor
  · rintro ⟨d, hd, rfl⟩
    obtain ⟨g, hg, hne, rfl⟩ := mem_duplicates hd
    have hpos := List.length_pos_iff.2 hne
    rw [hlength g hg]
    omega
  · intro htwo
    obtain ⟨i, hi⟩ : ∃ i, i ∈ declarers inputs name :=
      List.exists_mem_of_length_pos (by omega)
    rw [declarers, List.mem_filter, decide_eq_true_eq] at hi
    obtain ⟨c, hc, rfl⟩ := (exists_class_iff inputs name).2 ⟨i, hi⟩
    obtain ⟨g, hg, rfl⟩ := List.mem_map.1 hc
    have hne : g.ignored ≠ [] := by
      rw [← List.length_pos_iff]
      have := hlength g hg
      omega
    refine ⟨⟨g.kept.name, g.kept.origin, g.ignored.map (·.origin)⟩, ?_, rfl⟩
    rw [(duplicates_perm inputs).mem_iff, List.mem_filterMap]
    exact ⟨g, hg, by rw [Namesakes.duplicate?, if_neg hne]⟩

end Batch

end PluginFacts
