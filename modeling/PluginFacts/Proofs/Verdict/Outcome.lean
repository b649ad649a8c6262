/-
# What a verdict amounts to

Which manifest or which failure a verdict gives depends only on which classes have which
capabilities, at which depths, and on the pins.  `Outcome` says how, for capabilities that come
from anywhere:

* first a role that several classes have fails, if it is not pinned;
* then a plugin without main class fails;
* otherwise there is a manifest, which `Manifest.States` describes.

There is just one outcome (`Outcome.unique`), and the verdict on some matches gives it
(`Verdict.outcome_ofMatches`).
-/
import PluginFacts.Manifest
import PluginFacts.Proofs.Verdict.Facts

namespace PluginFacts

section Outcome

variable (P : Capability → String → ℕ → Prop) (s : Settings)

/-- A class has a capability at some depth. -/
def Holds (k : Capability) (a : String) : Prop := ∃ n, P k a n

/-- Several classes have a role that is not pinned. -/
def Contested (role : Role) : Prop :=
  s.pins.get? role = none ∧
    ∃ a b, a ≠ b ∧ Holds P role.capability a ∧ Holds P role.capability b

/-- The module has to have a main class, but none is pinned and none is found. -/
def Vacant : Prop :=
  s.plugin ∧ s.pins.entryPoint = none ∧ ∀ a, ¬ Holds P .entryPoint a

/-- The class that has a role: the pinned one, or else the one that has the capability. -/
def IsHolder (role : Role) (o : Option String) : Prop :=
  match s.pins.get? role with
  | some a => o = some a
  | none => ∀ a, o = some a ↔ Holds P role.capability a

/-- A manifest states what the classes of a module are. -/
structure Manifest.States (module : String) (m : Manifest) : Prop where
  module_eq : m.module = module
  entryPoint : IsHolder P s .entryPoint m.entryPoint
  bootstrapHook : IsHolder P s .bootstrapHook m.bootstrapHook
  loader : IsHolder P s .pluginLoader m.loader
  listeners : IsRanking (P .eventListener) m.listeners
  scheduledTasks : IsRanking (P .scheduledTask) m.scheduledTasks

open Classical in
/-- What a module amounts to, given which classes have which capabilities at which depths. -/
inductive Outcome (module : String) : Except Failure Manifest → Prop where
  /-- The first role that several classes have, with all these classes in order. -/
  | several {role : Role} {candidates : List String}
      (hfirst : Role.all.find? (fun role => decide (Contested P s role)) = some role)
      (hmem : ∀ a, a ∈ candidates ↔ Holds P role.capability a)
      (hlt : candidates.Pairwise (· < ·)) : Outcome module (.error (.several role candidates))
  /-- A plugin without main class. -/
  | noEntryPoint (hnone : ∀ role, ¬ Contested P s role) (hvacant : Vacant P s) :
      Outcome module (.error (.noEntryPoint module))
  /-- A module that has all it has to have, and no more. -/
  | manifest {m : Manifest} (hnone : ∀ role, ¬ Contested P s role) (hvacant : ¬ Vacant P s)
      (hm : m.States P s module) : Outcome module (.ok m)

end Outcome

variable {P : Capability → String → ℕ → Prop} {s : Settings} {module : String}

@[simp] lemma Role.mem_all (role : Role) : role ∈ Role.all := by
  cases role <;> decide

/-! ## There is just one outcome -/

lemma IsHolder.unique {role : Role} {o o' : Option String} (h : IsHolder P s role o)
    (h' : IsHolder P s role o') : o = o' := by
  rw [IsHolder] at h h'
  cases hpin : s.pins.get? role with
  | some a =>
    rw [hpin] at h h'
    exact h.trans h'.symm
  | none =>
    rw [hpin] at h h'
    exact Option.ext fun a => (h a).trans (h' a).symm

lemma Manifest.States.unique {m m' : Manifest} (h : m.States P s module)
    (h' : m'.States P s module) : m = m' := by
  rw [Manifest.mk.injEq]
  exact ⟨h.module_eq.trans h'.module_eq.symm, h.entryPoint.unique h'.entryPoint,
    h.bootstrapHook.unique h'.bootstrapHook, h.loader.unique h'.loader,
    h.listeners.unique h'.listeners, h.scheduledTasks.unique h'.scheduledTasks⟩

open Classical in
/-- There is only one outcome. -/
theorem Outcome.unique {o o' : Except Failure Manifest} (h : Outcome P s module o)
    (h' : Outcome P s module o') : o = o' := by
  have hcontested {role : Role}
      (hfirst : Role.all.find? (fun role => decide (Contested P s role)) = some role) :
      Contested P s role := by
    simpa using List.find?_some hfirst
  cases h with
  | several hfirst hmem hlt =>
    cases h' with
    | several hfirst' hmem' hlt' =>
      rw [hfirst, Option.some.injEq] at hfirst'
      subst hfirst'
      rw [eq_of_pairwise_of_mem_iff (fun _ _ hab => lt_asymm hab) hlt hlt'
        fun a => (hmem a).trans (hmem' a).symm]
    | noEntryPoint hnone => exact absurd (hcontested hfirst) (hnone _)
    | manifest hnone => exact absurd (hcontested hfirst) (hnone _)
  | noEntryPoint hnone hvacant =>
    cases h' with
    | several hfirst => exact absurd (hcontested hfirst) (hnone _)
    | noEntryPoint => rfl
    | manifest _ hvacant' => exact absurd hvacant hvacant'
  | manifest hnone hvacant hm =>
    cases h' with
    | several hfirst => exact absurd (hcontested hfirst) (hnone _)
    | noEntryPoint _ hvacant' => exact absurd hvacant' hvacant
    | manifest _ _ hm' => rw [hm.unique hm']

/-! ## The verdict gives the outcome -/

namespace Verdict

variable {facts : List Match}

/-- The candidates for a role, in order. -/
def candidates (facts : List Match) (role : Role) : List String :=
  ((ofCapability facts role.capability).map (·.className)).mergeSort fun a b => (compare a b).isLE

lemma mem_candidates_iff {role : Role}
    (hr : IsRanking (P role.capability) ((ofCapability facts role.capability).map (·.className)))
    (a : String) : a ∈ candidates facts role ↔ Holds P role.capability a := by
  rw [candidates, List.mem_mergeSort, hr.mem_iff, Holds]

open Classical in
/-- A role is a failure if it is contested. -/
lemma rivalry?_eq (role : Role)
    (hr : IsRanking (P role.capability) ((ofCapability facts role.capability).map (·.className))) :
    rivalry? facts s.pins role =
      if Contested P s role then some (role, .several role (candidates facts role)) else none := by
  cases hpin : s.pins.get? role with
  | some name =>
    have hnot : ¬ Contested P s role := by
      rintro ⟨hnone, -⟩
      rw [hpin] at hnone
      cases hnone
    rw [if_neg hnot, rivalry?, hpin, Option.isSome_some, if_pos rfl]
  | none =>
    rw [rivalry?, hpin, Option.isSome_none, if_neg Bool.false_ne_true, candidates]
    generalize (ofCapability facts role.capability).map (·.className) = names at hr ⊢
    match names, hr with
    | [], hr =>
      have hnot : ¬ Contested P s role := by
        rintro ⟨-, a, -, -, ha, -⟩
        exact List.not_mem_nil ((hr.mem_iff a).2 ha)
      rw [if_neg hnot]
    | [c], hr =>
      have hnot : ¬ Contested P s role := by
        rintro ⟨-, a, b, hab, ha, hb⟩
        rw [Holds, ← hr.mem_iff, List.mem_singleton] at ha hb
        exact hab (ha.trans hb.symm)
      rw [if_neg hnot]
    | a :: b :: l, hr =>
      have hne : a ≠ b := by
        rintro rfl
        simpa using hr.nodup
      have hcontested : Contested P s role :=
        ⟨hpin, a, b, hne, (hr.mem_iff a).1 (by simp), (hr.mem_iff b).1 (by simp)⟩
      rw [if_pos hcontested]

open Classical in
/-- A plugin fails if it has no main class. -/
lemma vacancy?_eq
    (hr : IsRanking (P .entryPoint) ((ofCapability facts .entryPoint).map (·.className))) :
    vacancy? module facts s =
      if Vacant P s then some (.entryPoint, .noEntryPoint module) else none := by
  rw [vacancy?]
  refine if_congr (and_congr Iff.rfl (and_congr Option.isNone_iff_eq_none ?_)) rfl rfl
  rw [List.isEmpty_iff, ← List.map_eq_nil_iff (f := (·.className)), List.eq_nil_iff_forall_not_mem]
  exact forall_congr' fun a => not_congr (hr.mem_iff a)

open Classical in
/-- The failures of a verdict are about the contested roles, in order, and then about the
main class. -/
theorem fatal_ofMatches (ms : List Match) (module : String) (s : Settings)
    (hr : ∀ k, IsRanking (P k) ((ofCapability (bestFacts ms) k).map (·.className))) :
    (ofMatches ms module s).fatal =
      (Role.all.filter fun role => Contested P s role).map
          (fun role => (role, .several role (candidates (bestFacts ms) role))) ++
        if Vacant P s then [(.entryPoint, .noEntryPoint module)] else [] := by
  have hrivalry : rivalry? (bestFacts ms) s.pins = fun role =>
      if Contested P s role then some (role, .several role (candidates (bestFacts ms) role))
      else none :=
    funext fun role => rivalry?_eq role (hr _)
  have hfatal : (ofMatches ms module s).fatal =
      Role.all.filterMap (rivalry? (bestFacts ms) s.pins) ++
        (vacancy? module (bestFacts ms) s).toList := rfl
  rw [hfatal, hrivalry, filterMap_ite, vacancy?_eq (hr _)]
  split <;> rfl

open Classical in
/-- The first failure of a verdict is about the first contested role, or else about the
main class. -/
lemma failure?_ofMatches (ms : List Match) (module : String) (s : Settings)
    (hr : ∀ k, IsRanking (P k) ((ofCapability (bestFacts ms) k).map (·.className))) :
    (ofMatches ms module s).failure? =
      match Role.all.find? fun role => decide (Contested P s role) with
      | some role => some (.several role (candidates (bestFacts ms) role))
      | none => if Vacant P s then some (.noEntryPoint module) else none := by
  rw [failure?, fatal_ofMatches ms module s hr, List.head?_append, List.head?_map,
    List.head?_filter]
  -- the main class is only looked at when no role is contested
  cases Role.all.find? fun role => decide (Contested P s role) with
  | some role => rfl
  | none =>
    simp only [Option.map_none, Option.none_or]
    split <;> rfl

/-- The facts of a capability are listed as they stand. -/
lemma listed_ofMatches (ms : List Match) (module : String) (s : Settings) (k : Capability) :
    (ofMatches ms module s).listed k = ((ofMatches ms module s).factsOf k).map (·.className) := by
  have hle (a b : Match) : a.listedLe b ↔ a.place ≤ b.place := by
    rw [Match.listedLe, Ordering.isLE_then_iff_or, compare_isLE_iff, compare_lt_iff_lt,
      Std.compare_eq_iff_eq, Match.place, Match.place, Prod.Lex.toLex_le_toLex]
  have hsorted : ((ofMatches ms module s).factsOf k).Pairwise fun f g => f.listedLe g :=
    (pairwise_bestFacts ms k).imp fun hfg => (hle _ _).2 (le_of_lt hfg.1)
  rw [listed, List.mergeSort_of_pairwise hsorted]

/-- A verdict without contested roles names the holder of each role. -/
lemma isHolder_holder {v : Verdict} {role : Role} (hpins : v.pins = s.pins)
    (hr : IsRanking (P role.capability) ((v.factsOf role.capability).map (·.className)))
    (hnot : ¬ Contested P s role) : IsHolder P s role (v.holder role) := by
  rw [IsHolder, holder, hpins]
  cases hpin : s.pins.get? role with
  | some a => rfl
  | none =>
    intro a
    rw [Option.orElse_eq_orElse, Option.orElse_none, ← List.head?_map]
    refine hr.head?_eq_some_iff ?_ a
    intro b c hb hc
    by_contra hne
    exact hnot ⟨hpin, b, c, hne, hb, hc⟩

open Classical in
/-- **Outcome of a verdict.**  The verdict on some matches gives the manifest or the failure that
follows from which classes have which capabilities. -/
theorem outcome_ofMatches (ms : List Match) (module : String) (s : Settings) :
    Outcome (HasFact ms) s module (ofMatches ms module s).manifest := by
  have hr := isRanking_bestFacts ms
  have hlisted (k : Capability) : IsRanking (HasFact ms k) ((ofMatches ms module s).listed k) := by
    rw [listed_ofMatches]
    exact hr k
  have hfailure := failure?_ofMatches ms module s hr
  rw [manifest, hfailure]
  cases hfirst : Role.all.find? fun role => decide (Contested (HasFact ms) s role) with
  | some role =>
    exact .several hfirst (mem_candidates_iff (hr _)) (pairwise_lt_sort (hr _).nodup)
  | none =>
    have hnone : ∀ role, ¬ Contested (HasFact ms) s role := by
      intro role
      simpa using List.find?_eq_none.1 hfirst role role.mem_all
    by_cases hvacant : Vacant (HasFact ms) s
    · simp only [if_pos hvacant]
      exact .noEntryPoint hnone hvacant
    · simp only [if_neg hvacant]
      refine .manifest hnone hvacant ?_
      exact {
        module_eq := rfl
        entryPoint := isHolder_holder rfl (hr _) (hnone _)
        bootstrapHook := isHolder_holder rfl (hr _) (hnone _)
        loader := isHolder_holder rfl (hr _) (hnone _)
        listeners := hlisted _
        scheduledTasks := hlisted _ }

end Verdict

end PluginFacts
