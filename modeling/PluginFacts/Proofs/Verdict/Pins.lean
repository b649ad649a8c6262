/-
# Pinning a class to a role

To pin a class to a role touches this role alone.  The facts and the warnings stay, also those about
the role; of the failures those about the role go, and the others stay in their order.  So where
there was a manifest there still is one, and it differs in the holder of the role at most.
-/
import PluginFacts.Proofs.Verdict.Failures

namespace PluginFacts

/-- The manifest with a class in a role. -/
def Manifest.withHolder (m : Manifest) (name : String) : Role → Manifest
  | .entryPoint => { m with entryPoint := some name }
  | .bootstrapHook => { m with bootstrapHook := some name }
  | .pluginLoader => { m with loader := some name }

/-- A verdict differs from another one as it does when a class is pinned to a role. -/
structure Verdict.IsPinnedTo (v v' : Verdict) (role : Role) (name : String) : Prop where
  factsOf_eq : ∀ k, v'.factsOf k = v.factsOf k
  warnings_eq : v'.warnings = v.warnings
  pinned_eq : ∀ k, v'.pinned k = if k = role.capability then some name else v.pinned k
  /-- The failures about the role are gone. -/
  violations_eq : v'.violations =
    v.violations.filter fun x => ¬ (x.isFatal ∧ x.capability = role.capability)
  /-- A manifest stays one, with the class in the role. -/
  manifest_eq : ∀ m, v.manifest = .ok m → v'.manifest = .ok (m.withHolder name role)

@[simp] lemma Role.capability_inj {role role' : Role} :
    role.capability = role'.capability ↔ role = role' := by
  cases role <;> cases role' <;> decide

lemma Pins.get?_set (p : Pins) (name : String) (role role' : Role) :
    (p.set name role).get? role' = if role' = role then some name else p.get? role' := by
  cases role <;> cases role' <;> rfl

lemma Settings.withPinned_capability (s : Settings) (role : Role) (name : String) :
    s.withPinned role.capability name = { s with pins := s.pins.set name role } := by
  simp [withPinned]

section Outcome

variable {P : Capability → String → ℕ → Prop} {s : Settings} {role role' : Role} {name : String}

/-- A role is not contested once it is pinned. -/
lemma contested_withPinned_iff :
    Contested P (s.withPinned role.capability name) role' ↔ Contested P s role' ∧ role' ≠ role := by
  rw [Contested, Contested, Settings.withPinned_capability, Pins.get?_set]
  by_cases hrole : role' = role <;> simp [hrole]

lemma vacant_withPinned_iff :
    Vacant P (s.withPinned role.capability name) ↔ Vacant P s ∧ .entryPoint ≠ role := by
  rw [Vacant, Vacant, Settings.withPinned_capability]
  cases role <;> simp [Pins.set]

end Outcome

namespace Verdict

variable {ms : List Match} {module : String} {s : Settings} {role : Role} {name : String}

open Classical in
/-- The failures about the role go, and the others stay. -/
lemma fatal_withPinned (ms : List Match) (module : String) (s : Settings) (role : Role)
    (name : String) :
    (ofMatches ms module (s.withPinned role.capability name)).fatal =
      (ofMatches ms module s).fatal.filter fun f => f.1 ≠ role := by
  have hr := isRanking_bestFacts ms
  rw [fatal_ofMatches ms module _ hr, fatal_ofMatches ms module s hr, List.filter_append,
    List.filter_map, List.filter_filter]
  congr 1
  · congr 2
    funext role'
    simp [contested_withPinned_iff, and_comm]
  · by_cases hvacant : Vacant (HasFact ms) s <;> by_cases hrole : .entryPoint = role <;>
      simp [vacant_withPinned_iff, hvacant, hrole]

/-- The violations are the warnings and those failures that are left. -/
lemma violations_withPinned (ms : List Match) (module : String) (s : Settings) (role : Role)
    (name : String) :
    (ofMatches ms module (s.withPinned role.capability name)).violations =
      (ofMatches ms module s).violations.filter fun x =>
        ¬ (x.isFatal ∧ x.capability = role.capability) := by
  have hwarnings : (ofMatches ms module (s.withPinned role.capability name)).warnings =
      (ofMatches ms module s).warnings := rfl
  rw [violations, violations, fatal_withPinned, hwarnings, List.filter_append, List.filter_map,
    List.filter_map]
  simp [Function.comp_def, Violation.isFatal, Violation.capability]

lemma holder_withPinned (ms : List Match) (module : String) (s : Settings) (role role' : Role)
    (name : String) :
    (ofMatches ms module (s.withPinned role.capability name)).holder role' =
      if role' = role then some name else (ofMatches ms module s).holder role' := by
  have hpins :
      (ofMatches ms module (s.withPinned role.capability name)).pins = s.pins.set name role := by
    rw [Settings.withPinned_capability]
    rfl
  rw [holder, hpins, Pins.get?_set]
  by_cases hrole : role' = role
  · simp [hrole]
  · simp only [if_neg hrole]
    rfl

lemma manifest_withPinned {m : Manifest} (hm : (ofMatches ms module s).manifest = .ok m) :
    (ofMatches ms module (s.withPinned role.capability name)).manifest =
      .ok (m.withHolder name role) := by
  cases hfatal : (ofMatches ms module s).fatal with
  | cons f fs =>
    rw [manifest_of_fatal_eq_cons hfatal] at hm
    cases hm
  | nil =>
    have hfatal' := fatal_withPinned ms module s role name
    rw [hfatal, List.filter_nil] at hfatal'
    rw [manifest_of_fatal_eq_nil hfatal] at hm
    cases hm
    rw [manifest_of_fatal_eq_nil hfatal']
    simp only [holder_withPinned]
    cases role <;> rfl

lemma pinned_withPinned (ms : List Match) (module : String) (s : Settings) (role : Role)
    (name : String) (k : Capability) :
    (ofMatches ms module (s.withPinned role.capability name)).pinned k =
      if k = role.capability then some name else (ofMatches ms module s).pinned k := by
  rw [Settings.withPinned_capability]
  cases k <;> cases role <;> rfl

/-- **A pin touches its role alone.**  To pin a class to a role leaves the facts, the warnings and
the other pins as they are, takes away the failures about the role and no others, and changes a
manifest in the holder of the role at most. -/
theorem isPinnedTo_withPinned (ms : List Match) (module : String) (s : Settings) (role : Role)
    (name : String) :
    (ofMatches ms module s).IsPinnedTo
      (ofMatches ms module (s.withPinned role.capability name)) role name where
  factsOf_eq _ := rfl
  warnings_eq := rfl
  pinned_eq := pinned_withPinned ms module s role name
  violations_eq := violations_withPinned ms module s role name
  manifest_eq _ := manifest_withPinned

end Verdict

end PluginFacts
