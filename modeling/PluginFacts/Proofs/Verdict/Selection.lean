/-
# What a verdict takes from the matches

Of all the matches of a class for a capability a verdict takes one at most: the best fact, or the
best of the others if there is no fact.  The facts are passed on as they are, and of the others a
warning is made. `Takes` says so of any facts and warnings, with the order that they come in, and by
`Verdict.takes_ofMatches` those of a verdict are such.  Pins and the kind of the module have no part
in this: they decide which failures stand behind the warnings.
-/
import PluginFacts.Proofs.Verdict.Warnings

namespace PluginFacts

/-- Facts and warnings are what some matches amount to. -/
structure Takes (ms : List Match) (facts : Capability → List Match) (ws : List Warning) : Prop where
  /-- A fact is the best one of its claim among the matches that do not miss a shape. -/
  mem_facts_iff : ∀ k f, f ∈ facts k ↔ f.capability = k ∧ f.IsBest (fun m => m.shape ≠ .missing) ms
  /-- There is a fact for every class and capability with a match that does not miss a shape. -/
  exists_fact_iff : ∀ k a, (∃ f ∈ facts k, f.className = a) ↔
    ∃ m ∈ ms, m.shape ≠ .missing ∧ m.claim = (k, a)
  /-- The facts of a capability come in order of depth and class, one for each class. -/
  pairwise_facts : ∀ k, (facts k).Pairwise fun f g => f.place < g.place ∧ f.className ≠ g.className
  /-- A warning is made of the best match of its claim where all matches miss a shape. -/
  mem_warnings_iff : ∀ w, w ∈ ws ↔
    ∃ m, m.toWarning = w ∧ Verdict.FallsShort ms m ∧ m.IsBest (fun n => n.shape = .missing) ms
  /-- There is a warning for every class and capability that has matches, but none that does not
  miss a shape. -/
  exists_warning_iff : ∀ k a, (∃ w ∈ ws, w.claim = (k, a)) ↔
    (∃ m ∈ ms, m.shape = .missing ∧ m.claim = (k, a)) ∧
      ¬ ∃ m ∈ ms, m.shape ≠ .missing ∧ m.claim = (k, a)
  /-- The warnings come in order of class and capability, one for each. -/
  pairwise_warnings : ws.Pairwise Warning.Precedes

namespace Verdict

variable {ms : List Match} {m f : Match} {w : Warning}

@[simp] lemma filter_not_isFatal (v : Verdict) :
    v.violations.filter (fun x => !x.isFatal) = v.warnings.map .warning := by
  simp [violations, Violation.isFatal, List.filter_map, Function.comp_def]

end Verdict

end PluginFacts
