/-
# The warnings of a verdict

A verdict warns about a class and a capability if the class has matches for the capability but none
of them is a fact.  There is one warning for each such class and capability, in the order of classes
and then of capabilities, and it is about the match that comes first: the one of least depth, and of
those the one whose rule comes first.
-/
import PluginFacts.Proofs.Verdict.Facts

namespace PluginFacts

namespace Warning

/-- One warning comes before another: its class does, or the classes are the same and its capability
does. -/
def Precedes (v w : Warning) : Prop :=
  v.className < w.className ∨
    v.className = w.className ∧ compare v.capability w.capability = .lt

lemma Precedes.asymm {v w : Warning} (hvw : v.Precedes w) : ¬ w.Precedes v := by
  intro hwv
  rcases hvw with hlt | ⟨heq, hlt⟩
  · rcases hwv with hlt' | ⟨heq', -⟩
    · exact lt_asymm hlt hlt'
    · exact absurd heq'.symm (ne_of_lt hlt)
  · rcases hwv with hlt' | ⟨-, hlt'⟩
    · exact absurd heq.symm (ne_of_lt hlt')
    · rw [Std.OrientedCmp.gt_of_lt hlt] at hlt'
      cases hlt'

lemma isSortOrder_le : IsSortOrder Warning.le :=
  .of_cmp (compareLex (compareOn Warning.className) (compareOn Warning.capability))

/-- What a warning denies: that a class has a capability. -/
def claim (w : Warning) : Capability × String :=
  (w.capability, w.className)

lemma precedes_of_le {v w : Warning} (h : v.le w) (hne : v.claim ≠ w.claim) : v.Precedes w := by
  rw [le, Ordering.isLE_then_iff_or, compare_lt_iff_lt, Std.compare_eq_iff_eq] at h
  rcases h with hlt | ⟨heq, hle⟩
  · exact Or.inl hlt
  · refine Or.inr ⟨heq, ?_⟩
    have hcapability : compare v.capability w.capability ≠ .eq := by
      rw [Ne, Std.compare_eq_iff_eq]
      exact fun h => hne (Prod.ext h heq)
    exact Ordering.isLE_iff_eq_lt_or_eq_eq.1 hle |>.resolve_right hcapability

end Warning

namespace Verdict

variable {ms : List Match} {m : Match} {w : Warning} {module : String} {s : Settings}

/-- No match gives the class of this match the capability, as all of them miss a shape. -/
def FallsShort (ms : List Match) (m : Match) : Prop :=
  ∀ n ∈ ms, n.claim = m.claim → n.shape = .missing

/-- Whether a match and all others of its claim are no facts, as the verdict finds out. -/
def lacksFact (ms : List Match) (m : Match) : Bool :=
  !m.isFact && !(ms.mergeSort Match.le).any fun n => n.isFact && m.sameClaim n

/-- The matches that are warned about are the best ones among those without a fact. -/
lemma lacking_eq (ms : List Match) : lacking ms = Match.bestOf (lacksFact ms) ms :=
  rfl

lemma lacksFact_iff (hm : m ∈ ms) : lacksFact ms m ↔ FallsShort ms m := by
  rw [lacksFact, Bool.and_eq_true, Bool.not_eq_true', Bool.not_eq_true', List.any_eq_false,
    Bool.eq_false_iff, Ne, Match.isFact_iff, not_not]
  simp only [List.mem_mergeSort, Bool.and_eq_true, Match.isFact_iff, Match.sameClaim_iff]
  constructor
  · rintro ⟨-, hnone⟩ n hn hclaim
    by_contra hfact
    exact hnone n hn ⟨hfact, hclaim.symm⟩
  · intro hnone
    exact ⟨hnone m hm rfl, fun n hn hboth => hboth.1 (hnone n hn hboth.2.symm)⟩

lemma FallsShort.of_claim_eq {n : Match} (h : FallsShort ms m) (hclaim : n.claim = m.claim) :
    FallsShort ms n :=
  fun i hi hin => h i hi (hin.trans hclaim)

/-- Where no match of a claim is a fact, the best match is the best of those that are no facts. -/
lemma mem_lacking_iff :
    m ∈ lacking ms ↔ FallsShort ms m ∧ m.IsBest (fun n => n.shape = .missing) ms := by
  rw [lacking_eq, Match.mem_bestOf_iff]
  -- within a claim that falls short both kinds are all the matches
  have hkinds (hshort : FallsShort ms m) :
      ∀ n ∈ ms, n.claim = m.claim → (lacksFact ms n ↔ n.shape = .missing) := by
    intro n hn hclaim
    rw [lacksFact_iff hn]
    exact iff_of_true (hshort.of_claim_eq hclaim) (hshort n hn hclaim)
  constructor
  · intro hbest
    have hshort := (lacksFact_iff hbest.mem).1 hbest.1
    exact ⟨hshort, hbest.congr (hkinds hshort)⟩
  · rintro ⟨hshort, hbest⟩
    exact hbest.congr fun n hn hclaim => (hkinds hshort n hn hclaim).symm

/-- A warning is about the first match of a class that falls short. -/
lemma exists_of_mem_warnings (hw : w ∈ (ofMatches ms module s).warnings) :
    ∃ m ∈ ms, m.toWarning = w ∧ FallsShort ms m ∧
      ∀ n ∈ ms, n.claim = m.claim → m.depth < n.depth ∨ m.depth = n.depth ∧ m.rule ≤ n.rule := by
  obtain ⟨m, hm, rfl⟩ := List.mem_map.1 (List.mem_mergeSort.1 hw)
  obtain ⟨hshort, hbest⟩ := mem_lacking_iff.1 hm
  refine ⟨m, hbest.mem, rfl, hshort, ?_⟩
  intro n hn hclaim
  exact Prod.Lex.toLex_le_toLex.1 (hbest.rank_le hn (hshort n hn hclaim) hclaim)

lemma exists_mem_warnings (hm : m ∈ ms) (hshort : FallsShort ms m) :
    ∃ w ∈ (ofMatches ms module s).warnings, w.claim = m.claim := by
  obtain ⟨f, hf, hclaim⟩ := Match.exists_mem_bestOf hm ((lacksFact_iff hm).2 hshort)
  exact ⟨f.toWarning, List.mem_mergeSort.2 (List.mem_map.2 ⟨f, hf, rfl⟩), hclaim⟩

/-- The warnings come in order, one for each class and capability. -/
theorem pairwise_warnings (ms : List Match) (module : String) (s : Settings) :
    (ofMatches ms module s).warnings.Pairwise Warning.Precedes := by
  have hclaims : ((lacking ms).map Match.toWarning).Pairwise fun v w => v.claim ≠ w.claim := by
    rw [List.pairwise_map, lacking_eq]
    exact (Match.pairwise_bestOf _ ms).imp fun h => h.2
  have hsorted : (ofMatches ms module s).warnings.Pairwise fun v w => v.claim ≠ w.claim :=
    hclaims.perm (List.mergeSort_perm _ _).symm fun h => h.symm
  exact (Warning.isSortOrder_le.pairwise_sort _).imp₂ (fun _ _ => Warning.precedes_of_le) hsorted

end Verdict

end PluginFacts
