/-
# The report on a run determines it

A report is plain, so its text determines its value, and the value determines what the run results
in: a manifest is told from a failure by the key under which it stands, a failure by its tag, and a
diagnostic by its type.  A part that is left out says that it is empty or absent, because when it is
there it is neither.

The report tells no more of why an input was refused than the wording of the cause, so diagnostics
are compared by what they say (`Diagnostic.Same`).
-/
import Mathlib.Data.List.Forall2
import PluginFacts.Proofs.Json.Records
import PluginFacts.Report.Json

namespace PluginFacts

open Json

/-- Two diagnostics are of one kind and agree in everything that they say. -/
inductive Diagnostic.Same : Diagnostic → Diagnostic → Prop where
  /-- Inputs from one origin that were refused with one wording. -/
  | malformed {m m' : Malformed} (horigin : m.origin = m'.origin)
    (hreason : m.cause.message = m'.cause.message) : Same (.malformed m) (.malformed m')
  /-- One class that several inputs declare. -/
  | duplicate (d : Duplicate) : Same (.duplicate d) (.duplicate d)
  /-- One warning. -/
  | warning (w : Warning) : Same (.warning w) (.warning w)

/-! ## Reports are plain -/

lemma Failure.plain_toJson (f : Failure) : f.toJson.Plain := by
  refine PlainFields.plain_obj ?_
  cases f <;> simp [Failure.fields]

lemma Warning.plainFields (w : Warning) : PlainFields w.fields := by
  rw [Warning.fields]
  split_ifs <;> simp

lemma Diagnostic.plain_toJson (d : Diagnostic) : d.toJson.Plain := by
  refine PlainFields.plain_obj ?_
  cases d with
  | malformed m => simp [Diagnostic.fields]
  | duplicate d => simp [Diagnostic.fields]
  | warning w => simp [Diagnostic.fields, w.plainFields]

lemma Analysis.plain_toJson (a : Analysis) : a.toJson.Plain := by
  have houtcome : (outcomeToJson a.outcome).Plain := by
    cases a.outcome with
    | ok m => exact PlainFields.plain_obj (by simp [m.plain_toJson])
    | error f => exact PlainFields.plain_obj (by simp [f.plain_toJson])
  have hdiagnostics : (arr (a.diagnostics.map Diagnostic.toJson)).Plain :=
    plain_arr_map Diagnostic.plain_toJson _
  exact PlainFields.plain_obj (by simp [houtcome, hdiagnostics])

/-! ## Values determine what they are written for -/

lemma Capability.name_injective : Function.Injective Capability.name :=
  injective_of_read Capability.ofName?_name

lemma Manifest.toJson_injective : Function.Injective Manifest.toJson :=
  injective_of_read Manifest.ofJson?_toJson

lemma Failure.rivalryTag_injective : Function.Injective Failure.rivalryTag := by
  intro r r' h
  cases r <;> cases r' <;> first | rfl | exact absurd h (by decide)

lemma Failure.toJson_injective : Function.Injective Failure.toJson := by
  intro f f' h
  cases f <;> cases f' <;> simp [Failure.toJson, Failure.fields] at h ⊢
  case cyclicHierarchy.cyclicHierarchy => exact strings_injective h
  case several.several =>
    exact ⟨rivalryTag_injective h.1, strings_injective h.2⟩
  case noEntryPoint.noEntryPoint => exact h

lemma Analysis.outcomeToJson_injective : Function.Injective Analysis.outcomeToJson := by
  intro o o' h
  cases o <;> cases o' <;> simp [Analysis.outcomeToJson] at h
  · rw [Failure.toJson_injective h]
  · rw [Manifest.toJson_injective h]

/-- The parts of a warning are found in its fields, a class without a name being left out. -/
lemma Warning.lookup_fields (w : Warning) :
    w.fields.lookup "capability" = some (str w.capability.name) ∧
    w.fields.lookup "class" = (if w.className = "" then none else some (str w.className)) ∧
    w.fields.lookup "rule" = some (str w.rule) ∧
    w.fields.lookup "enclosing" = w.enclosing.map str := by
  simp [Warning.fields, ite_eq_optField, List.lookup_append, List.lookup_cons]

lemma Warning.fields_injective : Function.Injective Warning.fields := by
  intro w w' h
  obtain ⟨hcapability, hclass, hrule, henclosing⟩ := w.lookup_fields
  obtain ⟨hcapability', hclass', hrule', henclosing'⟩ := w'.lookup_fields
  rw [h] at hcapability hclass hrule henclosing
  have hk : w.capability = w'.capability := by
    simpa [Capability.name_injective.eq_iff] using hcapability.symm.trans hcapability'
  have hc : w.className = w'.className := by
    have heq := hclass.symm.trans hclass'
    split_ifs at heq with hempty hempty' hempty'
    · rw [hempty, hempty']
    · simpa using heq
  have hr : w.rule = w'.rule := by
    simpa using hrule.symm.trans hrule'
  have he : w.enclosing = w'.enclosing :=
    Option.map_injective (fun _ _ hs => Json.str.inj hs) (henclosing.symm.trans henclosing')
  cases w
  cases w'
  simp_all

lemma Diagnostic.toJson_eq_iff {d d' : Diagnostic} : d.toJson = d'.toJson ↔ d.Same d' := by
  constructor
  · intro h
    cases d <;> cases d' <;> simp [Diagnostic.toJson, Diagnostic.fields] at h
    case malformed.malformed => exact .malformed h.1 h.2
    case duplicate.duplicate d d' =>
      have heq : d = d' := by
        cases d
        cases d'
        simp_all [strings_injective.eq_iff]
      exact heq ▸ .duplicate d
    case warning.warning w w' => exact Warning.fields_injective h ▸ .warning w
  · intro h
    cases h with
    | malformed horigin hreason => simp [Diagnostic.toJson, Diagnostic.fields, horigin, hreason]
    | duplicate d => rfl
    | warning w => rfl

/-- **The report determines the outcome and the diagnostics.**  Two runs have one report just if
they have one outcome, the same manifest or the same failure, and their diagnostics say the same in
the same order. -/
theorem Analysis.report_eq_report_iff (a a' : Analysis) :
    a.report = a'.report ↔
      a.outcome = a'.outcome ∧ List.Forall₂ Diagnostic.Same a.diagnostics a'.diagnostics := by
  have hdiagnostics : a.diagnostics.map Diagnostic.toJson = a'.diagnostics.map Diagnostic.toJson ↔
      List.Forall₂ Diagnostic.Same a.diagnostics a'.diagnostics := by
    simp only [← List.forall₂_eq_eq_eq, List.forall₂_map_left_iff, List.forall₂_map_right_iff,
      Diagnostic.toJson_eq_iff]
  have hvalue : a.report = a'.report ↔ a.toJson = a'.toJson :=
    ⟨render_injective a.plain_toJson a'.plain_toJson, congrArg pretty⟩
  rw [hvalue, ← hdiagnostics, ← outcomeToJson_injective.eq_iff]
  simp [Analysis.toJson]

end PluginFacts
