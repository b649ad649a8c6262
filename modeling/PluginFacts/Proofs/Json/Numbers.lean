/-
# Natural numbers are read as they are written

A natural number is written by its decimal digits, the first of which is no zero unless it is the
only one.  A reader takes as many digits as it can and then looks for a fraction and an exponent, so
a number is read back wherever neither a digit nor one of these follows (`EndsNumber`).
-/
import Mathlib.Data.List.Basic
import Mathlib.Data.List.TakeDrop
import PluginFacts.Json.Reader

namespace PluginFacts.Json

/-- What follows a number does not go on with it. -/
def EndsNumber (rest : List Char) : Prop :=
  ∀ c ∈ rest.head?, ¬ c.isDigit ∧ c ≠ '.' ∧ c ≠ 'e' ∧ c ≠ 'E'

@[simp] lemma endsNumber_nil : EndsNumber [] := by
  simp [EndsNumber]

lemma endsNumber_cons {c : Char} {l : List Char} :
    EndsNumber (c :: l) ↔ ¬ c.isDigit ∧ c ≠ '.' ∧ c ≠ 'e' ∧ c ≠ 'E' := by
  simp [EndsNumber]

lemma toList_toString_nat (n : ℕ) : (toString n).toList = Nat.toDigits 10 n := by
  rw [Nat.toString_eq_repr, Nat.toList_repr]

lemma isDigit_of_mem_toDigits {n : ℕ} {c : Char} (hc : c ∈ Nat.toDigits 10 n) : c.isDigit :=
  Nat.isDigit_of_mem_toDigits (by decide) (by decide) hc

/-- Only the number zero is written with a zero in front. -/
lemma head?_toDigits_eq_zero {n : ℕ} : (Nat.toDigits 10 n).head? = some '0' ↔ n = 0 := by
  induction n using Nat.strongRecOn with
  | ind n ih =>
    rcases Nat.lt_or_ge n 10 with hn | hn
    · rw [Nat.toDigits_of_lt_base hn, List.head?_singleton, Option.some_inj, Nat.digitChar_eq_zero]
    · have hquotient : (Nat.toDigits 10 (n / 10)).head? = some '0' ↔ n / 10 = 0 := ih _ (by omega)
      rw [Nat.toDigits_of_base_le (by decide) hn,
        List.head?_append_of_ne_nil _ Nat.toDigits_ne_nil, hquotient]
      omega

lemma no_leading_zero (n : ℕ) :
    ¬ ((Nat.toDigits 10 n).length > 1 ∧ (Nat.toDigits 10 n).head? = some '0') := by
  rintro ⟨hlength, hhead⟩
  rw [head?_toDigits_eq_zero] at hhead
  subst hhead
  exact absurd hlength (by decide)

lemma natOfDigits_toDigits (n : ℕ) : natOfDigits (Nat.toDigits 10 n) = n := by
  have hvalue : Nat.ofDigitChars 10 (Nat.toDigits 10 n) 0 = n := Nat.ofDigitChars_ten_toDigits
  simpa only [natOfDigits, Nat.ofDigitChars, Nat.mul_comm] using hvalue

lemma splitDigits_toDigits (n : ℕ) {rest : List Char} (hrest : EndsNumber rest) :
    splitDigits (Nat.toDigits 10 n ++ rest) = (Nat.toDigits 10 n, rest) := by
  have hdigits : ∀ c ∈ Nat.toDigits 10 n, c.isDigit := fun c => isDigit_of_mem_toDigits
  have hstop : rest.takeWhile Char.isDigit = [] ∧ rest.dropWhile Char.isDigit = rest := by
    cases rest with
    | nil => exact ⟨rfl, rfl⟩
    | cons c l =>
      have hc : ¬ c.isDigit := (endsNumber_cons.1 hrest).1
      simp [hc]
  rw [splitDigits, List.span_eq_takeWhile_dropWhile, List.takeWhile_append_of_pos hdigits,
    List.dropWhile_append_of_pos hdigits, hstop.1, hstop.2, List.append_nil]

lemma fraction_of_endsNumber {rest : List Char} (hrest : EndsNumber rest) :
    fraction rest = some ([], rest) := by
  cases rest with
  | nil => rfl
  | cons c l =>
    have hc := endsNumber_cons.1 hrest
    rw [fraction]
    exact fun _ h => absurd (List.cons.inj h).1 hc.2.1

lemma exponent_of_endsNumber {rest : List Char} (hrest : EndsNumber rest) :
    exponent rest = some ([], rest) := by
  rcases rest with _ | ⟨c, _ | ⟨d, l⟩⟩
  · rfl
  all_goals
    have hc := endsNumber_cons.1 hrest
    simp [exponent, hc.2.2]

/-- Where nothing follows that goes on with it, a natural number is read as it is written. -/
theorem unsigned_toString (n : ℕ) {rest : List Char} (hrest : EndsNumber rest) :
    unsigned [] ((toString n).toList ++ rest) = some (nat n, rest) := by
  rw [toList_toString_nat, unsigned, splitDigits_toDigits n hrest]
  simp [Nat.toDigits_ne_nil, no_leading_zero, fraction_of_endsNumber hrest,
    exponent_of_endsNumber hrest, natOfDigits_toDigits, -not_and]

end PluginFacts.Json
