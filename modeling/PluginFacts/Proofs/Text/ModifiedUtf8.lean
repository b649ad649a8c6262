/-
# Modified UTF-8, read as UTF-8

Class files spell a text unit by unit, where a unit has sixteen bits and takes one to three bytes.
This is UTF-8 but for two points: the unit zero takes two bytes, and a character beyond the basic
plane is spelled by its two surrogates, each in three bytes.  In UTF-8 no character begins with any
of these bytes, so a reader puts U+FFFD for every one of them (`decodeLossy_bytes`).

Hence a text is read as it is if none of its units is zero or a surrogate (`shown_inj`), and
otherwise only the kinds of these units count: all surrogates look the same.
-/
import Mathlib.Data.List.Basic
import Mathlib.Tactic.IntervalCases
import PluginFacts.Text.Utf8

namespace PluginFacts.Text.ModifiedUtf8

/-- How a unit is spelled. -/
def unitBytes (u : UInt16) : List UInt8 :=
  if 0 < u.toNat ∧ u.toNat < 0x80 then [.ofNat u.toNat]
  else if u.toNat < 0x800 then [.ofNat (0xC0 + u.toNat / 0x40), .ofNat (0x80 + u.toNat % 0x40)]
  else [.ofNat (0xE0 + u.toNat / 0x1000), .ofNat (0x80 + u.toNat / 0x40 % 0x40),
    .ofNat (0x80 + u.toNat % 0x40)]

/-- How a text is spelled, by its units. -/
def bytes (us : List UInt16) : List UInt8 :=
  us.flatMap unitBytes

/-- A unit that is half of a character beyond the basic plane. -/
def IsSurrogate (u : UInt16) : Prop :=
  0xD800 ≤ u.toNat ∧ u.toNat < 0xE000

instance : DecidablePred IsSurrogate := fun _ => inferInstanceAs (Decidable (_ ∧ _))

/-- What a reader of UTF-8 sees of a unit. -/
def seen (u : UInt16) : List (Option Char) :=
  if u = 0 then [none, none]
  else if IsSurrogate u then [none, none, none]
  else [some (Char.ofNat u.toNat)]

/-- The text that a reader of UTF-8 makes of units. -/
def shown (us : List UInt16) : String :=
  String.ofList ((us.flatMap seen).map (·.getD '\uFFFD'))

open Utf8

lemma go_eq_append (before : List (Option Char)) (bs : List UInt8) :
    units.go before bs = before.reverse ++ units bs := by
  induction hn : bs.length using Nat.strongRecOn generalizing before bs with
  | ind n ih =>
    cases bs with
    | nil => simp [units, units.go]
    | cons b rest =>
      have hlt : (unit b rest).2.length < n := by
        have := length_unit_le b rest
        rw [← hn, List.length_cons]
        omega
      rw [units, units.go, units.go, ih _ hlt _ _ rfl, ih _ hlt [_] _ rfl]
      simp

lemma units_cons (b : UInt8) (rest : List UInt8) :
    units (b :: rest) = (unit b rest).1 :: units (unit b rest).2 := by
  rw [units, units.go, go_eq_append]
  rfl

/-- A byte with which no character begins is unreadable. -/
lemma units_cons_of_lead?_eq_none {b : UInt8} (hb : lead? b.toNat = none) (rest : List UInt8) :
    units (b :: rest) = none :: units rest := by
  rw [units_cons, unit, hb]

lemma lead?_eq_none {n : ℕ} (hlow : 0x80 ≤ n) (hhigh : n < 0xC2) : lead? n = none := by
  rw [lead?, if_neg (by omega), if_pos hhigh]

lemma toNat_ofNat {n : ℕ} (hn : n < 0x100) : (UInt8.ofNat n).toNat = n :=
  UInt8.toNat_ofNat_of_lt hn

/-- A unit of one byte is read as it is. -/
lemma units_one {n : ℕ} (hn : n < 0x80) (rest : List UInt8) :
    units (.ofNat n :: rest) = some (Char.ofNat n) :: units rest := by
  rw [units_cons, unit, toNat_ofNat (by omega), lead?, if_pos hn]
  rfl

/-- A unit of two bytes is read as it is. -/
lemma units_two {n : ℕ} (hlow : 0x80 ≤ n) (hhigh : n < 0x800) (rest : List UInt8) :
    units (.ofNat (0xC0 + n / 0x40) :: .ofNat (0x80 + n % 0x40) :: rest) =
      some (Char.ofNat n) :: units rest := by
  have hlead : lead? (0xC0 + n / 0x40) = some { bits := n / 0x40, tail := 1 } := by
    rw [lead?, if_neg (by omega), if_neg (by omega), if_pos (by omega), Nat.add_sub_cancel_left]
  have hcode : n / 0x40 * 64 + n % 0x40 = n := by omega
  rw [units_cons, unit, toNat_ofNat (by omega), hlead]
  simp only [continued, toNat_ofNat (show 0x80 + n % 0x40 < 0x100 by omega)]
  rw [if_pos (by omega), Nat.add_sub_cancel_left, hcode]
  rfl

/-- The lead byte of three bytes; the first and the last before the surrogates narrow
the next byte. -/
lemma lead?_three {q : ℕ} (hq : q < 0x10) :
    lead? (0xE0 + q) = some
      ⟨q, 2, if q = 0 then 0xA0 else 0x80, if q = 0xD then 0x9F else 0xBF⟩ := by
  interval_cases q <;> rfl

/-- A unit of three bytes is read as it is, unless it is a surrogate. -/
lemma units_three {n : ℕ} (hlow : 0x800 ≤ n) (hhigh : n < 0x10000)
    (hsurrogate : ¬ (0xD800 ≤ n ∧ n < 0xE000)) (rest : List UInt8) :
    units (.ofNat (0xE0 + n / 0x1000) :: .ofNat (0x80 + n / 0x40 % 0x40) ::
      .ofNat (0x80 + n % 0x40) :: rest) = some (Char.ofNat n) :: units rest := by
  have hcode : (n / 0x1000 * 64 + n / 0x40 % 0x40) * 64 + n % 0x40 = n := by omega
  rw [units_cons, unit, toNat_ofNat (by omega), lead?_three (by omega)]
  simp only [continued, toNat_ofNat (show 0x80 + n / 0x40 % 0x40 < 0x100 by omega),
    toNat_ofNat (show 0x80 + n % 0x40 < 0x100 by omega)]
  rw [if_pos (by split_ifs <;> omega), if_pos (by omega), Nat.add_sub_cancel_left,
    Nat.add_sub_cancel_left, hcode]
  rfl

/-- Of a surrogate, none of the three bytes begins a character. -/
lemma units_surrogate {n : ℕ} (hlow : 0xD800 ≤ n) (hhigh : n < 0xE000) (rest : List UInt8) :
    units (.ofNat (0xE0 + n / 0x1000) :: .ofNat (0x80 + n / 0x40 % 0x40) ::
      .ofNat (0x80 + n % 0x40) :: rest) = none :: none :: none :: units rest := by
  have hlead : n / 0x1000 = 0xD := by omega
  rw [units_cons, unit, toNat_ofNat (by omega), lead?_three (by omega)]
  simp only [continued, toNat_ofNat (show 0x80 + n / 0x40 % 0x40 < 0x100 by omega)]
  rw [if_neg (by rw [if_pos hlead]; omega)]
  simp only [Option.map_none]
  rw [units_cons_of_lead?_eq_none, units_cons_of_lead?_eq_none]
  · rw [toNat_ofNat (by omega)]
    exact lead?_eq_none (by omega) (by omega)
  · rw [toNat_ofNat (by omega)]
    exact lead?_eq_none (by omega) (by omega)

/-- A unit is seen in the same way whatever follows. -/
lemma units_unitBytes_append (u : UInt16) (rest : List UInt8) :
    units (unitBytes u ++ rest) = seen u ++ units rest := by
  have hlt : u.toNat < 0x10000 := u.toNat_lt
  by_cases hzero : u = 0
  · subst hzero
    exact (units_cons_of_lead?_eq_none rfl _).trans
      (congrArg _ (units_cons_of_lead?_eq_none rfl _))
  · have hpos : 0 < u.toNat := Nat.pos_of_ne_zero fun h => hzero (UInt16.toNat_inj.1 h)
    rw [seen, if_neg hzero, unitBytes]
    split_ifs with hone hsurrogate htwo hsurrogate hsurrogate
    · exact absurd hsurrogate.1 (by omega)
    · exact units_one hone.2 rest
    · exact absurd hsurrogate.1 (by omega)
    · exact units_two (by omega) htwo rest
    · exact units_surrogate hsurrogate.1 hsurrogate.2 rest
    · exact units_three (by omega) hlt hsurrogate rest

/-- The bytes of a text are read as the text that is shown for its units. -/
theorem decodeLossy_bytes (us : List UInt16) : decodeLossy (bytes us) = shown us := by
  have hunits : units (bytes us) = us.flatMap seen := by
    induction us with
    | nil => simp [bytes, units, units.go]
    | cons u us ih =>
      rw [bytes] at ih ⊢
      rw [List.flatMap_cons, units_unitBytes_append, ih, List.flatMap_cons]
  rw [decodeLossy, hunits, shown]

/-! ## Texts that are read as they are -/

/-- No unit is zero or a surrogate. -/
def IsReadable (us : List UInt16) : Prop :=
  ∀ u ∈ us, u ≠ 0 ∧ ¬ IsSurrogate u

instance : DecidablePred IsReadable :=
  List.decidableBAll fun u => u ≠ 0 ∧ ¬ IsSurrogate u

lemma IsReadable.toList_shown {us : List UInt16} (h : IsReadable us) :
    (shown us).toList = us.map fun u => Char.ofNat u.toNat := by
  rw [shown, String.toList_ofList]
  induction us with
  | nil => rfl
  | cons u us ih =>
    obtain ⟨⟨hzero, hsurrogate⟩, hus⟩ := List.forall_mem_cons.1 h
    rw [List.flatMap_cons, List.map_append, ih hus, seen, if_neg hzero, if_neg hsurrogate]
    rfl

lemma toNat_ofNat_of_not_isSurrogate {u : UInt16} (h : ¬ IsSurrogate u) :
    (Char.ofNat u.toNat).toNat = u.toNat := by
  have hvalid : u.toNat.isValidChar := by
    have := u.toNat_lt
    rw [IsSurrogate] at h
    rw [Nat.isValidChar]
    omega
  rw [Char.ofNat, dif_pos hvalid]
  rfl

/-- Different texts are shown differently if they are readable. -/
theorem shown_inj {us us' : List UInt16} (h : IsReadable us) (h' : IsReadable us') :
    shown us = shown us' ↔ us = us' := by
  have hcodes : ∀ {us : List UInt16}, IsReadable us →
      (shown us).toList.map Char.toNat = us.map UInt16.toNat := by
    intro us h
    rw [h.toList_shown, List.map_map]
    exact List.map_congr_left fun u hu => toNat_ofNat_of_not_isSurrogate (h u hu).2
  constructor
  · intro heq
    have hmap : us.map UInt16.toNat = us'.map UInt16.toNat := by
      rw [← hcodes h, ← hcodes h', heq]
    exact List.map_injective_iff.2 (fun _ _ => UInt16.toNat_inj.1) hmap
  · exact congrArg shown

end PluginFacts.Text.ModifiedUtf8
