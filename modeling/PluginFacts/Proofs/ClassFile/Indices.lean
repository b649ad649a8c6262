/-
# Indices of a constant pool

A constant has the index that comes after the indices of all constants before it (`indexAt`), so the
indices are those of the constants, in order, and the vacant ones: `0`, the second index of a wide
constant, and all that the pool has not announced (`IsVacant`).  `Pool.LinesUp` says what is found
at each of them.

`Pool.decode` puts one slot after another and never counts how many there is room for.
`Pool.decodeInPlace` writes them into a table that has its size from the start, by index, and has no
result if one of them has no place there.  That the two are equal (`Pool.decodeInPlace_eq`) means
that every slot has its place.
-/
import PluginFacts.Proofs.ClassFile.Constants

namespace PluginFacts.ClassFile

/-! ## Indices -/

/-- The index of a constant, given its number among the constants. -/
def indexAt (cs : List Constant) (k : ℕ) : ℕ :=
  slotCount (cs.take k)

/-- The indices below `size` at which there is no constant, and the ones from there on. -/
inductive IsVacant (cs : List Constant) (size : ℕ) : ℕ → Prop
  /-- The first index is not used. -/
  | zero : IsVacant cs size 0
  /-- The second index of a wide constant refers to nothing. -/
  | second {k : ℕ} {c : Constant} (hc : cs[k]? = some c) (hwide : c.isWide) :
    IsVacant cs size (indexAt cs k + 1)
  /-- The index is beyond those that are announced. -/
  | beyond {i : ℕ} (hi : size ≤ i) : IsVacant cs size i

section indexAt

variable {cs : List Constant} {c d : Constant} {i j k n : ℕ}

lemma indexAt_zero (cs : List Constant) : indexAt cs 0 = 1 :=
  rfl

lemma indexAt_cons_succ (c : Constant) (cs : List Constant) (k : ℕ) :
    indexAt (c :: cs) (k + 1) = indexAt cs k + c.width :=
  slotCount_cons c (cs.take k)

lemma indexAt_pos (cs : List Constant) (k : ℕ) : 0 < indexAt cs k :=
  slotCount_pos _

lemma standsAt_iff : StandsAt cs i c ↔ ∃ k, cs[k]? = some c ∧ i = indexAt cs k := by
  constructor
  · rintro ⟨before, after, rfl, rfl⟩
    refine ⟨before.length, by simp, ?_⟩
    rw [indexAt, List.take_left]
  · rintro ⟨k, hc, rfl⟩
    obtain ⟨hk, rfl⟩ := List.getElem?_eq_some_iff.1 hc
    refine ⟨cs.take k, cs.drop (k + 1), ?_, rfl⟩
    rw [List.getElem_cons_drop, List.take_append_drop]

/-- The indices of a constant come before that of a later one. -/
lemma indexAt_add_width_le (hc : cs[j]? = some c) (hjk : j < k) :
    indexAt cs j + c.width ≤ indexAt cs k := by
  induction cs generalizing j k with
  | nil => cases hc
  | cons b cs ih =>
    obtain ⟨k, rfl⟩ := Nat.exists_eq_add_one_of_ne_zero (Nat.ne_zero_of_lt hjk)
    rw [indexAt_cons_succ]
    cases j with
    | zero =>
      obtain rfl : b = c := by simpa using hc
      have hpos := indexAt_pos cs k
      rw [indexAt_zero]
      omega
    | succ j =>
      have hle := ih (by simpa using hc) (Nat.lt_of_succ_lt_succ hjk)
      rw [indexAt_cons_succ]
      omega

lemma indexAt_le (cs : List Constant) (hjk : j ≤ k) : indexAt cs j ≤ indexAt cs k := by
  obtain rfl | hlt := Nat.eq_or_lt_of_le hjk
  · rfl
  · cases hc : cs[j]? with
    | some c => exact (Nat.le_add_right _ _).trans (indexAt_add_width_le hc hlt)
    | none =>
      have hlength := List.getElem?_eq_none_iff.1 hc
      rw [indexAt, indexAt, List.take_of_length_le hlength,
        List.take_of_length_le (hlength.trans hjk)]

/-- No constant stands at the second index of a wide one. -/
lemma not_standsAt_second (hc : cs[k]? = some c) (hwide : c.isWide) :
    ¬ StandsAt cs (indexAt cs k + 1) d := by
  rw [standsAt_iff]
  rintro ⟨j, -, hj⟩
  obtain hkj | hjk := Nat.lt_or_ge k j
  · have hle := indexAt_add_width_le hc hkj
    rw [Constant.width, if_pos hwide] at hle
    omega
  · have hle := indexAt_le cs hjk
    omega

/-- Constants take all the indices that come before the next one that is free. -/
lemma exists_indexAt (hpos : 0 < i) (hlt : i < slotCount cs) : ∃ k c, cs[k]? = some c ∧
    (i = indexAt cs k ∨ c.isWide ∧ i = indexAt cs k + 1) := by
  induction cs generalizing i with
  | nil => exact absurd hlt (Nat.not_lt.2 hpos)
  | cons b cs ih =>
    rw [slotCount_cons] at hlt
    by_cases hi : i ≤ b.width
    · refine ⟨0, b, rfl, ?_⟩
      rw [indexAt_zero]
      rw [Constant.width] at hi
      split at hi
      · next hwide => exact (Nat.lt_or_ge i 2).imp (by omega) fun h => ⟨hwide, by omega⟩
      · exact .inl (by omega)
    · obtain ⟨k, c, hc, hk⟩ := ih (i := i - b.width) (by omega) (by omega)
      refine ⟨k + 1, c, by simpa using hc, ?_⟩
      rw [indexAt_cons_succ]
      exact hk.imp (by omega) (And.imp_right (by omega))

lemma Fills.le_slotCount (h : Fills n cs) : n + 1 ≤ slotCount cs := by
  induction h with
  | nil => rfl
  | @narrow n c cs hc h ih =>
    rw [slotCount_cons, Constant.width, if_neg (by simp [hc])]
    exact Nat.succ_le_succ ih
  | @wide n c cs hc h ih =>
    rw [slotCount_cons, Constant.width, if_pos hc]
    exact Nat.add_le_add_right ih 2
  | @short c hc => simp [slotCount, Constant.width, hc]

lemma length_flatMap_slots (cs : List Constant) :
    (cs.flatMap Constant.slots).length + 1 = slotCount cs := by
  induction cs with
  | nil => rfl
  | cons c cs ih =>
    have hlength : c.slots.length = c.width := by
      rw [Constant.slots, Constant.width]
      split <;> rfl
    rw [List.flatMap_cons, List.length_append, slotCount_cons, hlength]
    omega

end indexAt

/-! ## What is found -/

/-- Constants are found at their indices in a pool with room for some indices, and nothing is found
at any other index. -/
structure Pool.LinesUp (p : Pool) (cs : List Constant) (size : ℕ) : Prop where
  /-- The pool has the indices that it has room for. -/
  size_eq : p.slots.size = size
  /-- An index is that of a constant or is vacant. -/
  exists_or_isVacant : ∀ i, (∃ k < cs.length, i = indexAt cs k) ∨ IsVacant cs size i
  /-- A constant is found at its index. -/
  getElem?_slots : ∀ k c, cs[k]? = some c → p.slots[indexAt cs k]? = some c.slot
  /-- A text is found exactly at the index of a text. -/
  text_eq_ok_iff : ∀ i s, p.text i = .ok s ↔ ∃ k raw h, cs[k]? = some (.text raw h) ∧
    i = indexAt cs k ∧ s = Text.Utf8.decodeLossy raw
  /-- A class is found exactly at the index of a class whose name is at the index of a text. -/
  className_eq_ok_iff : ∀ i s, p.className i = .ok s ↔ ∃ k name, cs[k]? = some (.classRef name) ∧
    i = indexAt cs k ∧ p.text name.toNat = .ok s
  /-- No text is found at the index of anything else. -/
  text_eq_error : ∀ k c, cs[k]? = some c → (∀ raw h, c ≠ .text raw h) →
    p.text (indexAt cs k) = .error (.notText (indexAt cs k))
  /-- No class is found at the index of anything else. -/
  className_eq_error : ∀ k c, cs[k]? = some c → (∀ name, c ≠ .classRef name) →
    p.className (indexAt cs k) = .error (.notClass (indexAt cs k))
  /-- Where a class has its name at an index at which there is no text, the fault is that of
  this index. -/
  className_of_text : ∀ k name fault, cs[k]? = some (.classRef name) →
    p.text name.toNat = .error fault → p.className (indexAt cs k) = .error fault
  /-- Nothing is found at a vacant index. -/
  of_isVacant : ∀ i, IsVacant cs size i →
    p.text i = .error (if i < size then .notText i else .noSlot i) ∧
      p.className i = .error (if i < size then .notClass i else .noSlot i)

namespace PoolLayout

variable (l : PoolLayout)

lemma size_pool : l.pool.slots.size = max l.count.toNat 1 := by
  have hfills := l.fills.le_slotCount
  have hlength := length_flatMap_slots l.constants
  rw [pool, List.size_toArray, List.length_cons, List.length_take]
  omega

lemma getElem?_indexAt {k : ℕ} {c : Constant} (hc : l.constants[k]? = some c) :
    l.pool.slots[indexAt l.constants k]? = some c.slot := by
  have hused : c.slot ≠ .unused := by cases c <;> exact Slot.noConfusion
  rw [l.getElem?_pool hused]
  exact ⟨c, standsAt_iff.2 ⟨k, hc, rfl⟩, rfl⟩

lemma getElem?_of_isVacant {i : ℕ} (hi : IsVacant l.constants (max l.count.toNat 1) i) :
    l.pool.slots[i]? = if i < max l.count.toNat 1 then some .unused else none := by
  rw [← l.size_pool] at hi ⊢
  split
  · next hlt =>
    have hslot : l.pool.slots[i]? = some l.pool.slots[i] := Array.getElem?_eq_getElem hlt
    rw [hslot]
    by_contra hused
    -- a slot that is used is that of a constant
    obtain ⟨c, hc, -⟩ := (l.getElem?_pool (fun h => hused (congrArg some h)) i).1 hslot
    cases hi with
    | zero => exact not_standsAt_zero hc
    | second hwide hk => exact not_standsAt_second hwide hk hc
    | beyond hle => exact absurd hlt (Nat.not_lt.2 hle)
  · next hge => exact Array.getElem?_eq_none (Nat.not_lt.1 hge)

lemma exists_or_isVacant (i : ℕ) : (∃ k < l.constants.length, i = indexAt l.constants k) ∨
    IsVacant l.constants (max l.count.toNat 1) i := by
  obtain rfl | hpos := Nat.eq_zero_or_pos i
  · exact .inr .zero
  obtain hlt | hge := Nat.lt_or_ge i (max l.count.toNat 1)
  · have hfills := l.fills.le_slotCount
    have hcount : i < slotCount l.constants := by omega
    obtain ⟨k, c, hc, rfl | ⟨hwide, rfl⟩⟩ := exists_indexAt hpos hcount
    · exact .inl ⟨k, (List.getElem?_eq_some_iff.1 hc).1, rfl⟩
    · exact .inr (.second hc hwide)
  · exact .inr (.beyond hge)

theorem linesUp_pool : l.pool.LinesUp l.constants (max l.count.toNat 1) where
  size_eq := l.size_pool
  exists_or_isVacant := l.exists_or_isVacant
  getElem?_slots k c hc := l.getElem?_indexAt hc
  text_eq_ok_iff i s := by
    rw [l.isOf_pool.text_eq_ok_iff, TextAt]
    simp only [standsAt_iff]
    constructor
    · rintro ⟨raw, h, ⟨k, hk, rfl⟩, rfl⟩
      exact ⟨k, raw, h, hk, rfl, rfl⟩
    · rintro ⟨k, raw, h, hk, rfl, rfl⟩
      exact ⟨raw, h, ⟨k, hk, rfl⟩, rfl⟩
  className_eq_ok_iff i s := by
    rw [l.isOf_pool.className_eq_ok_iff, ClassAt]
    simp only [standsAt_iff, l.isOf_pool.text_eq_ok_iff]
    constructor
    · rintro ⟨name, ⟨k, hk, rfl⟩, hs⟩
      exact ⟨k, name, hk, rfl, hs⟩
    · rintro ⟨k, name, hk, rfl, hs⟩
      exact ⟨name, ⟨k, hk, rfl⟩, hs⟩
  text_eq_error k c hc hother := by
    rw [Pool.text, l.getElem?_indexAt hc]
    cases c with
    | text raw h => exact absurd rfl (hother raw h)
    | classRef name => rfl
    | sized kind content h => rfl
  className_eq_error k c hc hother := by
    rw [Pool.className, l.getElem?_indexAt hc]
    cases c with
    | text raw h => rfl
    | classRef name => exact absurd rfl (hother name)
    | sized kind content h => rfl
  className_of_text k name fault hc hfault := by
    rw [Pool.className, l.getElem?_indexAt hc]
    exact hfault
  of_isVacant i hi := by
    rw [Pool.text, Pool.className, l.getElem?_of_isVacant hi]
    by_cases hlt : i < max l.count.toNat 1
    · rw [if_pos hlt, if_pos hlt, if_pos hlt]
      exact ⟨rfl, rfl⟩
    · rw [if_neg hlt, if_neg hlt, if_neg hlt]
      exact ⟨rfl, rfl⟩

end PoolLayout

/-! ## A table that is filled in place -/

namespace Pool

/-- The table with a slot at an index, if the table has this index. -/
def put? (table : Array Slot) (index : ℕ) (s : Slot) : Option (Array Slot) :=
  if h : index < table.size then some (table.set index s) else none

/-- Reads constants into a table until all indices below `count` are taken, the next one being
`index`. There is no result if a slot has no place in the table. -/
def fill (count index : ℕ) (table : Array Slot) (c : Cursor) :
    Option (Except Fault (Array Slot × Cursor)) :=
  if index < count then
    match entry index c with
    | .error fault => some (.error fault)
    | .ok ((slot, wide), c) =>
      (put? table index slot).bind fun table => fill count (index + if wide then 2 else 1) table c
  else some (.ok (table, c))
termination_by count - index
decreasing_by split <;> omega

/-- Reads a constant pool into a table of unused slots. -/
def decodeInPlace (c : Cursor) : Option (Except Fault (Pool × Cursor)) :=
  match Decode.u16 .poolCount c with
  | .error fault => some (.error fault)
  | .ok (count, c) =>
    (fill count 1 (.replicate (max count 1) .unused) c).map (·.map fun r => (⟨r.1⟩, r.2))

lemma push_append_replicate (before : Array Slot) (n : ℕ) :
    before.push .unused ++ .replicate n .unused = before ++ .replicate (n + 1) .unused := by
  refine Array.ext' ?_
  simp [List.replicate_succ]

lemma put?_append_replicate (before : Array Slot) (n : ℕ) (s : Slot) :
    put? (before ++ .replicate (n + 1) .unused) before.size s =
      some (before.push s ++ .replicate n .unused) := by
  have hlt : before.size < (before ++ Array.replicate (n + 1) Slot.unused).size := by simp
  rw [put?, dif_pos hlt]
  refine congrArg some (Array.ext' ?_)
  simp [List.replicate_succ]

lemma fill_eq_of_le {count index : ℕ} (h : count ≤ index) (table : Array Slot) (c : Cursor) :
    fill count index table c = some (.ok (table, c)) := by
  rw [fill, if_neg (Nat.not_lt.2 h)]

lemma fill_of_error {n : ℕ} {before table : Array Slot} {c : Cursor} {fault : Fault}
    (h : entry before.size c = .error fault) :
    fill (before.size + (n + 1)) before.size table c = some (.error fault) := by
  rw [fill, if_pos (by omega), h]

lemma fill_of_ok {n : ℕ} {before : Array Slot} {c c' : Cursor} {slot : Slot} {wide : Bool}
    (h : entry before.size c = .ok ((slot, wide), c')) :
    fill (before.size + (n + 1)) before.size (before ++ .replicate (n + 1) .unused) c =
      fill (before.size + (n + 1)) (before.size + if wide then 2 else 1)
        (before.push slot ++ .replicate n .unused) c' := by
  rw [fill, if_pos (by omega), h]
  change (put? _ _ slot).bind _ = _
  rw [put?_append_replicate]
  rfl

/-- As long as all slots before an index are filled, whatever is read has its place. -/
lemma fill_eq (n : ℕ) (before : Array Slot) (c : Cursor) :
    fill (before.size + n) before.size (before ++ .replicate n .unused) c =
      some (entries n before.size before c) := by
  induction n using Nat.strong_induction_on generalizing before c with
  | _ n ih =>
    match n with
    | 0 =>
      rw [Nat.add_zero, fill_eq_of_le (Nat.le_refl before.size), entries]
      simp
      rfl
    | 1 =>
      rw [entries]
      cases h : entry before.size c with
      | error fault => rw [fill_of_error h, Decode.bind_of_eq_error h]
      | ok r =>
        obtain ⟨⟨slot, wide⟩, c'⟩ := r
        have hle : before.size + 1 ≤ before.size + if wide then 2 else 1 := by split <;> omega
        rw [fill_of_ok h, fill_eq_of_le hle, Decode.bind_of_eq_ok h]
        simp
        rfl
    | n + 2 =>
      rw [entries]
      cases h : entry before.size c with
      | error fault => rw [fill_of_error h, Decode.bind_of_eq_error h]
      | ok r =>
        obtain ⟨⟨slot, wide⟩, c'⟩ := r
        rw [fill_of_ok h, Decode.bind_of_eq_ok h]
        cases wide with
        | false =>
          have hrest := ih (n + 1) (by omega) (before.push slot) c'
          rw [Array.size_push, Nat.add_right_comm] at hrest
          exact hrest
        | true =>
          have hrest := ih n (by omega) ((before.push slot).push .unused) c'
          have hcount : before.size + 1 + 1 + n = before.size + (n + 1 + 1) := by omega
          rw [Array.size_push, Array.size_push, push_append_replicate, hcount] at hrest
          exact hrest

/-- The table that is filled has the announced indices, and index `0` in any case. -/
lemma fill_replicate (count : ℕ) (c : Cursor) :
    fill count 1 (.replicate (max count 1) .unused) c =
      some (entries (count - 1) 1 #[.unused] c) := by
  cases count with
  | zero => exact fill_eq_of_le (Nat.zero_le 1) _ c
  | succ n =>
    have htable :
        Array.replicate (max (n + 1) 1) Slot.unused = #[.unused] ++ .replicate n .unused := by
      rw [Nat.max_eq_left (Nat.le_add_left 1 n)]
      exact Array.ext' (by simp [List.replicate_succ])
    have hfill := fill_eq n #[.unused] c
    rw [htable, Nat.add_sub_cancel, Nat.add_comm n]
    exact hfill

theorem decodeInPlace_eq (c : Cursor) : decodeInPlace c = some (Pool.decode c) := by
  rw [decodeInPlace, Pool.decode]
  cases h : Decode.u16 .poolCount c with
  | error fault => rw [Decode.bind_of_eq_error h]
  | ok r =>
    obtain ⟨count, c'⟩ := r
    rw [Decode.bind_of_eq_ok h]
    simp only [fill_replicate]
    cases hentries : entries (count - 1) 1 #[.unused] c' with
    | error fault => rw [Decode.bind_of_eq_error hentries]; rfl
    | ok r => rw [Decode.bind_of_eq_ok hentries]; rfl

/-- **The indices of a constant pool line up.**  Reading a pool ends with a pool or a fault and
never writes outside a table with the announced indices.  Constants that are written with their
number are read to their last byte, and each of them is found at the index after the indices of the
constants before it, texts as texts and classes by the texts that are their names; at no other index
is anything found. -/
theorem decode_linesUp :
    (∀ c, decodeInPlace c = some (Pool.decode c)) ∧
      ∀ (l : PoolLayout) (rest : List UInt8) (offset : ℕ),
        Pool.decode ⟨l.bytes ++ rest, offset⟩ = .ok (l.pool, ⟨rest, offset + l.bytes.length⟩) ∧
          l.pool.LinesUp l.constants (max l.count.toNat 1) := by
  refine ⟨decodeInPlace_eq, fun l rest offset => ⟨?_, l.linesUp_pool⟩⟩
  exact (reads_decode _ _ _).2 ⟨l.bytes, ⟨rfl, rfl⟩, l, rfl, rfl⟩

end Pool

end PluginFacts.ClassFile
