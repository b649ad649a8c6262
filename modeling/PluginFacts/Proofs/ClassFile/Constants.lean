/-
# Constant pools as they are written

A constant pool is a list of constants, each of which takes one index or, if it is wide, two.  Hence
a constant stands at the index after all indices that the ones before it take, and nothing stands at
any other index (`StandsAt`).  What is read of a pool is what stands where (`Pool.IsOf`).

The number before the constants announces how many indices they take.  A wide constant that is the
last one may lack its second index, which nothing refers to (`Fills.short`).  `Pool.reads_decode`
says that pools are read as they are written.

The rest of a file refers to a pool by `TextRef` and `ClassRef`, which carry what stands
at their index.
-/
import Mathlib.Algebra.GroupWithZero.Nat
import PluginFacts.ClassFile.Pool
import PluginFacts.Proofs.ClassFile.Reads

namespace PluginFacts.ClassFile

/-- The kinds of constants of which only the size matters. -/
inductive SizedKind where
  | integer | float | long | double | string | fieldRef | methodRef | interfaceMethodRef
  | nameAndType | methodHandle | methodType | dynamic | invokeDynamic | module | package
deriving DecidableEq, Repr

namespace SizedKind

/-- All kinds. -/
def all : List SizedKind :=
  [integer, float, long, double, string, fieldRef, methodRef, interfaceMethodRef, nameAndType,
    methodHandle, methodType, dynamic, invokeDynamic, module, package]

lemma mem_all (k : SizedKind) : k ∈ all := by
  cases k <;> decide

/-- The byte that a constant of the kind starts with. -/
def tag : SizedKind → UInt8
  | integer => 3
  | float => 4
  | long => 5
  | double => 6
  | string => 8
  | fieldRef => 9
  | methodRef => 10
  | interfaceMethodRef => 11
  | nameAndType => 12
  | methodHandle => 15
  | methodType => 16
  | dynamic => 17
  | invokeDynamic => 18
  | module => 19
  | package => 20

/-- How many bytes follow. -/
def size : SizedKind → ℕ
  | long | double => 8
  | string | methodType | module | package => 2
  | methodHandle => 3
  | _ => 4

/-- Constants of eight bytes take two indices. -/
def isWide : SizedKind → Bool
  | long | double => true
  | _ => false

/-- What the bytes that follow are called in messages. -/
def item : SizedKind → Item
  | long | double => .wideEntry
  | methodHandle => .handleEntry
  | _ => .plainEntry

/-- The kind of the constants that start with a byte. -/
def ofTag? (t : ℕ) : Option SizedKind :=
  all.find? (·.tag.toNat == t)

lemma ofTag?_eq_some_iff {t : ℕ} {k : SizedKind} : ofTag? t = some k ↔ k.tag.toNat = t := by
  constructor
  · intro h
    simpa using List.find?_some h
  · rintro rfl
    cases k <;> decide

end SizedKind

/-- A constant as it is written. -/
inductive Constant where
  /-- A text, by its bytes. -/
  | text (raw : List UInt8) (length_lt : raw.length < 0x10000)
  /-- A class, by the index of its name. -/
  | classRef (name : UInt16)
  /-- Any other constant. -/
  | sized (kind : SizedKind) (content : List UInt8) (length_eq : content.length = kind.size)

namespace Constant

/-- The constant as it is written. -/
def bytes : Constant → List UInt8
  | text raw h => 1 :: (word16 (.ofNatLT raw.length h) ++ raw)
  | classRef name => 7 :: word16 name
  | sized kind content _ => kind.tag :: content

/-- What the index of the constant refers to. -/
def slot : Constant → Slot
  | text raw _ => .text (Text.Utf8.decodeLossy raw)
  | classRef name => .classRef name.toNat
  | sized .. => .other

/-- Whether the constant takes two indices. -/
def isWide : Constant → Bool
  | sized kind .. => kind.isWide
  | _ => false

/-- How many indices the constant takes. -/
def width (c : Constant) : ℕ :=
  if c.isWide then 2 else 1

/-- What the indices of the constant refer to. -/
def slots (c : Constant) : List Slot :=
  if c.isWide then [c.slot, .unused] else [c.slot]

end Constant

/-- The index after those that constants take. -/
def slotCount (cs : List Constant) : ℕ :=
  1 + (cs.map Constant.width).sum

lemma slotCount_pos (cs : List Constant) : 0 < slotCount cs :=
  Nat.add_pos_left Nat.one_pos _

lemma slotCount_cons (c : Constant) (cs : List Constant) :
    slotCount (c :: cs) = slotCount cs + c.width := by
  simp only [slotCount, List.map_cons, List.sum_cons]
  omega

/-- The constant stands at an index. -/
def StandsAt (cs : List Constant) (i : ℕ) (c : Constant) : Prop :=
  ∃ before after, cs = before ++ c :: after ∧ i = slotCount before

/-- The text at an index. -/
def TextAt (cs : List Constant) (i : ℕ) (s : String) : Prop :=
  ∃ raw h, StandsAt cs i (.text raw h) ∧ s = Text.Utf8.decodeLossy raw

/-- The name of the class at an index. -/
def ClassAt (cs : List Constant) (i : ℕ) (s : String) : Prop :=
  ∃ name, StandsAt cs i (.classRef name) ∧ TextAt cs name.toNat s

/-- The constants take a number of indices, where the last one may lack its second. -/
inductive Fills : ℕ → List Constant → Prop
  | nil : Fills 0 []
  | narrow {n : ℕ} {c : Constant} {cs : List Constant} (hc : c.isWide = false) (h : Fills n cs) :
    Fills (n + 1) (c :: cs)
  | wide {n : ℕ} {c : Constant} {cs : List Constant} (hc : c.isWide) (h : Fills n cs) :
    Fills (n + 2) (c :: cs)
  | short {c : Constant} (hc : c.isWide) : Fills 1 [c]

lemma fills_sum_width (cs : List Constant) : Fills (slotCount cs - 1) cs := by
  rw [slotCount, Nat.add_sub_cancel_left]
  induction cs with
  | nil => exact .nil
  | cons c cs ih =>
    rw [List.map_cons, List.sum_cons, Nat.add_comm, Constant.width]
    cases hc : c.isWide with
    | false => exact .narrow hc ih
    | true => exact .wide hc ih

/-- What is read of a pool is what stands where. -/
structure Pool.IsOf (p : Pool) (cs : List Constant) : Prop where
  text_eq_ok_iff : ∀ i s, p.text i = .ok s ↔ TextAt cs i s
  className_eq_ok_iff : ∀ i s, p.className i = .ok s ↔ ClassAt cs i s

section StandsAt

variable {cs : List Constant} {c d : Constant} {i n : ℕ}

lemma StandsAt.pos (h : StandsAt cs i c) : 0 < i := by
  obtain ⟨before, after, -, rfl⟩ := h
  exact slotCount_pos before

lemma standsAt_cons_iff :
    StandsAt (c :: cs) i d ↔ i = 1 ∧ d = c ∨ ∃ j, StandsAt cs j d ∧ i = j + c.width := by
  constructor
  · rintro ⟨before, after, hsplit, rfl⟩
    cases before with
    | nil =>
      cases hsplit
      exact .inl ⟨rfl, rfl⟩
    | cons e before =>
      cases hsplit
      exact .inr ⟨slotCount before, ⟨before, after, rfl, rfl⟩, slotCount_cons _ before⟩
  · rintro (⟨rfl, rfl⟩ | ⟨j, ⟨before, after, rfl, rfl⟩, rfl⟩)
    · exact ⟨[], cs, rfl, rfl⟩
    · exact ⟨c :: before, after, rfl, (slotCount_cons c before).symm⟩

lemma not_standsAt_nil : ¬ StandsAt [] i c := by
  simp [StandsAt]

lemma not_standsAt_zero : ¬ StandsAt cs 0 c :=
  fun h => absurd h.pos (lt_irrefl 0)

lemma standsAt_cons_one_iff : StandsAt (c :: cs) 1 d ↔ d = c := by
  rw [standsAt_cons_iff]
  constructor
  · rintro (⟨-, rfl⟩ | ⟨j, hj, hwidth⟩)
    · rfl
    · have hpos := hj.pos
      rw [Constant.width] at hwidth
      split at hwidth <;> omega
  · exact fun h => .inl ⟨rfl, h⟩

/-- The slots that are used are those at which a constant stands. -/
lemma Fills.getElem?_slots (h : Fills n cs) {σ : Slot} (hσ : σ ≠ .unused) (j : ℕ) :
    ((cs.flatMap Constant.slots).take n)[j]? = some σ ↔
      ∃ d, StandsAt cs (j + 1) d ∧ d.slot = σ := by
  induction h generalizing j with
  | nil => simp [not_standsAt_nil]
  | @narrow n c cs hc h ih =>
    rw [List.flatMap_cons, Constant.slots, if_neg (by simp [hc])]
    cases j with
    | zero => simp [standsAt_cons_one_iff]
    | succ j => simp [standsAt_cons_iff, Constant.width, hc, ih]
  | @wide n c cs hc h ih =>
    rw [List.flatMap_cons, Constant.slots, if_pos hc]
    match j with
    | 0 => simp [standsAt_cons_one_iff]
    | 1 => simp [standsAt_cons_iff, Constant.width, hc, not_standsAt_zero, hσ.symm]
    | j + 2 => simp [standsAt_cons_iff, Constant.width, hc, ih]
  | @short c hc =>
    rw [List.flatMap_cons, Constant.slots, if_pos hc]
    cases j with
    | zero => simp [standsAt_cons_one_iff]
    | succ j => simp [standsAt_cons_iff, not_standsAt_nil]

end StandsAt

/-! ## Reading a pool -/

/-- A constant pool as it is written. -/
structure PoolLayout where
  /-- The number that announces the indices, and one more. -/
  count : UInt16
  /-- The constants. -/
  constants : List Constant
  /-- The constants take the indices that are announced. -/
  fills : Fills (count.toNat - 1) constants

namespace PoolLayout

/-- The pool as it is written. -/
def bytes (l : PoolLayout) : List UInt8 :=
  word16 l.count ++ l.constants.flatMap Constant.bytes

/-- The indices that the constants take are those that are announced. -/
def IsExact (l : PoolLayout) : Prop :=
  l.count.toNat = slotCount l.constants

/-- The pool of a list of constants. -/
def ofConstants (cs : List Constant) (h : slotCount cs < 0x10000) : PoolLayout where
  count := .ofNatLT (slotCount cs) h
  constants := cs
  fills := fills_sum_width cs

/-- What is read of the pool. -/
def pool (l : PoolLayout) : Pool where
  slots := (Slot.unused :: (l.constants.flatMap Constant.slots).take (l.count.toNat - 1)).toArray

lemma getElem?_pool (l : PoolLayout) {σ : Slot} (hσ : σ ≠ .unused) (i : ℕ) :
    l.pool.slots[i]? = some σ ↔ ∃ c, StandsAt l.constants i c ∧ c.slot = σ := by
  rw [pool, List.getElem?_toArray]
  cases i with
  | zero => simp [not_standsAt_zero, hσ.symm]
  | succ i => rw [List.getElem?_cons_succ, l.fills.getElem?_slots hσ]

theorem isOf_pool (l : PoolLayout) : l.pool.IsOf l.constants := by
  have htext : ∀ i s, l.pool.text i = .ok s ↔ TextAt l.constants i s := by
    intro i s
    have hslot : l.pool.text i = .ok s ↔ l.pool.slots[i]? = some (.text s) := by
      rw [Pool.text]
      split <;> simp_all
    rw [hslot, l.getElem?_pool (by simp)]
    constructor
    · rintro ⟨c, hc, hs⟩
      cases c with
      | text raw h => exact ⟨raw, h, hc, (Slot.text.inj hs).symm⟩
      | classRef name => cases hs
      | sized kind content h => cases hs
    · rintro ⟨raw, h, hc, rfl⟩
      exact ⟨_, hc, rfl⟩
  refine ⟨htext, ?_⟩
  intro i s
  have hslot : l.pool.className i = .ok s ↔
      ∃ name, l.pool.slots[i]? = some (.classRef name) ∧ l.pool.text name = .ok s := by
    rw [Pool.className]
    split <;> simp_all
  simp only [hslot, l.getElem?_pool (σ := .classRef _) (by simp), htext]
  constructor
  · rintro ⟨name, ⟨c, hc, hname⟩, hs⟩
    cases c with
    | text raw h => cases hname
    | classRef name' =>
      obtain rfl := Slot.classRef.inj hname
      exact ⟨name', hc, hs⟩
    | sized kind content h => cases hname
  · rintro ⟨name, hc, hs⟩
    exact ⟨name.toNat, ⟨_, hc, rfl⟩, hs⟩

end PoolLayout

namespace Pool

open Decode

/-- A constant of which only the size matters, after its first byte. -/
def sizedEntry (index tag : ℕ) : Decode (Slot × Bool) :=
  match SizedKind.ofTag? tag with
  | some k => skip k.item k.size >>= fun _ => pure (.other, k.isWide)
  | none => throw (.unknownSlotTag tag index)

lemma entry_eq (index : ℕ) : entry index = u8 .slotTag >>= fun tag =>
    if tag = 1 then u16 .textLength >>= fun n => Decode.bytes .text n >>= fun raw =>
      pure (.text (Text.Utf8.decodeLossy raw), false)
    else if tag = 7 then u16 .classEntry >>= fun name => pure (.classRef name, false)
    else sizedEntry index tag := by
  rw [entry]
  congr
  funext tag
  split
  case h_18 =>
    -- the byte is that of no kind
    have hnone : SizedKind.ofTag? tag = none := by
      refine List.find?_eq_none.2 ?_
      rintro k -
      rw [beq_iff_eq]
      rintro rfl
      cases k <;> contradiction
    simp_all [sizedEntry]
  all_goals rfl

lemma reads_sizedEntry (index : ℕ) (t : UInt8) : Reads (sizedEntry index t.toNat) fun bytes r =>
    ∃ k : SizedKind, k.tag = t ∧ bytes.length = k.size ∧ r = (.other, k.isWide) := by
  rw [sizedEntry]
  cases hk : SizedKind.ofTag? t.toNat with
  | none =>
    refine Reads.congr (reads_throw _) ?_
    intro bytes r
    constructor
    · exact False.elim
    · rintro ⟨k, rfl, -⟩
      rw [SizedKind.ofTag?_eq_some_iff.2 rfl] at hk
      cases hk
  | some k =>
    obtain rfl := UInt8.toNat_inj.1 (SizedKind.ofTag?_eq_some_iff.1 hk)
    refine Reads.congr ((reads_skip k.item k.size).map fun _ => (Slot.other, k.isWide)) ?_
    intro bytes r
    constructor
    · rintro ⟨⟨b, hb⟩, rfl, rfl⟩
      exact ⟨k, rfl, hb, rfl⟩
    · rintro ⟨k', htag, hlength, rfl⟩
      have hk' : some k = some k' := by
        rw [← hk, SizedKind.ofTag?_eq_some_iff, htag]
      obtain rfl := Option.some.inj hk'
      exact ⟨⟨bytes, hlength⟩, rfl, rfl⟩

lemma reads_entry (index : ℕ) :
    ReadsAs (entry index) Constant.bytes fun c => (c.slot, c.isWide) := by
  rw [entry_eq]
  refine Reads.congr ((reads_u8 .slotTag).bind fun t => Reads.ite
    ((reads_u16 .textLength).bind fun n => (reads_bytes .text n.toNat).map fun raw =>
      (Slot.text (Text.Utf8.decodeLossy raw), false))
    (Reads.ite ((reads_u16 .classEntry).map fun name => (Slot.classRef name, false))
      (reads_sizedEntry index t))) ?_
  intro bytes r
  constructor
  · rintro ⟨t, _, rfl, ⟨ht, n, raw, rfl, ⟨_, hraw⟩, rfl, rfl⟩ |
      ⟨-, ⟨ht, name, rfl, rfl⟩ | ⟨-, k, rfl, hlength, rfl⟩⟩⟩
    · obtain rfl : t = 1 := UInt8.toNat_inj.1 ht
      have hlt : raw.length < 0x10000 := hraw ▸ n.toNat_lt
      refine ⟨.text raw hlt, ?_, rfl⟩
      have hlength : UInt16.ofNatLT raw.length hlt = n := UInt16.toNat_inj.1 hraw
      rw [Constant.bytes, hlength]
      rfl
    · obtain rfl : t = 7 := UInt8.toNat_inj.1 ht
      exact ⟨.classRef name, rfl, rfl⟩
    · exact ⟨.sized k _ hlength, rfl, rfl⟩
  · rintro ⟨c, rfl, rfl⟩
    cases c with
    | text raw h =>
      exact ⟨1, _, rfl, .inl ⟨rfl, .ofNatLT raw.length h, _, rfl, ⟨raw, rfl⟩, rfl, rfl⟩⟩
    | classRef name => exact ⟨7, _, rfl, .inr ⟨by decide, .inl ⟨rfl, name, rfl, rfl⟩⟩⟩
    | sized k content h =>
      have htag : k.tag.toNat ≠ 1 ∧ k.tag.toNat ≠ 7 := by cases k <;> decide
      exact ⟨k.tag, _, rfl, .inr ⟨htag.1, .inr ⟨htag.2, k, rfl, h, rfl⟩⟩⟩

/-- The slots of constants that are read after others. -/
lemma reads_entries (n index : ℕ) (before : Array Slot) :
    ReadsAs (entries n index before) (fun cs : { cs // Fills n cs } => cs.1.flatMap Constant.bytes)
      fun cs => before ++ ((cs.1.flatMap Constant.slots).take n).toArray := by
  induction n using Nat.strong_induction_on generalizing index before with
  | _ n ih =>
    match n with
    | 0 =>
      rw [entries]
      refine Reads.congr (reads_pure before) ?_
      intro bytes slots
      constructor
      · rintro ⟨rfl, rfl⟩
        exact ⟨⟨[], .nil⟩, rfl, by simp⟩
      · rintro ⟨⟨cs, hcs⟩, rfl, rfl⟩
        cases hcs
        simp
    | 1 =>
      rw [entries]
      refine Reads.congr ((reads_entry index).map fun r => before.push r.1) ?_
      intro bytes slots
      constructor
      · rintro ⟨c, rfl, rfl⟩
        by_cases hc : c.isWide
        · exact ⟨⟨[c], .short hc⟩, by simp, by simp [Constant.slots, hc]⟩
        · exact ⟨⟨[c], .narrow (by simpa using hc) .nil⟩, by simp, by simp [Constant.slots, hc]⟩
      · rintro ⟨⟨cs, hcs⟩, rfl, rfl⟩
        cases hcs with
        | @narrow _ c _ hc h =>
          cases h
          exact ⟨c, by simp, by simp [Constant.slots, hc]⟩
        | @short c hc => exact ⟨c, by simp, by simp [Constant.slots, hc]⟩
    | n + 2 =>
      rw [entries]
      refine Reads.congr ((reads_entry index).bind fun c => Reads.ite
        (ih n (by omega) _ _) (ih (n + 1) (by omega) _ _)) ?_
      intro bytes slots
      constructor
      · rintro ⟨c, _, rfl, ⟨hc, ⟨cs, hcs⟩, rfl, rfl⟩ | ⟨hc, ⟨cs, hcs⟩, rfl, rfl⟩⟩
        · exact ⟨⟨c :: cs, .wide hc hcs⟩, rfl, by simp [Constant.slots, hc]⟩
        · exact ⟨⟨c :: cs, .narrow (by simpa using hc) hcs⟩, rfl, by simp [Constant.slots, hc]⟩
      · rintro ⟨⟨cs, hcs⟩, rfl, rfl⟩
        cases hcs with
        | @narrow _ c cs hc h =>
          exact ⟨c, _, rfl, .inr ⟨by simp [hc], ⟨cs, h⟩, rfl, by simp [Constant.slots, hc]⟩⟩
        | @wide _ c cs hc h =>
          exact ⟨c, _, rfl, .inl ⟨hc, ⟨cs, h⟩, rfl, by simp [Constant.slots, hc]⟩⟩

/-- What is read of a constant pool. -/
theorem reads_decode : ReadsAs Pool.decode PoolLayout.bytes PoolLayout.pool := by
  refine Reads.congr ((reads_u16 .poolCount).bind fun n =>
    (reads_entries (n.toNat - 1) 1 #[.unused]).map Pool.mk) ?_
  intro bytes p
  constructor
  · rintro ⟨n, _, rfl, ⟨cs, hcs⟩, rfl, rfl⟩
    exact ⟨⟨n, cs, hcs⟩, rfl, by simp [PoolLayout.pool]⟩
  · rintro ⟨⟨n, cs, hcs⟩, rfl, rfl⟩
    exact ⟨n, _, rfl, ⟨cs, hcs⟩, rfl, by simp [PoolLayout.pool]⟩

/-- Constants that are written alike take as many indices. -/
lemma slotCount_eq_of_bytes_eq {cs cs' : List Constant}
    (h : cs.flatMap Constant.bytes = cs'.flatMap Constant.bytes) :
    slotCount cs = slotCount cs' := by
  have hne : ∀ c : Constant, c.bytes ≠ [] := by
    rintro (_ | _ | _) <;> simp [Constant.bytes]
  induction cs generalizing cs' with
  | nil =>
    cases cs' with
    | nil => rfl
    | cons c' cs' => simp [hne] at h
  | cons c cs ih =>
    cases cs' with
    | nil => simp [hne] at h
    | cons c' cs' =>
      rw [List.flatMap_cons, List.flatMap_cons] at h
      obtain ⟨hmean, -, htail⟩ := (reads_entry 0).unique (reads_entry 0) h
      have hwide : c.isWide = c'.isWide := (Prod.mk.inj hmean).2
      rw [slotCount_cons, slotCount_cons, ih htail, Constant.width, Constant.width, hwide]

end Pool

lemma PoolLayout.isExact_of_bytes_eq {l l' : PoolLayout} (h : l.bytes = l'.bytes)
    (hl : l.IsExact) : l'.IsExact := by
  obtain ⟨hcount, hconstants⟩ := List.append_inj h rfl
  have hcount : l.count.toNat = l'.count.toNat :=
    ((Decode.reads_u16 .poolCount).unique (Decode.reads_u16 .poolCount)
      (congrArg (· ++ []) hcount)).1
  rw [IsExact, ← hcount, ← Pool.slotCount_eq_of_bytes_eq hconstants]
  exact hl

/-! ## References -/

/-- A reference to a text of a pool. -/
structure TextRef (cs : List Constant) where
  /-- The index of the text. -/
  index : UInt16
  /-- The text. -/
  text : String
  /-- The text is at the index. -/
  textAt : TextAt cs index.toNat text

/-- A reference to a class of a pool. -/
structure ClassRef (cs : List Constant) where
  /-- The index of the class. -/
  index : UInt16
  /-- The name of the class. -/
  name : String
  /-- The class is at the index. -/
  classAt : ClassAt cs index.toNat name

namespace ClassRef

variable {cs : List Constant}

lemma index_ne_zero (r : ClassRef cs) : r.index ≠ 0 := by
  intro h
  obtain ⟨name, hstands, -⟩ := r.classAt
  rw [h] at hstands
  exact not_standsAt_zero hstands

/-- A reference that need not be there, as it is written. -/
def index? : Option (ClassRef cs) → UInt16
  | some r => r.index
  | none => 0

end ClassRef

section Reads

open Decode

variable {p : Pool} {cs : List Constant}

/-- An index, and then what it leads to. -/
lemma reads_index {α : Type} {r : ℕ → Except Fault α} {f : ℕ → Decode α}
    (hf : ∀ i, ReadsAs (f i) (fun _ : { a // r i = .ok a } => []) Subtype.val) (item : Item) :
    Reads (u16 item >>= f) fun bytes a => ∃ i : UInt16, bytes = word16 i ∧ r i.toNat = .ok a := by
  refine Reads.congr ((reads_u16 item).bind fun i => hf i.toNat) ?_
  intro bytes a
  constructor
  · rintro ⟨i, _, rfl, ⟨a, ha⟩, rfl, rfl⟩
    exact ⟨i, by simp, ha⟩
  · rintro ⟨i, rfl, ha⟩
    exact ⟨i, [], by simp, ⟨a, ha⟩, rfl, rfl⟩

lemma Pool.IsOf.className?_eq_ok_iff (hp : p.IsOf cs) (i : UInt16) (name? : Option String) :
    p.className? i.toNat = .ok name? ↔
      ∃ r : Option (ClassRef cs), i = ClassRef.index? r ∧ name? = r.map ClassRef.name := by
  have hzero : i.toNat = 0 ↔ i = 0 := by rw [← UInt16.toNat_inj, UInt16.toNat_zero]
  rw [Pool.className?]
  split_ifs with hi <;> rw [hzero] at hi
  · constructor
    · rintro h
      cases h
      exact ⟨none, hi, rfl⟩
    · rintro ⟨_ | r, hr, rfl⟩
      · rfl
      · exact absurd (hr.symm.trans hi) r.index_ne_zero
  · have hname : (some <$> p.className i.toNat = .ok name?) ↔
        ∃ name, ClassAt cs i.toNat name ∧ name? = some name := by
      simp only [← hp.className_eq_ok_iff]
      cases p.className i.toNat with
      | error fault => simp [Functor.map, Except.map]
      | ok name => simp [Functor.map, Except.map, eq_comm]
    rw [hname]
    constructor
    · rintro ⟨name, hclass, rfl⟩
      exact ⟨some ⟨i, name, hclass⟩, rfl, rfl⟩
    · rintro ⟨_ | r, rfl, rfl⟩
      · exact absurd rfl hi
      · exact ⟨r.name, r.classAt, rfl⟩

lemma Pool.IsOf.reads_text (hp : p.IsOf cs) (item : Item) :
    ReadsAs (u16 item >>= fun i => liftM (p.text i)) (fun r : TextRef cs => word16 r.index)
      TextRef.text := by
  refine Reads.congr (reads_index (fun i => reads_lift (p.text i)) item) ?_
  intro bytes s
  simp only [hp.text_eq_ok_iff]
  constructor
  · rintro ⟨i, rfl, hs⟩
    exact ⟨⟨i, s, hs⟩, rfl, rfl⟩
  · rintro ⟨r, rfl, rfl⟩
    exact ⟨r.index, rfl, r.textAt⟩

/-- A reference to a class, where `f` may name the place of a fault. -/
lemma Pool.IsOf.reads_className (hp : p.IsOf cs) (item : Item) {f : ℕ → Decode String}
    (hf : ∀ i, ReadsAs (f i) (fun _ : { a // p.className i = .ok a } => []) Subtype.val) :
    ReadsAs (u16 item >>= f) (fun r : ClassRef cs => word16 r.index) ClassRef.name := by
  refine Reads.congr (reads_index hf item) ?_
  intro bytes s
  simp only [hp.className_eq_ok_iff]
  constructor
  · rintro ⟨i, rfl, hs⟩
    exact ⟨⟨i, s, hs⟩, rfl, rfl⟩
  · rintro ⟨r, rfl, rfl⟩
    exact ⟨r.index, rfl, r.classAt⟩

lemma Pool.IsOf.reads_className? (hp : p.IsOf cs) (item : Item) {f : ℕ → Decode (Option String)}
    (hf : ∀ i, ReadsAs (f i) (fun _ : { a // p.className? i = .ok a } => []) Subtype.val) :
    ReadsAs (u16 item >>= f) (fun r : Option (ClassRef cs) => word16 (ClassRef.index? r))
      fun r => r.map ClassRef.name := by
  refine Reads.congr (reads_index hf item) ?_
  intro bytes name?
  simp only [hp.className?_eq_ok_iff]
  constructor
  · rintro ⟨i, rfl, r, rfl, rfl⟩
    exact ⟨r, rfl, rfl⟩
  · rintro ⟨r, rfl, rfl⟩
    exact ⟨ClassRef.index? r, rfl, r, rfl, rfl⟩

end Reads

end PluginFacts.ClassFile
