/-
# What a step of reading takes

A step of reading is known by the strings of bytes that it takes and by what it makes of them.  A
format is a relation between the two, and `Decode.Reads d R` says that the step `d` reads the format
`R`: it succeeds where, and only where, a string of the format is ahead, and then stands right after
it.  A format is always of things that can be written, so `Decode.ReadsAs d write mean` names these
things: the strings are what `write` gives of them and the results what `mean` does.

Formats are put together as the steps are: `ReadsAs.bind` is the rule for one step after another,
and `reads_table` the one for as many steps as a number says that stands before them.  As a step has
one result, what it reads of a string is determined by the string (`ReadsAs.unique`).
-/
import Mathlib.Data.List.OfFn
import PluginFacts.ClassFile.Cursor

namespace PluginFacts.ClassFile

/-! ## Words and tables -/

/-- A number of two bytes. -/
def word16 (n : UInt16) : List UInt8 :=
  [.ofNat (n.toNat / 0x100), .ofNat n.toNat]

/-- A number of four bytes. -/
def word32 (n : UInt32) : List UInt8 :=
  [.ofNat (n.toNat / 0x1000000), .ofNat (n.toNat / 0x10000), .ofNat (n.toNat / 0x100),
    .ofNat n.toNat]

lemma word16_ofNat (a b : UInt8) : word16 (.ofNat (a.toNat * 0x100 + b.toNat)) = [a, b] := by
  have ha := a.toNat_lt
  have hb := b.toNat_lt
  have hlt : a.toNat * 0x100 + b.toNat < 2 ^ 16 := by omega
  rw [word16, UInt16.toNat_ofNat', Nat.mod_eq_of_lt hlt]
  congr 2
  · rw [← UInt8.toNat_inj, UInt8.toNat_ofNat']
    omega
  · rw [← UInt8.toNat_inj, UInt8.toNat_ofNat']
    omega

lemma word32_ofNat (a b c d : UInt8) :
    word32 (.ofNat (((a.toNat * 0x100 + b.toNat) * 0x100 + c.toNat) * 0x100 + d.toNat)) =
      [a, b, c, d] := by
  have ha := a.toNat_lt
  have hb := b.toNat_lt
  have hc := c.toNat_lt
  have hd := d.toNat_lt
  have hlt : ((a.toNat * 0x100 + b.toNat) * 0x100 + c.toNat) * 0x100 + d.toNat < 2 ^ 32 := by omega
  rw [word32, UInt32.toNat_ofNat', Nat.mod_eq_of_lt hlt]
  congr 4 <;> rw [← UInt8.toNat_inj, UInt8.toNat_ofNat'] <;> omega

lemma exists_word16 {b : List UInt8} (h : b.length = 2) : ∃ n, b = word16 n := by
  match b, h with
  | [x, y], _ => exact ⟨_, (word16_ofNat x y).symm⟩

/-- Entries in a row with their number in two bytes before them. -/
structure Table (α : Type) where
  /-- The number of entries. -/
  length : UInt16
  /-- The entries. -/
  entry : Fin length.toNat → α

namespace Table

variable {α : Type}

/-- The entries in order. -/
def entries (t : Table α) : List α :=
  List.ofFn t.entry

/-- The table as it is written, given how an entry is. -/
def bytes (write : α → List UInt8) (t : Table α) : List UInt8 :=
  word16 t.length ++ t.entries.flatMap write

lemma bytes_eq (write : α → List UInt8) (t : Table α) :
    t.bytes write = word16 t.length ++ (List.ofFn fun i => write (t.entry i)).flatten := by
  rw [bytes, entries, List.flatMap_def, List.map_ofFn]
  rfl

/-- The first entry of a table. -/
def first (t : Table α) (h : 0 < t.length.toNat) : α :=
  t.entry ⟨0, h⟩

lemma exists_bytes_eq_first (write : α → List UInt8) (t : Table α) (h : 0 < t.length.toNat) :
    ∃ rest, t.bytes write = word16 t.length ++ (write (t.first h) ++ rest) := by
  have hfirst : ∀ {n : ℕ} (f : Fin n → α) (hn : 0 < n),
      ∃ rest, (List.ofFn f).flatMap write = write (f ⟨0, hn⟩) ++ rest := by
    intro n f hn
    cases n with
    | zero => cases hn
    | succ n => exact ⟨_, by rw [List.ofFn_succ, List.flatMap_cons]; rfl⟩
  obtain ⟨rest, hrest⟩ := hfirst t.entry h
  exact ⟨rest, congrArg (word16 t.length ++ ·) hrest⟩

lemma length_le_length_flatten {β : Type} {n : ℕ} (b : Fin n → List β) (i : Fin n) :
    (b i).length ≤ (List.ofFn b).flatten.length :=
  (List.sublist_flatten_of_mem (List.mem_ofFn.2 ⟨i, rfl⟩)).length_le

lemma length_le_length_bytes (write : α → List UInt8) (t : Table α) (i : Fin t.length.toNat) :
    (write (t.entry i)).length ≤ (t.bytes write).length := by
  have hle := length_le_length_flatten (fun i => write (t.entry i)) i
  rw [bytes_eq, List.length_append]
  exact hle.trans (Nat.le_add_left _ _)

/-- The table with a function applied to every entry. -/
def map {β : Type} (f : α → β) (t : Table α) : Table β where
  length := t.length
  entry i := f (t.entry i)

/-- The table of the entries of a list. -/
def ofList (l : List α) (h : l.length < 0x10000) : Table α where
  length := .ofNatLT l.length h
  entry i := l[i]

@[simp] lemma entries_ofList (l : List α) (h : l.length < 0x10000) : (ofList l h).entries = l :=
  List.ofFn_getElem

@[simp] lemma entries_map {β : Type} (f : α → β) (t : Table α) :
    (t.map f).entries = t.entries.map f := by
  rw [entries, entries, List.map_ofFn]
  rfl

lemma bytes_map {β : Type} (f : α → β) (write : β → List UInt8) (t : Table α) :
    (t.map f).bytes write = t.bytes fun a => write (f a) := by
  rw [bytes, bytes, entries_map, List.flatMap_map]
  rfl

@[simp] lemma length_entries (t : Table α) : t.entries.length = t.length.toNat :=
  List.length_ofFn

end Table

/-! ## Positions -/

/-- The second position is the one after the bytes that are ahead at the first. -/
structure Cursor.Past (c : Cursor) (bytes : List UInt8) (c' : Cursor) : Prop where
  rest_eq : c.rest = bytes ++ c'.rest
  offset_eq : c'.offset = c.offset + bytes.length

namespace Cursor

variable {c c' c'' : Cursor} {b b' : List UInt8}

lemma past_nil_iff : c.Past [] c' ↔ c' = c := by
  obtain ⟨rest, offset⟩ := c
  obtain ⟨rest', offset'⟩ := c'
  constructor
  · rintro ⟨hrest, hoffset⟩
    simp_all
  · rintro h
    cases h
    exact ⟨rfl, rfl⟩

lemma Past.append (h : c.Past b c') (h' : c'.Past b' c'') : c.Past (b ++ b') c'' where
  rest_eq := by rw [h.rest_eq, h'.rest_eq, List.append_assoc]
  offset_eq := by rw [h'.offset_eq, h.offset_eq, List.length_append, Nat.add_assoc]

lemma Past.split (h : c.Past (b ++ b') c'') : ∃ c', c.Past b c' ∧ c'.Past b' c'' := by
  refine ⟨⟨b' ++ c''.rest, c.offset + b.length⟩, ⟨?_, rfl⟩, ⟨rfl, ?_⟩⟩
  · rw [h.rest_eq, List.append_assoc]
  · rw [h.offset_eq, List.length_append, Nat.add_assoc]

end Cursor

/-! ## Steps -/

namespace Decode

variable {α β X Y : Type} {d : Decode α} {R R' : List UInt8 → α → Prop}

/-- The step succeeds where a string of the format is ahead, and stands right after it. -/
def Reads (d : Decode α) (R : List UInt8 → α → Prop) : Prop :=
  ∀ c a c', d c = .ok (a, c') ↔ ∃ bytes, c.Past bytes c' ∧ R bytes a

/-- The step reads what is written of some things, and gives what they mean. -/
def ReadsAs (d : Decode α) (write : X → List UInt8) (mean : X → α) : Prop :=
  Reads d fun bytes a => ∃ x, bytes = write x ∧ a = mean x

lemma Reads.congr (hd : Reads d R) (h : ∀ bytes a, R bytes a ↔ R' bytes a) : Reads d R' := by
  intro c a c'
  rw [hd]
  simp only [h]

/-- What a step reads ends at one place only, whatever the things are taken to be. -/
theorem ReadsAs.unique {write : X → List UInt8} {mean : X → α} {write' : Y → List UInt8}
    {mean' : Y → α} (hd : ReadsAs d write mean) (hd' : ReadsAs d write' mean') {x : X} {y : Y}
    {r s : List UInt8} (h : write x ++ r = write' y ++ s) :
    mean x = mean' y ∧ write x = write' y ∧ r = s := by
  have hx : d ⟨write x ++ r, 0⟩ = .ok (mean x, ⟨r, 0 + (write x).length⟩) :=
    (hd _ _ _).2 ⟨write x, ⟨rfl, rfl⟩, x, rfl, rfl⟩
  have hy : d ⟨write' y ++ s, 0⟩ = .ok (mean' y, ⟨s, 0 + (write' y).length⟩) :=
    (hd' _ _ _).2 ⟨write' y, ⟨rfl, rfl⟩, y, rfl, rfl⟩
  rw [h, hy, Except.ok.injEq, Prod.mk.injEq, Cursor.mk.injEq] at hx
  obtain ⟨hmean, hrest, -⟩ := hx
  refine ⟨hmean.symm, ?_, hrest.symm⟩
  rw [hrest] at h
  exact List.append_cancel_right h

lemma bind_eq_ok_iff {f : α → Decode β} {c c' : Cursor} {b : β} :
    (d >>= f) c = .ok (b, c') ↔ ∃ a c₁, d c = .ok (a, c₁) ∧ f a c₁ = .ok (b, c') := by
  change (d c >>= fun r => f r.1 r.2) = _ ↔ _
  cases d c with
  | error fault => simp [bind, Except.bind]
  | ok r => simp [bind, Except.bind, Prod.ext_iff]

lemma bind_of_eq_ok {f : α → Decode β} {c c' : Cursor} {a : α} (h : d c = .ok (a, c')) :
    (d >>= f) c = f a c' := by
  change (d c >>= fun r => f r.1 r.2) = _
  rw [h]
  rfl

lemma bind_of_eq_error {f : α → Decode β} {c : Cursor} {fault : Fault} (h : d c = .error fault) :
    (d >>= f) c = .error fault := by
  change (d c >>= fun r => f r.1 r.2) = _
  rw [h]
  rfl

/-- One step after another. -/
theorem ReadsAs.bind {write : X → List UInt8} {mean : X → α} (hd : ReadsAs d write mean)
    {f : α → Decode β} {S : X → List UInt8 → β → Prop} (hf : ∀ x, Reads (f (mean x)) (S x)) :
    Reads (d >>= f) fun bytes b => ∃ x rest, bytes = write x ++ rest ∧ S x rest b := by
  intro c b c'
  rw [bind_eq_ok_iff]
  constructor
  · rintro ⟨a, c₁, hda, hfa⟩
    obtain ⟨_, hpast, x, rfl, rfl⟩ := (hd _ _ _).1 hda
    obtain ⟨rest, hpast', hS⟩ := (hf x _ _ _).1 hfa
    exact ⟨_, hpast.append hpast', x, rest, rfl, hS⟩
  · rintro ⟨_, hpast, x, rest, rfl, hS⟩
    obtain ⟨c₁, hpast, hpast'⟩ := hpast.split
    exact ⟨mean x, c₁, (hd _ _ _).2 ⟨_, hpast, x, rfl, rfl⟩, (hf x _ _ _).2 ⟨_, hpast', hS⟩⟩

/-- Two steps that read something together, before others. -/
theorem ReadsAs.bind₂ {γ : Type} {g : α → Decode β} {write : X → List UInt8} {mean : X → β}
    (hd : ReadsAs (d >>= g) write mean) {f : β → Decode γ} {S : X → List UInt8 → γ → Prop}
    (hf : ∀ x, Reads (f (mean x)) (S x)) :
    Reads (d >>= fun a => g a >>= f)
      fun bytes b => ∃ x rest, bytes = write x ++ rest ∧ S x rest b := by
  rw [← bind_assoc]
  exact hd.bind hf

lemma reads_pure (a : α) : Reads (pure a : Decode α) fun bytes b => bytes = [] ∧ b = a := by
  intro c b c'
  change Except.ok (a, c) = _ ↔ _
  simp only [Except.ok.injEq, Prod.mk.injEq]
  constructor
  · rintro ⟨rfl, rfl⟩
    exact ⟨[], Cursor.past_nil_iff.2 rfl, rfl, rfl⟩
  · rintro ⟨_, hpast, rfl, rfl⟩
    exact ⟨rfl, (Cursor.past_nil_iff.1 hpast).symm⟩

/-- The last step, whose result is made into another. -/
lemma ReadsAs.map {write : X → List UInt8} {mean : X → α} (hd : ReadsAs d write mean) (f : α → β) :
    ReadsAs (d >>= fun a => pure (f a)) write fun x => f (mean x) := by
  refine Reads.congr (hd.bind fun x => reads_pure (f (mean x))) ?_
  intro bytes b
  simp

lemma ReadsAs.map₂ {γ : Type} {g : α → Decode β} {write : X → List UInt8} {mean : X → β}
    (hd : ReadsAs (d >>= g) write mean) (f : β → γ) :
    ReadsAs (d >>= fun a => g a >>= fun b => pure (f b)) write fun x => f (mean x) := by
  rw [← bind_assoc]
  exact hd.map f

/-- Something is passed over first. -/
lemma ReadsAs.after {s : Decode Unit} {write' : Y → List UInt8} (hs : ReadsAs s write' fun _ => ())
    {write : X → List UInt8} {mean : X → α} (hd : ReadsAs d write mean) :
    ReadsAs (s >>= fun _ => d) (fun x : Y × X => write' x.1 ++ write x.2) fun x => mean x.2 := by
  refine Reads.congr (hs.bind (f := fun _ => d) fun _ => hd) ?_
  intro bytes b
  constructor
  · rintro ⟨y, _, rfl, x, rfl, rfl⟩
    exact ⟨(y, x), rfl, rfl⟩
  · rintro ⟨⟨y, x⟩, rfl, rfl⟩
    exact ⟨y, _, rfl, x, rfl, rfl⟩

lemma reads_lift (r : Except Fault α) :
    ReadsAs (liftM r : Decode α) (fun _ : { a // r = .ok a } => []) Subtype.val := by
  intro c a c'
  cases r with
  | error fault =>
    change Except.error fault = _ ↔ _
    simp
  | ok b =>
    change Except.ok (b, c) = _ ↔ _
    simp only [Except.ok.injEq, Prod.mk.injEq]
    constructor
    · rintro ⟨rfl, rfl⟩
      exact ⟨[], Cursor.past_nil_iff.2 rfl, ⟨b, rfl⟩, rfl, rfl⟩
    · rintro ⟨_, hpast, ⟨_, hb⟩, rfl, rfl⟩
      cases hb
      exact ⟨rfl, (Cursor.past_nil_iff.1 hpast).symm⟩

lemma within_eq_ok_iff {place : Place} {c : Cursor} {r : α × Cursor} :
    d.within place c = .ok r ↔ d c = .ok r := by
  change (d c).mapError _ = _ ↔ _
  cases d c with
  | error fault => simp [Except.mapError]
  | ok r => simp [Except.mapError]

lemma Reads.within (hd : Reads d R) (place : Place) : Reads (d.within place) R := by
  intro c a c'
  rw [← hd, within_eq_ok_iff]

lemma Reads.ite {p : Prop} [Decidable p] {e : Decode α} (hd : Reads d R) (he : Reads e R') :
    Reads (if p then d else e) fun bytes a => p ∧ R bytes a ∨ ¬ p ∧ R' bytes a := by
  by_cases hp : p
  · simpa [hp] using hd
  · simpa [hp] using he

lemma reads_throw (fault : Fault) : Reads (throw fault : Decode α) fun _ _ => False := by
  intro c a c'
  change Except.error fault = _ ↔ _
  simp

lemma reads_u8 (item : Item) : ReadsAs (u8 item) (fun b => [b]) UInt8.toNat := by
  rintro ⟨rest, offset⟩ n ⟨rest', offset'⟩
  constructor
  · intro h
    match rest, h with
    | a :: rest, h =>
      cases h
      exact ⟨[a], ⟨rfl, rfl⟩, a, rfl, rfl⟩
  · rintro ⟨_, ⟨hrest, hoffset⟩, b, rfl, rfl⟩
    obtain rfl : rest = b :: rest' := hrest
    obtain rfl : offset' = offset + 1 := hoffset
    rfl

lemma reads_u16 (item : Item) : ReadsAs (u16 item) word16 UInt16.toNat := by
  rintro ⟨rest, offset⟩ n ⟨rest', offset'⟩
  constructor
  · intro h
    match rest, h with
    | a :: b :: rest, h =>
      cases h
      have ha := a.toNat_lt
      have hb := b.toNat_lt
      refine ⟨[a, b], ⟨rfl, rfl⟩, .ofNat (a.toNat * 0x100 + b.toNat), (word16_ofNat a b).symm, ?_⟩
      rw [UInt16.toNat_ofNat']
      omega
  · rintro ⟨_, ⟨hrest, hoffset⟩, w, rfl, rfl⟩
    obtain rfl : rest = word16 w ++ rest' := hrest
    obtain rfl : offset' = offset + 2 := hoffset
    have hw := w.toNat_lt
    simp only [word16, List.cons_append, List.nil_append, u16, UInt8.toNat_ofNat']
    congr 2
    omega

lemma reads_u32 (item : Item) : ReadsAs (u32 item) word32 UInt32.toNat := by
  rintro ⟨rest, offset⟩ n ⟨rest', offset'⟩
  constructor
  · intro h
    match rest, h with
    | a :: b :: c :: d :: rest, h =>
      cases h
      have ha := a.toNat_lt
      have hb := b.toNat_lt
      have hc := c.toNat_lt
      have hd := d.toNat_lt
      refine ⟨[a, b, c, d], ⟨rfl, rfl⟩, _, (word32_ofNat a b c d).symm, ?_⟩
      rw [UInt32.toNat_ofNat']
      omega
  · rintro ⟨_, ⟨hrest, hoffset⟩, w, rfl, rfl⟩
    obtain rfl : rest = word32 w ++ rest' := hrest
    obtain rfl : offset' = offset + 4 := hoffset
    have hw := w.toNat_lt
    simp only [word32, List.cons_append, List.nil_append, u32, UInt8.toNat_ofNat']
    congr 2
    omega

lemma reads_bytes (item : Item) (n : ℕ) :
    ReadsAs (bytes item n) (fun b : { b : List UInt8 // b.length = n } => b.1) Subtype.val := by
  rintro ⟨rest, offset⟩ b ⟨rest', offset'⟩
  constructor
  · intro h
    rw [bytes] at h
    split at h
    · next htaken =>
      cases h
      refine ⟨rest.take n, ⟨(List.take_append_drop n rest).symm, ?_⟩, ⟨_, htaken⟩, rfl, rfl⟩
      rw [htaken]
    · cases h
  · rintro ⟨_, ⟨hrest, hoffset⟩, ⟨b, rfl⟩, rfl, rfl⟩
    obtain rfl : rest = b ++ rest' := hrest
    obtain rfl : offset' = offset + b.length := hoffset
    simp [bytes]

lemma reads_skip (item : Item) (n : ℕ) :
    ReadsAs (skip item n) (fun b : { b : List UInt8 // b.length = n } => b.1) fun _ => () :=
  (reads_bytes item n).map fun _ => ()

lemma reads_skip_word (item : Item) : ReadsAs (skip item 2) word16 fun _ => () := by
  refine Reads.congr (reads_skip item 2) ?_
  intro bytes _
  constructor
  · rintro ⟨⟨b, hb⟩, rfl, -⟩
    obtain ⟨n, rfl⟩ := exists_word16 hb
    exact ⟨n, rfl, rfl⟩
  · rintro ⟨n, rfl, -⟩
    exact ⟨⟨word16 n, rfl⟩, rfl, rfl⟩

lemma reads_skip_words (item : Item) :
    ReadsAs (skip item 4) (fun w : UInt16 × UInt16 => word16 w.1 ++ word16 w.2) fun _ => () := by
  refine Reads.congr (reads_skip item 4) ?_
  intro bytes _
  constructor
  · rintro ⟨⟨_, hlength⟩, rfl, -⟩
    obtain ⟨m, hm⟩ := exists_word16 (b := bytes.take 2) (by simp [hlength])
    obtain ⟨n, hn⟩ := exists_word16 (b := bytes.drop 2) (by simp [hlength])
    refine ⟨(m, n), ?_, rfl⟩
    change bytes = word16 m ++ word16 n
    rw [← hm, ← hn, List.take_append_drop]
  · rintro ⟨⟨m, n⟩, rfl, -⟩
    exact ⟨⟨word16 m ++ word16 n, rfl⟩, rfl, rfl⟩

/-! ## Steps in a row -/

lemma times_go (d : Decode α) (n : ℕ) (before : List α) :
    times.go d n before = times d n >>= fun l => pure (before.reverse ++ l) := by
  rw [times]
  induction n generalizing before with
  | zero => simp [times.go]
  | succ n ih =>
    simp only [times.go, bind_assoc]
    congr
    funext a
    rw [ih (a :: before), ih [a]]
    simp

lemma times_succ (d : Decode α) (n : ℕ) :
    times d (n + 1) = d >>= fun a => times d n >>= fun l => pure (a :: l) := by
  rw [times, times.go]
  congr
  funext a
  exact times_go d n [a]

/-- As many steps as a number says. -/
theorem reads_times {write : X → List UInt8} {mean : X → α} (hd : ReadsAs d write mean) (n : ℕ) :
    ReadsAs (times d n) (fun l : { l : List X // l.length = n } => l.1.flatMap write)
      fun l => l.1.map mean := by
  induction n with
  | zero =>
    refine Reads.congr (reads_pure []) ?_
    intro bytes l
    constructor
    · rintro ⟨rfl, rfl⟩
      exact ⟨⟨[], rfl⟩, rfl, rfl⟩
    · rintro ⟨⟨l, hl⟩, rfl, rfl⟩
      obtain rfl := List.length_eq_zero_iff.1 hl
      exact ⟨rfl, rfl⟩
  | succ n ih =>
    rw [times_succ]
    refine Reads.congr (hd.bind fun x => ih.map (mean x :: ·)) ?_
    intro bytes l
    constructor
    · rintro ⟨x, _, rfl, ⟨xs, rfl⟩, rfl, rfl⟩
      exact ⟨⟨x :: xs, rfl⟩, rfl, rfl⟩
    · rintro ⟨⟨xs, hxs⟩, rfl, rfl⟩
      obtain ⟨x, xs, rfl⟩ := List.exists_cons_of_length_eq_add_one hxs
      exact ⟨x, _, rfl, ⟨xs, by simpa using hxs⟩, rfl, rfl⟩

/-- As many steps as a number says that stands before them. -/
theorem reads_table {write : X → List UInt8} {mean : X → α} (hd : ReadsAs d write mean)
    (item : Item) :
    ReadsAs (u16 item >>= times d) (Table.bytes write) fun t => t.entries.map mean := by
  refine Reads.congr ((reads_u16 item).bind fun w => reads_times hd w.toNat) ?_
  intro bytes l
  constructor
  · rintro ⟨w, _, rfl, ⟨xs, hxs⟩, rfl, rfl⟩
    have hw := w.toNat_lt
    have hlength : (Table.ofList xs (by omega)).length = w := by
      rw [← UInt16.toNat_inj, ← Table.length_entries, Table.entries_ofList, hxs]
    refine ⟨.ofList xs (by omega), ?_, ?_⟩
    · rw [Table.bytes, hlength, Table.entries_ofList]
    · simp
  · rintro ⟨t, rfl, rfl⟩
    exact ⟨t.length, _, rfl, ⟨t.entries, t.length_entries⟩, rfl, rfl⟩

/-- A step on a whole string of bytes need not take all of it. -/
theorem ReadsAs.onBytes_eq_ok_iff {write : X → List UInt8} {mean : X → α}
    (hd : ReadsAs d write mean) {bytes : List UInt8} {a : α} :
    d.onBytes bytes = .ok a ↔ ∃ x rest, bytes = write x ++ rest ∧ a = mean x := by
  have hrun : d.onBytes bytes = .ok a ↔ ∃ c, d { rest := bytes } = .ok (a, c) := by
    change (d { rest := bytes }).map _ = _ ↔ _
    cases d { rest := bytes } with
    | error fault => simp [Except.map]
    | ok r => simp [Except.map, Prod.ext_iff]
  rw [hrun]
  constructor
  · rintro ⟨c, hc⟩
    obtain ⟨_, hpast, x, rfl, rfl⟩ := (hd _ _ _).1 hc
    exact ⟨x, c.rest, hpast.rest_eq, rfl⟩
  · rintro ⟨x, rest, rfl, rfl⟩
    exact ⟨⟨rest, (write x).length⟩,
      (hd _ _ _).2 ⟨write x, ⟨rfl, (Nat.zero_add _).symm⟩, x, rfl, rfl⟩⟩

end Decode

end PluginFacts.ClassFile
