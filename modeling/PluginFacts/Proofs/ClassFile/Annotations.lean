/-
# Annotations as they are written

An annotation is a reference to its type and a table of named values.  A value is a constant, an
enumeration constant, an annotation or a table of values, so that values are trees, and
`Value.height` is how deep one is nested.  `value` with a depth reads the values that are at most as
high (`reads_value`).  As a value is nowhere higher than it is long, `annotations` finds the values
of every height.
-/
import Mathlib.Data.Finset.Lattice.Fold
import Mathlib.Data.Fintype.Basic
import Mathlib.Order.Lattice.Nat
import PluginFacts.ClassFile.Annotation
import PluginFacts.Proofs.ClassFile.Constants

namespace PluginFacts.ClassFile

/-- What the values that are references to one constant start with. -/
def plainTags : List Char :=
  ['B', 'C', 'D', 'F', 'I', 'J', 'S', 'Z', 's', 'c']

lemma toNat_lt_of_mem_plainTags {tag : Char} (h : tag ∈ plainTags) : tag.toNat < 0x100 := by
  have hall : plainTags.all (·.toNat < 0x100) = true := by decide
  exact of_decide_eq_true (List.all_eq_true.1 hall tag h)

/-- A value of an annotation as it is written. -/
inductive Value (cs : List Constant) where
  /-- A constant or a class. -/
  | plain (tag : Char) (mem_tags : tag ∈ plainTags) (index : UInt16)
  /-- An enumeration constant, by the indices of its type and name. -/
  | enum (type name : UInt16)
  /-- An annotation, with the indices of the names of its values. -/
  | nested (type : TextRef cs) (length : UInt16) (name : Fin length.toNat → UInt16)
    (value : Fin length.toNat → Value cs)
  /-- Values in a row. -/
  | array (length : UInt16) (value : Fin length.toNat → Value cs)

namespace Value

variable {cs : List Constant}

/-- The byte that a value starts with. -/
def mark (tag : Char) : UInt8 :=
  .ofNat tag.toNat

lemma mark_ofNat (b : UInt8) : mark (Char.ofNat b.toNat) = b := by
  have hlt := b.toNat_lt
  have hvalid : b.toNat.isValidChar := .inl (by omega)
  have htoNat : (Char.ofNat b.toNat).toNat = b.toNat := by
    rw [Char.ofNat, dif_pos hvalid]
    rfl
  rw [mark, htoNat, UInt8.ofNat_toNat]

lemma ofNat_mark {tag : Char} (h : tag.toNat < 0x100) : Char.ofNat (mark tag).toNat = tag := by
  rw [mark, UInt8.toNat_ofNat', Nat.mod_eq_of_lt h, Char.ofNat_toNat]

/-- The value as it is written. -/
def bytes : Value cs → List UInt8
  | plain tag _ index => mark tag :: word16 index
  | enum type name => mark 'e' :: (word16 type ++ word16 name)
  | nested type length name value => mark '@' :: (word16 type.index ++
      (word16 length ++ (List.ofFn fun i => word16 (name i) ++ (value i).bytes).flatten))
  | array length value =>
      mark '[' :: (word16 length ++ (List.ofFn fun i => (value i).bytes).flatten)

/-- How deep the value is nested. -/
def height : Value cs → ℕ
  | plain .. | enum .. => 1
  | nested _ _ _ value | array _ value => (Finset.univ.sup fun i => (value i).height) + 1

lemma height_nested_le_iff {type : TextRef cs} {length : UInt16} {name : Fin length.toNat → UInt16}
    {value : Fin length.toNat → Value cs} {depth : ℕ} :
    (nested type length name value).height ≤ depth + 1 ↔ ∀ i, (value i).height ≤ depth := by
  rw [height, Nat.succ_le_succ_iff, Finset.sup_le_iff]
  exact ⟨fun h i => h i (Finset.mem_univ i), fun h i _ => h i⟩

lemma height_array_le_iff {length : UInt16} {value : Fin length.toNat → Value cs} {depth : ℕ} :
    (array length value).height ≤ depth + 1 ↔ ∀ i, (value i).height ≤ depth := by
  rw [height, Nat.succ_le_succ_iff, Finset.sup_le_iff]
  exact ⟨fun h i => h i (Finset.mem_univ i), fun h i _ => h i⟩

/-- Every value takes at least the byte that it starts with. -/
lemma height_le_length_bytes (v : Value cs) : v.height ≤ v.bytes.length := by
  have hsup : ∀ {n : ℕ} {h : Fin n → ℕ} {b : Fin n → List UInt8}, (∀ i, h i ≤ (b i).length) →
      Finset.univ.sup h ≤ (List.ofFn b).flatten.length := by
    intro n h b hle
    exact Finset.sup_le fun i _ => (hle i).trans (Table.length_le_length_flatten b i)
  induction v with
  | plain tag h index => simp [height, bytes]
  | enum type name => simp [height, bytes]
  | nested type length name value ih =>
    have := hsup (b := fun i => word16 (name i) ++ (value i).bytes) fun i => (ih i).trans (by simp)
    simp only [height, bytes, List.length_cons, List.length_append]
    omega
  | array length value ih =>
    have := hsup ih
    simp only [height, bytes, List.length_cons, List.length_append]
    omega

end Value

/-- An annotation as it is written. -/
structure AnnotationLayout (cs : List Constant) where
  /-- Its type. -/
  type : TextRef cs
  /-- The indices of the names of its values, and the values. -/
  pairs : Table (UInt16 × Value cs)

namespace AnnotationLayout

variable {cs : List Constant}

/-- The annotation as it is written. -/
def bytes (a : AnnotationLayout cs) : List UInt8 :=
  word16 a.type.index ++ a.pairs.bytes fun e => word16 e.1 ++ e.2.bytes

/-- No value of the annotation is higher than a depth. -/
def IsWithin (depth : ℕ) (a : AnnotationLayout cs) : Prop :=
  ∀ i, (a.pairs.entry i).2.height ≤ depth

lemma isWithin_length_bytes (a : AnnotationLayout cs) : a.IsWithin a.bytes.length := by
  intro i
  have hentry := a.pairs.length_le_length_bytes (fun e => word16 e.1 ++ e.2.bytes) i
  have hvalue := (a.pairs.entry i).2.height_le_length_bytes
  rw [List.length_append] at hentry
  rw [bytes, List.length_append]
  omega

lemma IsWithin.mono {a : AnnotationLayout cs} {m n : ℕ} (h : a.IsWithin m) (hle : m ≤ n) :
    a.IsWithin n :=
  fun i => (h i).trans hle

end AnnotationLayout

/-! ## Types of annotations -/

lemma forall₂_eq_map_iff {α β : Type} {f : α → β} {l : List α} {l' : List β} :
    List.Forall₂ (fun a b => b = f a) l l' ↔ l' = l.map f := by
  simp only [@eq_comm _ _ (f _), @eq_comm _ l']
  rw [← List.forall₂_map_left_iff, List.forall₂_eq_eq_eq]

/-- The second name is the first one with dots for its slashes. -/
def IsDotted (internal name : String) : Prop :=
  List.Forall₂ (fun c d => if c = '/' then d = '.' else d = c) internal.toList name.toList

lemma isDotted_iff {internal name : String} : IsDotted internal name ↔ name = dotted internal := by
  have hchar : ∀ c d : Char, (if c = '/' then d = '.' else d = c) ↔
      d = if c = '/' then '.' else c := by
    intro c d
    split <;> rfl
  simp only [IsDotted, hchar, forall₂_eq_map_iff]
  rw [← String.toList_inj, dotted, String.toList_ofList]

/-- The types of annotations that count are classes, and count under their dotted names. -/
theorem annotationType?_eq_some_iff {descriptor type : String} :
    annotationType? descriptor = some type ↔ ∃ name : List Char,
      name ≠ [] ∧ descriptor.toList = 'L' :: (name ++ [';']) ∧
        type = dotted (String.ofList name) := by
  rw [annotationType?]
  split
  · next rest hrest =>
    rw [hrest]
    constructor
    · intro h
      split at h
      · next hclass =>
        cases h
        exact ⟨rest.dropLast, hclass.2, by rw [List.dropLast_append_getLast? _ hclass.1], rfl⟩
      · cases h
    · rintro ⟨name, hname, hdescriptor, rfl⟩
      cases hdescriptor
      simp [hname]
  · next hother =>
    constructor
    · rintro ⟨⟩
    · rintro ⟨name, -, hdescriptor, -⟩
      exact absurd hdescriptor (hother _)

/-- The type that is noted of an annotation, by what the type is written as. -/
inductive Denotes (descriptor : String) : Option String → Prop
  /-- A class, between an `L` and a semicolon, has its name noted with dots for its slashes. -/
  | object {internal : List Char} {name : String} (hne : internal ≠ [])
    (h : descriptor.toList = 'L' :: (internal ++ [';']))
    (hname : IsDotted (String.ofList internal) name) : Denotes descriptor (some name)
  /-- Of any other type nothing is noted. -/
  | other (h : ∀ internal, internal ≠ [] → descriptor.toList ≠ 'L' :: (internal ++ [';'])) :
    Denotes descriptor none

lemma denotes_iff {descriptor : String} {type? : Option String} :
    Denotes descriptor type? ↔ type? = annotationType? descriptor := by
  constructor
  · rintro (⟨hne, h, hname⟩ | h)
    · exact (annotationType?_eq_some_iff.2 ⟨_, hne, h, isDotted_iff.1 hname⟩).symm
    · cases htype : annotationType? descriptor with
      | none => rfl
      | some type =>
        obtain ⟨internal, hne, hdescriptor, -⟩ := annotationType?_eq_some_iff.1 htype
        exact absurd hdescriptor (h internal hne)
  · rintro rfl
    cases htype : annotationType? descriptor with
    | some type =>
      obtain ⟨internal, hne, hdescriptor, hname⟩ := annotationType?_eq_some_iff.1 htype
      exact .object hne hdescriptor (isDotted_iff.2 hname)
    | none =>
      refine .other fun internal hne hdescriptor => ?_
      rw [annotationType?_eq_some_iff.2 ⟨internal, hne, hdescriptor, rfl⟩] at htype
      cases htype

/-- The types that are noted of annotations, in order. -/
inductive AreNoted {cs : List Constant} : List (AnnotationLayout cs) → List String → Prop
  | nil : AreNoted [] []
  | noted {a : AnnotationLayout cs} {l : List (AnnotationLayout cs)} {type : String}
    {types : List String} (ha : Denotes a.type.text (some type)) (hl : AreNoted l types) :
    AreNoted (a :: l) (type :: types)
  | passed {a : AnnotationLayout cs} {l : List (AnnotationLayout cs)} {types : List String}
    (ha : Denotes a.type.text none) (hl : AreNoted l types) : AreNoted (a :: l) types

lemma areNoted_iff {cs : List Constant} {l : List (AnnotationLayout cs)} {types : List String} :
    AreNoted l types ↔ types = l.filterMap fun a => annotationType? a.type.text := by
  constructor
  · intro h
    induction h with
    | nil => rfl
    | noted ha _ ih => simp only [List.filterMap_cons, ← denotes_iff.1 ha, ih]
    | passed ha _ ih => simp only [List.filterMap_cons, ← denotes_iff.1 ha, ih]
  · rintro rfl
    induction l with
    | nil => exact .nil
    | cons a l ih =>
      cases ha : annotationType? a.type.text with
      | some type =>
        simp only [List.filterMap_cons, ha]
        exact .noted (denotes_iff.2 ha.symm) ih
      | none =>
        simp only [List.filterMap_cons, ha]
        exact .passed (denotes_iff.2 ha.symm) ih

section Reads

open Decode

variable {p : Pool} {cs : List Constant} {X : Type}

/-- An annotation, given how its values are read. -/
lemma reads_annotationWith (hp : p.IsOf cs) {d : Decode Unit} {write : X → List UInt8}
    (hd : ReadsAs d write fun _ => ()) :
    ReadsAs (annotationWith d p)
      (fun a : TextRef cs × Table (UInt16 × X) =>
        word16 a.1.index ++ a.2.bytes fun e => word16 e.1 ++ write e.2)
      fun a => annotationType? a.1.text := by
  have hpairs : ReadsAs (skip .elementName 2 >>= fun _ => d)
      (fun e : UInt16 × X => word16 e.1 ++ write e.2) fun _ => () :=
    ReadsAs.after (reads_skip_word .elementName) hd
  refine Reads.congr ((hp.reads_text .annotationType).bind₂ fun type =>
    (reads_table hpairs .pairCount).map₂ fun _ => annotationType? type.text) ?_
  intro bytes type?
  constructor
  · rintro ⟨type, _, rfl, pairs, rfl, rfl⟩
    exact ⟨(type, pairs), rfl, rfl⟩
  · rintro ⟨⟨type, pairs⟩, rfl, rfl⟩
    exact ⟨type, _, rfl, pairs, rfl, rfl⟩

lemma value_succ (p : Pool) (depth : ℕ) : value p (depth + 1) = u8 .valueTag >>= fun tag =>
    if Char.ofNat tag ∈ plainTags then skip .plainValue 2
    else if Char.ofNat tag = 'e' then skip .enumValue 4
    else if Char.ofNat tag = '@' then annotationWith (value p depth) p >>= fun _ => pure ()
    else if Char.ofNat tag = '[' then
      u16 .arrayLength >>= fun n => times (value p depth) n >>= fun _ => pure ()
    else throw (.unknownValueTag tag) := by
  rw [value]
  congr
  funext tag
  split <;> simp_all [plainTags]

/-- With one more depth, the values are read whose inner values were read before. -/
lemma reads_value_succ (hp : p.IsOf cs) {depth : ℕ}
    (hvalue : ReadsAs (value p depth) (fun v : { v : Value cs // v.height ≤ depth } => v.1.bytes)
      fun _ => ()) :
    ReadsAs (value p (depth + 1)) (fun v : { v : Value cs // v.height ≤ depth + 1 } => v.1.bytes)
      fun _ => () := by
  rw [value_succ]
  refine Reads.congr ((reads_u8 .valueTag).bind fun b =>
    (reads_skip_word .plainValue).ite ((reads_skip_words .enumValue).ite
      (((reads_annotationWith hp hvalue).map fun _ => ()).ite
        (((reads_table hvalue .arrayLength).map₂ fun _ => ()).ite (reads_throw _))))) ?_
  intro bytes _
  constructor
  · rintro ⟨b, _, rfl, ⟨htag, index, rfl, -⟩ | ⟨-, ⟨htag, ⟨type, name⟩, rfl, -⟩ |
      ⟨-, ⟨htag, ⟨type, pairs⟩, rfl, -⟩ | ⟨-, ⟨htag, values, rfl, -⟩ | ⟨-, ⟨⟩⟩⟩⟩⟩⟩
    · refine ⟨⟨.plain (Char.ofNat b.toNat) htag index, by simp [Value.height]⟩, ?_, rfl⟩
      simp only [Value.bytes, Value.mark_ofNat]
      rfl
    · obtain rfl : Value.mark 'e' = b := by rw [← htag, Value.mark_ofNat]
      exact ⟨⟨.enum type name, by simp [Value.height]⟩, rfl, rfl⟩
    · obtain rfl : Value.mark '@' = b := by rw [← htag, Value.mark_ofNat]
      refine ⟨⟨.nested type pairs.length (fun i => (pairs.entry i).1) fun i => (pairs.entry i).2.1,
        Value.height_nested_le_iff.2 fun i => (pairs.entry i).2.2⟩, ?_, rfl⟩
      simp only [Value.bytes, Table.bytes_eq]
      rfl
    · obtain rfl : Value.mark '[' = b := by rw [← htag, Value.mark_ofNat]
      refine ⟨⟨.array values.length fun i => (values.entry i).1,
        Value.height_array_le_iff.2 fun i => (values.entry i).2⟩, ?_, rfl⟩
      simp only [Value.bytes, Table.bytes_eq]
      rfl
  · rintro ⟨⟨v, hv⟩, rfl, -⟩
    cases v with
    | plain tag h index =>
      have htag : Char.ofNat (Value.mark tag).toNat = tag :=
        Value.ofNat_mark (toNat_lt_of_mem_plainTags h)
      exact ⟨Value.mark tag, _, rfl, .inl ⟨htag.symm ▸ h, index, rfl, rfl⟩⟩
    | enum type name =>
      exact ⟨Value.mark 'e', _, rfl, .inr ⟨by decide, .inl ⟨rfl, (type, name), rfl, rfl⟩⟩⟩
    | nested type length name value =>
      have hinner := Value.height_nested_le_iff.1 hv
      refine ⟨Value.mark '@', _, rfl, .inr ⟨by decide, .inr ⟨by decide, .inl ⟨rfl,
        (type, ⟨length, fun i => (name i, ⟨value i, hinner i⟩)⟩), ?_, rfl⟩⟩⟩⟩
      simp only [Table.bytes_eq]
      rfl
    | array length value =>
      have hinner := Value.height_array_le_iff.1 hv
      refine ⟨Value.mark '[', _, rfl, .inr ⟨by decide, .inr ⟨by decide, .inr ⟨by decide, .inl ⟨rfl,
        ⟨length, fun i => ⟨value i, hinner i⟩⟩, ?_, rfl⟩⟩⟩⟩⟩
      simp only [Table.bytes_eq]
      rfl

/-- The values that are read with a depth are those that are at most as high. -/
theorem reads_value (hp : p.IsOf cs) (depth : ℕ) :
    ReadsAs (value p depth) (fun v : { v : Value cs // v.height ≤ depth } => v.1.bytes)
      fun _ => () := by
  induction depth with
  | zero =>
    -- no value is this low
    rintro c _ c'
    constructor
    · rintro ⟨⟩
    · rintro ⟨_, -, ⟨v, hv⟩, -⟩
      cases v <;> cases hv
  | succ depth ih => exact reads_value_succ hp ih

lemma reads_annotationEntry (hp : p.IsOf cs) (depth : ℕ) :
    ReadsAs (annotationEntry p depth)
      (fun a : { a : AnnotationLayout cs // a.IsWithin depth } => a.1.bytes)
      fun a => annotationType? a.1.type.text := by
  refine Reads.congr (reads_annotationWith hp (reads_value hp depth)) ?_
  intro bytes type?
  constructor
  · rintro ⟨⟨type, pairs⟩, rfl, rfl⟩
    refine ⟨⟨⟨type, pairs.map (Prod.map id Subtype.val)⟩, fun i => (pairs.entry i).2.2⟩, ?_, rfl⟩
    simp only [AnnotationLayout.bytes, Table.bytes_map]
    rfl
  · rintro ⟨⟨⟨type, pairs⟩, hwithin⟩, rfl, rfl⟩
    refine ⟨(type, ⟨pairs.length, fun i => ((pairs.entry i).1, ⟨(pairs.entry i).2, hwithin i⟩)⟩),
      ?_, rfl⟩
    simp only [AnnotationLayout.bytes, Table.bytes_eq]

/-- The annotations in a body are a table that it starts with. -/
theorem annotations_eq_ok_iff (hp : p.IsOf cs) {body : List UInt8} {types : List String} :
    annotations p body = .ok types ↔ ∃ (t : Table (AnnotationLayout cs)) (rest : List UInt8),
      body = t.bytes AnnotationLayout.bytes ++ rest ∧
        types = t.entries.filterMap fun a => annotationType? a.type.text := by
  have htable : ReadsAs (annotations.table p body) _ _ :=
    (reads_table (reads_annotationEntry hp body.length) .annotationCount).map₂
      fun types => types.filterMap id
  rw [annotations, htable.onBytes_eq_ok_iff]
  constructor
  · rintro ⟨t, rest, hbody, rfl⟩
    refine ⟨t.map Subtype.val, rest, ?_, ?_⟩
    · rw [Table.bytes_map]
      exact hbody
    · simp [List.filterMap_map]
  · rintro ⟨t, rest, hbody, rfl⟩
    have hwithin : ∀ i, (t.entry i).IsWithin body.length := by
      intro i
      have hle := t.length_le_length_bytes AnnotationLayout.bytes i
      refine (t.entry i).isWithin_length_bytes.mono ?_
      rw [hbody, List.length_append]
      omega
    -- the table with the bound on its entries
    let t' : Table { a : AnnotationLayout cs // a.IsWithin body.length } :=
      ⟨t.length, fun i => ⟨t.entry i, hwithin i⟩⟩
    have ht : t = t'.map Subtype.val := rfl
    refine ⟨t', rest, ?_, ?_⟩
    · rw [ht, Table.bytes_map] at hbody
      exact hbody
    · rw [ht]
      simp [List.filterMap_map]

end Reads

end PluginFacts.ClassFile
