/-
# How deep annotations are nested

`value` is given a bound on the depth, as a value may hold values and annotations, which hold values
again. Here are the two steps without a bound, `skipValue` and `readAnnotationEntry`, each of which
is made of the other: `skipValue_eq` and the definition of `readAnnotationEntry`.  A round of this
recursion takes a byte before it starts another one, so no more rounds are started inside one
another than there are bytes, and what stands in for one more round does not matter
(`iterate_round_eq`).  Hence the bound is never reached as long as it is not below the number of
bytes (`value_eq_skipValue`), which it is not where the program sets it (`annotations_eq`).

`PassesOver` says what the two steps come to, and `passesOver` that they do.
-/
import PluginFacts.Proofs.ClassFile.Annotations

namespace PluginFacts.ClassFile

namespace Decode

variable {α β X : Type} {d e : Decode α} {m n : ℕ}

/-! ## How much is taken -/

/-- Where the step succeeds, it has passed at least as many bytes. -/
def TakesAtLeast (n : ℕ) (d : Decode α) : Prop :=
  ∀ c a c', d c = .ok (a, c') → ∃ bytes, c.Past bytes c' ∧ n ≤ bytes.length

namespace TakesAtLeast

lemma of_reads {R : List UInt8 → α → Prop} (hd : Reads d R)
    (hlength : ∀ bytes a, R bytes a → n ≤ bytes.length) : d.TakesAtLeast n := by
  intro c a c' h
  obtain ⟨bytes, hpast, hR⟩ := (hd c a c').1 h
  exact ⟨bytes, hpast, hlength bytes a hR⟩

lemma mono (hd : d.TakesAtLeast n) (hle : m ≤ n) : d.TakesAtLeast m := by
  intro c a c' h
  obtain ⟨bytes, hpast, hlength⟩ := hd c a c' h
  exact ⟨bytes, hpast, hle.trans hlength⟩

lemma length_rest_le (hd : d.TakesAtLeast n) {c c' : Cursor} {a : α} (h : d c = .ok (a, c')) :
    c'.rest.length + n ≤ c.rest.length := by
  obtain ⟨bytes, hpast, hlength⟩ := hd c a c' h
  rw [hpast.rest_eq, List.length_append]
  omega

protected lemma bind (hd : d.TakesAtLeast m) {f : α → Decode β} (hf : ∀ a, (f a).TakesAtLeast n) :
    (d >>= f).TakesAtLeast (m + n) := by
  intro c b c' h
  obtain ⟨a, c₁, hda, hfa⟩ := bind_eq_ok_iff.1 h
  obtain ⟨bytes, hpast, hlength⟩ := hd c a c₁ hda
  obtain ⟨bytes', hpast', hlength'⟩ := hf a c₁ b c' hfa
  refine ⟨bytes ++ bytes', hpast.append hpast', ?_⟩
  rw [List.length_append]
  exact Nat.add_le_add hlength hlength'

protected lemma ite {p : Prop} [Decidable p] (hd : d.TakesAtLeast n) (he : e.TakesAtLeast n) :
    (if p then d else e).TakesAtLeast n := by
  split
  · exact hd
  · exact he

protected lemma pure (a : α) : (pure a : Decode α).TakesAtLeast 0 :=
  of_reads (reads_pure a) fun _ _ _ => Nat.zero_le _

protected lemma lift (r : Except Fault α) : (liftM r : Decode α).TakesAtLeast 0 :=
  of_reads (reads_lift r) fun _ _ _ => Nat.zero_le _

protected lemma throw (fault : Fault) : (throw fault : Decode α).TakesAtLeast n :=
  of_reads (reads_throw fault) fun _ _ h => h.elim

protected lemma u8 (item : Item) : (u8 item).TakesAtLeast 1 :=
  of_reads (reads_u8 item) fun _ _ ⟨_, h, _⟩ => h ▸ Nat.le_refl 1

protected lemma u16 (item : Item) : (u16 item).TakesAtLeast 2 :=
  of_reads (reads_u16 item) fun _ _ ⟨_, h, _⟩ => h ▸ Nat.le_refl 2

protected lemma skip (item : Item) (n : ℕ) : (skip item n).TakesAtLeast n :=
  of_reads (reads_skip item n) fun _ _ ⟨b, h, _⟩ => h ▸ b.2.ge

protected lemma times (hd : d.TakesAtLeast m) (n : ℕ) : (times d n).TakesAtLeast 0 := by
  induction n with
  | zero => exact .pure []
  | succ n ih =>
    rw [times_succ]
    exact ((hd.mono (Nat.zero_le m)).bind fun _ => ih.bind fun _ => .pure _)

end TakesAtLeast

/-! ## Steps that agree near the end -/

/-- With fewer bytes ahead, the steps do the same. -/
def AgreeBelow (n : ℕ) (d e : Decode α) : Prop :=
  ∀ c, c.rest.length < n → d c = e c

namespace AgreeBelow

protected lemma refl (n : ℕ) (d : Decode α) : AgreeBelow n d d :=
  fun _ _ => rfl

lemma mono (hd : AgreeBelow n d e) (hle : m ≤ n) : AgreeBelow m d e :=
  fun c hc => hd c (hc.trans_le hle)

/-- What follows a step has fewer bytes ahead, by those that the step has taken. -/
protected lemma bind {f g : α → Decode β} (hd : AgreeBelow n d e) (he : e.TakesAtLeast m)
    (hf : ∀ a, AgreeBelow (n - m) (f a) (g a)) : AgreeBelow n (d >>= f) (e >>= g) := by
  intro c hc
  cases h : e c with
  | error fault => rw [bind_of_eq_error ((hd c hc).trans h), bind_of_eq_error h]
  | ok r =>
    have hrest := he.length_rest_le h
    rw [bind_of_eq_ok ((hd c hc).trans h), bind_of_eq_ok h]
    exact hf r.1 r.2 (by omega)

protected lemma times (hd : AgreeBelow n d e) (he : e.TakesAtLeast m) (k : ℕ) :
    AgreeBelow n (times d k) (times e k) := by
  induction k with
  | zero => exact .refl n _
  | succ k ih =>
    rw [times_succ, times_succ]
    exact hd.bind he fun _ => (ih.mono (Nat.sub_le n m)).bind (he.times k) fun _ => .refl _ _

protected lemma ite {p : Prop} [Decidable p] {d' e' : Decode α} (hd : AgreeBelow n d e)
    (hd' : AgreeBelow n d' e') : AgreeBelow n (if p then d else d') (if p then e else e') := by
  split
  · exact hd
  · exact hd'

end AgreeBelow

end Decode

open Decode

/-! ## The recursion -/

/-- Passes over a value, given how the values in it are passed over and how an
annotation is read. -/
def valueWith (value : Decode Unit) (entry : Decode (Option String)) : Decode Unit :=
  u8 .valueTag >>= fun tag =>
    if Char.ofNat tag ∈ plainTags then skip .plainValue 2
    else if Char.ofNat tag = 'e' then skip .enumValue 4
    else if Char.ofNat tag = '@' then entry >>= fun _ => pure ()
    else if Char.ofNat tag = '[' then
      u16 .arrayLength >>= fun n => times value n >>= fun _ => pure ()
    else throw (.unknownValueTag tag)

/-- One round of the recursion: what passes over a value, given what passes over the
values in it. -/
def round (p : Pool) (inner : Decode Unit) : Decode Unit :=
  valueWith inner (annotationWith inner p)

/-- Passes over a value, however deep it is nested. -/
def skipValue (p : Pool) : Decode Unit :=
  fun c => value p c.rest.length c

/-- Reads an annotation, however deep its values are nested. -/
def readAnnotationEntry (p : Pool) : Decode (Option String) :=
  annotationWith (skipValue p) p

/-- Reads a table of annotations, given how an annotation is read. -/
def tableWith (entry : Decode (Option String)) : Decode (List String) := do
  let count ← u16 .annotationCount
  let types ← times entry count
  return types.filterMap id

section Recursion

variable {p : Pool} {inner d e : Decode Unit} {n depth : ℕ}

lemma value_succ_eq_round (p : Pool) (depth : ℕ) : value p (depth + 1) = round p (value p depth) :=
  value_succ p depth

lemma takesAtLeast_annotationWith {m : ℕ} (hd : d.TakesAtLeast m) (p : Pool) :
    (annotationWith d p).TakesAtLeast 4 :=
  (TakesAtLeast.u16 .annotationType).bind fun _ => (TakesAtLeast.lift _).bind fun _ =>
    (TakesAtLeast.u16 .pairCount).bind fun n =>
      (TakesAtLeast.times ((TakesAtLeast.skip .elementName 2).bind fun _ => hd) n).bind
        fun _ => .pure _

lemma takesAtLeast_round {m : ℕ} (hd : d.TakesAtLeast m) (p : Pool) : (round p d).TakesAtLeast 3 :=
  (TakesAtLeast.u8 .valueTag).bind (n := 2) fun tag =>
    (TakesAtLeast.skip .plainValue 2).ite
      (((TakesAtLeast.skip .enumValue 4).mono (by decide)).ite
        ((((takesAtLeast_annotationWith hd p).bind fun _ => .pure ()).mono (by decide)).ite
          (((TakesAtLeast.u16 .arrayLength).bind fun n => (hd.times n).bind fun _ => .pure ()).ite
            (.throw _))))

lemma takesAtLeast_value (p : Pool) (depth : ℕ) : (value p depth).TakesAtLeast 3 := by
  induction depth with
  | zero =>
    rintro c _ c' ⟨⟩
  | succ depth ih =>
    rw [value_succ_eq_round]
    exact takesAtLeast_round ih p

lemma agreeBelow_annotationWith {m : ℕ} (hd : AgreeBelow n d e) (he : e.TakesAtLeast m) (p : Pool) :
    AgreeBelow n (annotationWith d p) (annotationWith e p) := by
  have hpair :
      AgreeBelow n (skip .elementName 2 >>= fun _ => d) (skip .elementName 2 >>= fun _ => e) :=
    (AgreeBelow.refl n _).bind (TakesAtLeast.skip .elementName 2) fun _ => hd.mono (Nat.sub_le n 2)
  have hpairs := (TakesAtLeast.skip .elementName 2).bind fun _ => he
  refine (AgreeBelow.refl n _).bind (TakesAtLeast.u16 .annotationType) fun i => ?_
  refine (AgreeBelow.refl _ _).bind (TakesAtLeast.lift (p.text i)) fun type => ?_
  refine (AgreeBelow.refl _ _).bind (TakesAtLeast.u16 .pairCount) fun k => ?_
  exact ((hpair.times hpairs k).mono (by omega)).bind (hpairs.times k) fun _ => .refl _ _

/-- A round takes a byte before it passes over what is in the value. -/
lemma agreeBelow_round {m : ℕ} (hd : AgreeBelow n d e) (he : e.TakesAtLeast m) (p : Pool) :
    AgreeBelow (n + 1) (round p d) (round p e) := by
  have hentry := agreeBelow_annotationWith hd he p
  refine (AgreeBelow.refl (n + 1) _).bind (TakesAtLeast.u8 .valueTag) fun tag => ?_
  refine (AgreeBelow.refl n _).ite ((AgreeBelow.refl n _).ite
    ((hentry.bind (takesAtLeast_annotationWith he p) fun _ => .refl _ _).ite
      (AgreeBelow.ite ?_ (.refl n _))))
  refine (AgreeBelow.refl n _).bind (TakesAtLeast.u16 .arrayLength) fun k => ?_
  exact ((hd.times he k).mono (Nat.sub_le n 2)).bind (he.times k) fun _ => .refl _ _

/-- As many rounds as there are bytes, and one more, are enough, and what stands in for another one
does not matter. -/
lemma agreeBelow_iterate_round (inner : Decode Unit) (hle : n ≤ depth + 1) :
    AgreeBelow n ((round p)^[n] inner) (value p depth) := by
  induction n generalizing depth with
  | zero => exact fun _ hc => absurd hc (Nat.not_lt_zero _)
  | succ n ih =>
    rw [Function.iterate_succ_apply']
    cases depth with
    | zero =>
      -- there are no bytes left to start with
      obtain rfl : n = 0 := by omega
      rintro ⟨rest, offset⟩ hc
      obtain rfl : rest = [] := List.length_eq_zero_iff.1 (Nat.lt_one_iff.1 hc)
      rfl
    | succ depth =>
      rw [value_succ_eq_round]
      exact agreeBelow_round (ih (by omega)) (takesAtLeast_value p depth) p

/-- A bound that is not below the number of bytes is never reached. -/
lemma value_eq_skipValue {c : Cursor} (hc : c.rest.length ≤ depth) :
    value p depth c = skipValue p c := by
  have hrounds : ∀ {k}, c.rest.length ≤ k →
      (round p)^[c.rest.length + 1] (value p 0) c = value p k c :=
    fun hk => agreeBelow_iterate_round _ (Nat.succ_le_succ hk) c (Nat.lt_succ_self _)
  rw [← hrounds hc, hrounds (Nat.le_refl _), skipValue]

lemma iterate_round_eq (inner : Decode Unit) {c : Cursor} (hn : c.rest.length < n) :
    (round p)^[n] inner c = skipValue p c := by
  rw [agreeBelow_iterate_round inner (Nat.le_succ n) c hn, value_eq_skipValue hn.le]

lemma agreeBelow_value (p : Pool) (depth : ℕ) :
    AgreeBelow (depth + 1) (value p depth) (skipValue p) :=
  fun _ hc => value_eq_skipValue (Nat.le_of_lt_succ hc)

lemma takesAtLeast_skipValue (p : Pool) : (skipValue p).TakesAtLeast 3 :=
  fun c => takesAtLeast_value p c.rest.length c

lemma takesAtLeast_readAnnotationEntry (p : Pool) : (readAnnotationEntry p).TakesAtLeast 4 :=
  takesAtLeast_annotationWith (takesAtLeast_skipValue p) p

lemma skipValue_eq (p : Pool) : skipValue p = valueWith (skipValue p) (readAnnotationEntry p) := by
  funext c
  have hround := agreeBelow_round (agreeBelow_value p c.rest.length) (takesAtLeast_skipValue p) p
  have hvalue : skipValue p c = round p (value p c.rest.length) c := by
    rw [← value_succ_eq_round, value_eq_skipValue (Nat.le_succ _)]
  rw [hvalue, hround c (by omega)]
  rfl

lemma annotationEntry_eq {c : Cursor} (hc : c.rest.length ≤ depth) :
    annotationEntry p depth c = readAnnotationEntry p c :=
  agreeBelow_annotationWith (agreeBelow_value p depth) (takesAtLeast_skipValue p) p c (by omega)

/-- The bound that is set for the annotations of a member is never reached. -/
lemma annotations_eq (p : Pool) (body : List UInt8) :
    annotations p body = (tableWith (readAnnotationEntry p)).onBytes body := by
  have htable : AgreeBelow (body.length + 1) (annotations.table p body)
      (tableWith (readAnnotationEntry p)) := by
    have hentry : AgreeBelow (body.length + 1) (annotationEntry p body.length)
        (readAnnotationEntry p) :=
      fun _ hc => annotationEntry_eq (Nat.le_of_lt_succ hc)
    refine (AgreeBelow.refl _ _).bind (TakesAtLeast.u16 .annotationCount) fun k => ?_
    have hread := takesAtLeast_readAnnotationEntry p
    exact ((hentry.times hread k).mono (Nat.sub_le _ 2)).bind (hread.times k) fun _ => .refl _ _
  exact congrArg (Except.map _) (htable ⟨body, 0⟩ (Nat.lt_succ_self _))

end Recursion

/-! ## What is passed over -/

section Reads

variable {p : Pool} {cs : List Constant}

/-- Values of every height are passed over, and nothing else is. -/
lemma reads_skipValue (hp : p.IsOf cs) :
    ReadsAs (skipValue p) (fun v : Value cs => v.bytes) fun _ => () := by
  intro c _ c'
  rw [skipValue, reads_value hp]
  constructor
  · rintro ⟨bytes, hpast, v, rfl, -⟩
    exact ⟨_, hpast, v.1, rfl, rfl⟩
  · rintro ⟨bytes, hpast, v, rfl, -⟩
    have hheight : v.height ≤ c.rest.length := by
      rw [hpast.rest_eq, List.length_append]
      exact v.height_le_length_bytes.trans (Nat.le_add_right _ _)
    exact ⟨_, hpast, ⟨v, hheight⟩, rfl, rfl⟩

lemma reads_readAnnotationEntry (hp : p.IsOf cs) :
    ReadsAs (readAnnotationEntry p) (fun a : AnnotationLayout cs => a.bytes)
      fun a => annotationType? a.type.text := by
  refine Reads.congr (reads_annotationWith hp (reads_skipValue hp)) ?_
  intro bytes type?
  constructor
  · rintro ⟨⟨type, pairs⟩, rfl, rfl⟩
    exact ⟨⟨type, pairs⟩, rfl, rfl⟩
  · rintro ⟨⟨type, pairs⟩, rfl, rfl⟩
    exact ⟨(type, pairs), rfl, rfl⟩

end Reads

/-- What the two steps come to that pass over values and read annotations, each by means
of the other. -/
structure PassesOver (p : Pool) (skip : Decode Unit) (read : Decode (Option String)) : Prop where
  /-- A value is passed over by means of both. -/
  skip_eq : skip = valueWith skip read
  /-- An annotation is read by passing over its values. -/
  read_eq : read = annotationWith skip p
  /-- Rounds are not nested deeper than there are bytes: what stands in for one more does
  not matter. -/
  ends : ∀ inner n c, c.rest.length < n → (round p)^[n] inner c = skip c
  /-- The annotations of a member are read with these steps. -/
  annotations_eq : ∀ body, annotations p body = (tableWith read).onBytes body
  /-- Wherever a value is passed over, at least three of the bytes ahead are. -/
  takesAtLeast_skip : skip.TakesAtLeast 3
  /-- Wherever an annotation is read, at least four of the bytes ahead are. -/
  takesAtLeast_read : read.TakesAtLeast 4
  /-- A value that is ahead is passed over, and nothing more. -/
  skip_value : ∀ (cs : List Constant), p.IsOf cs → ∀ (v : Value cs) rest offset,
    skip ⟨v.bytes ++ rest, offset⟩ = .ok ((), ⟨rest, offset + v.bytes.length⟩)
  /-- An annotation that is ahead is read, and nothing more, and what it gives is its own type. -/
  read_entry : ∀ (cs : List Constant), p.IsOf cs → ∀ (a : AnnotationLayout cs) rest offset,
    ∃ type?, read ⟨a.bytes ++ rest, offset⟩ = .ok (type?, ⟨rest, offset + a.bytes.length⟩) ∧
      Denotes a.type.text type?

/-- **Annotations are passed over exactly.**  Passing over a value and reading an annotation, which
call each other, end on any bytes and with any pool.  Where they succeed they have taken at least
three and four of the bytes ahead, and where a value or an annotation is written they take what is
written and nothing more, however deep it is nested.  An annotation gives its own type, if this is a
class, and none of the types of the annotations in it. -/
theorem passesOver (p : Pool) : PassesOver p (skipValue p) (readAnnotationEntry p) where
  skip_eq := skipValue_eq p
  read_eq := rfl
  ends inner _ _ hn := iterate_round_eq inner hn
  annotations_eq := annotations_eq p
  takesAtLeast_skip := takesAtLeast_skipValue p
  takesAtLeast_read := takesAtLeast_readAnnotationEntry p
  skip_value _ hp v _ _ := (reads_skipValue hp _ _ _).2 ⟨v.bytes, ⟨rfl, rfl⟩, v, rfl, rfl⟩
  read_entry _ hp a _ _ :=
    ⟨annotationType? a.type.text,
      (reads_readAnnotationEntry hp _ _ _).2 ⟨a.bytes, ⟨rfl, rfl⟩, a, rfl, rfl⟩,
      denotes_iff.2 rfl⟩

/-- The only constant is the text `LA;`. -/
def markerConstants : List Constant :=
  [.text [0x4C, 0x41, 0x3B] (by decide)]

/-- The pool of the constant. -/
def markerPool : PoolLayout :=
  .ofConstants markerConstants (by decide)

/-- A reference to the text. -/
def markerType : TextRef markerConstants where
  index := 1
  text := "LA;"
  textAt := by
    refine ⟨[0x4C, 0x41, 0x3B], by decide, ⟨[], [], rfl, rfl⟩, ?_⟩
    simp [Text.Utf8.decodeLossy, Text.Utf8.units, Text.Utf8.units.go, Text.Utf8.unit,
      Text.Utf8.lead?, Text.Utf8.continued]

/-- An annotation with an enumeration constant. -/
def markerEntry : AnnotationLayout markerConstants where
  type := markerType
  pairs := .ofList [(1, .enum 1 1)] (by decide)

/-- An annotation with a number in it and an enumeration constant, in a row. -/
def markerValue : Value markerConstants :=
  .array 2 fun i =>
    if i.val = 0 then
      .nested markerType 1 (fun _ => 1) fun _ => .plain 'I' (by decide) 1
    else .enum 1 1

theorem passesOver_nested :
    skipValue markerPool.pool
        ⟨[91, 0, 2, 64, 0, 1, 0, 1, 0, 1, 73, 0, 1, 101, 0, 1, 0, 1] ++ [255], 7⟩ =
      .ok ((), ⟨[255], 25⟩) ∧
    ∃ type?,
      readAnnotationEntry markerPool.pool ⟨[0, 1, 0, 1, 0, 1, 101, 0, 1, 0, 1] ++ [255], 7⟩ =
        .ok (type?, ⟨[255], 18⟩) ∧
      Denotes "LA;" type? := by
  have hp := markerPool.isOf_pool
  have hpasses := passesOver markerPool.pool
  have hvalue : markerValue.bytes =
      [91, 0, 2, 64, 0, 1, 0, 1, 0, 1, 73, 0, 1, 101, 0, 1, 0, 1] := by
    decide
  have hentry : markerEntry.bytes = [0, 1, 0, 1, 0, 1, 101, 0, 1, 0, 1] := by
    decide
  rw [← hvalue, ← hentry]
  exact ⟨hpasses.skip_value _ hp markerValue [255] 7, hpasses.read_entry _ hp markerEntry [255] 7⟩

end PluginFacts.ClassFile
