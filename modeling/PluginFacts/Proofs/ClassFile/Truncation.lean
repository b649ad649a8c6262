/-
# Class files that end too soon

A class file is read once, from its first byte on, and no step looks at a byte that it does not take
(`Decode.IsSequential`).  So what a step gives is decided by the bytes that it takes, whatever comes
after them; and if they end too soon, the step in which they end finds that out, since all steps
before it have found the bytes that they take.  The body of an attribute is no exception: it is
taken as a whole before anything in it is looked at.

`ClassInput.read_take` is what this means for inputs: of what is read only a part at the start
matters, and none of that part is dispensable.
-/
import PluginFacts.Proofs.ClassFile.Acceptance

namespace PluginFacts.ClassFile

/-- The bytes end inside an item, whatever places the fault names. -/
inductive Fault.IsTruncation : Fault → Prop
  | truncated (item : Item) (offset : ℕ) : IsTruncation (.truncated item offset)
  | within (place : Place) {cause : Fault} (h : IsTruncation cause) :
    IsTruncation (.within place cause)

lemma Fault.infix_message_truncated (item : Item) (offset : ℕ) :
    "Truncated".toList <:+: (Fault.truncated item offset).message.toList := by
  have hmessage : (Fault.truncated item offset).message =
      "Truncated " ++ item.label ++ " at offset 0x" ++ Text.hex offset := rfl
  have hword : "Truncated".toList <+: "Truncated ".toList := by decide
  rw [hmessage]
  simp only [String.toList_append, List.append_assoc]
  exact (hword.trans (List.prefix_append _ _)).isInfix

/-- The message of a truncation says so, after the places that it names. -/
lemma Fault.IsTruncation.infix_message {fault : Fault} (h : fault.IsTruncation) :
    "Truncated".toList <:+: fault.message.toList := by
  induction h with
  | truncated item offset => exact infix_message_truncated item offset
  | @within place cause h ih =>
    have hmessage :
        (Fault.within place cause).message = place.message ++ ": " ++ cause.message := rfl
    rw [hmessage, String.toList_append]
    exact ih.trans (List.suffix_append _ _).isInfix

namespace Decode

variable {α β : Type} {d : Decode α} {R : List UInt8 → α → Prop} {offset : ℕ} {a : α} {b : β}

/-- At an offset, the step takes these bytes and no more, and gives `a` for them.  If they end too
soon, it says so. -/
structure Takes (d : Decode α) (offset : ℕ) (bytes : List UInt8) (a : α) : Prop where
  eq_ok : ∀ rest, d ⟨bytes ++ rest, offset⟩ = .ok (a, ⟨rest, offset + bytes.length⟩)
  eq_error : ∀ short missing, bytes = short ++ missing → missing ≠ [] →
    ∃ fault, d ⟨short, offset⟩ = .error fault ∧ fault.IsTruncation

/-- Where the step succeeds, it has taken the bytes that it has passed. -/
def IsSequential (d : Decode α) : Prop :=
  ∀ c a c', d c = .ok (a, c') → ∃ bytes, c.rest = bytes ++ c'.rest ∧ d.Takes c.offset bytes a

lemma Takes.bind {bytes bytes' : List UInt8} {f : α → Decode β} (hd : d.Takes offset bytes a)
    (hf : (f a).Takes (offset + bytes.length) bytes' b) :
    (d >>= f).Takes offset (bytes ++ bytes') b := by
  have hrun : ∀ rest, (d >>= f) ⟨bytes ++ rest, offset⟩ = f a ⟨rest, offset + bytes.length⟩ :=
    fun rest => bind_of_eq_ok (hd.eq_ok rest)
  constructor
  · intro rest
    rw [List.append_assoc, hrun, hf.eq_ok, List.length_append, Nat.add_assoc]
  · intro short missing hsplit hmissing
    by_cases hfirst : bytes <+: short
    · -- the bytes of the first step are all there
      obtain ⟨more, rfl⟩ := hfirst
      rw [List.append_assoc] at hsplit
      obtain ⟨fault, hfault, htruncation⟩ :=
        hf.eq_error more missing (List.append_cancel_left hsplit) hmissing
      exact ⟨fault, by rw [hrun, hfault], htruncation⟩
    · obtain ⟨cut, rfl⟩ : short <+: bytes :=
        (List.prefix_or_prefix_of_prefix (List.prefix_append bytes bytes')
          ⟨missing, hsplit.symm⟩).resolve_left hfirst
      have hcut : cut ≠ [] := by
        rintro rfl
        exact hfirst ⟨[], by simp⟩
      obtain ⟨fault, hfault, htruncation⟩ := hd.eq_error short cut rfl hcut
      exact ⟨fault, bind_of_eq_error hfault, htruncation⟩

namespace IsSequential

protected lemma bind (hd : IsSequential d) {f : α → Decode β} (hf : ∀ a, IsSequential (f a)) :
    IsSequential (d >>= f) := by
  intro c b c' h
  obtain ⟨a, c₁, hda, hfa⟩ := bind_eq_ok_iff.1 h
  obtain ⟨bytes, hrest, htakes⟩ := hd c a c₁ hda
  obtain ⟨bytes', hrest', htakes'⟩ := hf a c₁ b c' hfa
  -- the second step starts where the first one stands
  have hoffset : c₁.offset = c.offset + bytes.length := by
    have hrun := htakes.eq_ok c₁.rest
    rw [← hrest, hda, Except.ok.injEq, Prod.mk.injEq] at hrun
    exact congrArg Cursor.offset hrun.2
  rw [hoffset] at htakes'
  exact ⟨bytes ++ bytes', by rw [hrest, hrest', List.append_assoc], htakes.bind htakes'⟩

protected lemma within (hd : IsSequential d) (place : Place) : IsSequential (d.within place) := by
  intro c a c' h
  obtain ⟨bytes, hrest, htakes⟩ := hd c a c' (within_eq_ok_iff.1 h)
  refine ⟨bytes, hrest, fun rest => within_eq_ok_iff.2 (htakes.eq_ok rest), ?_⟩
  intro short missing hsplit hmissing
  obtain ⟨fault, hfault, htruncation⟩ := htakes.eq_error short missing hsplit hmissing
  refine ⟨.within place fault, ?_, .within place htruncation⟩
  change (d _).mapError _ = _
  rw [hfault]
  rfl

protected lemma ite {p : Prop} [Decidable p] {e : Decode α} (hd : IsSequential d)
    (he : IsSequential e) : IsSequential (if p then d else e) := by
  split
  · exact hd
  · exact he

end IsSequential

/-- A step that takes a fixed number of bytes, and asks for as many first. -/
lemma IsSequential.of_length_eq {n : ℕ} (item : Item) (hd : Reads d R)
    (hlength : ∀ bytes a, R bytes a → bytes.length = n)
    (hshort : ∀ short offset, short.length < n →
      d ⟨short, offset⟩ = .error (.truncated item offset)) :
    IsSequential d := by
  intro c a c' h
  obtain ⟨bytes, hpast, hR⟩ := (hd c a c').1 h
  refine ⟨bytes, hpast.rest_eq, ?_, ?_⟩
  · intro rest
    exact (hd _ _ _).2 ⟨bytes, ⟨rfl, rfl⟩, hR⟩
  · rintro short missing rfl hmissing
    have hpos := List.length_pos_iff.2 hmissing
    have hlt : short.length < n := by
      rw [← hlength _ _ hR, List.length_append]
      omega
    exact ⟨_, hshort short c.offset hlt, .truncated item c.offset⟩

protected lemma IsSequential.u8 (item : Item) : IsSequential (u8 item) := by
  refine IsSequential.of_length_eq item (reads_u8 item) (n := 1) ?_ ?_
  · rintro _ _ ⟨_, rfl, -⟩
    rfl
  · intro short offset h
    obtain rfl : short = [] := List.length_eq_zero_iff.1 (by omega)
    rfl

protected lemma IsSequential.u16 (item : Item) : IsSequential (u16 item) := by
  refine IsSequential.of_length_eq item (reads_u16 item) (n := 2) ?_ ?_
  · rintro _ _ ⟨_, rfl, -⟩
    rfl
  · rintro (_ | ⟨a, _ | ⟨b, short⟩⟩) offset h
    · rfl
    · rfl
    · simp only [List.length_cons] at h
      omega

protected lemma IsSequential.u32 (item : Item) : IsSequential (u32 item) := by
  refine IsSequential.of_length_eq item (reads_u32 item) (n := 4) ?_ ?_
  · rintro _ _ ⟨_, rfl, -⟩
    rfl
  · rintro (_ | ⟨a, _ | ⟨b, _ | ⟨c, _ | ⟨d, short⟩⟩⟩⟩) offset h
    · rfl
    · rfl
    · rfl
    · rfl
    · simp only [List.length_cons] at h
      omega

protected lemma IsSequential.bytes (item : Item) (n : ℕ) : IsSequential (bytes item n) := by
  refine IsSequential.of_length_eq item (reads_bytes item n) (n := n) ?_ ?_
  · rintro _ _ ⟨⟨b, hb⟩, rfl, -⟩
    exact hb
  · intro short offset h
    have hne : (short.take n).length ≠ n := by
      rw [List.length_take]
      omega
    rw [bytes]
    exact if_neg hne

/-- A step that takes no bytes. -/
lemma IsSequential.of_eq_nil (hd : Reads d R) (hnil : ∀ bytes a, R bytes a → bytes = []) :
    IsSequential d := by
  refine IsSequential.of_length_eq .magic hd (n := 0) ?_ ?_
  · intro bytes a hR
    rw [hnil bytes a hR, List.length_nil]
  · intro short offset h
    exact absurd h (Nat.not_lt_zero _)

protected lemma IsSequential.pure (a : α) : IsSequential (pure a : Decode α) :=
  IsSequential.of_eq_nil (reads_pure a) fun _ _ h => h.1

protected lemma IsSequential.lift (r : Except Fault α) : IsSequential (liftM r : Decode α) :=
  IsSequential.of_eq_nil (reads_lift r) fun _ _ ⟨_, h, _⟩ => h

protected lemma IsSequential.throw (fault : Fault) : IsSequential (throw fault : Decode α) :=
  IsSequential.of_eq_nil (reads_throw fault) fun _ _ h => h.elim

protected lemma IsSequential.skip (item : Item) (n : ℕ) : IsSequential (skip item n) :=
  .bind (.bytes item n) fun _ => .pure ()

protected lemma IsSequential.times (hd : IsSequential d) (n : ℕ) :
    IsSequential (Decode.times d n) := by
  induction n with
  | zero => exact .pure []
  | succ n ih =>
    rw [times_succ]
    exact hd.bind fun a => ih.bind fun l => .pure (a :: l)

end Decode

/-! ## Class files -/

section Parse

open Decode

variable {α : Type}

lemma Pool.isSequential_entry (index : ℕ) : IsSequential (Pool.entry index) := by
  rw [Pool.entry_eq]
  refine .bind (.u8 .slotTag) fun tag => .ite ?_ (.ite ?_ ?_)
  · exact .bind (.u16 .textLength) fun n => .bind (.bytes .text n) fun _ => .pure _
  · exact .bind (.u16 .classEntry) fun _ => .pure _
  · rw [Pool.sizedEntry]
    split
    · exact .bind (.skip _ _) fun _ => .pure _
    · exact .throw _

lemma Pool.isSequential_entries (n index : ℕ) (before : Array Slot) :
    IsSequential (Pool.entries n index before) := by
  induction n using Nat.strong_induction_on generalizing index before with
  | _ n ih =>
    match n with
    | 0 => exact .pure before
    | 1 => exact .bind (isSequential_entry index) fun _ => .pure _
    | n + 2 =>
      rw [entries]
      exact .bind (isSequential_entry index) fun _ =>
        .ite (ih n (by omega) _ _) (ih (n + 1) (by omega) _ _)

lemma Pool.isSequential_decode : IsSequential Pool.decode :=
  .bind (.u16 .poolCount) fun n =>
    .bind (isSequential_entries (n - 1) 1 #[.unused]) fun _ => .pure _

lemma isSequential_attributeEntry (p : Pool) (interpret : String → List UInt8 → Except Fault α) :
    IsSequential (attributeEntry p interpret) :=
  .bind (.u16 .attributeName) fun i => .bind (.lift (p.text i)) fun name =>
    .bind (.u32 .attributeLength) fun n => .bind (.bytes .attributeBody n) fun body =>
      .lift (interpret name body)

lemma isSequential_memberEntry (p : Pool) (kind : MemberKind) : IsSequential (memberEntry p kind) :=
  .bind (.u16 .memberAccess) fun _ =>
    .bind (.u16 .memberName) fun i => .bind (.lift (p.text i)) fun name =>
      .bind (.u16 .memberDescriptor) fun j => .bind (.lift (p.text j)) fun _ =>
        .bind (.u16 .memberAttributeCount) fun n =>
          .bind (.times (isSequential_attributeEntry p (memberAnnotations p name)) n)
            fun _ => .pure _

lemma isSequential_memberTable (p : Pool) (kind : MemberKind) : IsSequential (memberTable p kind) :=
  .bind (.u16 .memberCount) fun n => .times (isSequential_memberEntry p kind) n

lemma isSequential_mark : IsSequential mark :=
  .bind (.within (.u32 .magic) .start) fun _ => .ite (.throw _) (.pure ())

lemma isSequential_interfaceEntry (p : Pool) : IsSequential (interfaceEntry p) :=
  .bind (.u16 .interfaceIndex) fun i => .within (.lift (p.className i)) .interface

/-- No byte of a class file is looked at before all bytes in front of it are taken. -/
theorem isSequential_parse : IsSequential parse :=
  .bind isSequential_mark fun _ =>
  .bind (.u16 .minorVersion) fun _ =>
  .bind (.u16 .majorVersion) fun _ =>
  .bind Pool.isSequential_decode fun p =>
  .bind (.u16 .access) fun _ =>
  .bind (.u16 .thisClass) fun this =>
  .bind (.within (.lift (p.className this)) .thisClass) fun name =>
  .bind (.u16 .superClass) fun super =>
  .bind (.within (.lift (p.className? super)) .superClass) fun _ =>
  .bind (.u16 .interfaceCount) fun n =>
  .bind (.times (isSequential_interfaceEntry p) n) fun _ =>
  .bind (isSequential_memberTable p .field) fun _ =>
  .bind (isSequential_memberTable p .method) fun _ =>
  .bind (.u16 .classAttributeCount) fun count =>
  .bind (.times (isSequential_attributeEntry p (ClassAttribute.interpret p name)) count) fun _ =>
  .pure _

end Parse

end PluginFacts.ClassFile

namespace PluginFacts.ClassInput

open ClassFile

variable {i : ClassInput} {c : Class}

/-- A file that is read is taken from the bytes at the start of the input. -/
lemma exists_takes_of_read_eq_ok (h : i.read = .ok c) :
    ∃ bytes rest f, i.bytes = bytes ++ rest ∧ parse.Takes 0 bytes f ∧ c = f.toClass i.origin := by
  cases hparse : parse ⟨i.bytes, 0⟩ with
  | error fault =>
    have herror := read_of_parse_eq_error i.origin hparse
    cases h.symm.trans herror
  | ok r =>
    have hok := read_of_parse_eq_ok i.origin hparse
    obtain ⟨bytes, hbytes, htakes⟩ := isSequential_parse _ _ _ hparse
    exact ⟨bytes, r.2.rest, r.1, hbytes, htakes, Except.ok.inj (h.symm.trans hok)⟩

/-- **Truncation.**  An input that is read has a part at its start that decides what is read.
Whatever comes after this part, the same class is read; and if the input ends before, it is refused,
for a reason that says that it is truncated. -/
theorem read_take (h : i.read = .ok c) :
    ∃ n ≤ i.bytes.length, (∀ rest, ClassInput.read ⟨i.origin, i.bytes.take n ++ rest⟩ = .ok c) ∧
      ∀ m < n, ∃ cause, ClassInput.read ⟨i.origin, i.bytes.take m⟩ = .error ⟨i.origin, cause⟩ ∧
        "Truncated".toList <:+: cause.message.toList := by
  obtain ⟨bytes, rest, f, hbytes, htakes, rfl⟩ := exists_takes_of_read_eq_ok h
  refine ⟨bytes.length, ?_, ?_, ?_⟩
  · rw [hbytes, List.length_append]
    exact Nat.le_add_right _ _
  · intro more
    rw [hbytes, List.take_left]
    exact read_of_parse_eq_ok _ (htakes.eq_ok more)
  · intro m hm
    have hmissing : bytes.drop m ≠ [] := by
      rw [ne_eq, List.drop_eq_nil_iff]
      omega
    obtain ⟨fault, hfault, htruncation⟩ :=
      htakes.eq_error _ _ (List.take_append_drop m bytes).symm hmissing
    refine ⟨.notClassFile fault, ?_, htruncation.infix_message⟩
    rw [hbytes, List.take_append_of_le_length (le_of_lt hm)]
    exact read_of_parse_eq_error _ hfault

/-- A class file with two bytes after it. -/
def trailed : ClassInput where
  origin := "A.class"
  bytes := (hostLayout [] (by decide)).bytes ++ [0, 0]

/-- The part that decides is all but the last two bytes. -/
theorem read_take_trailed :
    ∃ c, trailed.read = .ok c ∧ ∃ n, n + 2 = trailed.bytes.length ∧
      (∀ rest, ClassInput.read ⟨"A.class", trailed.bytes.take n ++ rest⟩ = .ok c) ∧
      ∀ m < n, ∃ cause,
        ClassInput.read ⟨"A.class", trailed.bytes.take m⟩ = .error ⟨"A.class", cause⟩ ∧
          "Truncated".toList <:+: cause.message.toList := by
  have hread : trailed.read = .ok ((hostLayout [] (by decide)).toClass "A.class") :=
    read_eq_ok_iff.2 ⟨_, _, rfl, rfl⟩
  obtain ⟨n, -, hrest, hcut⟩ := read_take hread
  -- the class is read without the last two bytes, but not without the byte in front of them
  have hwhole : ClassInput.read ⟨"A.class", trailed.bytes.take 50⟩ =
      .ok ((hostLayout [] (by decide)).toClass "A.class") :=
    read_eq_ok_iff.2 ⟨_, [], rfl, rfl⟩
  have hshort : (ClassInput.read ⟨"A.class", trailed.bytes.take 49⟩).toBool = false := by
    decide +kernel
  have hle : n ≤ 50 := by
    by_contra hlt
    obtain ⟨cause, herror, -⟩ := hcut 50 (not_le.1 hlt)
    cases herror.symm.trans hwhole
  have hge : 50 ≤ n := by
    by_contra hlt
    have hok : ClassInput.read
        ⟨"A.class", trailed.bytes.take n ++ (trailed.bytes.take 49).drop n⟩ = .ok _ := hrest _
    have htake : trailed.bytes.take n = (trailed.bytes.take 49).take n := by
      rw [List.take_take, min_eq_left (by omega)]
    rw [htake, List.take_append_drop] at hok
    rw [hok] at hshort
    cases hshort
  obtain rfl := le_antisymm hle hge
  exact ⟨_, hread, 50, by decide, hrest, hcut⟩

end PluginFacts.ClassInput
