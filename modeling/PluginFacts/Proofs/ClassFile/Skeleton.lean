/-
# How class files are divided up

Where the parts of a class file are can be told without following a reference or opening the body
of an attribute.  A `Skeleton` is a class file as far as that goes: its references may lead
nowhere, and there may be anything in the bodies.  So it need not be read as a class, but whether
it is and as which one is the same whatever comes after it (`yields_parse`), and
`Skeleton.classFile?` says so part by part.

`Decode.Yields` is about one string of bytes, of which the step takes all or on which it fails.  It
is the counterpart of `Decode.Reads`, which is about all strings that the step takes.
-/
import PluginFacts.Proofs.ClassFile.Layout

namespace PluginFacts.ClassFile

namespace Decode

variable {α β X : Type} {d : Decode α} {bytes bytes' : List UInt8} {r : Option α}

/-- With these bytes ahead, the step takes them and gives a result, or it fails, whatever comes
after them. -/
def Yields (d : Decode α) (bytes : List UInt8) (r : Option α) : Prop :=
  ∀ rest offset, (d ⟨bytes ++ rest, offset⟩).toOption =
    r.map fun a => (a, ⟨rest, offset + bytes.length⟩)

lemma ReadsAs.yields {write : X → List UInt8} {mean : X → α} (hd : ReadsAs d write mean) (x : X) :
    Yields d (write x) (some (mean x)) := by
  intro rest offset
  have hok : d ⟨write x ++ rest, offset⟩ = .ok (mean x, ⟨rest, offset + (write x).length⟩) :=
    (hd _ _ _).2 ⟨write x, ⟨rfl, rfl⟩, x, rfl, rfl⟩
  rw [hok]
  rfl

lemma yields_lift (e : Except Fault α) : Yields (liftM e) [] e.toOption := by
  intro rest offset
  cases e <;> rfl

lemma yields_pure (a : α) : Yields (pure a) [] (some a) :=
  fun _ _ => rfl

namespace Yields

lemma within (hd : Yields d bytes r) (place : Place) : Yields (d.within place) bytes r := by
  intro rest offset
  rw [← hd rest offset]
  change ((d _).mapError _).toOption = _
  cases d ⟨bytes ++ rest, offset⟩ <;> rfl

/-- One step after another. -/
lemma bind {f : α → Decode β} {s : α → Option β} (hd : Yields d bytes r)
    (hf : ∀ a, r = some a → Yields (f a) bytes' (s a)) :
    Yields (d >>= f) (bytes ++ bytes') (r.bind s) := by
  intro rest offset
  have hfirst := hd (bytes' ++ rest) offset
  rw [List.append_assoc]
  change (d _ >>= fun x => f x.1 x.2).toOption = _
  cases hrun : d ⟨bytes ++ (bytes' ++ rest), offset⟩ with
  | error fault =>
    rw [hrun] at hfirst
    obtain rfl : r = none := Option.map_eq_none_iff.1 hfirst.symm
    rfl
  | ok x =>
    rw [hrun] at hfirst
    obtain ⟨a, rfl, rfl⟩ := Option.map_eq_some_iff.1 hfirst.symm
    have hsecond := hf a rfl rest (offset + bytes.length)
    rw [Nat.add_assoc, ← List.length_append] at hsecond
    exact hsecond

/-- A step that gives a result, before another one. -/
lemma next {a : α} {f : α → Decode β} {s : Option β} (hd : Yields d bytes (some a))
    (hf : Yields (f a) bytes' s) : Yields (d >>= f) (bytes ++ bytes') s :=
  hd.bind (s := fun _ => s) fun _ h => Option.some.inj h ▸ hf

/-- A step that takes no bytes, before another one. -/
lemma first {f : α → Decode β} {s : α → Option β} (hd : Yields d [] r)
    (hf : ∀ a, Yields (f a) bytes' (s a)) : Yields (d >>= f) bytes' (r.bind s) :=
  hd.bind fun a _ => hf a

/-- A step that takes no bytes, after another one. -/
lemma last {f : α → Decode β} {s : α → Option β} (hd : Yields d bytes r)
    (hf : ∀ a, Yields (f a) [] (s a)) : Yields (d >>= f) bytes (r.bind s) := by
  have hbind := hd.bind fun a _ => hf a
  rwa [List.append_nil] at hbind

end Yields

lemma yields_times {write : X → List UInt8} {mean : X → Option α}
    (hd : ∀ x, Yields d (write x) (mean x)) (l : List X) :
    Yields (times d l.length) (l.flatMap write) (l.mapM mean) := by
  induction l with
  | nil => exact yields_pure []
  | cons x l ih =>
    rw [List.length_cons, times_succ, List.flatMap_cons, List.mapM_cons]
    exact (hd x).bind fun a _ => ih.last fun as => yields_pure (a :: as)

lemma yields_table {write : X → List UInt8} {mean : X → Option α}
    (hd : ∀ x, Yields d (write x) (mean x)) (item : Item) (t : Table X) :
    Yields (u16 item >>= times d) (t.bytes write) (t.entries.mapM mean) := by
  refine ((reads_u16 item).yields t.length).next ?_
  have htimes := yields_times hd t.entries
  rwa [Table.length_entries] at htimes

/-- A table, before another step. -/
lemma yields_table_bind {write : X → List UInt8} {mean : X → Option α}
    (hd : ∀ x, Yields d (write x) (mean x)) (item : Item) (t : Table X) {f : List α → Decode β}
    {s : List α → Option β} (hf : ∀ l, Yields (f l) bytes' (s l)) :
    Yields (u16 item >>= fun n => times d n >>= f) (t.bytes write ++ bytes')
      ((t.entries.mapM mean).bind s) := by
  rw [← bind_assoc]
  exact (yields_table hd item t).bind fun l _ => hf l

/-- A table, before a step that takes no bytes. -/
lemma yields_table_last {write : X → List UInt8} {mean : X → Option α}
    (hd : ∀ x, Yields d (write x) (mean x)) (item : Item) (t : Table X) {f : List α → Decode β}
    {s : List α → Option β} (hf : ∀ l, Yields (f l) [] (s l)) :
    Yields (u16 item >>= fun n => times d n >>= f) (t.bytes write)
      ((t.entries.mapM mean).bind s) := by
  rw [← bind_assoc]
  exact (yields_table hd item t).last hf

end Decode

/-! ## The parts of a file -/

/-- An attribute, whatever its name is and whatever is in its body. -/
structure RawAttribute where
  /-- The index of its name. -/
  name : UInt16
  /-- Its body. -/
  body : List UInt8
  /-- The length of the body fits into four bytes. -/
  length_lt : body.length < 0x100000000

/-- A member, wherever its references lead. -/
structure RawMember where
  /-- Its access flags. -/
  access : UInt16
  /-- The index of its name. -/
  name : UInt16
  /-- The index of its type. -/
  descriptor : UInt16
  /-- Its attributes. -/
  attributes : Table RawAttribute

/-- A class file, wherever its references lead. -/
structure Skeleton where
  /-- The minor version of the format. -/
  minor : UInt16
  /-- The major version of the format. -/
  major : UInt16
  /-- The constant pool. -/
  pool : PoolLayout
  /-- The access flags. -/
  access : UInt16
  /-- The index of the class itself. -/
  thisClass : UInt16
  /-- The index of the class it extends. -/
  superClass : UInt16
  /-- The indices of the interfaces it implements. -/
  interfaces : Table UInt16
  /-- Its fields. -/
  fields : Table RawMember
  /-- Its methods. -/
  methods : Table RawMember
  /-- Its attributes. -/
  attributes : Table RawAttribute

namespace RawAttribute

variable {α : Type}

/-- The attribute as it is written. -/
def bytes (a : RawAttribute) : List UInt8 :=
  word16 a.name ++ (word32 (.ofNatLT a.body.length a.length_lt) ++ a.body)

/-- What is made of the attribute, if anything is. -/
def read? (p : Pool) (interpret : String → List UInt8 → Except Fault α) (a : RawAttribute) :
    Option α := do
  let name ← (p.text a.name.toNat).toOption
  (interpret name a.body).toOption

open Decode in
lemma yields_attributeEntry (p : Pool) (interpret : String → List UInt8 → Except Fault α)
    (a : RawAttribute) : Yields (attributeEntry p interpret) a.bytes (a.read? p interpret) :=
  ((reads_u16 .attributeName).yields a.name).next <|
    (yields_lift (p.text a.name.toNat)).first fun name =>
      ((reads_u32 .attributeLength).yields (.ofNatLT a.body.length a.length_lt)).next <|
        ((reads_bytes .attributeBody a.body.length).yields ⟨a.body, rfl⟩).last fun body =>
          yields_lift (interpret name body)

end RawAttribute

namespace RawMember

/-- The member as it is written. -/
def bytes (m : RawMember) : List UInt8 :=
  word16 m.access ++
    (word16 m.name ++ (word16 m.descriptor ++ m.attributes.bytes RawAttribute.bytes))

/-- The member that is described, if one is. -/
def read? (p : Pool) (kind : MemberKind) (m : RawMember) : Option Member := do
  let name ← (p.text m.name.toNat).toOption
  let descriptor ← (p.text m.descriptor.toNat).toOption
  let annotations ← m.attributes.entries.mapM (RawAttribute.read? p (memberAnnotations p name))
  return { name, kind, descriptor, access := m.access, annotations := annotations.flatten }

open Decode in
lemma yields_memberEntry (p : Pool) (kind : MemberKind) (m : RawMember) :
    Yields (memberEntry p kind) m.bytes (m.read? p kind) := by
  have haccess : UInt16.ofNat m.access.toNat = m.access := UInt16.ofNat_toNat
  rw [read?, ← haccess]
  exact ((reads_u16 .memberAccess).yields m.access).next <|
    ((reads_u16 .memberName).yields m.name).next <| (yields_lift _).first fun name =>
      ((reads_u16 .memberDescriptor).yields m.descriptor).next <| (yields_lift _).first fun _ =>
        yields_table_last (RawAttribute.yields_attributeEntry p (memberAnnotations p name))
          .memberAttributeCount m.attributes fun _ => yields_pure _

end RawMember

namespace Skeleton

/-- The file as it is written. -/
def bytes (s : Skeleton) : List UInt8 :=
  word32 0xCAFEBABE ++ (word16 s.minor ++ (word16 s.major ++ (s.pool.bytes ++ (word16 s.access ++
    (word16 s.thisClass ++ (word16 s.superClass ++ (s.interfaces.bytes word16 ++
      (s.fields.bytes RawMember.bytes ++ (s.methods.bytes RawMember.bytes ++
        s.attributes.bytes RawAttribute.bytes)))))))))

/-- What is read of the attributes of the class, if they are read. -/
def classAttributes? (s : Skeleton) (self : String) : Option (List ClassAttribute) :=
  s.attributes.entries.mapM
    (RawAttribute.read? s.pool.pool (ClassAttribute.interpret s.pool.pool self))

/-- What is read of the file, if it is read. -/
def classFile? (s : Skeleton) : Option ClassFile := do
  let p := s.pool.pool
  let name ← (p.className s.thisClass.toNat).toOption
  let superclass ← (p.className? s.superClass.toNat).toOption
  let interfaces ← s.interfaces.entries.mapM fun i => (p.className i.toNat).toOption
  let fields ← s.fields.entries.mapM (RawMember.read? p .field)
  let methods ← s.methods.entries.mapM (RawMember.read? p .method)
  let attributes ← s.classAttributes? name
  return {
    version := s.major.toNat, access := s.access, name, superclass, interfaces
    members := fields ++ methods, attributes }

/-- The class that is described, in a file from an origin, if one is. -/
def toClass? (s : Skeleton) (origin : String) : Option Class :=
  s.classFile?.map (·.toClass origin)

open Decode in
lemma yields_interfaceEntry (p : Pool) (i : UInt16) :
    Yields (interfaceEntry p) (word16 i) (p.className i.toNat).toOption :=
  ((reads_u16 .interfaceIndex).yields i).last fun _ => (yields_lift _).within .interface

open Decode in
/-- What is read of a file is a matter of its parts. -/
theorem yields_parse (s : Skeleton) : Yields parse s.bytes s.classFile? := by
  have haccess : UInt16.ofNat s.access.toNat = s.access := UInt16.ofNat_toNat
  rw [classFile?, ← haccess]
  exact (reads_mark.yields ()).next <|
    ((reads_u16 .minorVersion).yields s.minor).next <|
    ((reads_u16 .majorVersion).yields s.major).next <|
    (Pool.reads_decode.yields s.pool).next <|
    ((reads_u16 .access).yields s.access).next <|
    ((reads_u16 .thisClass).yields s.thisClass).next <|
    ((yields_lift _).within .thisClass).first fun name =>
    ((reads_u16 .superClass).yields s.superClass).next <|
    ((yields_lift _).within .superClass).first fun superclass =>
    yields_table_bind (yields_interfaceEntry s.pool.pool) .interfaceCount s.interfaces
      fun interfaces =>
    (yields_table (RawMember.yields_memberEntry s.pool.pool .field) .memberCount s.fields).bind
      fun fields _ =>
    (yields_table (RawMember.yields_memberEntry s.pool.pool .method) .memberCount s.methods).bind
      fun methods _ =>
    yields_table_last
      (RawAttribute.yields_attributeEntry s.pool.pool (ClassAttribute.interpret s.pool.pool name))
      .classAttributeCount s.attributes fun attributes => yields_pure _

end Skeleton

/-! ## What is read -/

/-- An attribute without regard to what its name and its body are. -/
def Attribute.raw {cs : List Constant} {F : AttributeFormat} (a : Attribute cs F) :
    RawAttribute where
  name := a.name.index
  body := F.write a.content
  length_lt := a.length_lt

/-- A member without regard to where its references lead. -/
def MemberLayout.raw {cs : List Constant} (m : MemberLayout cs) : RawMember where
  access := m.access
  name := m.name.index
  descriptor := m.descriptor.index
  attributes := m.attributes.map Attribute.raw

lemma MemberLayout.bytes_raw {cs : List Constant} (m : MemberLayout cs) :
    m.raw.bytes = m.bytes := by
  rw [RawMember.bytes, raw, Table.bytes_map]
  rfl

/-- A class file without regard to where its references lead. -/
def Layout.skeleton (l : Layout) : Skeleton where
  minor := l.minor
  major := l.major
  pool := l.pool
  access := l.access
  thisClass := l.thisClass.index
  superClass := ClassRef.index? l.superClass
  interfaces := l.interfaces.map ClassRef.index
  fields := l.fields.map MemberLayout.raw
  methods := l.methods.map MemberLayout.raw
  attributes := l.attributes.map Attribute.raw

lemma Layout.bytes_skeleton (l : Layout) : l.skeleton.bytes = l.bytes := by
  have hmember : (fun m : MemberLayout l.pool.constants => m.raw.bytes) = MemberLayout.bytes :=
    funext MemberLayout.bytes_raw
  simp only [Skeleton.bytes, skeleton, Table.bytes_map, hmember]
  rfl

end PluginFacts.ClassFile

namespace PluginFacts.ClassInput

open ClassFile

/-- Every input that is read can be divided up. -/
theorem exists_skeleton_of_read {i : ClassInput} {c : Class} (h : i.read = .ok c) :
    ∃ (s : Skeleton) (rest : List UInt8), i.bytes = s.bytes ++ rest := by
  obtain ⟨l, rest, hbytes, -⟩ := read_eq_ok_iff.1 h
  exact ⟨l.skeleton, rest, by rw [l.bytes_skeleton, hbytes]⟩

/-- An input that can be divided up is read as the class of the file at its start, or refused. -/
theorem toOption_read (s : Skeleton) (origin : String) (rest : List UInt8) :
    (ClassInput.read ⟨origin, s.bytes ++ rest⟩).toOption = s.toClass? origin := by
  have hparse := s.yields_parse rest 0
  rw [Skeleton.toClass?]
  cases hrun : parse ⟨s.bytes ++ rest, 0⟩ with
  | error fault =>
    rw [hrun] at hparse
    rw [read_of_parse_eq_error origin hrun, Option.map_eq_none_iff.1 hparse.symm]
    rfl
  | ok r =>
    rw [hrun] at hparse
    obtain ⟨f, hf, rfl⟩ := Option.map_eq_some_iff.1 hparse.symm
    rw [read_of_parse_eq_ok origin hrun, hf]
    rfl

end PluginFacts.ClassInput
