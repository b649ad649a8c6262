/-
# Class files as they are written

A `Layout` is a class file as a structure: its constant pool, references to constants of the pool,
and tables of members and attributes.  Every index of it that is looked up leads to a constant of
the kind that is asked for, as the type of a reference says.  `Layout.bytes` is how the file is
written, and `Layout.Describes` says what the class is that it describes, which is `Layout.toClass`.

`ClassFile.parse` reads layouts (`reads_parse`), hence a string of bytes is read as a class exactly
if a layout of this class starts it (`read_eq_ok_iff`).
-/
import PluginFacts.Input
import PluginFacts.Proofs.ClassFile.Attributes

namespace PluginFacts.ClassFile

/-! ## Members -/

/-- A member as it is written. -/
structure MemberLayout (cs : List Constant) where
  /-- Its access flags. -/
  access : UInt16
  /-- Its name. -/
  name : TextRef cs
  /-- Its type. -/
  descriptor : TextRef cs
  /-- Its attributes. -/
  attributes : Table (Attribute cs (MemberContent.format cs))

namespace MemberLayout

variable {cs : List Constant}

/-- The member as it is written. -/
def bytes (m : MemberLayout cs) : List UInt8 :=
  word16 m.access ++ (word16 m.name.index ++ (word16 m.descriptor.index ++
    m.attributes.bytes Attribute.bytes))

/-- The member that is described, in a table of members of one kind. -/
def member (kind : MemberKind) (m : MemberLayout cs) : Member where
  name := m.name.text
  kind := kind
  descriptor := m.descriptor.text
  access := m.access
  annotations := m.attributes.entries.flatMap fun a => MemberContent.types a.content

/-- What a member is that is described in a table of members of one kind. -/
structure Describes (l : MemberLayout cs) (kind : MemberKind) (m : Member) : Prop where
  /-- The name is the text that is referred to. -/
  name_eq : m.name = l.name.text
  /-- The kind is that of the table. -/
  kind_eq : m.kind = kind
  /-- So is the type. -/
  descriptor_eq : m.descriptor = l.descriptor.text
  /-- The access flags are those that are written. -/
  access_eq : m.access = l.access
  /-- The annotations are those that are noted of all that the attributes list, one attribute after
  the other. -/
  annotations : AreNoted (l.attributes.entries.flatMap fun a => MemberContent.listed a.content)
    m.annotations

lemma describes_iff {l : MemberLayout cs} {kind : MemberKind} {m : Member} :
    l.Describes kind m ↔ m = l.member kind := by
  have hannotations : (l.member kind).annotations =
      (l.attributes.entries.flatMap fun a => MemberContent.listed a.content).filterMap
        fun a => annotationType? a.type.text := by
    rw [List.filterMap_flatMap]
    rfl
  constructor
  · rintro ⟨hname, hkind, hdescriptor, haccess, hnoted⟩
    cases m
    rw [member, Member.mk.injEq]
    exact ⟨hname, hkind, hdescriptor, haccess, (areNoted_iff.1 hnoted).trans hannotations.symm⟩
  · rintro rfl
    exact ⟨rfl, rfl, rfl, rfl, areNoted_iff.2 hannotations⟩

end MemberLayout

namespace Pool.IsOf

open Decode

variable {p : Pool} {cs : List Constant}

lemma reads_memberEntry (hp : p.IsOf cs) (kind : MemberKind) :
    ReadsAs (memberEntry p kind) MemberLayout.bytes fun m : MemberLayout cs => m.member kind := by
  refine Reads.congr ((reads_u16 .memberAccess).bind fun access =>
    (hp.reads_text .memberName).bind₂ fun name =>
      (hp.reads_text .memberDescriptor).bind₂ fun descriptor =>
        (reads_table (reads_attributeEntry (F := MemberContent.format cs) hp
          (hp.memberAnnotations_eq_ok_iff name.text)) .memberAttributeCount).map₂ fun annotations =>
            (⟨name.text, kind, descriptor.text, .ofNat access.toNat, annotations.flatten⟩ :
              Member)) ?_
  intro bytes m
  constructor
  · rintro ⟨access, _, rfl, name, _, rfl, descriptor, _, rfl, attributes, rfl, rfl⟩
    refine ⟨⟨access, name, descriptor, attributes⟩, rfl, ?_⟩
    rw [UInt16.ofNat_toNat]
    rfl
  · rintro ⟨⟨access, name, descriptor, attributes⟩, rfl, rfl⟩
    refine ⟨access, _, rfl, name, _, rfl, descriptor, _, rfl, attributes, rfl, ?_⟩
    rw [UInt16.ofNat_toNat]
    rfl

lemma reads_memberTable (hp : p.IsOf cs) (kind : MemberKind) :
    ReadsAs (memberTable p kind) (Table.bytes MemberLayout.bytes)
      fun t : Table (MemberLayout cs) => t.entries.map (MemberLayout.member kind) :=
  reads_table (hp.reads_memberEntry kind) .memberCount

lemma reads_interfaceEntry (hp : p.IsOf cs) :
    ReadsAs (interfaceEntry p) (fun r : ClassRef cs => word16 r.index) ClassRef.name :=
  hp.reads_className .interfaceIndex fun i => (reads_lift (p.className i)).within .interface

end Pool.IsOf

/-! ## Files -/

/-- A class file as it is written. -/
structure Layout where
  /-- The minor version of the format. -/
  minor : UInt16
  /-- The major version of the format. -/
  major : UInt16
  /-- The constant pool. -/
  pool : PoolLayout
  /-- The access flags. -/
  access : UInt16
  /-- The class itself. -/
  thisClass : ClassRef pool.constants
  /-- The class it extends. -/
  superClass : Option (ClassRef pool.constants)
  /-- The interfaces it implements. -/
  interfaces : Table (ClassRef pool.constants)
  /-- Its fields. -/
  fields : Table (MemberLayout pool.constants)
  /-- Its methods. -/
  methods : Table (MemberLayout pool.constants)
  /-- Its attributes. -/
  attributes : Table (Attribute pool.constants (ClassContent.format pool.constants thisClass.name))

namespace Layout

/-- The file as it is written. -/
def bytes (l : Layout) : List UInt8 :=
  word32 0xCAFEBABE ++ (word16 l.minor ++ (word16 l.major ++ (l.pool.bytes ++ (word16 l.access ++
    (word16 l.thisClass.index ++ (word16 (ClassRef.index? l.superClass) ++
      (l.interfaces.bytes (fun r => word16 r.index) ++ (l.fields.bytes MemberLayout.bytes ++
        (l.methods.bytes MemberLayout.bytes ++ l.attributes.bytes Attribute.bytes)))))))))

/-- What is read of the file. -/
def classFile (l : Layout) : ClassFile where
  version := l.major.toNat
  access := l.access
  name := l.thisClass.name
  superclass := l.superClass.map ClassRef.name
  interfaces := l.interfaces.entries.map ClassRef.name
  members := l.fields.entries.map (·.member .field) ++ l.methods.entries.map (·.member .method)
  attributes := l.attributes.entries.map fun a => ClassContent.meaning a.content

/-- The class that the class is nested in.  What the entries about inner classes say counts
before what an enclosing method says, and this before the nest host, and of several such
classes the last. -/
def enclosing? (l : Layout) : Option String :=
  (l.attributes.entries.flatMap fun a => ClassContent.outers a.content).getLast? <|>
    (l.attributes.entries.filterMap fun a => ClassContent.enclosing? a.content).getLast? <|>
      (l.attributes.entries.filterMap fun a => ClassContent.host? a.content).getLast?

/-- The class that is described, in a file from an origin. -/
def toClass (l : Layout) (origin : String) : Class where
  name := dotted l.thisClass.name
  superclass := l.superClass.map fun r => dotted r.name
  interfaces := l.interfaces.entries.map fun r => dotted r.name
  members := l.fields.entries.map (·.member .field) ++ l.methods.entries.map (·.member .method)
  enclosing := l.enclosing?.map dotted
  access := l.access
  synthetic := AccessFlag.synthetic.isSet l.access ||
    l.attributes.entries.any fun a => a.name.text == "Synthetic"
  origin := origin

/-- What a class is that is described in a file from an origin. -/
structure Describes (l : Layout) (origin : String) (c : Class) : Prop where
  /-- The name is that of the class that is referred to, with dots for its slashes. -/
  name : IsDotted l.thisClass.name c.name
  /-- So is the name of the class it extends, if it extends one. -/
  superclass : Option.Rel (fun r name => IsDotted r.name name) l.superClass c.superclass
  /-- So are the names of the interfaces, in their order. -/
  interfaces : List.Forall₂ (fun r name => IsDotted r.name name) l.interfaces.entries c.interfaces
  /-- The members are those of the table of fields, and then those of the table of methods. -/
  members : ∃ fields methods, c.members = fields ++ methods ∧
    List.Forall₂ (fun e m => e.Describes .field m) l.fields.entries fields ∧
    List.Forall₂ (fun e m => e.Describes .method m) l.methods.entries methods
  /-- The class is nested in the one that the attributes say. -/
  enclosing : Option.Rel IsDotted l.enclosing? c.enclosing
  /-- The access flags are those that are written. -/
  access_eq : c.access = l.access
  /-- The compiler made the class up if a flag or an attribute says so. -/
  synthetic_iff : c.synthetic ↔
    l.access &&& 0x1000 ≠ 0 ∨ ∃ a ∈ l.attributes.entries, a.name.text = "Synthetic"
  /-- The class is labelled with the origin. -/
  origin_eq : c.origin = origin

lemma rel_eq_map_iff {α β : Type} {f : α → β} {o : Option α} {o' : Option β} :
    Option.Rel (fun a b => b = f a) o o' ↔ o' = o.map f := by
  cases o <;> cases o' <;> simp

/-- A class file describes one class. -/
lemma describes_iff {l : Layout} {origin : String} {c : Class} :
    l.Describes origin c ↔ c = l.toClass origin := by
  have hsynthetic : (l.toClass origin).synthetic ↔
      l.access &&& 0x1000 ≠ 0 ∨ ∃ a ∈ l.attributes.entries, a.name.text = "Synthetic" := by
    rw [toClass, Bool.or_eq_true, AccessFlag.isSet, bne_iff_ne, List.any_eq_true]
    simp only [beq_iff_eq]
    rfl
  have hdotted : IsDotted = fun internal name => name = dotted internal :=
    funext₂ fun _ _ => propext isDotted_iff
  constructor
  · intro h
    obtain ⟨fields, methods, hmembers, hfields, hmethods⟩ := h.members
    have hsuper := h.superclass
    have hinterfaces := h.interfaces
    have henclosing := h.enclosing
    simp only [hdotted, MemberLayout.describes_iff, rel_eq_map_iff, forall₂_eq_map_iff]
      at hsuper hinterfaces hfields hmethods henclosing
    rw [hfields, hmethods] at hmembers
    cases c
    exact (Class.mk.injEq ..).mpr ⟨isDotted_iff.1 h.name, hsuper, hinterfaces, hmembers, henclosing,
      h.access_eq, Bool.eq_iff_iff.2 (h.synthetic_iff.trans hsynthetic.symm), h.origin_eq⟩
  · rintro rfl
    refine ⟨isDotted_iff.2 rfl, ?_, ?_, ⟨_, _, rfl, ?_, ?_⟩, ?_, rfl, hsynthetic, rfl⟩
    · simp only [hdotted, rel_eq_map_iff, toClass]
    · simp only [hdotted, forall₂_eq_map_iff, toClass]
    · simp only [MemberLayout.describes_iff, forall₂_eq_map_iff]
    · simp only [MemberLayout.describes_iff, forall₂_eq_map_iff]
    · simp only [hdotted, rel_eq_map_iff, toClass]

lemma toClass_classFile (l : Layout) (origin : String) :
    l.classFile.toClass origin = l.toClass origin := by
  have henclosing : ClassAttribute.enclosing? l.classFile.attributes = l.enclosing? := by
    simp only [ClassAttribute.enclosing?, classFile, enclosing?, List.flatMap_map,
      List.filterMap_map, Function.comp_def, ClassContent.innerOuters_meaning,
      ClassContent.enclosingMethod?_meaning,
      ClassContent.nestHost?_meaning]
  have hsynthetic : l.classFile.attributes.contains .synthetic =
      l.attributes.entries.any fun a => a.name.text == "Synthetic" := by
    rw [Bool.eq_iff_iff]
    simp only [classFile, List.contains_iff_mem, List.mem_map,
      ClassContent.meaning_eq_synthetic_iff, List.any_eq_true, beq_iff_eq]
  rw [ClassFile.toClass, henclosing, hsynthetic]
  simp only [classFile, toClass, Option.map_map, List.map_map, Function.comp_def]

end Layout

section Reads

open Decode

lemma reads_mark : ReadsAs mark (fun _ : Unit => word32 0xCAFEBABE) fun _ => () := by
  have hword : ReadsAs ((u32 .magic).within .start) word32 UInt32.toNat :=
    (reads_u32 .magic).within .start
  refine Reads.congr (hword.bind fun word => (reads_throw _).ite (reads_pure ())) ?_
  intro bytes _
  constructor
  · rintro ⟨word, _, rfl, ⟨-, ⟨⟩⟩ | ⟨hword, rfl, -⟩⟩
    rw [not_not] at hword
    obtain rfl : word = 0xCAFEBABE := UInt32.toNat_inj.1 hword
    exact ⟨(), List.append_nil _, rfl⟩
  · rintro ⟨-, rfl, -⟩
    exact ⟨0xCAFEBABE, [], (List.append_nil _).symm, .inr ⟨by decide, rfl, rfl⟩⟩

/-- Class files are read as they are written. -/
theorem reads_parse : ReadsAs parse Layout.bytes Layout.classFile := by
  refine Reads.congr (reads_mark.bind fun _ =>
    (reads_u16 .minorVersion).bind fun minor =>
    (reads_u16 .majorVersion).bind fun major =>
    Pool.reads_decode.bind fun pool =>
    have hp := pool.isOf_pool
    (reads_u16 .access).bind fun access =>
    (hp.reads_className .thisClass fun i =>
      (reads_lift (pool.pool.className i)).within .thisClass).bind₂ fun this =>
    (hp.reads_className? .superClass fun i =>
      (reads_lift (pool.pool.className? i)).within .superClass).bind₂ fun super =>
    (reads_table hp.reads_interfaceEntry .interfaceCount).bind₂ fun interfaces =>
    (hp.reads_memberTable .field).bind fun fields =>
    (hp.reads_memberTable .method).bind fun methods =>
    (reads_table (reads_attributeEntry (F := ClassContent.format pool.constants this.name) hp
      (hp.interpret_eq_ok_iff this.name)) .classAttributeCount).map₂ fun attributes =>
        (⟨major.toNat, .ofNat access.toNat, this.name, super.map ClassRef.name,
          interfaces.entries.map ClassRef.name,
          fields.entries.map (·.member .field) ++ methods.entries.map (·.member .method),
          attributes⟩ : ClassFile)) ?_
  intro bytes f
  constructor
  · rintro ⟨-, _, rfl, minor, _, rfl, major, _, rfl, pool, _, rfl, access, _, rfl, this, _, rfl,
      super, _, rfl, interfaces, _, rfl, fields, _, rfl, methods, _, rfl, attributes, rfl, rfl⟩
    refine ⟨⟨minor, major, pool, access, this, super, interfaces, fields, methods, attributes⟩,
      rfl, ?_⟩
    rw [UInt16.ofNat_toNat]
    rfl
  · rintro ⟨⟨minor, major, pool, access, this, super, interfaces, fields, methods, attributes⟩,
      rfl, rfl⟩
    refine ⟨(), _, rfl, minor, _, rfl, major, _, rfl, pool, _, rfl, access, _, rfl, this, _, rfl,
      super, _, rfl, interfaces, _, rfl, fields, _, rfl, methods, _, rfl, attributes, rfl, ?_⟩
    rw [UInt16.ofNat_toNat]
    rfl

end Reads

end PluginFacts.ClassFile

namespace PluginFacts

open ClassFile

lemma ClassInput.read_of_parse_eq_ok (origin : String) {bytes : List UInt8} {r : ClassFile × Cursor}
    (h : parse ⟨bytes, 0⟩ = .ok r) :
    ClassInput.read ⟨origin, bytes⟩ = .ok (r.1.toClass origin) := by
  have hdecode : decode bytes = .ok r.1 := by
    change (parse ⟨bytes, 0⟩).map _ = _
    rw [h]
    rfl
  rw [read, hdecode]

lemma ClassInput.read_of_parse_eq_error (origin : String) {bytes : List UInt8} {fault : Fault}
    (h : parse ⟨bytes, 0⟩ = .error fault) :
    ClassInput.read ⟨origin, bytes⟩ = .error ⟨origin, .notClassFile fault⟩ := by
  have hdecode : decode bytes = .error fault := by
    change (parse ⟨bytes, 0⟩).map _ = _
    rw [h]
    rfl
  rw [read, hdecode]

/-- The inputs that are read are those that a layout of their class starts. -/
theorem ClassInput.read_eq_ok_iff {i : ClassInput} {c : Class} :
    i.read = .ok c ↔ ∃ (l : Layout) (rest : List UInt8),
      i.bytes = l.bytes ++ rest ∧ c = l.toClass i.origin := by
  have hread : i.read = .ok c ↔ ∃ f, decode i.bytes = .ok f ∧ c = f.toClass i.origin := by
    rw [read]
    cases decode i.bytes with
    | error fault => simp
    | ok f => simp [eq_comm]
  rw [hread]
  simp only [ClassFile.decode, reads_parse.onBytes_eq_ok_iff]
  constructor
  · rintro ⟨_, ⟨l, rest, hbytes, rfl⟩, rfl⟩
    exact ⟨l, rest, hbytes, l.toClass_classFile i.origin⟩
  · rintro ⟨l, rest, hbytes, rfl⟩
    exact ⟨l.classFile, ⟨l, rest, hbytes, rfl⟩, (l.toClass_classFile i.origin).symm⟩

end PluginFacts
