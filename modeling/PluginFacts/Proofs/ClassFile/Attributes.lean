/-
# Attributes as they are written

An attribute is a reference to its name, the length of its body and the body.  What may stand in
the body depends on the name: an `AttributeFormat` gives the contents for each name and how they
are written. `reads_attributeEntry` takes a reader of bodies, described by a format, to one of
whole attributes.

There is one format for the attributes of members and one for those of a class.  The bodies
that matter here are read only as far as they are needed, so a content of theirs ends in bytes
that are not looked at.  It is exact (`IsExact`) if there are as many of these as the format
of class files has.
-/
import PluginFacts.ClassFile.Basic
import PluginFacts.Proofs.ClassFile.Annotations

namespace PluginFacts.ClassFile

/-- What may stand in the body of an attribute. -/
structure AttributeFormat where
  /-- The contents of an attribute with a name. -/
  Content : String → Type
  /-- The body with a content. -/
  write : {name : String} → Content name → List UInt8

/-- An attribute as it is written. -/
structure Attribute (cs : List Constant) (F : AttributeFormat) where
  /-- Its name. -/
  name : TextRef cs
  /-- What stands in its body. -/
  content : F.Content name.text
  /-- The length of the body fits into four bytes. -/
  length_lt : (F.write content).length < 0x100000000

/-- The attribute as it is written. -/
def Attribute.bytes {cs : List Constant} {F : AttributeFormat} (a : Attribute cs F) : List UInt8 :=
  word16 a.name.index ++
    (word32 (.ofNatLT (F.write a.content).length a.length_lt) ++ F.write a.content)

section Reads

open Decode

variable {p : Pool} {cs : List Constant} {F : AttributeFormat} {α : Type}

/-- Attributes are read where their bodies are. -/
theorem reads_attributeEntry (hp : p.IsOf cs) {interpret : String → List UInt8 → Except Fault α}
    {mean : {name : String} → F.Content name → α}
    (hinterpret : ∀ name body a,
      interpret name body = .ok a ↔ ∃ x : F.Content name, body = F.write x ∧ a = mean x) :
    ReadsAs (attributeEntry p interpret) Attribute.bytes
      fun a : Attribute cs F => mean a.content := by
  refine Reads.congr ((hp.reads_text .attributeName).bind₂ fun name =>
    (reads_u32 .attributeLength).bind fun length => (reads_bytes .attributeBody length.toNat).bind
      fun body => reads_lift (interpret name.text body.1)) ?_
  intro bytes a
  constructor
  · rintro ⟨name, _, rfl, length, _, rfl, ⟨body, hbody⟩, _, rfl, ⟨a, ha⟩, rfl, rfl⟩
    obtain ⟨content, rfl, rfl⟩ := (hinterpret _ _ _).1 ha
    have hlt : (F.write content).length < 0x100000000 := hbody ▸ length.toNat_lt
    refine ⟨⟨name, content, hlt⟩, ?_, rfl⟩
    have hlength : UInt32.ofNatLT (F.write content).length hlt = length := UInt32.toNat_inj.1 hbody
    simp only [Attribute.bytes, hlength, List.append_nil]
  · rintro ⟨⟨name, content, hlt⟩, rfl, rfl⟩
    have hcontent := (hinterpret _ _ _).2 ⟨content, rfl, rfl⟩
    refine ⟨name, _, rfl, .ofNatLT (F.write content).length hlt, _, rfl, ⟨F.write content, rfl⟩,
      [], ?_, ⟨_, hcontent⟩, rfl, rfl⟩
    simp

end Reads

/-! ## Attributes of members -/

/-- The names of the attributes that list annotations. -/
def annotationNames : List String :=
  ["RuntimeVisibleAnnotations", "RuntimeInvisibleAnnotations"]

/-- What may stand in the body of an attribute of a member. -/
inductive MemberContent (cs : List Constant) (name : String) where
  /-- Annotations, and bytes that are not looked at. -/
  | annotations (mem_names : name ∈ annotationNames) (table : Table (AnnotationLayout cs))
    (rest : List UInt8)
  /-- Anything in an attribute that lists no annotations. -/
  | other (not_mem_names : name ∉ annotationNames) (body : List UInt8)

namespace MemberContent

variable {cs : List Constant} {name : String}

/-- The body with the content. -/
def bytes : MemberContent cs name → List UInt8
  | annotations _ table rest => table.bytes AnnotationLayout.bytes ++ rest
  | other _ body => body

/-- The annotations that the content lists. -/
def listed : MemberContent cs name → List (AnnotationLayout cs)
  | annotations _ table _ => table.entries
  | other .. => []

/-- The types of the annotations that are classes. -/
def types (x : MemberContent cs name) : List String :=
  x.listed.filterMap fun a => annotationType? a.type.text

/-- The body is at its end where the content is. -/
def IsExact : MemberContent cs name → Prop
  | annotations _ _ rest => rest = []
  | other .. => True

/-- The attributes of members. -/
abbrev format (cs : List Constant) : AttributeFormat where
  Content := MemberContent cs
  write := bytes

end MemberContent

lemma mem_annotationNames_iff {name : String} : name ∈ annotationNames ↔
    name = "RuntimeVisibleAnnotations" ∨ name = "RuntimeInvisibleAnnotations" := by
  simp [annotationNames]

lemma Pool.IsOf.memberAnnotations_eq_ok_iff {p : Pool} {cs : List Constant} (hp : p.IsOf cs)
    (member name : String) (body : List UInt8) (types : List String) :
    memberAnnotations p member name body = .ok types ↔
      ∃ x : MemberContent cs name, body = x.bytes ∧ types = x.types := by
  have hwithin : ∀ r : Except Fault (List String),
      r.mapError (Fault.within (.annotations member)) = .ok types ↔ r = .ok types := by
    rintro (_ | _) <;> simp [Except.mapError]
  constructor
  · intro h
    have hlists : name ∈ annotationNames → annotations p body = .ok types →
        ∃ x : MemberContent cs name, body = x.bytes ∧ types = x.types := by
      intro hname htypes
      obtain ⟨t, rest, rfl, rfl⟩ := (annotations_eq_ok_iff hp).1 htypes
      exact ⟨.annotations hname t rest, rfl, rfl⟩
    unfold memberAnnotations at h
    split at h
    · exact hlists (by decide) ((hwithin _).1 h)
    · exact hlists (by decide) ((hwithin _).1 h)
    · next hvisible hinvisible =>
      cases h
      have hname : name ∉ annotationNames := by
        rw [mem_annotationNames_iff]
        exact not_or.2 ⟨hvisible, hinvisible⟩
      exact ⟨.other hname body, rfl, rfl⟩
  · rintro ⟨x, rfl, rfl⟩
    cases x with
    | annotations hname t rest =>
      have htypes := (annotations_eq_ok_iff hp).2 ⟨t, rest, rfl, rfl⟩
      unfold memberAnnotations
      split
      · exact (hwithin _).2 htypes
      · exact (hwithin _).2 htypes
      · next hvisible hinvisible =>
        exact absurd (mem_annotationNames_iff.1 hname) (not_or.2 ⟨hvisible, hinvisible⟩)
    | other hname body =>
      unfold memberAnnotations
      split
      · exact absurd (by decide) hname
      · exact absurd (by decide) hname
      · rfl

/-! ## Attributes of a class -/

/-- An entry of a table of inner classes in the file of the class called `self`. -/
inductive InnerClass (cs : List Constant) (self : String) where
  /-- An entry about the class, with the class it is nested in. -/
  | own (inner : ClassRef cs) (name_eq : inner.name = self) (outer : Option (ClassRef cs))
    (name access : UInt16)
  /-- An entry about another class, of which only the reference to that class matters. -/
  | foreign (inner : ClassRef cs) (name_ne : inner.name ≠ self) (outer name access : UInt16)

namespace InnerClass

variable {cs : List Constant} {self : String}

/-- The entry as it is written. -/
def bytes : InnerClass cs self → List UInt8
  | own inner _ outer name access => word16 inner.index ++
      (word16 (ClassRef.index? outer) ++ (word16 name ++ word16 access))
  | foreign inner _ outer name access => word16 inner.index ++
      (word16 outer ++ (word16 name ++ word16 access))

/-- The class that the class called `self` is nested in, if the entry says so. -/
def outer? : InnerClass cs self → Option String
  | own _ _ outer _ _ => outer.map ClassRef.name
  | foreign .. => none

end InnerClass

/-- The names of the attributes that may say which class a class is nested in. -/
def nestingNames : List String :=
  ["InnerClasses", "EnclosingMethod", "NestHost"]

/-- What may stand in the body of an attribute of the class called `self`. -/
inductive ClassContent (cs : List Constant) (self name : String) where
  /-- A table of inner classes, and bytes that are not looked at. -/
  | innerClasses (name_eq : name = "InnerClasses") (table : Table (InnerClass cs self))
    (rest : List UInt8)
  /-- The class that the class is declared in, and bytes that are not looked at. -/
  | enclosingMethod (name_eq : name = "EnclosingMethod") (outer : ClassRef cs) (rest : List UInt8)
  /-- The class whose nest the class is in, and bytes that are not looked at. -/
  | nestHost (name_eq : name = "NestHost") (host : ClassRef cs) (rest : List UInt8)
  /-- Anything in another attribute. -/
  | other (not_mem_names : name ∉ nestingNames) (body : List UInt8)

namespace ClassContent

variable {cs : List Constant} {self name : String}

/-- The body with the content. -/
def bytes : ClassContent cs self name → List UInt8
  | innerClasses _ table rest => table.bytes InnerClass.bytes ++ rest
  | enclosingMethod _ outer rest => word16 outer.index ++ rest
  | nestHost _ host rest => word16 host.index ++ rest
  | other _ body => body

/-- What the attribute with the content says about the class. -/
def meaning : ClassContent cs self name → ClassAttribute
  | innerClasses _ table _ => .innerClasses (table.entries.filterMap InnerClass.outer?)
  | enclosingMethod _ outer _ => .enclosingMethod outer.name
  | nestHost _ host _ => .nestHost host.name
  | other .. => if name = "Synthetic" then .synthetic else .other

/-- The outer classes that the content gives the class as an inner class. -/
def outers : ClassContent cs self name → List String
  | innerClasses _ table _ => table.entries.filterMap InnerClass.outer?
  | _ => []

/-- The class that the content says the class is declared in. -/
def enclosing? : ClassContent cs self name → Option String
  | enclosingMethod _ outer _ => some outer.name
  | _ => none

/-- The host that the content gives the class. -/
def host? : ClassContent cs self name → Option String
  | nestHost _ host _ => some host.name
  | _ => none

lemma innerOuters_meaning (x : ClassContent cs self name) : x.meaning.innerOuters = x.outers := by
  cases x with
  | innerClasses | enclosingMethod | nestHost => rfl
  | other h body =>
    rw [meaning]
    split <;> rfl

lemma enclosingMethod?_meaning (x : ClassContent cs self name) :
    x.meaning.enclosingMethod? = x.enclosing? := by
  cases x with
  | innerClasses | enclosingMethod | nestHost => rfl
  | other h body =>
    rw [meaning]
    split <;> rfl

lemma nestHost?_meaning (x : ClassContent cs self name) : x.meaning.nestHost? = x.host? := by
  cases x with
  | innerClasses | enclosingMethod | nestHost => rfl
  | other h body =>
    rw [meaning]
    split <;> rfl

lemma meaning_eq_synthetic_iff (x : ClassContent cs self name) :
    x.meaning = .synthetic ↔ name = "Synthetic" := by
  cases x with
  | innerClasses h | enclosingMethod h | nestHost h => simp [meaning, h]
  | other h body => simp [meaning]

/-- The body is as long as the format of class files has it. -/
def IsExact : ClassContent cs self name → Prop
  | innerClasses _ _ rest => rest = []
  -- the index of the method follows
  | enclosingMethod _ _ rest => rest.length = 2
  | nestHost _ _ rest => rest = []
  | other .. => True

/-- The attributes of the class called `self`. -/
abbrev format (cs : List Constant) (self : String) : AttributeFormat where
  Content := ClassContent cs self
  write := bytes

end ClassContent

namespace Pool.IsOf

open Decode ClassAttribute

variable {p : Pool} {cs : List Constant}

lemma reads_innerClass (hp : p.IsOf cs) (self : String) :
    ReadsAs (innerClass p self) InnerClass.bytes fun e : InnerClass cs self => e.outer? := by
  refine Reads.congr ((reads_u16 .innerClassIndex).bind fun inner =>
    (reads_u16 .outerClassIndex).bind fun outer => (reads_skip_words .innerClassEntry).bind fun _ =>
      (reads_lift (p.className inner.toNat)).bind fun name =>
        (reads_lift (p.className? outer.toNat)).ite (reads_pure none)) ?_
  intro bytes outer?
  constructor
  · rintro ⟨inner, _, rfl, outer, _, rfl, ⟨name, access⟩, _, rfl, ⟨s, hs⟩, _, rfl,
      ⟨hself, ⟨_, houter⟩, rfl, rfl⟩ | ⟨hself, rfl, rfl⟩⟩
    · obtain ⟨r, rfl, rfl⟩ := (hp.className?_eq_ok_iff outer _).1 houter
      exact ⟨.own ⟨inner, s, (hp.className_eq_ok_iff _ _).1 hs⟩ hself r name access, by
        simp [InnerClass.bytes], rfl⟩
    · exact ⟨.foreign ⟨inner, s, (hp.className_eq_ok_iff _ _).1 hs⟩ hself outer name access, by
        simp [InnerClass.bytes], rfl⟩
  · rintro ⟨e, rfl, rfl⟩
    cases e with
    | own inner hself outer name access =>
      have hinner := (hp.className_eq_ok_iff _ _).2 inner.classAt
      have houter := (hp.className?_eq_ok_iff (ClassRef.index? outer) _).2 ⟨outer, rfl, rfl⟩
      exact ⟨inner.index, _, rfl, _, _, rfl, (name, access), [], by simp, ⟨_, hinner⟩, [], rfl,
        .inl ⟨hself, ⟨_, houter⟩, rfl, rfl⟩⟩
    | foreign inner hself outer name access =>
      have hinner := (hp.className_eq_ok_iff _ _).2 inner.classAt
      exact ⟨inner.index, _, rfl, outer, _, rfl, (name, access), [], by simp, ⟨_, hinner⟩, [], rfl,
        .inr ⟨hself, rfl, rfl⟩⟩

lemma reads_innerClassTable (hp : p.IsOf cs) (self : String) :
    ReadsAs (innerClassTable p self) (Table.bytes InnerClass.bytes)
      fun t : Table (InnerClass cs self) =>
        innerClasses (t.entries.filterMap InnerClass.outer?) := by
  have htable := (reads_table (hp.reads_innerClass self) .innerClassCount).map₂
    fun outer => innerClasses (outer.filterMap id)
  simp only [List.filterMap_map, Function.id_comp] at htable
  exact htable

lemma reads_enclosingMethodRef (hp : p.IsOf cs) :
    ReadsAs (enclosingMethodRef p) (fun r : ClassRef cs => word16 r.index)
      fun r => enclosingMethod r.name :=
  (hp.reads_className .enclosingClassIndex fun i => reads_lift (p.className i)).map₂ enclosingMethod

lemma reads_nestHostRef (hp : p.IsOf cs) :
    ReadsAs (nestHostRef p) (fun r : ClassRef cs => word16 r.index) fun r => nestHost r.name :=
  (hp.reads_className .nestHostIndex fun i => reads_lift (p.className i)).map₂ nestHost

theorem interpret_eq_ok_iff (hp : p.IsOf cs) (self name : String) (body : List UInt8)
    (a : ClassAttribute) :
    interpret p self name body = .ok a ↔
      ∃ x : ClassContent cs self name, body = x.bytes ∧ a = x.meaning := by
  constructor
  · intro h
    unfold interpret at h
    split at h
    · obtain ⟨t, rest, rfl, rfl⟩ := (hp.reads_innerClassTable self).onBytes_eq_ok_iff.1 h
      exact ⟨.innerClasses rfl t rest, rfl, rfl⟩
    · obtain ⟨r, rest, rfl, rfl⟩ := hp.reads_enclosingMethodRef.onBytes_eq_ok_iff.1 h
      exact ⟨.enclosingMethod rfl r rest, rfl, rfl⟩
    · obtain ⟨r, rest, rfl, rfl⟩ := hp.reads_nestHostRef.onBytes_eq_ok_iff.1 h
      exact ⟨.nestHost rfl r rest, rfl, rfl⟩
    · cases h
      exact ⟨.other (by decide) body, rfl, rfl⟩
    · next hinner henclosing hhost hsynthetic =>
      cases h
      have hname : name ∉ nestingNames := by
        simp only [nestingNames, List.mem_cons, List.not_mem_nil, or_false, not_or]
        exact ⟨hinner, henclosing, hhost⟩
      exact ⟨.other hname body, rfl, (if_neg hsynthetic).symm⟩
  · rintro ⟨⟨rfl, t, rest⟩ | ⟨rfl, r, rest⟩ | ⟨rfl, r, rest⟩ | ⟨hname, body⟩, rfl, rfl⟩
    · exact (hp.reads_innerClassTable self).onBytes_eq_ok_iff.2 ⟨t, rest, rfl, rfl⟩
    · exact hp.reads_enclosingMethodRef.onBytes_eq_ok_iff.2 ⟨r, rest, rfl, rfl⟩
    · exact hp.reads_nestHostRef.onBytes_eq_ok_iff.2 ⟨r, rest, rfl, rfl⟩
    · unfold interpret
      split
      · exact absurd (by decide) hname
      · exact absurd (by decide) hname
      · exact absurd (by decide) hname
      · rfl
      · next hsynthetic => exact congrArg Except.ok (if_neg hsynthetic).symm

end Pool.IsOf

end PluginFacts.ClassFile
