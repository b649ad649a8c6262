/-
# Which inputs are read

Every class file is read as the class that it describes, whatever comes after it (`read_bytes`), and
what is read starts with a class file (`read_spec`).

There are class files in a wider sense among those that are read, in which two things are not as the
format has them.  The constant pool may end in a wide constant whose second index is not announced,
and the body of an attribute may go on where its content is at its end.  A layout is exact
(`Layout.IsExact`) if there is nothing of this kind in it.  `shortPool` and `looseBody` are read,
but no exact layout starts them.
-/
import PluginFacts.Proofs.ClassFile.Layout

namespace PluginFacts

open ClassFile

namespace ClassInput

/-- A class file is read as the class that it describes, and it describes no other. -/
theorem read_bytes (l : Layout) (rest : List UInt8) (origin : String) :
    ∃ c, ClassInput.read ⟨origin, l.bytes ++ rest⟩ = .ok c ∧ ∀ d, l.Describes origin d ↔ d = c :=
  ⟨l.toClass origin, read_eq_ok_iff.2 ⟨l, rest, rfl, rfl⟩, fun _ => Layout.describes_iff⟩

/-- What is read is the class that a class file at the start of the input describes, and what is not
read is reported under its origin. -/
theorem read_spec (i : ClassInput) :
    match i.read with
    | .ok c => ∃ (l : Layout) (rest : List UInt8),
        i.bytes = l.bytes ++ rest ∧ l.Describes i.origin c
    | .error m => m.origin = i.origin ∧ ∃ fault, m.cause = .notClassFile fault := by
  split
  · next c hread =>
    obtain ⟨l, rest, hbytes, hc⟩ := read_eq_ok_iff.1 hread
    exact ⟨l, rest, hbytes, Layout.describes_iff.2 hc⟩
  · next m hread =>
    rw [read] at hread
    split at hread
    · cases hread
    · next fault hfault =>
      cases hread
      exact ⟨rfl, fault, rfl⟩

end ClassInput

namespace ClassFile

/-! ## Exact layouts -/

/-- The indices of the pool are those that are announced, and bodies are as long as the format of
class files has them. -/
structure Layout.IsExact (l : Layout) : Prop where
  pool : l.pool.IsExact
  fields : ∀ i j, MemberContent.IsExact ((l.fields.entry i).attributes.entry j).content
  methods : ∀ i j, MemberContent.IsExact ((l.methods.entry i).attributes.entry j).content
  attributes : ∀ i, ClassContent.IsExact (l.attributes.entry i).content

open Decode

variable {r s : List UInt8}

/-- Layouts that are written alike agree on the pool, and on how the attributes are written. -/
lemma Layout.attributes_eq_of_bytes_eq {l l' : Layout} (h : l.bytes ++ r = l'.bytes ++ s) :
    l.pool.bytes = l'.pool.bytes ∧ l.pool.pool = l'.pool.pool ∧
      l.attributes.bytes Attribute.bytes ++ r = l'.attributes.bytes Attribute.bytes ++ s := by
  simp only [bytes, List.append_assoc] at h
  -- the mark and the version are eight bytes
  have hpool := congrArg (List.drop 8) h
  change l.pool.bytes ++ _ = l'.pool.bytes ++ _ at hpool
  obtain ⟨hmean, hbytes, hrest⟩ := Pool.reads_decode.unique Pool.reads_decode hpool
  have hp : l.pool.pool.IsOf l.pool.constants := l.pool.isOf_pool
  have hp' : l.pool.pool.IsOf l'.pool.constants := hmean ▸ l'.pool.isOf_pool
  -- the access flags and the references to the class and its superclass are six
  have hinterfaces := congrArg (List.drop 6) hrest
  change l.interfaces.bytes _ ++ _ = l'.interfaces.bytes _ ++ _ at hinterfaces
  obtain ⟨-, -, hfields⟩ := (reads_table hp.reads_interfaceEntry .interfaceCount).unique
    (reads_table hp'.reads_interfaceEntry .interfaceCount) hinterfaces
  obtain ⟨-, -, hmethods⟩ :=
    (hp.reads_memberTable .field).unique (hp'.reads_memberTable .field) hfields
  obtain ⟨-, -, hattributes⟩ :=
    (hp.reads_memberTable .method).unique (hp'.reads_memberTable .method) hmethods
  exact ⟨hbytes, hmean, hattributes⟩

/-- Layouts that are written alike agree on the name of the first attribute and the length of its
body. -/
lemma Layout.first_attribute_of_bytes_eq {l l' : Layout} (h : l.bytes ++ r = l'.bytes ++ s)
    (hpos' : 0 < l'.attributes.length.toNat) :
    ∃ hpos : 0 < l.attributes.length.toNat,
      (l.attributes.first hpos).name.text = (l'.attributes.first hpos').name.text ∧
      (ClassContent.bytes (l.attributes.first hpos).content).length =
        (ClassContent.bytes (l'.attributes.first hpos').content).length := by
  obtain ⟨-, hpool, hattributes⟩ := attributes_eq_of_bytes_eq h
  have hp : l.pool.pool.IsOf l.pool.constants := l.pool.isOf_pool
  have hp' : l.pool.pool.IsOf l'.pool.constants := hpool ▸ l'.pool.isOf_pool
  obtain ⟨more', hmore'⟩ := l'.attributes.exists_bytes_eq_first Attribute.bytes hpos'
  have hlength : l.attributes.length.toNat = l'.attributes.length.toNat := by
    simp only [Table.bytes, List.append_assoc] at hattributes
    exact ((reads_u16 .classAttributeCount).unique (reads_u16 .classAttributeCount) hattributes).1
  have hpos : 0 < l.attributes.length.toNat := hlength ▸ hpos'
  obtain ⟨more, hmore⟩ := l.attributes.exists_bytes_eq_first Attribute.bytes hpos
  rw [hmore, hmore'] at hattributes
  simp only [Attribute.bytes, List.append_assoc] at hattributes
  obtain ⟨-, -, hname⟩ :=
    (reads_u16 .classAttributeCount).unique (reads_u16 .classAttributeCount) hattributes
  obtain ⟨htext, -, hbody⟩ :=
    (hp.reads_text .attributeName).unique (hp'.reads_text .attributeName) hname
  obtain ⟨hbodyLength, -, -⟩ :=
    (reads_u32 .attributeLength).unique (reads_u32 .attributeLength) hbody
  exact ⟨hpos, htext, hbodyLength⟩

lemma ClassContent.length_bytes_of_isExact {cs : List Constant} {self name : String}
    {x : ClassContent cs self name} (hx : x.IsExact) (hname : name = "NestHost") :
    x.bytes.length = 2 := by
  cases x with
  | nestHost h host rest =>
    obtain rfl : rest = [] := hx
    rfl
  | innerClasses h => exact absurd (h.symm.trans hname) (by decide)
  | enclosingMethod h => exact absurd (h.symm.trans hname) (by decide)
  | other h => exact absurd (hname ▸ by decide) h

/-! ## Two inputs that no exact layout starts -/

/-- The constants are the text `A`, the class of this name, and a number of eight bytes. -/
def shortConstants : List Constant :=
  [.text [0x41] (by decide), .classRef 1, .sized .long (List.replicate 8 0) rfl]

/-- A class file whose pool ends in a wide constant, the second index of which is not announced. -/
def shortLayout : Layout where
  minor := 0
  major := 52
  pool := ⟨4, shortConstants, .narrow rfl (.narrow rfl (.short rfl))⟩
  access := 0x21
  thisClass := ⟨2, Text.Utf8.decodeLossy [0x41], 1, ⟨[_], [_], rfl, rfl⟩, [0x41], by decide,
    ⟨[], [_, _], rfl, rfl⟩, rfl⟩
  superClass := none
  interfaces := .ofList [] (by decide)
  fields := .ofList [] (by decide)
  methods := .ofList [] (by decide)
  attributes := .ofList [] (by decide)

/-- The bytes of `NestHost`. -/
def nestHostBytes : List UInt8 :=
  [0x4E, 0x65, 0x73, 0x74, 0x48, 0x6F, 0x73, 0x74]

lemma decodeLossy_nestHostBytes : Text.Utf8.decodeLossy nestHostBytes = "NestHost" := by
  simp [nestHostBytes, Text.Utf8.decodeLossy, Text.Utf8.units, Text.Utf8.units.go, Text.Utf8.unit,
    Text.Utf8.lead?, Text.Utf8.continued]

/-- The constants are the text `A`, the class of this name, and the text `NestHost`. -/
def hostConstants : List Constant :=
  [.text [0x41] (by decide), .classRef 1, .text nestHostBytes (by decide)]

/-- A reference to the class `A`. -/
def hostClass : ClassRef hostConstants :=
  ⟨2, Text.Utf8.decodeLossy [0x41], 1, ⟨[_], [_], rfl, rfl⟩, [0x41], by decide,
    ⟨[], [_, _], rfl, rfl⟩, rfl⟩

lemma length_reference_lt {rest : List UInt8} (h : rest.length < 0x100) :
    (word16 2 ++ rest).length < 0x100000000 := by
  rw [List.length_append, word16, List.length_cons, List.length_cons, List.length_nil]
  omega

/-- A class file whose class is its own nest host, where some bytes come after the reference in the
attribute that says so. -/
def hostLayout (rest : List UInt8) (h : rest.length < 0x100) : Layout where
  minor := 0
  major := 52
  pool := .ofConstants hostConstants (by decide)
  access := 0x21
  thisClass := hostClass
  superClass := none
  interfaces := .ofList [] (by decide)
  fields := .ofList [] (by decide)
  methods := .ofList [] (by decide)
  attributes := .ofList [{
    name := ⟨3, "NestHost", nestHostBytes, by decide, ⟨[_, _], [], rfl, rfl⟩,
      decodeLossy_nestHostBytes.symm⟩
    content := .nestHost rfl hostClass rest
    length_lt := length_reference_lt h }] (Nat.succ_lt_succ (Nat.succ_pos _))

end ClassFile

namespace ClassInput

/-- The input of `shortLayout`. -/
def shortPool : ClassInput where
  origin := "X.class"
  bytes :=
    [0xCA, 0xFE, 0xBA, 0xBE, 0, 0, 0, 52, 0, 4, 1, 0, 1, 0x41, 7, 0, 1, 5, 0, 0, 0, 0, 0, 0, 0, 0,
      0, 0x21, 0, 2, 0, 0, 0, 0, 0, 0, 0, 0, 0, 0]

/-- The input of `hostLayout` with one byte after the reference. -/
def looseBody : ClassInput where
  origin := "X.class"
  bytes :=
    [0xCA, 0xFE, 0xBA, 0xBE, 0, 0, 0, 52, 0, 4, 1, 0, 1, 0x41, 7, 0, 1, 1, 0, 8, 0x4E, 0x65, 0x73,
      0x74, 0x48, 0x6F, 0x73, 0x74, 0, 0x21, 0, 2, 0, 0, 0, 0, 0, 0, 0, 0, 0, 1, 0, 3, 0, 0,
      0, 3, 0, 2, 0]

/-- Some inputs are read that no exact layout starts. -/
theorem read_shortPool_looseBody :
    ((∃ c, shortPool.read = .ok c) ∧
      ¬ ∃ (l : Layout) (rest : List UInt8), l.IsExact ∧ shortPool.bytes = l.bytes ++ rest) ∧
    ((∃ c, looseBody.read = .ok c) ∧
      ¬ ∃ (l : Layout) (rest : List UInt8), l.IsExact ∧ looseBody.bytes = l.bytes ++ rest) := by
  have hshort : shortPool.bytes = shortLayout.bytes ++ [] := by rfl
  have hloose : looseBody.bytes = (hostLayout [0] (by decide)).bytes ++ [] := by rfl
  refine ⟨⟨⟨_, read_eq_ok_iff.2 ⟨_, _, hshort, rfl⟩⟩, ?_⟩,
    ⟨_, read_eq_ok_iff.2 ⟨_, _, hloose, rfl⟩⟩, ?_⟩
  · rintro ⟨l, rest, hexact, hbytes⟩
    obtain ⟨hpool, -⟩ := Layout.attributes_eq_of_bytes_eq (hbytes.symm.trans hshort)
    have hcount : shortLayout.pool.IsExact := PoolLayout.isExact_of_bytes_eq hpool hexact.pool
    -- the number before the constants is four, and they take the indices up to the fourth
    exact absurd hcount (by rw [PoolLayout.IsExact]; decide)
  · rintro ⟨l, rest, hexact, hbytes⟩
    obtain ⟨hpos, hname, hlength⟩ :=
      Layout.first_attribute_of_bytes_eq (hbytes.symm.trans hloose) (by decide)
    have htwo := ClassContent.length_bytes_of_isExact (hexact.attributes ⟨0, hpos⟩) hname
    exact absurd (htwo.symm.trans hlength) (by decide)

end ClassInput

end PluginFacts
