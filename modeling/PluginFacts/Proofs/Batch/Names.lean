/-
# Classes of different names

A class file spells the name of its class in modified UTF-8, and names are compared as a reader of
UTF-8 shows them.  So the classes of two inputs are kept apart exactly if their names are shown
differently (`keepsApart_iff`), which is the case for all names without zeros and surrogates.  Two
names of characters beyond the basic plane, which nothing but their surrogates tells apart, are
taken for one, and one of the classes is reported as a duplicate of the other (`merged_deseret`).
-/
import PluginFacts.Proofs.Batch.Accounts
import PluginFacts.Proofs.ClassFile.Acceptance
import PluginFacts.Proofs.Text.ModifiedUtf8

namespace PluginFacts

open Text.ModifiedUtf8

namespace ClassFile

/-- The class at an index has a name that is spelled by the bytes. -/
def SpelledAt (cs : List Constant) (i : ℕ) (raw : List UInt8) : Prop :=
  ∃ name h, StandsAt cs i (.classRef name) ∧ StandsAt cs name.toNat (.text raw h)

/-- The name of a class is what its bytes are read as. -/
lemma SpelledAt.name_eq {l : PoolLayout} {r : ClassRef l.constants} {raw : List UInt8}
    (h : SpelledAt l.constants r.index.toNat raw) : r.name = Text.Utf8.decodeLossy raw := by
  obtain ⟨name, hlt, hclass, htext⟩ := h
  have hraw := (l.isOf_pool.className_eq_ok_iff r.index.toNat (Text.Utf8.decodeLossy raw)).2
    ⟨name, hclass, raw, hlt, htext, rfl⟩
  have hname := (l.isOf_pool.className_eq_ok_iff r.index.toNat r.name).2 r.classAt
  exact Except.ok.inj (hname.symm.trans hraw)

/-- The units of a name that class files allow: no dot, semicolon or bracket is among them. -/
def IsBinaryName (us : List UInt16) : Prop :=
  0x2E ∉ us ∧ 0x3B ∉ us ∧ 0x5B ∉ us

instance : DecidablePred IsBinaryName := fun _ => inferInstanceAs (Decidable (_ ∧ _))

/-- No dot is shown for units without a dot. -/
lemma IsBinaryName.dot_notMem {us : List UInt16} (h : IsBinaryName us) :
    '.' ∉ (shown us).toList := by
  rw [shown, String.toList_ofList, List.mem_map]
  rintro ⟨c?, hc, hdot⟩
  obtain ⟨u, hu, hc⟩ := List.mem_flatMap.1 hc
  rw [seen] at hc
  split_ifs at hc with hzero hsurrogate
  · obtain rfl : c? = none := by simpa using hc
    exact absurd hdot (by decide)
  · obtain rfl : c? = none := by simpa using hc
    exact absurd hdot (by decide)
  · obtain rfl := List.mem_singleton.1 hc
    have hcode : u.toNat = 0x2E := by
      rw [← toNat_ofNat_of_not_isSurrogate hsurrogate]
      exact congrArg Char.toNat hdot
    obtain rfl : u = 0x2E := UInt16.toNat_inj.1 hcode
    exact h.1 hu

/-- A name without dots is found again in its dotted form. -/
lemma map_dotted {s : String} (hs : '.' ∉ s.toList) :
    (dotted s).toList.map (fun c => if c = '.' then '/' else c) = s.toList := by
  rw [dotted, String.toList_ofList, List.map_map]
  conv_rhs => rw [← List.map_id s.toList]
  refine List.map_congr_left fun c hc => ?_
  have hdot : c ≠ '.' := fun h => hs (h ▸ hc)
  by_cases hslash : c = '/'
  · simp [hslash]
  · simp [hslash, hdot]

/-- Names without dots are told apart with dots for their slashes. -/
lemma dotted_inj {s t : String} (hs : '.' ∉ s.toList) (ht : '.' ∉ t.toList) :
    dotted s = dotted t ↔ s = t := by
  constructor
  · intro h
    rw [← String.toList_inj, ← map_dotted hs, h, map_dotted ht]
  · exact congrArg dotted

end ClassFile

open ClassFile

/-- The input is a class file, and its class is named by the units. -/
def ClassInput.IsNamed (i : ClassInput) (us : List UInt16) : Prop :=
  ∃ (l : Layout) (rest : List UInt8), i.bytes = l.bytes ++ rest ∧
    SpelledAt l.pool.constants l.thisClass.index.toNat (Text.ModifiedUtf8.bytes us)

namespace Batch

/-- Both classes are kept, under different names, and nothing is reported. -/
structure KeepsApart (b : Batch) (c c' : Class) : Prop where
  classes_perm : b.classes.Perm [c, c']
  name_ne : c.name ≠ c'.name
  diagnostics_eq : b.diagnostics = []

variable {i i' : ClassInput} {c c' : Class} {us us' : List UInt16}

lemma name_eq_of_isNamed (h : i.Declares c) (hn : i.IsNamed us) : c.name = dotted (shown us) := by
  obtain ⟨l, rest, hbytes, hspelled⟩ := hn
  have hread : i.read = .ok (l.toClass i.origin) :=
    ClassInput.read_eq_ok_iff.2 ⟨l, rest, hbytes, rfl⟩
  obtain rfl : c = l.toClass i.origin := Except.ok.inj (h.1.symm.trans hread)
  change dotted l.thisClass.name = _
  rw [hspelled.name_eq, decodeLossy_bytes]

/-- Classes of different names are kept apart. -/
lemma keepsApart_of_name_ne (h : i.Declares c) (h' : i'.Declares c') (hne : c.name ≠ c'.name) :
    (ofInputs [i, i']).KeepsApart c c' := by
  have hclasses : [i, i'].filterMap class? = [c, c'] := by
    simp [class?_eq_some_iff.2 h, class?_eq_some_iff.2 h']
  have hnodup : (([i, i'].filterMap class?).map (·.name)).Nodup := by
    simpa [hclasses] using hne
  have hmalformed : [i, i'].filterMap malformed? = [] := by
    simp [malformed?, h.1, h'.1]
  have hduplicates : (groups [i, i']).filterMap Namesakes.duplicate? = [] := by
    refine List.filterMap_eq_nil_iff.2 fun g hg => ?_
    rw [Namesakes.duplicate?, if_pos (Namesakes.ignored_eq_nil hnodup hg)]
  refine ⟨?_, hne, ?_⟩
  · exact (Namesakes.map_kept_perm hnodup).trans (.of_eq hclasses)
  · simp [ofInputs, hmalformed, hduplicates]

/-- Of two classes of one name, one is reported as a duplicate. -/
lemma mem_duplicates_of_name_eq (h : i.Declares c) (h' : i'.Declares c') (heq : c.name = c'.name) :
    c.name ∈ (ofInputs [i, i']).duplicates.map (·.name) := by
  have hname : i.DeclaresName c.name := ⟨c, h, rfl⟩
  have hname' : i'.DeclaresName c.name := ⟨c', h', heq.symm⟩
  rw [mem_duplicates_iff, declarers, List.filter_cons_of_pos (by simpa using hname),
    List.filter_cons_of_pos (by simpa using hname')]
  simp

/-! ## Classes with nothing but a name -/

/-- The units of the name of the class at the root of every hierarchy. -/
def objectName : List UInt16 :=
  "java/lang/Object".toList.map fun c => .ofNat c.toNat

/-- A public class without members, by the units of its name. -/
def namedLayout (us : List UInt16) (h : (Text.ModifiedUtf8.bytes us).length < 0x10000) :
    Layout where
  minor := 0
  major := 52
  pool := .ofConstants [.text (Text.ModifiedUtf8.bytes us) h, .classRef 1,
    .text (Text.ModifiedUtf8.bytes objectName) (by decide), .classRef 3]
      (by simp [slotCount, Constant.width, Constant.isWide])
  access := 0x21
  thisClass := ⟨2, _, 1, ⟨[_], [_, _], rfl, rfl⟩, _, h, ⟨[], [_, _, _], rfl, rfl⟩, rfl⟩
  superClass :=
    some ⟨4, _, 3, ⟨[_, _, _], [], rfl, rfl⟩, _, by decide, ⟨[_, _], [_], rfl, rfl⟩, rfl⟩
  interfaces := .ofList [] (by simp)
  fields := .ofList [] (by simp)
  methods := .ofList [] (by simp)
  attributes := .ofList [] (by simp)

lemma declares_of_bytes_eq {hlt : (Text.ModifiedUtf8.bytes us).length < 0x10000}
    (hbytes : i.bytes = (namedLayout us hlt).bytes) :
    i.Declares ((namedLayout us hlt).toClass i.origin) := by
  refine ⟨ClassInput.read_eq_ok_iff.2 ⟨_, [], by rw [hbytes, List.append_nil], rfl⟩, ?_⟩
  change ¬ AccessFlag.module.isSet 0x21
  decide

lemma isNamed_of_bytes_eq {hlt : (Text.ModifiedUtf8.bytes us).length < 0x10000}
    (hbytes : i.bytes = (namedLayout us hlt).bytes) : i.IsNamed us :=
  ⟨namedLayout us hlt, [], by rw [hbytes, List.append_nil], 1, hlt, ⟨[_], [_, _], rfl, rfl⟩,
    ⟨[], [_, _, _], rfl, rfl⟩⟩

/-- The units of a name with an accent. -/
def cafe : List UInt16 := [0x61, 0x2F, 0x63, 0x61, 0x66, 0xE9]

/-- The units of a name in ideographs. -/
def kissaten : List UInt16 := [0x61, 0x2F, 0x55AB, 0x8336, 0x5E97]

/-- The units of a letter of the Deseret alphabet, which is beyond the basic plane. -/
def longI : List UInt16 := [0xD801, 0xDC00]

/-- The units of the letter after it. -/
def longE : List UInt16 := [0xD801, 0xDC01]

/-- A class whose name is a letter of the Deseret alphabet, by the last byte of the name. -/
def deseret (origin : String) (last : UInt8) : ClassInput where
  origin := origin
  bytes :=
    [0xCA, 0xFE, 0xBA, 0xBE, 0, 0, 0, 52, 0, 5, 1, 0, 6, 0xED, 0xA0, 0x81, 0xED, 0xB0, last, 7, 0,
      1, 1, 0, 16, 0x6A, 0x61, 0x76, 0x61, 0x2F, 0x6C, 0x61, 0x6E, 0x67, 0x2F, 0x4F, 0x62,
      0x6A, 0x65, 0x63, 0x74, 7, 0, 3, 0, 0x21, 0, 2, 0, 4, 0, 0, 0, 0, 0, 0, 0, 0]

/-! ## Which classes are kept apart -/

/-- **Different classes are kept apart if their names are shown differently.**  Of two inputs
that declare classes with binary names, both are kept, under different names and without a
report, just if the units of the names are shown as different texts, and otherwise one is
reported as a duplicate.  Names without zeros and surrogates are shown differently as soon as
they are different. -/
theorem keepsApart_iff (h : i.Declares c) (h' : i'.Declares c') (hn : i.IsNamed us)
    (hn' : i'.IsNamed us') (hbinary : IsBinaryName us) (hbinary' : IsBinaryName us') :
    ((ofInputs [i, i']).KeepsApart c c' ↔ shown us ≠ shown us') ∧
    (shown us = shown us' → c.name ∈ (ofInputs [i, i']).duplicates.map (·.name)) ∧
    (IsReadable us → IsReadable us' → us ≠ us' → (ofInputs [i, i']).KeepsApart c c') := by
  have hnames : c.name = c'.name ↔ shown us = shown us' := by
    rw [name_eq_of_isNamed h hn, name_eq_of_isNamed h' hn',
      dotted_inj hbinary.dot_notMem hbinary'.dot_notMem]
  have hiff : (ofInputs [i, i']).KeepsApart c c' ↔ shown us ≠ shown us' := by
    rw [Ne, ← hnames]
    exact ⟨fun hb => hb.name_ne, keepsApart_of_name_ne h h'⟩
  refine ⟨hiff, fun heq => mem_duplicates_of_name_eq h h' (hnames.2 heq),
    fun hus hus' hne => hiff.2 ?_⟩
  rwa [Ne, shown_inj hus hus']

/-- Two names beyond the letters of English. -/
theorem keepsApart_cafe_kissaten :
    IsBinaryName cafe ∧ IsBinaryName kissaten ∧
    ∃ i i' c c', i.Declares c ∧ i'.Declares c' ∧ i.IsNamed cafe ∧ i'.IsNamed kissaten ∧
      (ofInputs [i, i']).KeepsApart c c' := by
  let i : ClassInput := ⟨"A.class", (namedLayout cafe (by decide)).bytes⟩
  let i' : ClassInput := ⟨"B.class", (namedLayout kissaten (by decide)).bytes⟩
  have h := declares_of_bytes_eq (i := i) rfl
  have h' := declares_of_bytes_eq (i := i') rfl
  have hn : i.IsNamed cafe := isNamed_of_bytes_eq rfl
  have hn' : i'.IsNamed kissaten := isNamed_of_bytes_eq rfl
  have hbinary : IsBinaryName cafe ∧ IsBinaryName kissaten := by decide
  have hreadable : IsReadable cafe ∧ IsReadable kissaten := by decide
  have hkeeps := (keepsApart_iff h h' hn hn' hbinary.1 hbinary.2).2.2 hreadable.1 hreadable.2
    (by decide)
  exact ⟨hbinary.1, hbinary.2, i, i', _, _, h, h', hn, hn', hkeeps⟩

/-- Two classes of different names, each one letter, are taken for one. -/
theorem merged_deseret :
    IsBinaryName longI ∧ IsBinaryName longE ∧ longI ≠ longE ∧
    (deseret "A.class" 0x80).IsNamed longI ∧ (deseret "B.class" 0x81).IsNamed longE ∧
    ∃ c c', (deseret "A.class" 0x80).Declares c ∧ (deseret "B.class" 0x81).Declares c' ∧
      ¬ (ofInputs [deseret "A.class" 0x80, deseret "B.class" 0x81]).KeepsApart c c' ∧
      c.name ∈
        (ofInputs [deseret "A.class" 0x80, deseret "B.class" 0x81]).duplicates.map (·.name) := by
  have hi : (deseret "A.class" 0x80).bytes = (namedLayout longI (by decide)).bytes := by rfl
  have he : (deseret "B.class" 0x81).bytes = (namedLayout longE (by decide)).bytes := by rfl
  have h := declares_of_bytes_eq hi
  have h' := declares_of_bytes_eq he
  have hn := isNamed_of_bytes_eq hi
  have hn' := isNamed_of_bytes_eq he
  have hshown : shown longI = shown longE := by decide
  have hname := (name_eq_of_isNamed h hn).trans
    ((congrArg dotted hshown).trans (name_eq_of_isNamed h' hn').symm)
  exact ⟨by decide, by decide, by decide, hn, hn', _, _, h, h', fun hb => hb.name_ne hname,
    mem_duplicates_of_name_eq h h' hname⟩

end Batch

end PluginFacts
