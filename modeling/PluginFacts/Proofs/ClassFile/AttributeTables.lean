/-
# Attributes do not affect one another

What an attribute says about a class depends on its name, and what a class file says is put together
from what its attributes say under each name (`ClassAttribute.statements`).  So attributes with
different names can stand in any order, and an attribute under a name of no interest may be put
anywhere, whatever its body is. This is as true of files that are refused as of those that are read
(`ClassInput.toOption_read_eq_of_attributes`).
-/
import Mathlib.Data.List.Flatten
import PluginFacts.Proofs.ClassFile.Acceptance
import PluginFacts.Proofs.ClassFile.Skeleton

namespace PluginFacts.ClassFile

/-! ## Lists of which every element gives something -/

section MapM

variable {α β γ : Type} {f : α → Option β} {g : β → List γ}

/-- What comes of the elements of a list, if something comes of each. -/
lemma map_flatMap_mapM (f : α → Option β) (g : β → List γ) (l : List α) :
    (l.mapM f).map (·.flatMap g) =
      if ∀ a ∈ l, (f a).isSome then some (l.flatMap fun a => (f a).toList.flatMap g) else none := by
  induction l with
  | nil => rfl
  | cons a l ih =>
    cases ha : f a with
    | none => simp [List.mapM_cons, ha]
    | some b =>
      have hcons : ((a :: l).mapM f).map (·.flatMap g) =
          ((l.mapM f).map (·.flatMap g)).map (g b ++ ·) := by
        rw [List.mapM_cons, ha]
        cases l.mapM f <;> rfl
      rw [hcons, ih]
      split_ifs <;> simp_all

/-- Elements can be moved past those of which nothing comes. -/
lemma flatMap_eq_of_perm {g : α → List γ} {l l' : List α} (hp : l.Perm l')
    (hl : l.Pairwise fun a b => g a = [] ∨ g b = []) : l.flatMap g = l'.flatMap g := by
  induction hp with
  | nil => rfl
  | cons a _ ih => rw [List.flatMap_cons, List.flatMap_cons, ih hl.of_cons]
  | swap a b l =>
    rcases (List.pairwise_cons.1 hl).1 a List.mem_cons_self with hb | ha
    · simp [hb]
    · simp [ha]
  | trans hp _ ih ih' =>
    exact (ih hl).trans (ih' ((hp.pairwise_iff fun h => h.symm).1 hl))

lemma map_flatMap_mapM_of_perm {l l' : List α} (hp : l.Perm l')
    (hl : l.Pairwise fun a b => (f a).toList.flatMap g = [] ∨ (f b).toList.flatMap g = []) :
    (l.mapM f).map (·.flatMap g) = (l'.mapM f).map (·.flatMap g) := by
  rw [map_flatMap_mapM, map_flatMap_mapM, flatMap_eq_of_perm hp hl]
  simp only [hp.mem_iff]

/-- An element of which nothing comes makes no difference. -/
lemma map_flatMap_mapM_insert {a : α} {b : β} (ha : f a = some b) (hb : g b = [])
    (before after : List α) :
    ((before ++ a :: after).mapM f).map (·.flatMap g) =
      ((before ++ after).mapM f).map (·.flatMap g) := by
  rw [map_flatMap_mapM, map_flatMap_mapM]
  simp [ha, hb, or_imp, forall_and]

end MapM

/-! ## What attributes say -/

namespace ClassAttribute

/-- What an attribute says if it is one under the given name. -/
def statements (name : String) : ClassAttribute → List String
  | innerClasses outer => if name = "InnerClasses" then outer else []
  | enclosingMethod outer => if name = "EnclosingMethod" then [outer] else []
  | nestHost host => if name = "NestHost" then [host] else []
  | synthetic => if name = "Synthetic" then [""] else []
  | other => []

lemma enclosing?_eq (l : List ClassAttribute) :
    enclosing? l = ((l.flatMap (statements "InnerClasses")).getLast? <|>
      (l.flatMap (statements "EnclosingMethod")).getLast? <|>
        (l.flatMap (statements "NestHost")).getLast?) := by
  have hinner : innerOuters = statements "InnerClasses" := by
    funext x
    cases x <;> rfl
  have hmethod : (fun x => (enclosingMethod? x).toList) = statements "EnclosingMethod" := by
    funext x
    cases x <;> rfl
  have hhost : (fun x => (nestHost? x).toList) = statements "NestHost" := by
    funext x
    cases x <;> rfl
  rw [enclosing?, hinner, List.filterMap_eq_flatMap_toList, hmethod,
    List.filterMap_eq_flatMap_toList, hhost]

lemma contains_synthetic_eq (l : List ClassAttribute) :
    l.contains synthetic = !(l.flatMap (statements "Synthetic")).isEmpty := by
  have hnone (x : ClassAttribute) : statements "Synthetic" x = [] ↔ x ≠ synthetic := by
    cases x <;> simp [statements]
  rw [Bool.eq_iff_iff, List.contains_iff_mem, Bool.not_eq_true', ← Bool.not_eq_true,
    List.isEmpty_iff, List.flatMap_eq_nil_iff]
  simp only [hnone]
  grind

/-- What a class file says depends on what its attributes say under each name. -/
lemma toClass_eq_of_statements_eq {l l' : List ClassAttribute}
    (h : ∀ name, l.flatMap (statements name) = l'.flatMap (statements name)) (f : ClassFile)
    (origin : String) :
    { f with attributes := l }.toClass origin = { f with attributes := l' }.toClass origin := by
  have henclosing : enclosing? l = enclosing? l' := by
    rw [enclosing?_eq, enclosing?_eq, h, h, h]
  have hsynthetic : l.contains synthetic = l'.contains synthetic := by
    rw [contains_synthetic_eq, contains_synthetic_eq, h]
  simp only [ClassFile.toClass, henclosing, hsynthetic]

end ClassAttribute

/-- The names of the attributes of a class that matter. -/
def classAttributeNames : List String :=
  nestingNames ++ ["Synthetic"]

/-- What stands in an attribute is about its name. -/
lemma ClassContent.eq_of_statements_ne_nil {cs : List Constant} {self name k : String}
    (x : ClassContent cs self name) (h : x.meaning.statements k ≠ []) : name = k := by
  cases x with
  | innerClasses hname table rest => simp_all [meaning, ClassAttribute.statements]
  | enclosingMethod hname outer rest => simp_all [meaning, ClassAttribute.statements]
  | nestHost hname host rest => simp_all [meaning, ClassAttribute.statements]
  | other hname body =>
    rw [meaning] at h
    split at h <;> simp_all [ClassAttribute.statements]

/-! ## Attributes and their names -/

namespace RawAttribute

variable {α : Type} {p : Pool} {cs : List Constant} {a : RawAttribute} {name : String}

/-- The attribute has a name. -/
def IsNamed (cs : List Constant) (a : RawAttribute) (name : String) : Prop :=
  TextAt cs a.name.toNat name

lemma isNamed_iff (hp : p.IsOf cs) (ha : p.text a.name.toNat = .ok name) (name' : String) :
    a.IsNamed cs name' ↔ name' = name := by
  rw [IsNamed, ← hp.text_eq_ok_iff, ha, Except.ok.injEq, eq_comm]

lemma read?_eq_some_iff (hp : p.IsOf cs) {interpret : String → List UInt8 → Except Fault α}
    {y : α} :
    a.read? p interpret = some y ↔ ∃ name, a.IsNamed cs name ∧ interpret name a.body = .ok y := by
  have hok {β : Type} (e : Except Fault β) (b : β) : e.toOption = some b ↔ e = .ok b := by
    cases e <;> simp [Except.toOption]
  simp only [read?, Option.bind_eq_bind, Option.bind_eq_some_iff, hok, hp.text_eq_ok_iff, IsNamed]

/-- What an attribute of a class says is about its name. -/
lemma isNamed_of_statements_ne_nil (hp : p.IsOf cs) {self k : String} {x : ClassAttribute}
    (ha : a.read? p (ClassAttribute.interpret p self) = some x) (hx : x.statements k ≠ []) :
    a.IsNamed cs k := by
  obtain ⟨name, hname, hbody⟩ := (read?_eq_some_iff hp).1 ha
  obtain ⟨content, -, rfl⟩ := (hp.interpret_eq_ok_iff self name _ _).1 hbody
  exact content.eq_of_statements_ne_nil hx ▸ hname

/-- An attribute of a class under a name of no interest says nothing, whatever its body is. -/
lemma read?_eq_other (hp : p.IsOf cs) (ha : a.IsNamed cs name) (hname : name ∉ classAttributeNames)
    (self : String) : a.read? p (ClassAttribute.interpret p self) = some .other := by
  simp only [classAttributeNames, List.mem_append, List.mem_singleton, not_or] at hname
  exact (read?_eq_some_iff hp).2 ⟨name, ha, (hp.interpret_eq_ok_iff _ _ _ _).2
    ⟨.other hname.1 a.body, rfl, (if_neg hname.2).symm⟩⟩

/-- An attribute of a member under a name of no interest lists nothing, whatever its body is. -/
lemma read?_eq_nil (hp : p.IsOf cs) (ha : a.IsNamed cs name) (hname : name ∉ annotationNames)
    (member : String) : a.read? p (memberAnnotations p member) = some [] :=
  (read?_eq_some_iff hp).2 ⟨name, ha, (hp.memberAnnotations_eq_ok_iff _ _ _ _).2
    ⟨.other hname a.body, rfl, rfl⟩⟩

end RawAttribute

/-! ## Tables with an entry more, or with another entry -/

namespace Table

variable {α : Type}

/-- The second table has one more entry somewhere. -/
def Inserts (a : α) (t t' : Table α) : Prop :=
  ∃ before after, t.entries = before ++ after ∧ t'.entries = before ++ a :: after

/-- The second table has another entry in place of one of the first. -/
def Replaces (a a' : α) (t t' : Table α) : Prop :=
  ∃ before after, t.entries = before ++ a :: after ∧ t'.entries = before ++ a' :: after

lemma Replaces.mapM_eq {β : Type} {f : α → Option β} {a a' : α} {t t' : Table α}
    (h : t.Replaces a a' t') (hf : f a' = f a) : t'.entries.mapM f = t.entries.mapM f := by
  obtain ⟨before, after, ht, ht'⟩ := h
  rw [ht, ht', List.mapM_append, List.mapM_append, List.mapM_cons, List.mapM_cons, hf]

end Table

lemma RawMember.read?_of_inserts {p : Pool} {cs : List Constant} (hp : p.IsOf cs) {m : RawMember}
    {a : RawAttribute} {name : String} {t : Table RawAttribute} (ha : a.IsNamed cs name)
    (hname : name ∉ annotationNames) (ht : m.attributes.Inserts a t) (kind : MemberKind) :
    { m with attributes := t }.read? p kind = m.read? p kind := by
  obtain ⟨before, after, hm, ht⟩ := ht
  refine Option.bind_congr fun member _ => Option.bind_congr fun descriptor _ => ?_
  let result (l : List String) : Member :=
    { name := member, kind, descriptor, access := m.access, annotations := l }
  have hlist := map_flatMap_mapM_insert (g := id) (RawAttribute.read?_eq_nil hp ha hname member) rfl
    before after
  have hresult (x? : Option (List (List String))) :
      (x?.bind fun x => some (result x.flatten)) = (x?.map (·.flatMap id)).map result := by
    cases x? with
    | none => rfl
    | some x => exact congrArg (some ∘ result) List.flatMap_id.symm
  rw [← ht, ← hm] at hlist
  exact (hresult _).trans ((congrArg (Option.map result) hlist).trans (hresult _).symm)

namespace Skeleton

/-- The attributes of the class have different names, as far as they have names. -/
def HasDistinctAttributes (s : Skeleton) : Prop :=
  s.attributes.entries.Pairwise fun a b =>
    ∀ name, a.IsNamed s.pool.constants name → ¬ b.IsNamed s.pool.constants name

/-- The second file has one more attribute, under a name of no interest and with any body, somewhere
among those of the class or of one of its members. -/
inductive Extends (s : Skeleton) : Skeleton → Prop
  /-- Among the attributes of the class. -/
  | ofClass {a : RawAttribute} {name : String} {attributes : Table RawAttribute}
    (ha : a.IsNamed s.pool.constants name) (hname : name ∉ classAttributeNames)
    (h : s.attributes.Inserts a attributes) : Extends s { s with attributes }
  /-- Among the attributes of a field. -/
  | ofField {a : RawAttribute} {name : String} {attributes : Table RawAttribute} {m : RawMember}
    {fields : Table RawMember} (ha : a.IsNamed s.pool.constants name)
    (hname : name ∉ annotationNames) (h : m.attributes.Inserts a attributes)
    (hm : s.fields.Replaces m { m with attributes } fields) :
    Extends s { s with fields }
  /-- Among the attributes of a method. -/
  | ofMethod {a : RawAttribute} {name : String} {attributes : Table RawAttribute} {m : RawMember}
    {methods : Table RawMember} (ha : a.IsNamed s.pool.constants name)
    (hname : name ∉ annotationNames) (h : m.attributes.Inserts a attributes)
    (hm : s.methods.Replaces m { m with attributes } methods) :
    Extends s { s with methods }

variable {s : Skeleton} {t : Table RawAttribute}

/-- Of the attributes of a class it matters what they say under each name, or that one
cannot be read. -/
lemma toClass?_eq_of_statements_eq
    (h : ∀ self k, (s.classAttributes? self).map (·.flatMap (ClassAttribute.statements k)) =
      (classAttributes? { s with attributes := t } self).map
        (·.flatMap (ClassAttribute.statements k))) (origin : String) :
    s.toClass? origin = toClass? { s with attributes := t } origin := by
  simp only [toClass?, classFile?, Option.bind_eq_bind, Option.map_bind, Function.comp_def]
  refine Option.bind_congr fun self _ => Option.bind_congr fun superclass _ =>
    Option.bind_congr fun interfaces _ => Option.bind_congr fun fields _ =>
      Option.bind_congr fun methods _ => ?_
  specialize h self
  cases hl : s.classAttributes? self with
  | none =>
    rw [hl] at h
    rw [Option.map_eq_none_iff.1 (h "").symm]
  | some l =>
    rw [hl] at h
    obtain ⟨l', hl', -⟩ := Option.map_eq_some_iff.1 (h "").symm
    rw [hl'] at h ⊢
    refine congrArg some (ClassAttribute.toClass_eq_of_statements_eq ?_
      { version := s.major.toNat, access := s.access, name := self, superclass, interfaces
        members := fields ++ methods, attributes := [] } origin)
    exact fun k => Option.some.inj (h k)

/-- Attributes with different names can stand in any order. -/
lemma toClass?_eq_of_perm (hs : s.HasDistinctAttributes) (ht : s.attributes.entries.Perm t.entries)
    (origin : String) : s.toClass? origin = toClass? { s with attributes := t } origin := by
  refine toClass?_eq_of_statements_eq (fun self k => map_flatMap_mapM_of_perm ht ?_) origin
  refine List.Pairwise.imp ?_ hs
  intro a b hab
  -- at most one of the two attributes has the name `k`
  have hnamed {a : RawAttribute} (ha : ¬ a.IsNamed s.pool.constants k) :
      (a.read? s.pool.pool (ClassAttribute.interpret s.pool.pool self)).toList.flatMap
        (ClassAttribute.statements k) = [] := by
    cases hread : a.read? s.pool.pool (ClassAttribute.interpret s.pool.pool self) with
    | none => rfl
    | some x =>
      rw [Option.toList_some, List.flatMap_singleton]
      by_contra hx
      exact ha (RawAttribute.isNamed_of_statements_ne_nil s.pool.isOf_pool hread hx)
  by_cases ha : a.IsNamed s.pool.constants k
  · exact .inr (hnamed (hab k ha))
  · exact .inl (hnamed ha)

/-- Attributes under names of no interest make no difference. -/
lemma Extends.toClass?_eq {s' : Skeleton} (h : s.Extends s') (origin : String) :
    s.toClass? origin = s'.toClass? origin := by
  cases h with
  | ofClass ha hname h =>
    obtain ⟨before, after, hs, ht⟩ := h
    refine toClass?_eq_of_statements_eq (fun self k => ?_) origin
    rw [classAttributes?, classAttributes?, hs, ht]
    exact (map_flatMap_mapM_insert (RawAttribute.read?_eq_other s.pool.isOf_pool ha hname self) rfl
      before after).symm
  | ofField ha hname h hm =>
    have hfields := hm.mapM_eq (RawMember.read?_of_inserts s.pool.isOf_pool ha hname h .field)
    simp only [toClass?, classFile?, classAttributes?, hfields]
  | ofMethod ha hname h hm =>
    have hmethods := hm.mapM_eq (RawMember.read?_of_inserts s.pool.isOf_pool ha hname h .method)
    simp only [toClass?, classFile?, classAttributes?, hmethods]

end Skeleton

/-! ## A class with an attribute of no interest -/

/-- The attribute that makes a class its own nest host. -/
def hostAttribute : RawAttribute :=
  ⟨3, [0, 2], by decide⟩

/-- An attribute that has the name of the class for its own. -/
def strangeAttribute : RawAttribute :=
  ⟨1, [0xFF], by decide⟩

lemma slotCount_hostConstants_lt : slotCount hostConstants < 0x10000 := by
  decide

/-- A class with a field and both attributes. -/
def strangeSkeleton : Skeleton where
  minor := 0
  major := 52
  pool := .ofConstants hostConstants slotCount_hostConstants_lt
  access := 0x21
  thisClass := 2
  superClass := 0
  interfaces := .ofList [] (by decide)
  fields := .ofList [⟨0, 1, 1, .ofList [] (by decide)⟩] (by decide)
  methods := .ofList [] (by decide)
  attributes := .ofList [hostAttribute, strangeAttribute] (by decide)

/-- The attributes of the class the other way round. -/
def swappedAttributes : Table RawAttribute :=
  .ofList [strangeAttribute, hostAttribute] (by decide)

/-- The field with the attribute of no interest. -/
def strangeFields : Table RawMember :=
  .ofList [⟨0, 1, 1, .ofList [strangeAttribute] (by decide)⟩] (by decide)

lemma decodeLossy_strange : Text.Utf8.decodeLossy [0x41] = "A" := by
  simp [Text.Utf8.decodeLossy, Text.Utf8.units, Text.Utf8.units.go, Text.Utf8.unit, Text.Utf8.lead?,
    Text.Utf8.continued]

lemma isNamed_hostAttribute_iff (name : String) :
    hostAttribute.IsNamed hostConstants name ↔ name = "NestHost" := by
  refine RawAttribute.isNamed_iff strangeSkeleton.pool.isOf_pool ?_ name
  exact congrArg Except.ok decodeLossy_nestHostBytes

lemma isNamed_strangeAttribute_iff (name : String) :
    strangeAttribute.IsNamed hostConstants name ↔ name = "A" := by
  refine RawAttribute.isNamed_iff strangeSkeleton.pool.isOf_pool ?_ name
  exact congrArg Except.ok decodeLossy_strange

lemma hasDistinctAttributes_strangeSkeleton : strangeSkeleton.HasDistinctAttributes := by
  rw [Skeleton.HasDistinctAttributes, strangeSkeleton, Table.entries_ofList, List.pairwise_pair]
  intro name hhost hstrange
  have hname := (isNamed_hostAttribute_iff name).1 hhost
  have hname' := (isNamed_strangeAttribute_iff name).1 hstrange
  exact absurd (hname.symm.trans hname') (by decide)

lemma extends_strangeSkeleton :
    strangeSkeleton.Extends { strangeSkeleton with fields := strangeFields } :=
  .ofField ((isNamed_strangeAttribute_iff "A").2 rfl) (by decide)
    ⟨[], [], Table.entries_ofList _ _, Table.entries_ofList _ _⟩
    ⟨[], [], Table.entries_ofList _ _, Table.entries_ofList _ _⟩

end PluginFacts.ClassFile

namespace PluginFacts.ClassInput

open ClassFile

/-- **Attributes do not affect one another.**  Every input that is read can be divided up, and of an
input that can be divided up it makes no difference in which order the attributes of the class
stand, if their names are different, nor whether there is one more attribute under a name of no
interest.  Without and with the change, the input is read as the same class, or it is refused. -/
theorem toOption_read_eq_of_attributes :
    (∀ (i : ClassInput) (c : Class), i.read = .ok c →
      ∃ (s : Skeleton) (rest : List UInt8), i.bytes = s.bytes ++ rest) ∧
    ∀ (s : Skeleton) (origin : String) (rest rest' : List UInt8),
      (∀ t : Table RawAttribute, s.HasDistinctAttributes → s.attributes.entries.Perm t.entries →
        (ClassInput.read ⟨origin, s.bytes ++ rest⟩).toOption =
          (ClassInput.read ⟨origin, Skeleton.bytes { s with attributes := t } ++ rest'⟩).toOption) ∧
      ∀ s' : Skeleton, s.Extends s' →
        (ClassInput.read ⟨origin, s.bytes ++ rest⟩).toOption =
          (ClassInput.read ⟨origin, s'.bytes ++ rest'⟩).toOption := by
  refine ⟨fun i c => exists_skeleton_of_read, fun s origin rest rest' => ⟨?_, ?_⟩⟩
  · intro t hs ht
    rw [toOption_read, toOption_read]
    exact Skeleton.toClass?_eq_of_perm hs ht origin
  · intro s' h
    rw [toOption_read, toOption_read]
    exact h.toClass?_eq origin

/-- The attributes of one class swapped, and the attribute of no interest put into its
field as well. -/
theorem toOption_read_strangeSkeleton :
    (∃ (s : Skeleton) (rest : List UInt8),
        (hostLayout [] (by decide)).bytes ++ [] = s.bytes ++ rest) ∧
    (ClassInput.read ⟨"A.class", strangeSkeleton.bytes ++ []⟩).toOption =
      (ClassInput.read ⟨"A.class",
        Skeleton.bytes { strangeSkeleton with attributes := swappedAttributes } ++ []⟩).toOption ∧
    (ClassInput.read ⟨"A.class", strangeSkeleton.bytes ++ []⟩).toOption =
      (ClassInput.read ⟨"A.class",
        Skeleton.bytes { strangeSkeleton with fields := strangeFields } ++ []⟩).toOption :=
  have hperm : strangeSkeleton.attributes.entries.Perm swappedAttributes.entries := by
    rw [strangeSkeleton, swappedAttributes, Table.entries_ofList, Table.entries_ofList]
    exact .swap _ _ _
  have hread : ClassInput.read ⟨"A.class", (hostLayout [] (by decide)).bytes ++ []⟩ = .ok _ :=
    read_eq_ok_iff.2 ⟨_, _, rfl, rfl⟩
  ⟨toOption_read_eq_of_attributes.1 _ _ hread,
    (toOption_read_eq_of_attributes.2 strangeSkeleton "A.class" [] []).1 swappedAttributes
      hasDistinctAttributes_strangeSkeleton hperm,
    (toOption_read_eq_of_attributes.2 strangeSkeleton "A.class" [] []).2 _ extends_strangeSkeleton⟩

end PluginFacts.ClassInput
