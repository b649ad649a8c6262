/-
# Hierarchies linked as their classes say

What the nodes and supertypes of a hierarchy mean, in terms of the names that its classes declare.
`IsLinked` collects all that the searches in a hierarchy rely on: the nodes come in order of names,
the supertypes of a node are the types that its class names, and a supertype is the node of its name
if there is one.  Every hierarchy that is made of classes is linked that way (`isLinked_link`), and
it is made of the classes that count (`classes_link`).
-/
import Mathlib.Data.List.Basic
import Mathlib.Data.Set.Operations
import PluginFacts.Hierarchy.Basic
import PluginFacts.Proofs.Class.Survivors
import PluginFacts.Proofs.Hierarchy.Ways

namespace PluginFacts.Hierarchy

/-- The classes of the nodes. -/
def classes (h : Hierarchy) : List Class :=
  h.nodes.toList.map (·.declared)

/-- The hierarchy is linked as its classes say. -/
structure IsLinked (h : Hierarchy) : Prop where
  /-- The nodes come in order of names, each name once. -/
  sorted : h.classes.Pairwise fun a b => a.name < b.name
  /-- The supertypes of a node are the types that its class names. -/
  names_iff : ∀ {id : ℕ} {c : Class}, h.classes[id]? = some c →
    ∀ a, c.Names a ↔ ∃ t ∈ h.supertypes id, h.typeName t = a
  /-- A supertype is the node of its name, if there is one. -/
  id?_eq_some_iff : ∀ {id : ℕ} {t : TypeRef}, t ∈ h.supertypes id →
    ∀ j, t.id? = some j ↔ ∃ d, h.classes[j]? = some d ∧ d.name = h.typeName t

variable {h : Hierarchy} {id i j : ℕ} {c : Class}

@[simp] lemma length_classes (h : Hierarchy) : h.classes.length = h.size := by
  simp [classes, size]

lemma classes_getElem? (h : Hierarchy) (id : ℕ) :
    h.classes[id]? = (h.nodes[id]?).map (·.declared) := by
  simp [classes]

lemma lt_size_of_classes (hc : h.classes[id]? = some c) : id < h.size := by
  rw [← length_classes]
  exact (List.getElem?_eq_some_iff.1 hc).1

lemma exists_class_of_lt (hid : id < h.size) : ∃ c, h.classes[id]? = some c := by
  rw [← length_classes] at hid
  exact ⟨h.classes[id], List.getElem?_eq_getElem hid⟩

lemma name_of_classes (hc : h.classes[id]? = some c) : h.name id = c.name := by
  rw [classes_getElem?, Option.map_eq_some_iff] at hc
  obtain ⟨n, hn, rfl⟩ := hc
  simp [name, hn]

lemma exists_classes_of_mem (hc : c ∈ h.classes) : ∃ id : ℕ, h.classes[id]? = some c :=
  List.mem_iff_getElem?.1 hc

lemma supertypes_of_size_le (hid : h.size ≤ id) : h.supertypes id = [] := by
  have hnone : h.nodes[id]? = none := by simpa [size] using hid
  simp [supertypes, hnone]

namespace IsLinked

variable (hl : h.IsLinked)

include hl

/-- Nodes with the same name are the same. -/
lemma name_inj (hi : i < h.size) (hj : j < h.size) (hij : h.name i = h.name j) : i = j := by
  obtain ⟨c, hc⟩ := exists_class_of_lt hi
  obtain ⟨d, hd⟩ := exists_class_of_lt hj
  rw [name_of_classes hc, name_of_classes hd] at hij
  obtain ⟨hi', rfl⟩ := List.getElem?_eq_some_iff.1 hc
  obtain ⟨hj', rfl⟩ := List.getElem?_eq_some_iff.1 hd
  rcases lt_trichotomy i j with hlt | heq | hgt
  · exact absurd hij (ne_of_lt (List.pairwise_iff_getElem.1 hl.sorted i j hi' hj' hlt))
  · exact heq
  · exact absurd hij (ne_of_gt (List.pairwise_iff_getElem.1 hl.sorted j i hj' hi' hgt))

/-- The class of a name is the class of the node with that name. -/
lemma eq_of_mem_of_name (hc : h.classes[id]? = some c) {d : Class} (hd : d ∈ h.classes)
    (hname : d.name = c.name) : d = c := by
  obtain ⟨j, hj⟩ := exists_classes_of_mem hd
  have hij : j = id := by
    refine hl.name_inj (lt_size_of_classes hj) (lt_size_of_classes hc) ?_
    rw [name_of_classes hj, name_of_classes hc, hname]
  rw [hij, hc] at hj
  exact (Option.some.inj hj).symm

/-- No two classes have the same name. -/
lemma injOn_name : Set.InjOn Class.name {d | d ∈ h.classes} := by
  intro d hd c hc hname
  obtain ⟨id, hid⟩ := exists_classes_of_mem hc
  exact hl.eq_of_mem_of_name hid hd hname

/-- The links from the name of a node are its supertypes. -/
lemma link_iff (hid : id < h.size) (a : String) :
    Link {d | d ∈ h.classes} (h.name id) a ↔ ∃ t ∈ h.supertypes id, h.typeName t = a := by
  obtain ⟨c, hc⟩ := exists_class_of_lt hid
  rw [← hl.names_iff hc, name_of_classes hc]
  constructor
  · rintro ⟨d, hd, hname, ha⟩
    rwa [← hl.eq_of_mem_of_name hc hd hname]
  · intro ha
    exact ⟨c, List.mem_of_getElem? hc, rfl, ha⟩

/-- The superclasses of a node are the nodes that its class inherits from. -/
lemma mem_superclasses_iff :
    j ∈ h.superclasses i ↔
      i < h.size ∧ j < h.size ∧ Inherits {d | d ∈ h.classes} (h.name i) (h.name j) := by
  rw [superclasses, List.mem_filterMap]
  constructor
  · rintro ⟨t, ht, hj⟩
    have hi : i < h.size := by
      by_contra hge
      rw [supertypes_of_size_le (Nat.not_lt.1 hge)] at ht
      exact List.not_mem_nil ht
    obtain ⟨d, hd, hname⟩ := (hl.id?_eq_some_iff ht j).1 hj
    rw [← name_of_classes hd] at hname
    refine ⟨hi, lt_size_of_classes hd, (hl.link_iff hi _).2 ⟨t, ht, hname.symm⟩, d, ?_, ?_⟩
    · exact List.mem_of_getElem? hd
    · rw [name_of_classes hd]
  · rintro ⟨hi, hj, hlink, -⟩
    obtain ⟨t, ht, hname⟩ := (hl.link_iff hi _).1 hlink
    obtain ⟨d, hd⟩ := exists_class_of_lt hj
    refine ⟨t, ht, (hl.id?_eq_some_iff ht j).2 ⟨d, hd, ?_⟩⟩
    rw [hname, name_of_classes hd]

end IsLinked

/-! ## Linking -/

section Link

variable {cs : List Class} {r : Registry}

/-- The classes that are linked are those that count. -/
theorem distinct_eq (cs : List Class) : distinct cs = survivors cs := by
  rw [survivors_eq]
  refine eraseRepsBy_eq_firstOfEach Class.namesake_iff ?_
  exact (Class.isSortOrder_le.pairwise_sort cs).imp fun h => Class.name_le_of_le h

/-- The names of the nodes that classes are linked to. -/
lemma link_eq (cs : List Class) (r : Registry) :
    link cs r = ⟨((survivors cs).mapIdx fun id c =>
      node ((survivors cs).map (·.name)).toArray r c id).toArray⟩ := by
  rw [link, distinct_eq]

/-- The nodes are those of the classes that count. -/
lemma getElem?_nodes_link (id : ℕ) :
    (link cs r).nodes[id]? = (survivors cs)[id]?.map fun c =>
      node ((survivors cs).map (·.name)).toArray r c id := by
  rw [link_eq, List.getElem?_toArray, List.getElem?_mapIdx]

/-- A hierarchy is made of the classes that count. -/
theorem classes_link (cs : List Class) (r : Registry) : (link cs r).classes = survivors cs := by
  refine List.ext_getElem? ?_
  intro i
  rw [classes_getElem?, getElem?_nodes_link, Option.map_map]
  exact Option.map_id'

lemma supertypes_link (hc : (survivors cs)[id]? = some c) :
    (link cs r).supertypes id =
      (node ((survivors cs).map (·.name)).toArray r c id).supertypes := by
  rw [supertypes, getElem?_nodes_link, hc]
  rfl

/-- Where the names of classes increase, a name is found at the place of the class that has it. -/
lemma findIdx?_name_eq_some_iff {l : List Class} (hl : l.Pairwise fun a b => a.name < b.name)
    {a : String} :
    (l.findIdx? fun d => d.name == a) = some j ↔ ∃ d, l[j]? = some d ∧ d.name = a := by
  rw [List.findIdx?_eq_some_iff_getElem]
  constructor
  · rintro ⟨hj, hname, -⟩
    exact ⟨l[j], List.getElem?_eq_getElem hj, by simpa using hname⟩
  · rintro ⟨d, hd, rfl⟩
    obtain ⟨hj, rfl⟩ := List.getElem?_eq_some_iff.1 hd
    refine ⟨hj, by simp, ?_⟩
    -- names differ, so no earlier class has this one
    intro k hk
    have hlt := List.pairwise_iff_getElem.1 hl k j (by omega) hj hk
    simp [ne_of_lt hlt]

/-- A name is found among the names of the classes that count at the place of the class
that has it. -/
lemma findIdx?_names_eq_some_iff {a : String} :
    ((survivors cs).map (·.name)).toArray.findIdx? (· == a) = some j ↔
      ∃ d, (survivors cs)[j]? = some d ∧ d.name = a := by
  rw [← findIdx?_name_eq_some_iff (pairwise_survivors cs), List.findIdx?_toArray, List.findIdx?_map]
  rfl

/-- A name stands for the node of that name, if there is one. -/
lemma id?_resolve_eq_some_iff (a : String) :
    (resolve ((survivors cs).map (·.name)).toArray r a).id? = some j ↔
      ∃ d, (survivors cs)[j]? = some d ∧ d.name = a := by
  rw [← findIdx?_names_eq_some_iff, resolve]
  cases ((survivors cs).map (·.name)).toArray.findIdx? (· == a) <;> rfl

lemma typeName_resolve (a : String) :
    (link cs r).typeName (resolve ((survivors cs).map (·.name)).toArray r a) = a := by
  cases hres : resolve ((survivors cs).map (·.name)).toArray r a with
  | inSet j =>
    have hid : (resolve ((survivors cs).map (·.name)).toArray r a).id? = some j := by
      rw [hres]
      rfl
    obtain ⟨d, hd, hname⟩ := (id?_resolve_eq_some_iff a).1 hid
    rw [← classes_link cs r] at hd
    rw [typeName, name_of_classes hd, hname]
  | external b known =>
    rw [resolve] at hres
    split at hres
    · cases hres
    · cases hres
      rfl

/-- The supertypes of a node are what the names of its class stand for. -/
lemma mem_supertypes_node {names : Array String} {t : TypeRef} :
    t ∈ (node names r c id).supertypes ↔ ∃ a, c.Names a ∧ t = resolve names r a := by
  have hroot (a : String) : isRootClass a = false ↔ a ≠ objectClass ∧ a ≠ recordClass := by
    simp [isRootClass]
  simp only [Node.supertypes, node, List.mem_append, Option.mem_toList, Option.map_eq_some_iff,
    Option.filter_eq_some_iff, Bool.not_eq_true', hroot, List.mem_map, Class.Names]
  constructor
  · rintro (⟨a, ⟨ha, hne⟩, rfl⟩ | ⟨a, ha, rfl⟩)
    · exact ⟨a, Or.inl ⟨ha, hne⟩, rfl⟩
    · exact ⟨a, Or.inr ha, rfl⟩
  · rintro ⟨a, ⟨ha, hne⟩ | ha, rfl⟩
    · exact Or.inl ⟨a, ⟨ha, hne⟩, rfl⟩
    · exact Or.inr ⟨a, ha, rfl⟩

/-- A hierarchy of classes is linked as they say. -/
theorem isLinked_link (cs : List Class) (r : Registry) : (link cs r).IsLinked where
  sorted := by
    rw [classes_link]
    exact pairwise_survivors cs
  names_iff := by
    intro id c hc a
    rw [classes_link] at hc
    rw [supertypes_link hc]
    constructor
    · intro ha
      exact ⟨_, mem_supertypes_node.2 ⟨a, ha, rfl⟩, typeName_resolve a⟩
    · rintro ⟨t, ht, rfl⟩
      obtain ⟨a, ha, rfl⟩ := mem_supertypes_node.1 ht
      rwa [typeName_resolve]
  id?_eq_some_iff := by
    intro id t ht j
    have hid : id < (link cs r).size := by
      by_contra hge
      rw [supertypes_of_size_le (Nat.not_lt.1 hge)] at ht
      exact List.not_mem_nil ht
    obtain ⟨c, hc⟩ := exists_class_of_lt hid
    rw [classes_link] at hc
    rw [supertypes_link hc] at ht
    obtain ⟨a, -, rfl⟩ := mem_supertypes_node.1 ht
    rw [typeName_resolve, id?_resolve_eq_some_iff, classes_link]

end Link

end PluginFacts.Hierarchy
