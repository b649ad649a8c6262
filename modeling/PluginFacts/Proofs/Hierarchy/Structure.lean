/-
# What a hierarchy is made of

`IsMadeOf` says of a hierarchy, in terms of names, how it comes from a list of classes and a
registry of known types:

* its nodes are the classes of the list that count, one for each name, in order of names;
* what a node extends and implements *stands for* what its class names, `StandsFor`: the node of
  that name if there is one, and otherwise a type outside, which is known if it is listed;
* no number is stored that is not the number of a node, `Stores`;
* the types outside that are not known are listed once each, in order.

`isMadeOf_of_build` says so of every hierarchy that is built.
-/
import Mathlib.Data.List.Forall2
import PluginFacts.Proofs.Hierarchy.Enclosing

namespace PluginFacts.Hierarchy

/-- What a name stands for as a supertype. -/
inductive StandsFor (h : Hierarchy) (r : Registry) (a : String) : TypeRef → Prop where
  /-- The node of that name. -/
  | node {id : ℕ} {n : Node} (hn : h.nodes[id]? = some n) (hname : n.declared.name = a) :
      StandsFor h r a (.inSet id)
  /-- A type outside, where no node has that name. -/
  | outside {known : Bool} (hno : ∀ n ∈ h.nodes, n.declared.name ≠ a)
      (hknown : known = true ↔ a ∈ r.names) : StandsFor h r a (.external a known)

/-- The numbers by which a hierarchy refers to its nodes. -/
inductive Stores (h : Hierarchy) : ℕ → Prop where
  /-- The number of a supertype. -/
  | supertype {n : Node} {id : ℕ} (hn : n ∈ h.nodes) (hid : .inSet id ∈ n.supertypes) : Stores h id
  /-- The number of an enclosing node. -/
  | enclosing {n : Node} {id : ℕ} (hn : n ∈ h.nodes) (hid : n.enclosing = some id) : Stores h id
  /-- The number of a nested node. -/
  | nested {a id : ℕ} (hid : id ∈ h.nested a) : Stores h id
  /-- The number under which a name is found. -/
  | lookup {a : String} {id : ℕ} (hid : h.lookup a = some id) : Stores h id

/-- The hierarchy is made of the classes of a list that count, and links them as they say. -/
structure IsMadeOf (h : Hierarchy) (cs : List Class) (r : Registry) : Prop where
  /-- The nodes come in order of names, each name once. -/
  pairwise_name : (h.nodes.toList.map (·.declared.name)).Pairwise (· < ·)
  /-- The names are those of the classes. -/
  exists_node_iff : ∀ a, (∃ n ∈ h.nodes, n.declared.name = a) ↔ ∃ c ∈ cs, c.name = a
  /-- A node holds a class of the list: of those of its name the one with the least origin, and the
  first of several with this origin. -/
  survives : ∀ n ∈ h.nodes, Survives cs n.declared
  /-- A name is found where the node of that name stands. -/
  lookup_eq_some_iff : ∀ a id, h.lookup a = some id ↔
    ∃ n, h.nodes[id]? = some n ∧ n.declared.name = a
  /-- A node extends nothing where its class extends nothing or a root class. -/
  parent_eq_none_iff : ∀ n ∈ h.nodes, n.parent = none ↔ n.declared.superclass = none ∨
    n.declared.superclass = some objectClass ∨ n.declared.superclass = some recordClass
  /-- Otherwise it extends what the name of the superclass stands for. -/
  exists_parent : ∀ n ∈ h.nodes, ∀ a, n.declared.superclass = some a → a ≠ objectClass →
    a ≠ recordClass → ∃ t, n.parent = some t ∧ h.StandsFor r a t
  /-- It implements what the names of the interfaces stand for, one by one. -/
  interfaces_standFor : ∀ n ∈ h.nodes,
    List.Forall₂ (h.StandsFor r) n.declared.interfaces n.interfaces
  /-- All numbers of nodes are numbers of nodes. -/
  lt_size : ∀ id, h.Stores id → id < h.size
  /-- The types outside that are not known come in order of names, each name once. -/
  pairwise_unrecognized : h.unrecognized.Pairwise (· < ·)
  mem_unrecognized_iff : ∀ a, a ∈ h.unrecognized ↔
    ∃ n ∈ h.nodes, .external a false ∈ n.supertypes

variable {h : Hierarchy} {cs : List Class} {r : Registry} {a : String} {id : ℕ} {n : Node}
  {t : TypeRef}

/-! ## Names that are looked up -/

lemma lookup_eq_findIdx? (h : Hierarchy) (a : String) :
    h.lookup a = h.classes.findIdx? fun d => d.name == a := by
  rw [lookup, classes, List.findIdx?_map, ← List.findIdx?_toArray, Array.toArray_toList]
  rfl

lemma IsLinked.lookup_eq_some_iff (hl : h.IsLinked) :
    h.lookup a = some id ↔ ∃ n, h.nodes[id]? = some n ∧ n.declared.name = a := by
  rw [lookup_eq_findIdx?, findIdx?_name_eq_some_iff hl.sorted]
  simp [classes_getElem?]

/-! ## Types outside that are not known -/

lemma mem_unrecognized_iff (h : Hierarchy) (a : String) :
    a ∈ h.unrecognized ↔ ∃ n ∈ h.nodes, .external a false ∈ n.supertypes := by
  simp only [unrecognized, List.mem_mergeSort, List.mem_eraseDups, List.mem_flatMap,
    List.mem_filterMap, Array.mem_toList_iff]
  refine exists_congr fun n => and_congr_right fun _ => ?_
  constructor
  · rintro ⟨t, ht, hname⟩
    split at hname
    · cases hname
      exact ht
    · cases hname
  · intro ha
    exact ⟨_, ha, rfl⟩

lemma pairwise_unrecognized (h : Hierarchy) : h.unrecognized.Pairwise (· < ·) :=
  pairwise_lt_sort (nodup_eraseDups _)

/-! ## What names stand for -/

/-- A node of a linked hierarchy is that of a class that counts. -/
lemma exists_of_mem_nodes_link (hn : n ∈ (link cs r).nodes) :
    ∃ id c, (survivors cs)[id]? = some c ∧
      n = node ((survivors cs).map (·.name)).toArray r c id := by
  obtain ⟨id, hid⟩ := Array.mem_iff_getElem?.1 hn
  rw [getElem?_nodes_link, Option.map_eq_some_iff] at hid
  obtain ⟨c, hc, rfl⟩ := hid
  exact ⟨id, c, hc, rfl⟩

lemma standsFor_resolve (a : String) :
    (link cs r).StandsFor r a (resolve ((survivors cs).map (·.name)).toArray r a) := by
  rw [resolve]
  cases hfind : ((survivors cs).map (·.name)).toArray.findIdx? (· == a) with
  | some id =>
    obtain ⟨c, hc, hname⟩ := findIdx?_names_eq_some_iff.1 hfind
    have hn : (link cs r).nodes[id]? =
        some (node ((survivors cs).map (·.name)).toArray r c id) := by
      rw [getElem?_nodes_link, hc]
      rfl
    exact .node hn hname
  | none =>
    refine .outside ?_ (by simp [Registry.isRecognized])
    intro n hn hname
    obtain ⟨id, c, hc, rfl⟩ := exists_of_mem_nodes_link hn
    have hsome := findIdx?_names_eq_some_iff.2 ⟨c, hc, hname⟩
    rw [hfind] at hsome
    cases hsome

lemma StandsFor.lt_size (ht : h.StandsFor r a (.inSet id)) : id < h.size := by
  cases ht with
  | node hn => exact (Array.getElem?_eq_some_iff.1 hn).1

/-! ## Parts of a node -/

lemma parent_node_eq_none_iff {names : Array String} {c : Class} :
    (node names r c id).parent = none ↔ c.superclass = none ∨ c.superclass = some objectClass ∨
      c.superclass = some recordClass := by
  rw [node, Option.map_eq_none_iff]
  cases c.superclass with
  | none => simp
  | some a => simp [isRootClass, or_iff_not_imp_left]

lemma parent_node_of_ne {names : Array String} {c : Class} (ha : c.superclass = some a)
    (hobject : a ≠ objectClass) (hrecord : a ≠ recordClass) :
    (node names r c id).parent = some (resolve names r a) := by
  simp [node, ha, isRootClass, hobject, hrecord]

lemma Stores.lt_size (hstores : (link cs r).Stores id) : id < (link cs r).size := by
  cases hstores with
  | supertype hn hid =>
    obtain ⟨i, c, hc, rfl⟩ := exists_of_mem_nodes_link hn
    obtain ⟨a, -, hres⟩ := mem_supertypes_node.1 hid
    have hstands : (link cs r).StandsFor r a (.inSet id) := by
      rw [hres]
      exact standsFor_resolve a
    exact hstands.lt_size
  | enclosing hn hid =>
    obtain ⟨i, hi⟩ := Array.mem_iff_getElem?.1 hn
    refine enclosing_lt_size (b := i) ?_
    rw [Hierarchy.enclosing, hi]
    exact hid
  | nested hid => exact lt_size_of_enclosing (mem_nested_iff.1 hid).2
  | lookup hid =>
    obtain ⟨n, hn, -⟩ := (isLinked_link cs r).lookup_eq_some_iff.1 hid
    exact (Array.getElem?_eq_some_iff.1 hn).1

/-! ## Hierarchies that are built -/

lemma pairwise_name_link (cs : List Class) (r : Registry) :
    ((link cs r).nodes.toList.map (·.declared.name)).Pairwise (· < ·) := by
  have hnames : (link cs r).nodes.toList.map (·.declared.name) = (survivors cs).map (·.name) := by
    rw [← classes_link cs r, classes, List.map_map]
    rfl
  rw [hnames, List.pairwise_map]
  exact pairwise_survivors cs

lemma exists_node_link_iff (cs : List Class) (r : Registry) (a : String) :
    (∃ n ∈ (link cs r).nodes, n.declared.name = a) ↔ ∃ c ∈ cs, c.name = a := by
  constructor
  · rintro ⟨n, hn, rfl⟩
    obtain ⟨id, c, hc, rfl⟩ := exists_of_mem_nodes_link hn
    exact ⟨c, mem_of_mem_survivors (List.mem_of_getElem? hc), rfl⟩
  · rintro ⟨c, hc, rfl⟩
    obtain ⟨d, hd, hname⟩ := exists_mem_survivors hc
    rw [← classes_link cs r, classes, List.mem_map] at hd
    obtain ⟨n, hn, rfl⟩ := hd
    exact ⟨n, Array.mem_toList_iff.1 hn, hname⟩

/-- **What a hierarchy is made of.**  A hierarchy that is built has a node for each name among the
classes, with the class of that name that counts; all its links are those that the classes name; and
the types outside that are not known are listed. -/
theorem isMadeOf_of_build (hb : build cs r = .ok h) : h.IsMadeOf cs r := by
  obtain ⟨rfl, -⟩ := build_eq_ok_iff.1 hb
  exact
    { pairwise_name := pairwise_name_link cs r
      exists_node_iff := exists_node_link_iff cs r
      survives := by
        intro n hn
        obtain ⟨id, c, hc, rfl⟩ := exists_of_mem_nodes_link hn
        exact mem_survivors.1 (List.mem_of_getElem? hc)
      lookup_eq_some_iff := fun a id => (isLinked_link cs r).lookup_eq_some_iff
      parent_eq_none_iff := by
        intro n hn
        obtain ⟨id, c, hc, rfl⟩ := exists_of_mem_nodes_link hn
        exact parent_node_eq_none_iff
      exists_parent := by
        intro n hn a ha hobject hrecord
        obtain ⟨id, c, hc, rfl⟩ := exists_of_mem_nodes_link hn
        exact ⟨_, parent_node_of_ne ha hobject hrecord, standsFor_resolve a⟩
      interfaces_standFor := by
        intro n hn
        obtain ⟨id, c, hc, rfl⟩ := exists_of_mem_nodes_link hn
        refine List.forall₂_map_right_iff.2 ?_
        exact List.forall₂_same.2 fun a _ => standsFor_resolve a
      lt_size := fun id hid => hid.lt_size
      pairwise_unrecognized := pairwise_unrecognized _
      mem_unrecognized_iff := mem_unrecognized_iff _ }

/-- Four classes, of which two have the same name and one has that of a root class.  If the one that
is dropped counted, there would be a circle. -/
def fourClasses : List Class :=
  [{ name := "x.B", superclass := some "x.A", interfaces := ["java.lang.Runnable", "y.Top"],
      origin := "b.class" },
    { name := "x.A", superclass := some "x.B", origin := "z.class" },
    { name := "x.A", interfaces := ["java.lang.Object", "java.lang.Object"], origin := "a.class" },
    { name := "java.lang.Object", superclass := none, origin := "o.class" }]

lemma survivors_fourClasses :
    survivors fourClasses = [fourClasses[3], fourClasses[2], fourClasses[0]] := by
  have hsort : fourClasses.mergeSort Class.le = fourClasses.reverse := by
    rw [Class.isSortOrder_le.sort_eq_of_perm (List.reverse_perm _).symm (by decide)]
    exact List.mergeSort_of_pairwise (by decide)
  rw [survivors_eq, hsort]
  decide

/-- Of two classes of one name the one with the lesser origin is linked. -/
theorem isMadeOf_of_build_fourClasses :
    ∃ h, build fourClasses .platform = .ok h ∧ h.IsMadeOf fourClasses .platform ∧
      h.classes.map (·.origin) = ["o.class", "a.class", "b.class"] := by
  have hb : build fourClasses .platform = .ok (link fourClasses .platform) := by
    refine build_eq_ok_iff.2 ⟨rfl, ?_⟩
    rw [survivors_fourClasses]
    refine not_hasCircle_of_rank (fun a => if a = "x.B" then 2 else if a = "x.A" then 1 else 0) ?_
    simp [fourClasses, Class.Names, objectClass]
  refine ⟨_, hb, isMadeOf_of_build hb, ?_⟩
  rw [classes_link, survivors_fourClasses]
  rfl

end PluginFacts.Hierarchy
