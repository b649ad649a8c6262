/-
# Ways from type to type

What inheritance means, said of the names of types and of nothing else.  A class *names* a type as
its supertype if it extends the type, which must not be a root class, or implements it; a *way* goes
from type to type along such links.  Only the given classes have links, so a type that is not among
them can be the end of a way but not a type on the way.

Ways are counted by their number of links.  On a shortest way no type comes twice, so a shortest way
has no more links than there are classes (`Distance.le_length`).
-/
import Mathlib.Data.List.Nodup
import Mathlib.Data.List.Perm.Subperm
import Mathlib.Data.Nat.Find
import Mathlib.Data.Set.Defs
import Mathlib.Data.String.Basic
import Mathlib.Logic.Relation
import Mathlib.Order.Bounds.Basic
import PluginFacts.Class.Basic

namespace PluginFacts

/-- A class names a type as its supertype. -/
def Class.Names (c : Class) (t : String) : Prop :=
  c.superclass = some t ∧ t ≠ objectClass ∧ t ≠ recordClass ∨ t ∈ c.interfaces

/-- A class with the first name names the second type as its supertype. -/
def Link (D : Set Class) (a b : String) : Prop :=
  ∃ c ∈ D, c.name = a ∧ c.Names b

instance (c : Class) (t : String) : Decidable (c.Names t) :=
  inferInstanceAs (Decidable (_ ∧ _ ∧ _ ∨ _))

instance (cs : List Class) (a b : String) : Decidable (Link {d | d ∈ cs} a b) :=
  inferInstanceAs (Decidable (∃ c ∈ cs, c.name = a ∧ c.Names b))

/-- A link from class to class. -/
def Inherits (D : Set Class) (a b : String) : Prop :=
  Link D a b ∧ ∃ d ∈ D, d.name = b

/-- Some class inherits from itself, directly or through others. -/
def HasCircle (D : Set Class) : Prop :=
  ∃ a, Relation.TransGen (Inherits D) a a

/-- A way of `n` links from one type to another. -/
inductive Way (D : Set Class) : (n : ℕ) → (a b : String) → Prop where
  /-- The empty way. -/
  | refl (a : String) : Way D 0 a a
  /-- A way that starts with a link. -/
  | head {n : ℕ} {a b c : String} (hab : Link D a b) (hbc : Way D n b c) : Way D (n + 1) a c

/-- A type is reached in `n` links and no fewer. -/
def Distance (D : Set Class) (a b : String) (n : ℕ) : Prop :=
  IsLeast {m | Way D m a b} n

/-- The first step on the way to a type at a distance: the least name among the first steps of all
ways of that length, unless the way is empty. -/
def FirstStep (D : Set Class) (a b : String) (n : ℕ) (via : Option String) : Prop :=
  n = 0 ∧ via = none ∨
    ∃ m v, n = m + 1 ∧ via = some v ∧ IsLeast {v | Link D a v ∧ Way D m v b} v

variable {D : Set Class} {m n : ℕ} {a b c : String}

/-- Classes are in no circle if they can be ranked so that each inherits from classes of lower ranks
only. -/
lemma not_hasCircle_of_rank (rank : String → ℕ)
    (hrank : ∀ c ∈ D, ∀ d ∈ D, c.Names d.name → rank d.name < rank c.name) : ¬ HasCircle D := by
  rintro ⟨a, ha⟩
  have hinherits {a b : String} (hab : Inherits D a b) : rank b < rank a := by
    obtain ⟨⟨c, hc, rfl, hcd⟩, d, hd, rfl⟩ := hab
    exact hrank c hc d hd hcd
  have hlt : ∀ b, Relation.TransGen (Inherits D) a b → rank b < rank a := by
    intro b hb
    induction hb with
    | single h => exact hinherits h
    | tail _ h ih => exact lt_trans (hinherits h) ih
  exact lt_irrefl _ (hlt a ha)

/-- Classes that do not name one another are in no circle. -/
lemma not_hasCircle_of_not_names (hnames : ∀ c ∈ D, ∀ d ∈ D, ¬ c.Names d.name) : ¬ HasCircle D :=
  not_hasCircle_of_rank (fun _ => 0) fun c hc d hd hcd => absurd hcd (hnames c hc d hd)

namespace Way

lemma append (hab : Way D m a b) (hbc : Way D n b c) : Way D (m + n) a c := by
  induction hab with
  | refl => simpa using hbc
  | head h _ ih =>
    rw [Nat.add_right_comm]
    exact .head h (ih hbc)

lemma snoc (hab : Way D n a b) (hbc : Link D b c) : Way D (n + 1) a c :=
  hab.append (.head hbc (.refl c))

/-- A way can be split after any number of links. -/
lemma split (h : Way D (m + n) a c) : ∃ b, Way D m a b ∧ Way D n b c := by
  induction m generalizing a with
  | zero => exact ⟨a, .refl a, by simpa using h⟩
  | succ m ih =>
    rw [Nat.add_right_comm] at h
    cases h with
    | head hab hbc =>
      obtain ⟨b, hb, hn⟩ := ih hbc
      exact ⟨b, .head hab hb, hn⟩

lemma exists_last (h : Way D (n + 1) a c) : ∃ b, Way D n a b ∧ Link D b c := by
  obtain ⟨b, hab, hbc⟩ := h.split
  cases hbc with
  | head hl hr => cases hr; exact ⟨b, hab, hl⟩

/-- A way that is not empty starts at a class. -/
lemma exists_class (h : Way D (n + 1) a b) : ∃ d ∈ D, d.name = a := by
  cases h with
  | head hl _ =>
    obtain ⟨d, hd, hname, -⟩ := hl
    exact ⟨d, hd, hname⟩

/-- Ways do not lead out of types whose links do not. -/
lemma mem_of_closed {S : Set String} (hS : ∀ a ∈ S, ∀ b, Link D a b → b ∈ S) (h : Way D n a b)
    (ha : a ∈ S) : b ∈ S := by
  induction h with
  | refl => exact ha
  | head hab _ ih => exact ih (hS _ ha _ hab)

end Way

namespace Distance

lemma unique (hm : Distance D a b m) (hn : Distance D a b n) : m = n :=
  IsLeast.unique hm hn

lemma zero (a : String) : Distance D a a 0 :=
  ⟨.refl a, fun _ _ => Nat.zero_le _⟩

/-- A link to another type is a shortest way. -/
lemma one (h : Link D a b) (hne : a ≠ b) : Distance D a b 1 := by
  refine ⟨.head h (.refl b), ?_⟩
  rintro (_ | m) hm
  · cases hm
    exact absurd rfl hne
  · exact Nat.le_add_left 1 m

/-- Two links are a shortest way to a type that no single link leads to. -/
lemma two (hab : Link D a b) (hbc : Link D b c) (hne : a ≠ c) (hac : ¬ Link D a c) :
    Distance D a c 2 := by
  refine ⟨.head hab (.head hbc (.refl c)), ?_⟩
  rintro (_ | _ | m) hm
  · cases hm
    exact absurd rfl hne
  · cases hm with
    | head hl hr =>
      cases hr
      exact absurd hl hac
  · exact Nat.le_add_left 2 m

/-- A type that is reached is at some distance. -/
lemma exists_le (h : Way D n a b) : ∃ m ≤ n, Distance D a b m := by
  classical
  have hex : ∃ m, Way D m a b := ⟨n, h⟩
  exact ⟨Nat.find hex, Nat.find_min' hex h, Nat.find_spec hex, fun _ hm => Nat.find_min' hex hm⟩

/-- Every part of a shortest way that begins where it begins is a shortest way. -/
lemma split (h : Distance D a c (m + n)) : ∃ b, Distance D a b m ∧ Way D n b c := by
  obtain ⟨b, hab, hbc⟩ := h.1.split
  refine ⟨b, ⟨hab, ?_⟩, hbc⟩
  intro i hi
  have hle : m + n ≤ i + n := h.2 (hi.append hbc)
  omega

/-- A shortest way has no more links than there are classes. -/
theorem le_length {cs : List Class} (h : Distance {d | d ∈ cs} a b n) : n ≤ cs.length := by
  have hon : ∀ i < n, ∃ x, Distance {d | d ∈ cs} a x i ∧ x ∈ cs.map (·.name) := by
    intro i hi
    obtain ⟨k, rfl⟩ := Nat.exists_eq_add_of_lt hi
    obtain ⟨x, hax, hxb⟩ := Distance.split (m := i) (n := k + 1) h
    obtain ⟨d, hd, hname⟩ := hxb.exists_class
    exact ⟨x, hax, List.mem_map.2 ⟨d, hd, hname⟩⟩
  choose! x hx using hon
  -- the types on the way are at different distances, so no two of them are the same
  have hnodup : ((List.range n).map x).Nodup := by
    refine List.Nodup.map_on ?_ List.nodup_range
    intro i hi j hj hij
    have hj' := (hx j (List.mem_range.1 hj)).1
    rw [← hij] at hj'
    exact unique (hx i (List.mem_range.1 hi)).1 hj'
  have hsub : (List.range n).map x ⊆ cs.map (·.name) := by
    intro y hy
    obtain ⟨i, hi, rfl⟩ := List.mem_map.1 hy
    exact (hx i (List.mem_range.1 hi)).2
  simpa using (hnodup.subperm hsub).length_le

end Distance

lemma FirstStep.unique {via via' : Option String} (h : FirstStep D a b n via)
    (h' : FirstStep D a b n via') : via = via' := by
  rcases h with ⟨hn, rfl⟩ | ⟨m, v, hn, rfl, hv⟩
  · rcases h' with ⟨-, rfl⟩ | ⟨m', v', hn', -, -⟩
    · rfl
    · omega
  · rcases h' with ⟨hn', -⟩ | ⟨m', v', hn', rfl, hv'⟩
    · omega
    · obtain rfl : m = m' := by omega
      rw [hv.unique hv']

end PluginFacts
