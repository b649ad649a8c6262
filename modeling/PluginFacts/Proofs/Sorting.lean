/-
# Sorting by keys

The lists of a run are put in order by `mergeSort`, each with its own comparison of keys.  All of
these comparisons are total preorders, `IsSortOrder`, and what is proved here of such an order is
used for each of them:

* `IsSortOrder.sort_eq_of_perm`: a sorted list does not depend on the order that its elements came
  in, as long as different elements have different keys;
* `IsSortOrder.find?_sort_eq_some_iff`: of several least elements the one that came in
  first stands first;
* `IsSortOrder.sort_filter`: it makes no difference whether elements are picked before or after;
* `IsSortOrder.exists_sort_insert`: one element more, wherever it stands, moves no other element.

After a sort the first of all elements that count as the same is often taken; of these, by
`rel_of_mem_firstOfEach`, it is the least one, and by `IsSortOrder.mem_firstOfEach_sort_iff` it is
the one that came in first if several are the least.  Where the sort puts them side by side, erasing
repetitions takes the same elements (`eraseRepsBy_eq_firstOfEach`).
-/
import Mathlib.Data.List.TakeWhile
import Mathlib.Data.String.Basic
import Mathlib.Order.Bounds.Basic
import PluginFacts.FirstOfEach

namespace PluginFacts

/-- A comparison by which lists can be sorted: a total preorder. -/
structure IsSortOrder {α : Type} (le : α → α → Bool) : Prop where
  /-- The comparison is transitive. -/
  trans : ∀ a b c, le a b → le b c → le a c
  /-- Of two elements one comes before the other. -/
  total : ∀ a b, le a b || le b a

namespace IsSortOrder

variable {α : Type} {le : α → α → Bool}

/-- A transitive comparison that says which element is greater is an order to sort by. -/
lemma of_cmp (cmp : α → α → Ordering) [Std.TransCmp cmp] :
    IsSortOrder fun a b => (cmp a b).isLE where
  trans _ _ _ := Std.TransCmp.isLE_trans
  total a b := by
    have hswap : cmp b a = (cmp a b).swap := Std.OrientedCmp.eq_swap
    rw [hswap]
    cases cmp a b <;> rfl

lemma refl (h : IsSortOrder le) (a : α) : le a a := by
  simpa using h.total a a

lemma pairwise_sort (h : IsSortOrder le) (l : List α) :
    (l.mergeSort le).Pairwise (fun a b => le a b = true) :=
  List.pairwise_mergeSort h.trans h.total l

/-- A sorted list does not depend on the order that its elements came in, as long as elements that
come before each other are equal. -/
theorem sort_eq_of_perm (h : IsSortOrder le) {l₁ l₂ : List α} (hp : l₁.Perm l₂)
    (hanti : ∀ a ∈ l₁, ∀ b ∈ l₁, le a b → le b a → a = b) :
    l₁.mergeSort le = l₂.mergeSort le := by
  have hsorted : (l₁.mergeSort le).Perm (l₂.mergeSort le) :=
    (List.mergeSort_perm l₁ le).trans (hp.trans (List.mergeSort_perm l₂ le).symm)
  refine List.Perm.eq_of_pairwise ?_ (h.pairwise_sort l₁) (h.pairwise_sort l₂) hsorted
  intro a b ha hb hab hba
  have hb' : b ∈ l₁ := hp.mem_iff.2 (List.mem_mergeSort.1 hb)
  exact hanti a (List.mem_mergeSort.1 ha) b hb' hab hba

/-- A first element is put between the elements that it may not come before and those
that it may. -/
lemma exists_sort_cons (h : IsSortOrder le) (a : α) (l : List α) :
    ∃ before after, (a :: l).mergeSort le = before ++ a :: after ∧
      l.mergeSort le = before ++ after ∧ (∀ b ∈ before, !le a b) ∧ ∀ b ∈ after, le a b := by
  obtain ⟨before, after, hcons, hsort, hbefore⟩ := List.mergeSort_cons h.trans h.total a l
  have hsorted := h.pairwise_sort (a :: l)
  rw [hcons, List.pairwise_append, List.pairwise_cons] at hsorted
  exact ⟨before, after, hcons, hsort, hbefore, hsorted.2.1.1⟩

/-- A first element goes before all elements that it may come before. -/
lemma sort_cons (h : IsSortOrder le) (a : α) (l : List α) :
    (a :: l).mergeSort le =
      (l.mergeSort le).takeWhile (fun b => !le a b) ++
        a :: (l.mergeSort le).dropWhile fun b => !le a b := by
  obtain ⟨before, after, hcons, hsort, hbefore, hafter⟩ := h.exists_sort_cons a l
  rw [hcons, hsort, List.takeWhile_append_of_pos hbefore, List.dropWhile_append_of_pos hbefore]
  cases after with
  | nil => simp
  | cons b after =>
    have hb : le a b := hafter b List.mem_cons_self
    simp [hb]

/-- What is picked from a list is sorted as it stands in the sorted list. -/
theorem sort_filter (h : IsSortOrder le) (p : α → Bool) (l : List α) :
    (l.filter p).mergeSort le = (l.mergeSort le).filter p := by
  induction l with
  | nil => simp
  | cons a l ih =>
    obtain ⟨before, after, hcons, hsort, hbefore, hafter⟩ := h.exists_sort_cons a l
    rw [hcons, List.filter_append]
    cases hp : p a with
    | false =>
      rw [List.filter_cons_of_neg (by simp [hp]), List.filter_cons_of_neg (by simp [hp]), ih, hsort,
        List.filter_append]
    | true =>
      have hpicked : ∀ b ∈ before.filter p, !le a b :=
        fun b hb => hbefore b (List.mem_of_mem_filter hb)
      rw [List.filter_cons_of_pos hp, List.filter_cons_of_pos hp, h.sort_cons, ih, hsort,
        List.filter_append, List.takeWhile_append_of_pos hpicked,
        List.dropWhile_append_of_pos hpicked]
      -- the first of those that are picked behind ends the part that goes before
      cases hrest : after.filter p with
      | nil => simp
      | cons b rest =>
        have hb : b ∈ after.filter p := hrest ▸ List.mem_cons_self
        simp [hafter b (List.mem_of_mem_filter hb)]

/-- One element more is put somewhere into the sorted list, wherever it stands in the
list before. -/
theorem exists_sort_insert (h : IsSortOrder le) (l₁ l₂ : List α) (x : α) :
    ∃ before after, (l₁ ++ l₂).mergeSort le = before ++ after ∧
      (l₁ ++ x :: l₂).mergeSort le = before ++ x :: after := by
  induction l₁ with
  | nil =>
    refine ⟨_, _, ?_, h.sort_cons x l₂⟩
    rw [List.nil_append, List.takeWhile_append_dropWhile]
  | cons a l₁ ih =>
    obtain ⟨before, after, hsort, hinsert⟩ := ih
    have hx : ∀ b ∈ after, le x b := by
      have hsorted := h.pairwise_sort (l₁ ++ x :: l₂)
      rw [hinsert, List.pairwise_append, List.pairwise_cons] at hsorted
      exact hsorted.2.1.1
    rw [List.cons_append, List.cons_append, h.sort_cons, h.sort_cons, hsort, hinsert]
    -- `a` goes behind `x`, right before `x`, or somewhere before that
    by_cases hall : ∀ b ∈ before, !le a b
    · rw [List.takeWhile_append_of_pos hall, List.dropWhile_append_of_pos hall,
        List.takeWhile_append_of_pos hall, List.dropWhile_append_of_pos hall]
      by_cases hax : le a x
      · refine ⟨before ++ [a], after, ?_, by simp [hax]⟩
        cases after with
        | nil => simp
        | cons b after => simp [h.trans a x b hax (hx b List.mem_cons_self)]
      · exact ⟨before, after.takeWhile (fun b => !le a b) ++
          a :: after.dropWhile fun b => !le a b, by simp, by simp [hax]⟩
    · have hlength : (before.takeWhile fun b => !le a b).length ≠ before.length := by
        intro hlength
        exact hall (List.takeWhile_eq_self_iff.1 ((List.takeWhile_prefix _).eq_of_length hlength))
      have hne : (before.dropWhile fun b => !le a b) ≠ [] := by
        rwa [Ne, List.dropWhile_eq_nil_iff]
      refine ⟨before.takeWhile (fun b => !le a b) ++ a :: before.dropWhile fun b => !le a b,
        after, ?_, ?_⟩ <;>
      simp [List.takeWhile_append, List.dropWhile_append, hlength, hne]

end IsSortOrder

/-- Lists with the same elements are the same if both are in the order of an asymmetric relation. -/
lemma eq_of_pairwise_of_mem_iff {α : Type} {r : α → α → Prop} (hr : ∀ a b, r a b → ¬ r b a)
    {l l' : List α} (h : l.Pairwise r) (h' : l'.Pairwise r) (hmem : ∀ a, a ∈ l ↔ a ∈ l') :
    l = l' := by
  have hne : ∀ {a b}, r a b → a ≠ b := by
    rintro a b hab rfl
    exact hr a a hab hab
  have hp : l.Perm l' := (List.perm_ext_iff_of_nodup (h.imp hne) (h'.imp hne)).2 hmem
  exact hp.eq_of_pairwise (fun a b _ _ hab hba => absurd hba (hr a b hab)) h h'

lemma isSortOrder_string : IsSortOrder fun a b : String => (compare a b).isLE :=
  .of_cmp compare

lemma compare_isLE_iff {a b : String} : (compare a b).isLE ↔ a ≤ b :=
  Std.LawfulBCmp.isLE_iff_le

/-- Distinct names in order increase. -/
lemma pairwise_lt_sort {l : List String} (h : l.Nodup) :
    (l.mergeSort fun a b => (compare a b).isLE).Pairwise (· < ·) := by
  have hle := isSortOrder_string.pairwise_sort l
  have hne : (l.mergeSort fun a b => (compare a b).isLE).Nodup :=
    (List.mergeSort_perm l _).nodup_iff.2 h
  refine hle.imp₂ ?_ hne
  intro a b hab hne
  exact lt_of_le_of_ne (compare_isLE_iff.1 hab) hne

lemma filterMap_ite {α β : Type} {p : α → Prop} [DecidablePred p] (f : α → β) (l : List α) :
    l.filterMap (fun a => if p a then some (f a) else none) = (l.filter fun a => p a).map f := by
  induction l with
  | nil => rfl
  | cons a l ih => by_cases ha : p a <;> simp [ha, ih]

/-- No element is left twice when duplicates are erased. -/
lemma nodup_eraseDups (l : List String) : l.eraseDups.Nodup := by
  cases l with
  | nil => exact List.nodup_nil
  | cons a l =>
    rw [List.eraseDups_cons, List.nodup_cons]
    exact ⟨by simp, nodup_eraseDups (l.filter fun b => !b == a)⟩
termination_by l.length
decreasing_by exact Nat.lt_succ_of_le (List.length_filter_le _ _)

/-! ## The first of each -/

section FirstOfEach

variable {α β : Type} {same : α → α → Bool} {key : α → β}

lemma firstOfEach_sublist (same : α → α → Bool) (l : List α) : (firstOfEach same l).Sublist l := by
  induction l with
  | nil => exact List.Sublist.refl _
  | cons a l ih => exact (List.filter_sublist.trans ih).cons_cons a

lemma mem_of_mem_firstOfEach {l : List α} {a : α} (h : a ∈ firstOfEach same l) : a ∈ l :=
  (firstOfEach_sublist same l).subset h

/-- No two of the first elements count as the same. -/
lemma pairwise_firstOfEach (l : List α) :
    (firstOfEach same l).Pairwise fun a b => same a b = false := by
  induction l with
  | nil => exact List.Pairwise.nil
  | cons a l ih =>
    rw [firstOfEach, List.pairwise_cons]
    refine ⟨?_, ih.filter _⟩
    intro b hb
    simpa using (List.mem_filter.1 hb).2

/-- An element is one of the first ones if nothing that counts as the same comes before it. -/
theorem mem_firstOfEach_iff (hkey : ∀ a b, same a b ↔ key a = key b) {l : List α} {a : α} :
    a ∈ firstOfEach same l ↔ l.find? (same a) = some a := by
  induction l with
  | nil => simp [firstOfEach]
  | cons c l ih =>
    rw [firstOfEach, List.mem_cons, List.mem_filter, ih, List.find?_cons]
    by_cases hc : key a = key c
    · have hac : same a c := (hkey a c).2 hc
      have hca : same c a := (hkey c a).2 hc.symm
      simp [hac, hca, eq_comm]
    · have hac : same a c = false := by
        rw [← Bool.not_eq_true, hkey]
        exact hc
      have hca : same c a = false := by
        rw [← Bool.not_eq_true, hkey]
        exact fun h => hc h.symm
      have hne : a ≠ c := fun h => hc (congrArg key h)
      simp [hac, hca, hne]

/-- Where no two elements count as the same, all of them are taken. -/
lemma firstOfEach_eq_self {l : List α} (hl : l.Pairwise fun a b => same a b = false) :
    firstOfEach same l = l := by
  induction l with
  | nil => rfl
  | cons a l ih =>
    rw [List.pairwise_cons] at hl
    rw [firstOfEach, ih hl.2, List.filter_eq_self.2]
    intro b hb
    simp [hl.1 b hb]

/-- A function that respects what counts as the same takes the first elements to the
first elements. -/
lemma map_firstOfEach {same' : β → β → Bool} {f : α → β} (hf : ∀ a b, same' (f a) (f b) = same a b)
    (l : List α) : (firstOfEach same l).map f = firstOfEach same' (l.map f) := by
  induction l with
  | nil => rfl
  | cons a l ih =>
    rw [firstOfEach, List.map_cons, List.map_cons, firstOfEach, ← ih, List.filter_map]
    simp only [Function.comp_def, hf]

/-- Every element counts as the same as one of the first elements. -/
lemma exists_mem_firstOfEach (hkey : ∀ a b, same a b ↔ key a = key b) {l : List α} {b : α}
    (hb : b ∈ l) : ∃ a ∈ firstOfEach same l, key a = key b := by
  induction l with
  | nil => exact absurd hb List.not_mem_nil
  | cons c l ih =>
    by_cases hc : key c = key b
    · exact ⟨c, List.mem_cons_self, hc⟩
    · rcases List.mem_cons.1 hb with rfl | hb
      · exact absurd rfl hc
      · obtain ⟨a, ha, hab⟩ := ih hb
        have hca : same c a = false := by
          rw [← Bool.not_eq_true, hkey, hab]
          exact hc
        exact ⟨a, List.mem_cons_of_mem c (List.mem_filter.2 ⟨ha, by simp [hca]⟩), hab⟩

/-- In a list in order, the first of all elements that count as the same is the least of them. -/
theorem rel_of_mem_firstOfEach {r : α → α → Prop} (hr : ∀ a, r a a)
    (hkey : ∀ a b, same a b ↔ key a = key b) {l : List α} (hl : l.Pairwise r) {a b : α}
    (ha : a ∈ firstOfEach same l) (hb : b ∈ l) (hab : key a = key b) : r a b := by
  induction l with
  | nil => exact absurd hb List.not_mem_nil
  | cons c l ih =>
    rw [List.pairwise_cons] at hl
    rcases List.mem_cons.1 ha with rfl | ha
    · rcases List.mem_cons.1 hb with rfl | hb
      · exact hr b
      · exact hl.1 b hb
    · rw [List.mem_filter] at ha
      rcases List.mem_cons.1 hb with rfl | hb
      · have hba : same b a := (hkey b a).2 hab.symm
        simp [hba] at ha
      · exact ih hl.2 ha.1 hb

section Repeats

variable {l : List α} {a b : α}

lemma firstOfEach_cons_cons_of_eq (hkey : ∀ a b, same a b ↔ key a = key b) (h : key a = key b) :
    firstOfEach same (a :: b :: l) = firstOfEach same (a :: l) := by
  have hab : same a b := (hkey a b).2 h
  have hsame : same b = same a := by
    funext c
    rw [Bool.eq_iff_iff, hkey, hkey, h]
  rw [firstOfEach, firstOfEach, firstOfEach, List.filter_cons_of_neg (by simp [hab]), hsame,
    List.filter_filter]
  simp

variable [PartialOrder β]

lemma firstOfEach_cons_of_lt (hkey : ∀ a b, same a b ↔ key a = key b)
    (h : ∀ b ∈ l, key a < key b) : firstOfEach same (a :: l) = a :: firstOfEach same l := by
  rw [firstOfEach, List.filter_eq_self.2]
  intro b hb
  have hab : ¬ same a b := by
    rw [hkey]
    exact ne_of_lt (h b (mem_of_mem_firstOfEach hb))
  simpa using hab

/-- What is left of a list in order of keys when repetitions are erased, given the last element that
was kept and those that were kept before it. -/
lemma eraseRepsBy_loop_eq (hkey : ∀ a b, same a b ↔ key a = key b)
    (hl : (a :: l).Pairwise fun a b => key a ≤ key b) (kept : List α) :
    List.eraseRepsBy.loop same a l kept = kept.reverse ++ firstOfEach same (a :: l) := by
  induction l generalizing a kept with
  | nil => simp [List.eraseRepsBy.loop, firstOfEach]
  | cons b l ih =>
    obtain ⟨ha, hbl⟩ := List.pairwise_cons.1 hl
    by_cases hab : key a = key b
    · have hal : (a :: l).Pairwise fun a b => key a ≤ key b :=
        hl.sublist ((List.sublist_cons_self b l).cons_cons a)
      rw [List.eraseRepsBy.loop, (hkey a b).2 hab, firstOfEach_cons_cons_of_eq hkey hab]
      exact ih hal kept
    · -- the keys have gone up, so no later element counts as the same as `a`
      have hlt : ∀ c ∈ b :: l, key a < key c := by
        have hb : key a < key b := lt_of_le_of_ne (ha b List.mem_cons_self) hab
        exact List.forall_mem_cons.2
          ⟨hb, fun c hc => lt_of_lt_of_le hb ((List.pairwise_cons.1 hbl).1 c hc)⟩
      have hne : same a b = false := by
        rw [← Bool.not_eq_true, hkey]
        exact hab
      rw [List.eraseRepsBy.loop, hne, firstOfEach_cons_of_lt hkey hlt]
      refine (ih hbl (a :: kept)).trans ?_
      rw [List.reverse_cons, List.append_assoc, List.singleton_append]

/-- In a list in order of keys the elements of one key stand together, so erasing repetitions leaves
the first of each. -/
theorem eraseRepsBy_eq_firstOfEach (hkey : ∀ a b, same a b ↔ key a = key b)
    (hl : l.Pairwise fun a b => key a ≤ key b) : l.eraseRepsBy same = firstOfEach same l := by
  cases l with
  | nil => rfl
  | cons a l => exact eraseRepsBy_loop_eq hkey hl []

end Repeats

end FirstOfEach

/-! ## The first of the least -/

section FirstLeast

variable {α : Type} {le : α → α → Bool} {p : α → Bool} {l : List α} {a c : α}

/-- The first of the least elements with a property: those that stand before it come after it in
order, and it comes before those that stand after it or is level with them. -/
def IsFirstLeast (le : α → α → Bool) (p : α → Bool) (l : List α) (a : α) : Prop :=
  p a ∧ ∃ before after, l = before ++ a :: after ∧
    (∀ b ∈ before, p b → ¬ le b a) ∧ ∀ b ∈ after, p b → le a b

lemma isFirstLeast_cons_iff :
    IsFirstLeast le p (c :: l) a ↔
      (p c ∧ a = c ∧ ∀ b ∈ l, p b → le c b) ∨ IsFirstLeast le p l a ∧ (p c → ¬ le c a) := by
  constructor
  · rintro ⟨ha, before, after, hl, hbefore, hafter⟩
    cases before with
    | nil =>
      obtain ⟨rfl, rfl⟩ := List.cons.inj hl
      exact Or.inl ⟨ha, rfl, hafter⟩
    | cons d before =>
      obtain ⟨rfl, rfl⟩ := List.cons.inj hl
      rw [List.forall_mem_cons] at hbefore
      exact Or.inr ⟨⟨ha, before, after, rfl, hbefore.2, hafter⟩, hbefore.1⟩
  · rintro (⟨hc, rfl, hle⟩ | ⟨⟨ha, before, after, rfl, hbefore, hafter⟩, hc⟩)
    · exact ⟨hc, [], l, rfl, by simp, hle⟩
    · exact ⟨ha, c :: before, after, rfl, List.forall_mem_cons.2 ⟨hc, hbefore⟩, hafter⟩

/-- A sort brings the first of the least elements to the front. -/
theorem IsSortOrder.find?_sort_eq_some_iff (h : IsSortOrder le) :
    (l.mergeSort le).find? p = some a ↔ IsFirstLeast le p l a := by
  induction l with
  | nil => simp [IsFirstLeast]
  | cons c l ih =>
    obtain ⟨before, after, hcons, hsort, hbefore, hafter⟩ := h.exists_sort_cons c l
    have hmem (b : α) : b ∈ l ↔ b ∈ before ∨ b ∈ after := by
      have hl : b ∈ l.mergeSort le ↔ b ∈ l := List.mem_mergeSort
      rw [← hl, hsort, List.mem_append]
    rw [hsort, List.find?_append] at ih
    rw [isFirstLeast_cons_iff, ← ih, hcons, List.find?_append]
    cases hfirst : before.find? p with
    | some b =>
      -- an element that `c` may not come before has the property
      have hb := List.mem_of_find?_eq_some hfirst
      have hcb : ¬ le c b := by simpa using hbefore b hb
      simp only [Option.some_or, Option.some.injEq]
      constructor
      · rintro rfl
        exact Or.inr ⟨rfl, fun _ => hcb⟩
      · rintro (⟨-, -, hle⟩ | ⟨rfl, -⟩)
        · exact absurd (hle b ((hmem b).2 (Or.inl hb)) (List.find?_some hfirst)) hcb
        · rfl
    | none =>
      rw [Option.none_or, Option.none_or, List.find?_cons]
      cases hc : p c with
      | false => simp
      | true =>
        have hle : ∀ b ∈ l, p b → le c b := by
          intro b hb hp
          rcases (hmem b).1 hb with hb | hb
          · exact absurd hp (by simpa using List.find?_eq_none.1 hfirst b hb)
          · exact hafter b hb
        simp only [Option.some.injEq, true_and, forall_const]
        constructor
        · rintro rfl
          exact Or.inl ⟨rfl, hle⟩
        · rintro (⟨rfl, -⟩ | ⟨ha, hca⟩)
          · rfl
          · exact absurd (hafter a (List.mem_of_find?_eq_some ha)) hca

/-- Where the elements of one key are in order of a rank, the element of a key that stands first in
the sorted list is the first of those that have the least rank. -/
theorem IsSortOrder.mem_firstOfEach_sort_iff (h : IsSortOrder le) {β γ : Type} [LinearOrder γ]
    {same : α → α → Bool} {key : α → β} {rank : α → γ} (hkey : ∀ a b, same a b ↔ key a = key b)
    (hrank : ∀ a b, key a = key b → (le a b ↔ rank a ≤ rank b)) {q : α → Bool} :
    a ∈ firstOfEach same ((l.mergeSort le).filter q) ↔
      q a ∧ ∃ before after, l = before ++ a :: after ∧
        (∀ b ∈ before, q b → key b = key a → rank a < rank b) ∧
        ∀ b ∈ after, q b → key b = key a → rank a ≤ rank b := by
  have hfirst : a ∈ firstOfEach same ((l.mergeSort le).filter q) ↔
      IsFirstLeast le (fun b => q b && same a b) l a := by
    rw [mem_firstOfEach_iff hkey, List.find?_filter, ← h.find?_sort_eq_some_iff]
    simp
  have hpicked (b : α) : (q b && same a b) = true ↔ q b ∧ key b = key a := by
    rw [Bool.and_eq_true, hkey]
    exact and_congr_right fun _ => eq_comm
  rw [hfirst, IsFirstLeast]
  simp only [hpicked, and_imp, and_true]
  refine and_congr_right fun _ => exists_congr fun before => exists_congr fun after =>
    and_congr_right fun _ => and_congr ?_ ?_
  · refine forall₂_congr fun b _ => imp_congr_right fun _ => imp_congr_right fun hb => ?_
    rw [hrank b a hb, not_le]
  · refine forall₂_congr fun b _ => imp_congr_right fun _ => imp_congr_right fun hb => ?_
    rw [hrank a b hb.symm]

end FirstLeast

end PluginFacts
