/-
# Paths in a tree of files

In a file system that is a value, every place but the root should be in a directory, under a name
that is neither empty nor dots and has no slash in it (`Tree.IsSound`).  Then the names that lead
from a directory to what is below it, put behind any path to the directory, are a path there
(`Tree.IsSound.locate_join`): on this way there are no links and nothing leads back, however many
links there are on the way to the directory itself.
-/
import Mathlib.Data.List.Induction
import Mathlib.Data.List.Nodup
import PluginFacts.Files.Tree

namespace PluginFacts

namespace Path

/-! ## Parts -/

lemma split_ne_nil (a : List Char) : split a ≠ [] := by
  cases a with
  | nil => simp [split]
  | cons c a =>
    rw [split]
    split
    · simp
    · split <;> simp

lemma split_append_slash (a b : List Char) : split (a ++ '/' :: b) = split a ++ split b := by
  induction a with
  | nil => simp [split]
  | cons c a ih =>
    obtain ⟨part, parts, ha⟩ := List.exists_cons_of_ne_nil (split_ne_nil a)
    rw [List.cons_append, split, split, ih, ha]
    split <;> rfl

lemma split_of_notMem {a : List Char} (h : '/' ∉ a) : split a = [a] := by
  induction a with
  | nil => rfl
  | cons c a ih =>
    rw [List.mem_cons, not_or] at h
    rw [split, if_neg (Ne.symm h.1), ih h.2]

/-- Names between slashes are the parts of the path. -/
lemma split_intercalate {names : List (List Char)} (hne : names ≠ []) (h : ∀ n ∈ names, '/' ∉ n) :
    split (['/'].intercalate names) = names := by
  induction names with
  | nil => exact absurd rfl hne
  | cons n names ih =>
    rw [List.forall_mem_cons] at h
    cases names with
    | nil => rw [List.intercalate_singleton, split_of_notMem h.1]
    | cons m names =>
      rw [List.intercalate_cons_cons, List.append_assoc, List.singleton_append, split_append_slash,
        split_of_notMem h.1, ih (List.cons_ne_nil m names) h.2, List.singleton_append]

/-- The parts of names between slashes, and of a path that they are put behind. -/
lemma parts_ofList_append {a : List Char} {names : List String} (hne : names ≠ [])
    (h : ∀ name ∈ names, '/' ∉ name.toList) :
    (split (a ++ '/' :: ("/".intercalate names).toList)).map String.ofList =
      (split a).map String.ofList ++ names := by
  have hnames : split ("/".intercalate names).toList = names.map String.toList := by
    rw [String.toList_intercalate]
    refine split_intercalate (by simpa using hne) ?_
    intro n hn
    obtain ⟨name, hname, rfl⟩ := List.mem_map.1 hn
    exact h name hname
  rw [split_append_slash, hnames, List.map_append, List.map_map]
  simp [Function.comp_def]

/-- Behind a path, the names are the last parts, and a slash at the end of the path is no part. -/
lemma parts_join (root : String) : ∃ before,
    (parts root = before ∨ parts root = before ++ [""]) ∧
      ∀ names : List String, names ≠ [] → (∀ name ∈ names, '/' ∉ name.toList) →
        parts (join root names) = before ++ names := by
  by_cases hslash : root.toList.getLast? = some '/'
  · obtain ⟨a, ha⟩ : ∃ a, root.toList = a ++ ['/'] :=
      ⟨_, (List.dropLast_append_getLast? '/' hslash).symm⟩
    refine ⟨(split a).map String.ofList, .inr ?_, ?_⟩
    · rw [parts, ha, split_append_slash, List.map_append]
      rfl
    · intro names hne h
      have hjoin : (join root names).toList = a ++ '/' :: ("/".intercalate names).toList := by
        simp [join, ha]
      rw [parts, hjoin, parts_ofList_append hne h]
  · refine ⟨parts root, .inl rfl, ?_⟩
    intro names hne h
    have hjoin :
        (join root names).toList = root.toList ++ '/' :: ("/".intercalate names).toList := by
      simp [join, hslash]
    rw [parts, hjoin, parts_ofList_append hne h, parts]

lemma exists_toList_join {root : String} (hroot : ¬ root.isEmpty) (names : List String) :
    ∃ c path rest, root.toList = c :: path ∧ (join root names).toList = c :: (path ++ rest) := by
  have hne : root.toList ≠ [] := by
    rwa [Ne, String.toList_eq_nil_iff, ← String.isEmpty_iff]
  obtain ⟨c, path, hpath⟩ := List.exists_cons_of_ne_nil hne
  obtain ⟨rest, hrest⟩ : root.toList <+: (join root names).toList := by
    rw [join, String.toList_append, String.toList_append, List.append_assoc]
    exact List.prefix_append _ _
  exact ⟨c, path, rest, hpath, by rw [← hrest, hpath, List.cons_append]⟩

lemma isEmpty_join {root : String} (hroot : ¬ root.isEmpty) (names : List String) :
    ¬ (join root names).isEmpty := by
  obtain ⟨c, path, rest, -, hjoin⟩ := exists_toList_join hroot names
  rw [String.isEmpty_iff, ← String.toList_eq_nil_iff, hjoin]
  exact List.cons_ne_nil _ _

lemma isAbsolute_join {root : String} (hroot : ¬ root.isEmpty) (names : List String) :
    isAbsolute (join root names) = isAbsolute root := by
  obtain ⟨c, path, rest, hpath, hjoin⟩ := exists_toList_join hroot names
  rw [isAbsolute, isAbsolute, hpath, hjoin]
  rfl

end Path

namespace Tree

/-- A name that leads to one place in a directory. -/
structure IsName (name : String) : Prop where
  ne_empty : name ≠ ""
  ne_dot : name ≠ "."
  ne_dots : name ≠ ".."
  slash_notMem : '/' ∉ name.toList

/-- Everything but the root is in a directory, under a name of its own. -/
structure IsSound (t : Tree) : Prop where
  /-- There is one thing at a place. -/
  nodup : (t.entries.map (·.1)).Nodup
  /-- What is not the root is in a directory. -/
  parent : ∀ e ∈ t.entries, e.1 ≠ [] → (e.1.dropLast, .directory) ∈ t.entries
  /-- The names are names. -/
  isName : ∀ e ∈ t.entries, ∀ name ∈ e.1, IsName name

variable {t : Tree}

/-- A path leads to a place from where whatever comes after it is followed, or it leads nowhere,
whatever comes after it. -/
lemma exists_follow_append (links : ℕ) (place path : List String) :
    (∃ links' place', ∀ rest, t.follow links place (path ++ rest) = t.follow links' place' rest) ∨
      ∃ e, ∀ rest, t.follow links place (path ++ rest) = .error e := by
  fun_induction follow t links place path with
  | case1 links place => exact .inl ⟨links, place, fun rest => rfl⟩
  | case2 links place name path hplace =>
    refine .inr ⟨.notFound, fun rest => ?_⟩
    rw [List.cons_append, follow.eq_def, hplace]
  | case3 links place name path bytes hplace =>
    refine .inr ⟨.notDirectory, fun rest => ?_⟩
    rw [List.cons_append, follow.eq_def, hplace]
  | case4 links place name path target hplace =>
    refine .inr ⟨.notDirectory, fun rest => ?_⟩
    rw [List.cons_append, follow.eq_def, hplace]
  | case5 links place name path hplace hname ih =>
    have hstep : ∀ rest,
        t.follow links place (name :: path ++ rest) = t.follow links place (path ++ rest) := by
      intro rest
      rw [List.cons_append, follow.eq_def, hplace]
      exact if_pos hname
    simp only [hstep]
    exact ih
  | case6 links place path hplace hname ih =>
    have hstep : ∀ rest, t.follow links place (".." :: path ++ rest) =
        t.follow links place.dropLast (path ++ rest) := by
      intro rest
      rw [List.cons_append, follow.eq_def, hplace]
      rfl
    simp only [hstep]
    exact ih
  | case7 place name path hplace hname hup target htarget =>
    refine .inr ⟨.tooManyLinks, fun rest => ?_⟩
    rw [List.cons_append, follow.eq_def, hplace]
    simp only [if_neg hname, if_neg hup, htarget]
  | case8 place name path hplace hname hup target links htarget ih =>
    have hstep : ∀ rest, t.follow (links + 1) place (name :: path ++ rest) =
        t.follow links (if Path.isAbsolute target then [] else place)
          (Path.parts target ++ path ++ rest) := by
      intro rest
      rw [List.cons_append, follow.eq_def, hplace, List.append_assoc]
      simp only [if_neg hname, if_neg hup, htarget]
    simp only [hstep]
    exact ih
  | case9 place name path hplace hname hup links hzero hsucc ih =>
    have hstep : ∀ rest, t.follow links place (name :: path ++ rest) =
        t.follow links (place ++ [name]) (path ++ rest) := by
      intro rest
      rw [List.cons_append, follow.eq_def, hplace]
      simp only [if_neg hname, if_neg hup]
    simp only [hstep]
    exact ih

/-- What is put behind a path to a directory is followed from there. -/
lemma exists_follow_join {root : String} {links : ℕ} {place place' : List String}
    (h : t.follow links place (Path.parts root) = .ok (place', some .directory)) :
    ∃ links', ∀ names : List String, names ≠ [] → (∀ name ∈ names, '/' ∉ name.toList) →
      t.follow links place (Path.parts (Path.join root names)) = t.follow links' place' names := by
  obtain ⟨before, hroot, hjoin⟩ := Path.parts_join root
  obtain ⟨links', place₁, hfollow⟩ | ⟨fault, hfault⟩ :=
    exists_follow_append (t := t) links place before
  · obtain rfl : place₁ = place' := by
      obtain hroot | hroot := hroot
      · have hbefore := hfollow []
        rw [List.append_nil, ← hroot, h, follow] at hbefore
        simp only [Except.ok.injEq, Prod.mk.injEq] at hbefore
        exact hbefore.1.symm
      · rw [hroot, hfollow, follow.eq_def] at h
        simp only [true_or, if_true, follow] at h
        split at h
        · cases h
        · cases h
        · cases h
        · exact (Prod.mk.inj (Except.ok.inj h)).1
    refine ⟨links', fun names hne hnames => ?_⟩
    rw [hjoin names hne hnames, hfollow]
  · obtain hroot | hroot := hroot
    · have hbefore := hfault []
      rw [List.append_nil, ← hroot, h] at hbefore
      cases hbefore
    · rw [hroot, hfault] at h
      cases h

namespace IsSound

variable (ht : t.IsSound) {place names : List String} {name : String} {e : Entry}

include ht

lemma entry?_eq_some_iff : t.entry? names = some e ↔ (names, e) ∈ t.entries := by
  refine List.lookup_eq_some_iff.trans ⟨?_, ?_⟩
  · rintro ⟨before, after, hsplit, -⟩
    rw [hsplit]
    exact List.mem_append_right before List.mem_cons_self
  · intro h
    obtain ⟨before, after, hsplit⟩ := List.append_of_mem h
    refine ⟨before, after, hsplit, fun e' he' => ?_⟩
    -- another entry for the place would be one too many
    have hnodup := ht.nodup
    rw [hsplit, List.map_append, List.map_cons, List.nodup_middle, List.nodup_cons] at hnodup
    rw [bne_iff_ne]
    rintro rfl
    exact hnodup.1 (List.mem_append_left _ (List.mem_map.2 ⟨e', he', rfl⟩))

/-- What something below is in is a directory. -/
lemma directory_of_append (hne : names ≠ []) (h : (place ++ names, e) ∈ t.entries) :
    (place, .directory) ∈ t.entries := by
  induction names using List.reverseRecOn generalizing e with
  | nil => exact absurd rfl hne
  | append_singleton names name ih =>
    have hparent := ht.parent _ h (by simp)
    rw [← List.append_assoc, List.dropLast_concat] at hparent
    cases names with
    | nil => simpa using hparent
    | cons first names => exact ih (List.cons_ne_nil first names) hparent

/-- On the way down there are no links. -/
lemma follow_names (links : ℕ) (h : (place ++ names, e) ∈ t.entries)
    (he : ∀ target, e ≠ .link target) :
    t.follow links place names = .ok (place ++ names, some e) := by
  induction names generalizing place with
  | nil =>
    rw [List.append_nil] at h ⊢
    rw [follow, ht.entry?_eq_some_iff.2 h]
  | cons name names ih =>
    have hname := ht.isName _ h name (by simp)
    have hplace := ht.entry?_eq_some_iff.2 (ht.directory_of_append (List.cons_ne_nil name names) h)
    have hdot : ¬ (name = "" ∨ name = ".") := not_or.2 ⟨hname.ne_empty, hname.ne_dot⟩
    rw [List.append_cons] at h ⊢
    have hlink : ∀ target, t.entry? (place ++ [name]) ≠ some (.link target) := by
      intro target htarget
      cases names with
      | nil =>
        rw [List.append_nil, ← ht.entry?_eq_some_iff, htarget] at h
        exact he target (Option.some.inj h).symm
      | cons next names =>
        have hdirectory := ht.directory_of_append (List.cons_ne_nil next names) h
        rw [← ht.entry?_eq_some_iff, htarget] at hdirectory
        cases hdirectory
    rw [← ih h, follow.eq_def, hplace]
    simp only [if_neg hdot, if_neg hname.ne_dots]
    split
    · next htarget => exact absurd htarget (hlink _)
    · next htarget => exact absurd htarget (hlink _)
    · rfl

/-- The names below a directory, behind a path to it, are a path to what is there. -/
theorem locate_join {root : String} (hroot : t.locate root = .ok (place, some .directory))
    (hne : names ≠ []) (h : (place ++ names, e) ∈ t.entries) (he : ∀ target, e ≠ .link target) :
    t.locate (Path.join root names) = .ok (place ++ names, some e) := by
  rw [locate] at hroot
  split at hroot
  · cases hroot
  · next hpath =>
    obtain ⟨links, hfollow⟩ := exists_follow_join hroot
    have hnames : ∀ name ∈ names, '/' ∉ name.toList := by
      intro name hname
      exact (ht.isName _ h name (List.mem_append_right place hname)).slash_notMem
    rw [locate, Path.isAbsolute_join hpath, if_neg (Path.isEmpty_join hpath names),
      hfollow names hne hnames, ht.follow_names links h he]

end IsSound

end Tree

end PluginFacts
