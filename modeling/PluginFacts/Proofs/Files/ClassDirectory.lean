/-
# What becomes of each class file in a directory

Every file below a directory that is called like a class file is read or, if it is too large,
reported, and nothing else is (`ClassDirectory.AccountsFor`).  This is said of the directory as
a part of a tree of files. What is asked of a file system about it may be answered in any order
(`FileSystem.Presents`): the files are put in order by the names that lead to them, and these
tell them apart.
-/
import PluginFacts.ClassDirectory
import PluginFacts.Proofs.Files.Following
import PluginFacts.Proofs.Sorting

namespace PluginFacts

/-! ## Trees and file systems -/

lemma Found.mem_ofFiles_iff {walk : List Found} {names : List String} :
    names ∈ Found.ofFiles walk ↔ ⟨names, .file⟩ ∈ walk := by
  rw [ofFiles, List.mem_map]
  simp only [List.mem_filter, decide_eq_true_eq]
  constructor
  · rintro ⟨⟨_, _⟩, ⟨hmem, rfl⟩, rfl⟩
    exact hmem
  · intro hmem
    exact ⟨_, ⟨hmem, rfl⟩, rfl⟩

lemma Entry.kind_eq_file_iff {e : Entry} : e.kind = .file ↔ ∃ bytes, e = .file bytes := by
  cases e <;> simp [kind]

namespace Tree

variable {t : Tree} {place names : List String}

lemma mem_below_iff {f : Found} :
    f ∈ t.below place ↔ ∃ e, (place ++ f.names, e) ∈ t.entries ∧ e.kind = f.kind := by
  rw [below, List.mem_filterMap]
  simp only [Option.map_eq_some_iff, List.isPrefixOf?_eq_some_iff_append_eq]
  constructor
  · rintro ⟨⟨_, e⟩, hmem, names, rfl, rfl⟩
    exact ⟨e, hmem, rfl⟩
  · rintro ⟨e, hmem, hkind⟩
    exact ⟨_, hmem, f.names, rfl, by rw [hkind]⟩

lemma mem_files_below_iff :
    names ∈ Found.ofFiles (t.below place) ↔ ∃ bytes, (place ++ names, .file bytes) ∈ t.entries := by
  rw [Found.mem_ofFiles_iff, mem_below_iff]
  simp only [Entry.kind_eq_file_iff]
  constructor
  · rintro ⟨_, hmem, bytes, rfl⟩
    exact ⟨bytes, hmem⟩
  · rintro ⟨bytes, hmem⟩
    exact ⟨_, hmem, bytes, rfl⟩

/-- The content of the file at a place. -/
def content (t : Tree) (place : List String) : List UInt8 :=
  match t.entry? place with
  | some (.file bytes) => bytes
  | _ => []

lemma IsSound.content_eq (ht : t.IsSound) {bytes : List UInt8}
    (h : (place, .file bytes) ∈ t.entries) : t.content place = bytes := by
  rw [content, ht.entry?_eq_some_iff.2 h]

/-- Nothing comes twice. -/
lemma IsSound.pairwise_below (ht : t.IsSound) (place : List String) :
    (t.below place).Pairwise fun f g => f.names ≠ g.names := by
  refine (List.pairwise_map.1 ht.nodup).filterMap _ ?_
  intro a b hne f hf g hg hnames
  obtain ⟨names, hplace, rfl⟩ := Option.map_eq_some_iff.1 hf
  obtain ⟨names', hplace', rfl⟩ := Option.map_eq_some_iff.1 hg
  obtain rfl : names = names' := hnames
  rw [List.isPrefixOf?_eq_some_iff_append_eq] at hplace hplace'
  exact hne (hplace.symm.trans hplace')

lemma IsSound.nodup_files_below (ht : t.IsSound) (place : List String) :
    (Found.ofFiles (t.below place)).Nodup :=
  List.pairwise_map.2 ((ht.pairwise_below place).filter _)

end Tree

/-- A file system answers about a directory as a tree of files says, in any order. -/
structure FileSystem.Presents {σ : Type} (fs : FileSystem (StateM σ)) (s : σ) (root : String)
    (t : Tree) (place : List String) : Prop where
  /-- There is a directory. -/
  isDirectory : ((fs.isDirectory root).run s).run = (true, s)
  /-- A walk comes upon everything below it once. -/
  walk : ∃ walk : List Found, walk.Perm (t.below place) ∧
    ((fs.walk root).run s).run = (walk, s)
  /-- The size of every file can be found out. -/
  size : ∀ names bytes, names ≠ [] → (place ++ names, .file bytes) ∈ t.entries →
    ((fs.size (Path.join root names)).run s).run = (.ok bytes.length, s)
  /-- Every file can be read. -/
  read : ∀ names bytes, names ≠ [] → (place ++ names, .file bytes) ∈ t.entries →
    ((fs.read (Path.join root names)).run s).run = (.ok bytes, s)

lemma Tree.IsSound.read_join {t : Tree} (ht : t.IsSound) {root : String} {place names : List String}
    (hroot : t.locate root = .ok (place, some .directory)) (hne : names ≠ []) {bytes : List UInt8}
    (h : (place ++ names, .file bytes) ∈ t.entries) :
    t.read (Path.join root names) = .ok bytes := by
  rw [Tree.read, ht.locate_join hroot hne h (by simp)]
  rfl

/-- A tree of files presents its own directories. -/
lemma Tree.IsSound.presents {t : Tree} (ht : t.IsSound) {root : String} {place : List String}
    (hroot : t.locate root = .ok (place, some .directory)) :
    Tree.system.Presents t root t place where
  isDirectory := by
    simp [Tree.system, Tree.find?, hroot]
  walk := by
    refine ⟨t.below place, List.Perm.refl _, ?_⟩
    simp [Tree.system, hroot]
  size names bytes hne h := by
    simp [Tree.system, ht.read_join hroot hne h, Except.map]
  read names bytes hne h := by
    simp [Tree.system, ht.read_join hroot hne h]

namespace ClassDirectory

/-! ## Order of paths -/

lemma isSortOrder_le : IsSortOrder le :=
  .of_cmp (List.compareLex compare)

lemma eq_of_le_of_le {a b : List String} (hab : le a b) (hba : le b a) : a = b := by
  have hcompare : List.compareLex compare a b = .eq := Std.OrientedCmp.isLE_antisymm hab hba
  exact Std.LawfulEqCmp.eq_of_compare hcompare

/-- Paths are in order if their first names are that differ. -/
lemma lt_of_le_of_ne {a b : List String} (hab : le a b) (hne : a ≠ b) : a < b := by
  induction a generalizing b with
  | nil =>
    cases b with
    | nil => exact absurd rfl hne
    | cons m b => exact List.Lex.nil
  | cons n a ih =>
    cases b with
    | nil => cases hab
    | cons m b =>
      rw [le, List.compareLex_cons_cons] at hab
      cases h : compare n m with
      | lt => exact List.Lex.rel (compare_lt_iff_lt.1 h)
      | gt =>
        rw [h] at hab
        cases hab
      | eq =>
        obtain rfl : n = m := compare_eq_iff_eq.1 h
        rw [h] at hab
        exact List.Lex.cons (ih hab fun h => hne (congrArg (n :: ·) h))

/-! ## Class files of a tree -/

/-- The name is that of a file that should hold a class. -/
structure IsClassName (name : String) : Prop where
  /-- It ends as class files do. -/
  exists_stem : ∃ stem, name = stem ++ ".class"
  /-- It is not that of the descriptor of a module. -/
  ne_module : name ≠ "module-info.class"
  /-- It is not that of the description of a package. -/
  ne_package : name ≠ "package-info.class"

lemma isClassFileName_iff {name : String} : isClassFileName name ↔ IsClassName name := by
  have hstem : ".class".toList.isSuffixOf name.toList ↔ ∃ stem, name = stem ++ ".class" := by
    rw [List.isSuffixOf_iff_suffix]
    constructor
    · rintro ⟨stem, hstem⟩
      refine ⟨String.ofList stem, String.toList_inj.1 ?_⟩
      rw [String.toList_append, String.toList_ofList]
      exact hstem.symm
    · rintro ⟨stem, rfl⟩
      exact ⟨stem.toList, (String.toList_append ..).symm⟩
  rw [isClassFileName, Bool.and_eq_true, Bool.and_eq_true, hstem, bne_iff_ne, bne_iff_ne]
  exact ⟨fun h => ⟨h.1.1, h.1.2, h.2⟩, fun h => ⟨⟨h.exists_stem, h.ne_module⟩, h.ne_package⟩⟩

lemma isClassFile_iff {names : List String} :
    isClassFile names ↔ ∃ before name, names = before ++ [name] ∧ IsClassName name := by
  rw [isClassFile, Option.any_eq_true]
  simp only [List.getLast?_eq_some_iff, isClassFileName_iff]
  constructor
  · rintro ⟨name, ⟨before, rfl⟩, hname⟩
    exact ⟨before, name, rfl, hname⟩
  · rintro ⟨before, name, rfl, hname⟩
    exact ⟨name, ⟨before, rfl⟩, hname⟩

/-- The names lead from a place to a file with a content, and the file should hold a class. -/
structure IsClassFile (t : Tree) (place names : List String) (bytes : List UInt8) : Prop where
  /-- There is a file, which is no link and no directory. -/
  mem_entries : (place ++ names, .file bytes) ∈ t.entries
  /-- Its own name, the last one, is that of a class file. -/
  exists_name : ∃ before name, names = before ++ [name] ∧ IsClassName name

/-- The label is the path that the names make, with slashes only. -/
def IsLabel (names : List String) (label : String) : Prop :=
  label.toList =
    (['/'].intercalate (names.map String.toList)).map fun c => if c = '\\' then '/' else c

lemma isLabel_origin (names : List String) : IsLabel names (origin names) := by
  rw [IsLabel, origin, String.toList_ofList, String.toList_intercalate]
  rfl

/-- The directory has read the class files below a place, except for those that are larger
than a limit. -/
structure AccountsFor (d : ClassDirectory) (t : Tree) (place : List String) (limit : ℕ)
    (files : List (List String × List UInt8)) : Prop where
  /-- The class files come in order of their paths, each once. -/
  pairwise : files.Pairwise fun f g => f.1 < g.1
  /-- They are those below the place, with their contents. -/
  mem_iff : ∀ names bytes, (names, bytes) ∈ files ↔ IsClassFile t place names bytes
  /-- Those up to the limit are the inputs, in this order. -/
  inputs : List.Forall₂ (fun f i => IsLabel f.1 i.origin ∧ i.bytes = f.2)
    (files.filter fun f => f.2.length ≤ limit) d.inputs
  /-- The others are those that are reported, in this order. -/
  malformed : List.Forall₂ (fun f m => IsLabel f.1 m.origin ∧ m.cause = .tooLarge f.2.length limit)
    (files.filter fun f => limit < f.2.length) d.malformed

/-! ## Reading a directory -/

/-- The class files below a place, with their contents. -/
def contents (t : Tree) (place : List String) : List (List String × List UInt8) :=
  (classFiles (t.below place)).map fun names => (names, t.content (place ++ names))

/-- The content of a file that can be read, unless it is larger than the limit. -/
def within (limit : ℕ) (bytes : List UInt8) : Except Rejection (List UInt8) :=
  if limit < bytes.length then .error (.tooLarge bytes.length limit) else .ok bytes

/-- What is found where the class files below a place are read. -/
def ofContents (limit : ℕ) (files : List (List String × List UInt8)) : ClassDirectory :=
  ofResults (files.map fun f => input f.1 (within limit f.2))

section

variable {t : Tree} {place : List String} {root : String} {limit : ℕ}

lemma pairwise_classFiles {walk : List Found} (hnodup : (Found.ofFiles walk).Nodup) :
    (classFiles walk).Pairwise (· < ·) := by
  have hne : (classFiles walk).Nodup :=
    (List.mergeSort_perm _ le).nodup_iff.2 (hnodup.filter isClassFile)
  exact (isSortOrder_le.pairwise_sort _).imp₂ (fun _ _ hle hne => lt_of_le_of_ne hle hne) hne

lemma classFiles_eq_of_perm {walk walk' : List Found} (hp : walk.Perm walk') :
    classFiles walk = classFiles walk' := by
  have hfiles : (Found.ofFiles walk).Perm (Found.ofFiles walk') := (hp.filter _).map _
  exact isSortOrder_le.sort_eq_of_perm (hfiles.filter isClassFile) fun _ _ _ _ hab hba =>
    eq_of_le_of_le hab hba

lemma mem_classFiles_below_iff {names : List String} :
    names ∈ classFiles (t.below place) ↔ ∃ bytes, IsClassFile t place names bytes := by
  rw [classFiles, List.mem_mergeSort, List.mem_filter, Tree.mem_files_below_iff, isClassFile_iff]
  constructor
  · rintro ⟨⟨bytes, hmem⟩, hname⟩
    exact ⟨bytes, hmem, hname⟩
  · rintro ⟨bytes, hmem, hname⟩
    exact ⟨⟨bytes, hmem⟩, hname⟩

lemma mem_contents_iff (ht : t.IsSound) {names : List String} {bytes : List UInt8} :
    (names, bytes) ∈ contents t place ↔ IsClassFile t place names bytes := by
  rw [contents, List.mem_map]
  simp only [mem_classFiles_below_iff]
  constructor
  · rintro ⟨names', ⟨bytes', hfile⟩, heq⟩
    rw [Prod.mk.injEq, ht.content_eq hfile.mem_entries] at heq
    obtain ⟨rfl, rfl⟩ := heq
    exact hfile
  · intro hfile
    exact ⟨names, ⟨bytes, hfile⟩, by rw [ht.content_eq hfile.mem_entries]⟩

lemma inputs_ofContents (limit : ℕ) (files : List (List String × List UInt8)) :
    (ofContents limit files).inputs =
      (files.filter fun f => f.2.length ≤ limit).map fun f => ⟨origin f.1, f.2⟩ := by
  simp only [ofContents, ofResults]
  rw [List.filterMap_map, ← filterMap_ite]
  refine List.filterMap_congr fun f _ => ?_
  by_cases hlimit : f.2.length ≤ limit
  · simp [input, within, hlimit, Nat.not_lt.2 hlimit, Except.toOption]
  · simp [input, within, hlimit, Nat.not_le.1 hlimit, Except.toOption]

lemma malformed_ofContents (limit : ℕ) (files : List (List String × List UInt8)) :
    (ofContents limit files).malformed =
      (files.filter fun f => limit < f.2.length).map fun f =>
        ⟨origin f.1, .tooLarge f.2.length limit⟩ := by
  simp only [ofContents, ofResults]
  rw [List.filterMap_map, ← filterMap_ite]
  refine List.filterMap_congr fun f _ => ?_
  by_cases hlimit : limit < f.2.length
  · simp [input, within, hlimit]
  · simp [input, within, hlimit]

lemma accountsFor_ofContents (ht : t.IsSound) (place : List String) (limit : ℕ) :
    (ofContents limit (contents t place)).AccountsFor t place limit (contents t place) where
  pairwise := List.pairwise_map.2 (pairwise_classFiles (ht.nodup_files_below place))
  mem_iff _ _ := mem_contents_iff ht
  inputs := by
    rw [inputs_ofContents, List.forall₂_map_right_iff, List.forall₂_same]
    exact fun f _ => ⟨isLabel_origin f.1, rfl⟩
  malformed := by
    rw [malformed_ofContents, List.forall₂_map_right_iff, List.forall₂_same]
    exact fun f _ => ⟨isLabel_origin f.1, rfl⟩

lemma run_mapM {σ α β : Type} {f : α → StateM σ β} {g : α → β} {s : σ} {l : List α}
    (h : ∀ a ∈ l, ((f a).run s).run = (g a, s)) : ((l.mapM f).run s).run = (l.map g, s) := by
  induction l with
  | nil => rfl
  | cons a l ih =>
    rw [List.forall_mem_cons] at h
    simp [h.1, ih h.2]

section

variable {σ : Type} {fs : FileSystem (StateM σ)} {s : σ}

/-- The size of a file decides whether its content is asked for. -/
lemma run_contentWithin {path : String} {bytes : List UInt8}
    (hsize : ((fs.size path).run s).run = (.ok bytes.length, s))
    (hread : ((fs.read path).run s).run = (.ok bytes, s)) (limit : ℕ) :
    ((contentWithin fs limit path).run s).run = (within limit bytes, s) := by
  by_cases hlimit : limit < bytes.length
  · simp [contentWithin, within, hsize, hlimit]
  · simp [contentWithin, within, hsize, hread, hlimit, Except.mapError]

/-- Whatever presents a directory, the same is found. -/
lemma run_read (ht : t.IsSound) (hfs : fs.Presents s root t place) (limit : ℕ) :
    ((read fs root limit).run s).run = (.ok (ofContents limit (contents t place)), s) := by
  obtain ⟨walk, hperm, hwalk⟩ := hfs.walk
  have hcontent : ∀ names ∈ classFiles walk,
      ((contentWithin fs limit (Path.join root names)).run s).run =
        (within limit (t.content (place ++ names)), s) := by
    intro names hnames
    rw [classFiles_eq_of_perm hperm] at hnames
    obtain ⟨bytes, hfile⟩ := mem_classFiles_below_iff.1 hnames
    have hne : names ≠ [] := by
      obtain ⟨before, name, rfl, -⟩ := hfile.exists_name
      simp
    rw [ht.content_eq hfile.mem_entries]
    exact run_contentWithin (hfs.size names bytes hne hfile.mem_entries)
      (hfs.read names bytes hne hfile.mem_entries) limit
  have hclasses := classFiles_eq_of_perm hperm
  have hresults := run_mapM (l := classFiles walk) (s := s)
    (f := fun names => input names <$> contentWithin fs limit (Path.join root names))
    (g := fun names => input names (within limit (t.content (place ++ names))))
    fun names hnames => by simp [hcontent names hnames]
  rw [hclasses] at hresults
  simp [read, hfs.isDirectory, hwalk, hclasses, hresults, ofContents, contents, Function.comp_def]

end

/-- **Directories of classes are read completely.**  A path leads to a directory of a tree of files.
Then each class file below the directory is an input with its whole content if it is no larger than
the limit, and is reported with its size if it is, under the names that lead to it; there is nothing
else, and both come in the order of these names.  Any file system that has the same below the
directory gives the same, in whatever order it comes upon the files. -/
theorem read_accountsFor (ht : t.IsSound) (hroot : t.locate root = .ok (place, some .directory))
    (limit : ℕ) :
    ∃ d files, d.AccountsFor t place limit files ∧
      ((read Tree.system root limit).run t).run = (.ok d, t) ∧
      ∀ {σ : Type} (fs : FileSystem (StateM σ)) (s : σ), fs.Presents s root t place →
        ((read fs root limit).run s).run = (.ok d, s) :=
  ⟨_, _, accountsFor_ofContents ht place limit, run_read ht (ht.presents hroot) limit,
    fun _ _ hfs => run_read ht hfs limit⟩

end

/-- A directory `out` with a link, a descriptor of a module and three class files in it. -/
def scattered : Tree where
  entries := [([], .directory), (["out", "a-b", "X.class"], .file [1, 2, 3, 4, 5]),
    (["out", "L.class"], .link "a/X.class"), (["out"], .directory),
    (["out", "b", "Y.class"], .file [6]),
    (["out", "module-info.class"], .file [7]), (["out", "a", "X.class"], .file [1, 2, 3, 4]),
    (["out", "a"], .directory), (["out", "b"], .directory), (["out", "a-b"], .directory)]
  current := []

/-- The file system that walks the other way round. -/
def backwards : FileSystem (StateM Tree) :=
  { Tree.system with walk := fun root => List.reverse <$> Tree.system.walk root }

theorem read_accountsFor_scattered :
    scattered.IsSound ∧ scattered.locate "out" = .ok (["out"], some .directory) ∧
      backwards.Presents scattered "out" scattered ["out"] ∧
      ∃ d files, d.AccountsFor scattered ["out"] 4 files ∧
        ((read Tree.system "out" 4).run scattered).run = (.ok d, scattered) ∧
        ((read backwards "out" 4).run scattered).run = (.ok d, scattered) := by
  have hsound : scattered.IsSound := by
    have hnames : ∀ e ∈ scattered.entries, ∀ name ∈ e.1,
        name ≠ "" ∧ name ≠ "." ∧ name ≠ ".." ∧ '/' ∉ name.toList := by decide
    refine ⟨by decide, by decide, fun e he name hname => ?_⟩
    obtain ⟨hempty, hdot, hdots, hslash⟩ := hnames e he name hname
    exact ⟨hempty, hdot, hdots, hslash⟩
  have hroot : scattered.locate "out" = .ok (["out"], some .directory) := by
    have hparts : Path.parts "out" = ["out"] := by decide
    simp [Tree.locate, hparts, Tree.follow, scattered, Tree.entry?, List.lookup_cons,
      Path.isAbsolute]
  have hback : backwards.Presents scattered "out" scattered ["out"] := by
    obtain ⟨hdirectory, ⟨walk, hperm, hwalk⟩, hsize, hread⟩ := hsound.presents hroot
    refine ⟨hdirectory, ⟨walk.reverse, walk.reverse_perm.trans hperm, ?_⟩, hsize, hread⟩
    simp [backwards, hwalk]
  obtain ⟨d, files, hd, hread, hsame⟩ := read_accountsFor hsound hroot 4
  exact ⟨hsound, hroot, hback, d, files, hd, hread, hsame backwards scattered hback⟩

end ClassDirectory

end PluginFacts
