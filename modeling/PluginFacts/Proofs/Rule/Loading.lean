/-
# Rules that are loaded

A table of rules is made of what rule files say, file after file and rule after rule: names of
targets are put in order, ids are made up where they are missing, and shapes that say nothing are
dropped (`RuleEntry.Becomes`).  Then it is either sound or it has a first faulty rule
(`ofFiles_eq_ok_iff`, `ofFiles_eq_error_iff`), so what comes of some files does not depend on where
one of them ends and the next one begins.
-/
import Mathlib.Data.List.DropRight
import PluginFacts.Files.Tree
import PluginFacts.Proofs.Match.RuleChoice
import PluginFacts.Rule.Source

namespace PluginFacts

/-! ## Trimmed texts -/

namespace Text

/-- The second text is the first one without the blanks at its ends. -/
structure IsTrimmed (s t : String) : Prop where
  /-- Only blanks are missing. -/
  exists_eq : ∃ left right, s.toList = left ++ t.toList ++ right ∧ ∀ c ∈ left ++ right, isBlank c
  /-- It does not begin with a blank. -/
  head : ∀ c ∈ t.toList.head?, ¬isBlank c
  /-- It does not end with a blank. -/
  last : ∀ c ∈ t.toList.getLast?, ¬isBlank c

lemma trimWhere_eq_rdropWhile (p : Char → Bool) (l : List Char) :
    trimWhere p l = (l.dropWhile p).rdropWhile p :=
  rfl

lemma isTrimmed_trim (s : String) : IsTrimmed s (trim s) where
  exists_eq := by
    refine ⟨s.toList.takeWhile isBlank, (s.toList.dropWhile isBlank).rtakeWhile isBlank, ?_, ?_⟩
    · rw [trim, String.toList_ofList, trimWhere_eq_rdropWhile, List.append_assoc,
        List.rdropWhile_append_rtakeWhile, List.takeWhile_append_dropWhile]
    · intro c hc
      rcases List.mem_append.1 hc with hc | hc
      · exact List.mem_takeWhile_imp hc
      · exact List.mem_rtakeWhile_imp hc
  head := by
    intro c hc
    rw [trim, String.toList_ofList, trimWhere_eq_rdropWhile] at hc
    have hprefix : [c] <+: s.toList.dropWhile isBlank :=
      (List.singleton_prefix_iff_head?_eq_some.2 hc).trans (List.rdropWhile_prefix isBlank _)
    have hhead := List.head?_dropWhile_not isBlank s.toList
    rw [List.singleton_prefix_iff_head?_eq_some.1 hprefix] at hhead
    simpa using hhead
  last := by
    intro c hc
    rw [trim, String.toList_ofList, trimWhere_eq_rdropWhile] at hc
    obtain ⟨hne, rfl⟩ := List.mem_getLast?_eq_getLast hc
    exact List.rdropWhile_last_not _ _ hne

lemma isBlankText_iff {s : String} : isBlankText s ↔ ∀ c ∈ s.toList, isBlank c :=
  List.all_eq_true

end Text

/-! ## Entries -/

lemma MemberPredicate.isEmpty_iff {p : MemberPredicate} : p.isEmpty ↔ p = {} := by
  rcases p with ⟨_ | _, _ | _, _ | _, _ | _⟩ <;> simp [isEmpty]

namespace RuleEntry

/-- What an entry of a rule file becomes. -/
structure Becomes (e : RuleEntry) (r : Rule) : Prop where
  /-- The target is trimmed and has dots for its slashes. -/
  target : ∃ name, Text.IsTrimmed e.target name ∧ r.target = ClassFile.dotted name
  /-- An id that is not blank stays as it is. -/
  id_of_some : ∀ id, e.id = some id → ¬(∀ c ∈ id.toList, Text.isBlank c) → r.id = id
  /-- An id that is missing is made of the capability and the target. -/
  id_of_none : e.id = none → r.id = e.capability.name ++ "/" ++ r.target
  /-- So is an id that is blank. -/
  id_of_blank : ∀ id, e.id = some id → (∀ c ∈ id.toList, Text.isBlank c) →
    r.id = e.capability.name ++ "/" ++ r.target
  /-- The capability stays. -/
  capability : r.capability = e.capability
  /-- The description stays. -/
  description : r.description = e.description
  /-- A shape stays if it mentions something. -/
  members : ∀ p, r.members = some p ↔ e.members = some p ∧ p ≠ {}

lemma ruleId_of_some {e : RuleEntry} {id : String} (he : e.id = some id) :
    e.ruleId =
      if Text.isBlankText id then e.capability.name ++ "/" ++ e.targetName else id := by
  rw [ruleId, he, Option.filter_some]
  cases Text.isBlankText id <;> rfl

lemma becomes_toRule (e : RuleEntry) : e.Becomes e.toRule where
  target := ⟨Text.trim e.target, Text.isTrimmed_trim e.target, rfl⟩
  id_of_some id he hblank := by
    show e.ruleId = id
    rw [ruleId_of_some he, if_neg (mt Text.isBlankText_iff.1 hblank)]
  id_of_none he := by
    show e.ruleId = _
    rw [ruleId, he]
    rfl
  id_of_blank id he hblank := by
    show e.ruleId = _
    rw [ruleId_of_some he, if_pos (Text.isBlankText_iff.2 hblank)]
    rfl
  capability := rfl
  description := rfl
  members p := by
    show e.members.filter (!·.isEmpty) = some p ↔ _
    rw [Option.filter_eq_some_iff, Bool.not_eq_true', Bool.eq_false_iff, Ne,
      MemberPredicate.isEmpty_iff]

end RuleEntry

/-! ## Faults -/

/-- What is wrong with a rule that comes after rules with the given ids. -/
inductive Rule.HasFault (ids : List String) (r : Rule) : RuleFault → Prop
  /-- It has no target. -/
  | emptyTarget : r.target = "" → HasFault ids r (.emptyTarget r.id)
  /-- It has a target, but the id of a rule before. -/
  | duplicateId : r.target ≠ "" → r.id ∈ ids → HasFault ids r (.duplicateId r.id)

lemma Rule.HasFault.mono {ids ids' : List String} {r : Rule} {f : RuleFault}
    (hr : r.HasFault ids f) (hids : ids ⊆ ids') : r.HasFault ids' f := by
  cases hr with
  | emptyTarget htarget => exact .emptyTarget htarget
  | duplicateId htarget hid => exact .duplicateId htarget (hids hid)

namespace RuleTable

/-- The fault is that of the first rule that has one. -/
def IsFirstFault (rs : List Rule) (f : RuleFault) : Prop :=
  ∃ before r after, rs = before ++ r :: after ∧ IsSound before ∧ r.HasFault (before.map (·.id)) f

lemma faultAfter_eq_some_iff {seen : List String} {rs : List Rule} {f : RuleFault} :
    faultAfter seen rs = some f ↔ ∃ before r after, rs = before ++ r :: after ∧
      faultAfter seen before = none ∧ r.HasFault (before.map (·.id) ++ seen) f := by
  constructor
  · intro hf
    induction rs generalizing seen with
    | nil => cases hf
    | cons r rs ih =>
      rw [faultAfter] at hf
      split_ifs at hf with htarget hid
      · cases hf
        exact ⟨[], r, rs, rfl, rfl, .emptyTarget (String.isEmpty_iff.1 htarget)⟩
      · cases hf
        exact ⟨[], r, rs, rfl, rfl, .duplicateId (mt String.isEmpty_iff.2 htarget) hid⟩
      · obtain ⟨before, r', after, rfl, hnone, hr'⟩ := ih hf
        refine ⟨r :: before, r', after, rfl, ?_, hr'.mono List.perm_middle.subset⟩
        rw [faultAfter, if_neg htarget, if_neg hid, hnone]
  · rintro ⟨before, r, after, rfl, hnone, hr⟩
    induction before generalizing seen with
    | nil =>
      rw [List.map_nil, List.nil_append] at hr
      rw [List.nil_append, faultAfter]
      cases hr with
      | emptyTarget htarget => rw [if_pos (String.isEmpty_iff.2 htarget)]
      | duplicateId htarget hid => rw [if_neg (mt String.isEmpty_iff.1 htarget), if_pos hid]
    | cons b before ih =>
      rw [faultAfter] at hnone
      split_ifs at hnone with htarget hid
      rw [List.cons_append, faultAfter, if_neg htarget, if_neg hid]
      exact ih hnone (hr.mono List.perm_middle.symm.subset)

lemma fault?_eq_some_iff {t : RuleTable} {f : RuleFault} :
    t.fault? = some f ↔ IsFirstFault t.rules f := by
  rw [fault?, faultAfter_eq_some_iff, IsFirstFault]
  refine exists_congr fun before => exists_congr fun r => exists_congr fun after => ?_
  rw [List.append_nil, ← fault?_eq_none_iff (t := { rules := before })]
  rfl

/-! ## Tables from rule files -/

variable {files : List RuleFile}

/-- What rule files say, sound or not. -/
def written (files : List RuleFile) : RuleTable where
  rules := (files.flatMap (·.rules)).map RuleEntry.toRule
  externalTypes := files.flatMap (·.externalTypes)

/-- A table says in order what rule files say. -/
structure IsWritten (files : List RuleFile) (t : RuleTable) : Prop where
  /-- The rules are the entries of the first file, then those of the second, and so on. -/
  rules : List.Forall₂ RuleEntry.Becomes (files.flatMap (·.rules)) t.rules
  /-- No rule has a shape that says nothing. -/
  members_ne : ∀ r ∈ t.rules, r.members ≠ some {}
  /-- Expected are the targets and then what the files list. -/
  knownTypes : t.knownTypes = t.rules.map (·.target) ++ files.flatMap (·.externalTypes)

lemma isWritten_written (files : List RuleFile) : IsWritten files (written files) where
  rules := by
    rw [written, List.forall₂_map_right_iff, List.forall₂_same]
    exact fun e _ => RuleEntry.becomes_toRule e
  members_ne := by
    intro r hr hmembers
    obtain ⟨e, -, rfl⟩ := List.mem_map.1 hr
    exact (((RuleEntry.becomes_toRule e).members {}).1 hmembers).2 rfl
  knownTypes := rfl

lemma ofFiles_eq_validated (files : List RuleFile) : ofFiles files = (written files).validated := by
  rw [ofFiles, written, List.map_flatMap]

lemma ofFiles_eq_ok_iff {t : RuleTable} :
    ofFiles files = .ok t ↔ IsSound (written files).rules ∧ t = written files := by
  rw [ofFiles_eq_validated, ← fault?_eq_none_iff, validated]
  cases (written files).fault? with
  | none => simp [eq_comm]
  | some f => simp

lemma ofFiles_eq_error_iff {f : RuleFault} :
    ofFiles files = .error f ↔ IsFirstFault (written files).rules f := by
  rw [ofFiles_eq_validated, ← fault?_eq_some_iff, validated]
  cases (written files).fault? with
  | none => simp
  | some f' => simp

/-- One rule file with what several ones say. -/
def merged (files : List RuleFile) : RuleFile where
  externalTypes := files.flatMap (·.externalTypes)
  rules := files.flatMap (·.rules)

lemma ofFiles_merged (files : List RuleFile) : ofFiles [merged files] = ofFiles files := by
  simp [ofFiles_eq_validated, written, merged]

/-! ## File systems -/

/-- A path of a file system leads to the files with these contents. -/
def LeadsTo {σ : Type} (fs : FileSystem (StateM σ)) (s : σ) (path : String)
    (files : List RuleFile) : Prop :=
  ∃ paths, ((rulePaths fs path).run s).run = (paths, s) ∧
    List.Forall₂ (fun p file => ((readFile fs p).run s).run = (.ok file, s)) paths files

section

variable {σ : Type} {fs : FileSystem (StateM σ)} {s : σ} {path : String}

lemma run_readFiles {paths : List String}
    (hpaths :
      List.Forall₂ (fun p file => ((readFile fs p).run s).run = (.ok file, s)) paths files) :
    ((readFiles fs paths).run s).run = ((paths, .ok files), s) := by
  induction hpaths with
  | nil => rfl
  | cons hfile _ ih => simp [readFiles, hfile, ih, Except.map]

lemma LeadsTo.run_read (hpath : LeadsTo fs s path files) :
    ((read fs path).run s).run =
      (if files = [] then .error (.noFiles path) else (ofFiles files).mapError .faulty, s) := by
  obtain ⟨paths, hrun, hpaths⟩ := hpath
  cases hpaths with
  | nil => simp [read, readWithPaths, hrun]
  | cons hfile hfiles =>
    simp [read, readWithPaths, hrun, run_readFiles (hfiles.cons hfile), Except.bind]

end

/-- **Rule tables are what rule files say.**  The table of some rule files has their entries as its
rules, in order, with targets, ids and shapes put in order.  It is there if and only if these rules
have targets and different ids, and otherwise the fault is that of the first rule for which this is
not so; it makes no difference how the entries are divided among the files.  If a path leads to the
files, this is what is read from it, except that there has to be a file. -/
theorem read_iff_isSound (files : List RuleFile) :
    IsWritten files (written files) ∧
      (∀ t, ofFiles files = .ok t ↔ IsSound (written files).rules ∧ t = written files) ∧
      (∀ f, ofFiles files = .error f ↔ IsFirstFault (written files).rules f) ∧
      ofFiles [merged files] = ofFiles files ∧
      ∀ {σ : Type} (fs : FileSystem (StateM σ)) (s : σ) (path : String), LeadsTo fs s path files →
        ((read fs path).run s).run =
          (if files = [] then .error (.noFiles path) else (ofFiles files).mapError .faulty, s) :=
  ⟨isWritten_written files, fun _ => ofFiles_eq_ok_iff, fun _ => ofFiles_eq_error_iff,
    ofFiles_merged files, fun _ _ _ hpath => hpath.run_read⟩

/-- A file system in which there is a directory without files. -/
def bareDirectory : Tree where
  entries := [([], .directory), (["rules"], .directory)]
  current := []

/-- A directory without rule files is refused, although no rule is at fault. -/
theorem read_bareDirectory :
    LeadsTo Tree.system bareDirectory "rules" [] ∧ IsSound (written []).rules ∧
      ∀ t, ((read Tree.system "rules").run bareDirectory).run.1 ≠ .ok t := by
  have hplace : bareDirectory.locate "rules" = .ok (["rules"], some .directory) := by
    have hparts : Path.parts "rules" = ["rules"] := by decide
    simp [Tree.locate, hparts, Tree.follow, bareDirectory, Tree.entry?, List.lookup_cons,
      Path.isAbsolute]
  have hfiles : Found.ofFiles (bareDirectory.below ["rules"]) = [] := rfl
  have hpath : LeadsTo Tree.system bareDirectory "rules" [] := by
    refine ⟨[], ?_, .nil⟩
    simp [rulePaths, Tree.system, Tree.find?, hplace, hfiles]
  refine ⟨hpath, ⟨by simp [written], by simp [written]⟩, fun t => ?_⟩
  rw [hpath.run_read]
  simp

/-- The text of a rule file with a rule that has no id and a shape that says nothing. -/
def ruleText : String := "rules:\n- target: ' x/A'\n  kind: entry_point\n  member: \x7b\x7d"

/-- What the file says. -/
def ruleFile : RuleFile where
  externalTypes := []
  rules := [⟨none, " x/A", .entryPoint, "", some {}⟩]

/-- A file system in which there is one file. -/
def oneFile (bytes : List UInt8) : Tree where
  entries := [([], .directory), (["a.yml"], .file bytes)]
  current := []

lemma run_readFile_system {t : Tree} {path text : String} {bytes : List UInt8} {file : RuleFile}
    {place : List String} (hplace : t.locate path = .ok (place, some (.file bytes)))
    (hbytes : Text.Utf8.decode? bytes = some text) (htext : RuleFile.ofText? text = some file) :
    ((readFile Tree.system path).run t).run = (.ok file, t) := by
  have hread : t.read path = .ok bytes := by
    rw [Tree.read, hplace]
    rfl
  simp [readFile, FileSystem.readText, Tree.system, hread, hbytes, htext]

lemma leadsTo_oneFile {bytes : List UInt8} (hbytes : Text.Utf8.decode? bytes = some ruleText) :
    LeadsTo Tree.system (oneFile bytes) "a.yml" [ruleFile] := by
  have hplace : (oneFile bytes).locate "a.yml" = .ok (["a.yml"], some (.file bytes)) := by
    have hparts : Path.parts "a.yml" = ["a.yml"] := by decide
    simp [Tree.locate, hparts, Tree.follow, oneFile, Tree.entry?, List.lookup_cons, Path.isAbsolute]
  refine ⟨["a.yml"], ?_, .cons (run_readFile_system hplace hbytes (by decide +kernel)) .nil⟩
  simp [rulePaths, Tree.system, Tree.find?, hplace]

theorem read_oneFile :
    ((read Tree.system "a.yml").run (oneFile ruleText.toUTF8.toList)).run.1 =
      .ok { rules :=
              [{ id := "entry_point/x.A", target := "x.A", capability := .entryPoint }] } := by
  obtain ⟨-, hok, -, -, hread⟩ := read_iff_isSound [ruleFile]
  have hsound : IsSound (written [ruleFile]).rules := ⟨by decide, by decide⟩
  have hbytes : Text.Utf8.decode? ruleText.toUTF8.toList = some ruleText := by decide +kernel
  rw [hread _ _ _ (leadsTo_oneFile hbytes), (hok _).2 ⟨hsound, rfl⟩]
  rfl

end RuleTable
end PluginFacts
