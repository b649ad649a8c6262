/-
# The search for a circle

What the depth-first search of `Hierarchy.cycle?` finds, for any links between numbered nodes.  The
nodes fall into three kinds at any time of the search, the fresh ones, the ones on the path and the
finished ones, and `Inv` says what is known of them:

* the path follows links, and comes to no node twice;
* a link of a node on the path that was followed leads to a finished node, unless it is the link by
  which the path goes on;
* links from finished nodes lead to finished nodes, and there is no circle among these.

Every step keeps this up (`Inv.of_step`).  A search that ends without a result has finished all
nodes, so that there is no circle; one that ends with a result has come back to its path, and the
part of the path from there on is a circle (`Inv.run`).  That the search ends, and after how many
steps, is said by `exists_after_eq_run`.
-/
import Mathlib.Data.List.Chain
import Mathlib.Data.List.Nodup
import Mathlib.Logic.Relation
import PluginFacts.Hierarchy.Cycle

namespace PluginFacts

/-- A list of different elements, each related to the next one and the last one to the first. -/
def IsCircle {α : Type} (R : α → α → Prop) (l : List α) : Prop :=
  l.Nodup ∧ ∃ a l', l = a :: l' ∧ List.IsChain R (a :: l' ++ [a])

namespace Hierarchy.Search

variable {next : ℕ → List ℕ} {s t : Search} {v w : ℕ}

/-! ## What a step does -/

/-- The steps that lead to another search. -/
inductive Step (next : ℕ → List ℕ) : Search → Search → Prop where
  /-- The path was left, and the search starts again from a fresh node. -/
  | start (id : ℕ) (fresh : List ℕ) :
      Step next ⟨id :: fresh, []⟩ ⟨fresh, [(id, next id)]⟩
  /-- All links of the nearest node were followed. -/
  | leave (id : ℕ) (fresh : List ℕ) (path : List (ℕ × List ℕ)) :
      Step next ⟨fresh, (id, []) :: path⟩ ⟨fresh, path⟩
  /-- A link leads to a fresh node. -/
  | enter {id link : ℕ} {fresh links : List ℕ} {path : List (ℕ × List ℕ)} (hlink : link ∈ fresh) :
      Step next ⟨fresh, (id, link :: links) :: path⟩
        ⟨fresh.erase link, (link, next link) :: (id, links) :: path⟩
  /-- A link leads to a finished node. -/
  | skip {id link : ℕ} {fresh links : List ℕ} {path : List (ℕ × List ℕ)} (hfresh : link ∉ fresh)
      (hpath : link ∉ id :: path.map (·.1)) :
      Step next ⟨fresh, (id, link :: links) :: path⟩ ⟨fresh, (id, links) :: path⟩

/-- The steps that end a search. -/
inductive Stop : Search → Option (List ℕ) → Prop where
  /-- All nodes are finished. -/
  | done : Stop ⟨[], []⟩ none
  /-- A link leads back to the path. -/
  | back {id link : ℕ} {fresh links : List ℕ} {path : List (ℕ × List ℕ)}
      (hpath : link ∈ id :: path.map (·.1)) :
      Stop ⟨fresh, (id, link :: links) :: path⟩
        (some (link :: ((id :: path.map (·.1)).takeWhile (· ≠ link)).reverse))

lemma step_eq_inl (h : step next s = .inl t) : Step next s t := by
  unfold step at h
  split at h
  · cases h
  · cases h; exact .start _ _
  · cases h; exact .leave _ _ _
  · split at h
    · next hlink => cases h; exact .enter hlink
    · next hfresh =>
      dsimp only at h
      split at h
      · cases h
      · next hpath => cases h; exact .skip hfresh hpath

lemma step_eq_inr {result : Option (List ℕ)} (h : step next s = .inr result) : Stop s result := by
  unfold step at h
  split at h
  · cases h; exact .done
  · cases h
  · cases h
  · split at h
    · cases h
    · dsimp only at h
      split at h
      · next hpath => cases h; exact .back hpath
      · cases h

/-! ## The search ends -/

/-- What a search has come to after some steps: another search, or the result if there is one by
then. -/
def after (next : ℕ → List ℕ) : (n : ℕ) → Search → Search ⊕ Option (List ℕ)
  | 0, s => .inl s
  | n + 1, s =>
    match step next s with
    | .inl t => after next n t
    | .inr result => .inr result

/-- A search has its result after as many steps as there is work left, and one more. -/
theorem exists_after_eq_run (next : ℕ → List ℕ) (s : Search) :
    ∃ n ≤ s.work next + 1, after next n s = .inr (run next s) := by
  induction s using run.induct next with
  | case1 s t h ih =>
    obtain ⟨n, hn, hafter⟩ := ih
    have hwork := work_step h
    refine ⟨n + 1, by omega, ?_⟩
    rw [after, run, h]
    exact hafter
  | case2 s result h =>
    refine ⟨1, by omega, ?_⟩
    rw [after, run, h]

/-! ## The invariant -/

/-- The node is neither fresh nor on the path. -/
def Finished (s : Search) (v : ℕ) : Prop :=
  v ∉ s.fresh ∧ v ∉ s.nodes

/-- What is known of a path, given the nodes that are finished and the node that the path
goes on to. -/
def Trail (next : ℕ → List ℕ) (done : ℕ → Prop) : (above : Option ℕ) → List (ℕ × List ℕ) → Prop
  | _, [] => True
  | above, (v, links) :: path =>
    (∀ w ∈ links, w ∈ next v) ∧ (∀ w ∈ above, w ∈ next v) ∧
      (∀ w ∈ next v, w ∈ links ∨ done w ∨ w ∈ above) ∧ Trail next done (some v) path

/-- What is known at any time of a search. -/
structure Inv (next : ℕ → List ℕ) (s : Search) : Prop where
  /-- No node is fresh twice. -/
  fresh_nodup : s.fresh.Nodup
  /-- No node is on the path twice. -/
  nodes_nodup : s.nodes.Nodup
  /-- The nodes on the path are not fresh. -/
  not_fresh : ∀ v ∈ s.nodes, v ∉ s.fresh
  /-- The path follows links, and the other links that were followed lead to finished nodes. -/
  trail : Trail next s.Finished none s.path
  /-- Links from finished nodes lead to finished nodes. -/
  closed : ∀ v, s.Finished v → ∀ w ∈ next v, s.Finished w
  /-- No finished node is on a circle. -/
  acyclic : ∀ v, s.Finished v → ¬ Relation.TransGen (fun a b => b ∈ next a) v v

namespace Trail

variable {done done' : ℕ → Prop} {above : Option ℕ} {path : List (ℕ × List ℕ)}

lemma mono (hdone : ∀ w, done w → done' w) (h : Trail next done above path) :
    Trail next done' above path := by
  induction path generalizing above with
  | nil => trivial
  | cons p path ih =>
    obtain ⟨hlinks, habove, hnext, hrest⟩ := h
    refine ⟨hlinks, habove, ?_, ih hrest⟩
    intro w hw
    rcases hnext w hw with hw | hw | hw
    · exact Or.inl hw
    · exact Or.inr (Or.inl (hdone w hw))
    · exact Or.inr (Or.inr hw)

/-- When the node that a path goes on to is finished, the path ends before it. -/
lemma leave (hdone : ∀ w, done w → done' w) (hv : done' v) (h : Trail next done (some v) path) :
    Trail next done' none path := by
  cases path with
  | nil => trivial
  | cons p path =>
    obtain ⟨hlinks, habove, hnext, hrest⟩ := h
    refine ⟨hlinks, by simp, ?_, hrest.mono hdone⟩
    intro w hw
    rcases hnext w hw with hw | hw | hw
    · exact Or.inl hw
    · exact Or.inr (Or.inl (hdone w hw))
    · obtain rfl : v = w := by simpa using hw
      exact Or.inr (Or.inl hv)

/-- Read from its nearest node on, a path goes against the links. -/
lemma isChain (h : Trail next done above path) :
    List.IsChain (fun a b => a ∈ next b) (above.toList ++ path.map (·.1)) := by
  induction path generalizing above with
  | nil => cases above <;> simp
  | cons p path ih =>
    obtain ⟨-, habove, -, hrest⟩ := h
    have hchain := ih hrest
    cases above with
    | none => simpa using hchain
    | some a =>
      rw [Option.toList_some, List.singleton_append] at hchain ⊢
      exact List.isChain_cons_cons.2 ⟨habove a rfl, hchain⟩

end Trail

namespace Inv

/-- Links from finished nodes never lead out of these. -/
lemma finished_of_reflTransGen (h : Inv next s) (hv : s.Finished v)
    (hvw : Relation.ReflTransGen (fun a b => b ∈ next a) v w) : s.Finished w := by
  induction hvw with
  | refl => exact hv
  | tail _ hw ih => exact h.closed _ ih _ hw

/-- A step that finishes no node only changes what is known of the path. -/
lemma of_finished_iff (h : Inv next s) (hfin : ∀ v, t.Finished v ↔ s.Finished v)
    (hfresh : t.fresh.Nodup) (hnodes : t.nodes.Nodup) (hnot : ∀ v ∈ t.nodes, v ∉ t.fresh)
    (htrail : Trail next s.Finished none t.path) : Inv next t where
  fresh_nodup := hfresh
  nodes_nodup := hnodes
  not_fresh := hnot
  trail := htrail.mono fun w hw => (hfin w).2 hw
  closed v hv w hw := (hfin w).2 (h.closed v ((hfin v).1 hv) w hw)
  acyclic v hv := h.acyclic v ((hfin v).1 hv)

lemma of_start {id : ℕ} {fresh : List ℕ} (h : Inv next ⟨id :: fresh, []⟩) :
    Inv next ⟨fresh, [(id, next id)]⟩ := by
  have hid := List.nodup_cons.1 h.fresh_nodup
  refine h.of_finished_iff ?_ hid.2 (by simp [nodes]) ?_ ?_
  · intro v
    simp only [Finished, nodes, List.map_nil, List.map_cons, List.mem_cons]
    tauto
  · simpa [nodes] using hid.1
  · exact ⟨fun w hw => hw, by simp, fun w hw => Or.inl hw, trivial⟩

/-- The finished nodes after the nearest node of the path was left. -/
lemma finished_leave_iff {id : ℕ} {fresh : List ℕ} {path : List (ℕ × List ℕ)}
    (h : Inv next ⟨fresh, (id, []) :: path⟩) (w : ℕ) :
    Finished ⟨fresh, path⟩ w ↔ w = id ∨ Finished ⟨fresh, (id, []) :: path⟩ w := by
  have hid := List.nodup_cons.1 h.nodes_nodup
  have hidfresh : id ∉ fresh := h.not_fresh id (by simp [nodes])
  constructor
  · intro hw
    by_cases hwid : w = id
    · exact Or.inl hwid
    · refine Or.inr ⟨hw.1, ?_⟩
      intro hmem
      rcases List.mem_cons.1 hmem with hmem | hmem
      · exact hwid hmem
      · exact hw.2 hmem
  · rintro (rfl | hw)
    · exact ⟨hidfresh, hid.1⟩
    · exact ⟨hw.1, fun hmem => hw.2 (List.mem_cons_of_mem id hmem)⟩

/-- Leaving a node finishes it, and all its links lead to finished nodes by then. -/
lemma of_leave {id : ℕ} {fresh : List ℕ} {path : List (ℕ × List ℕ)}
    (h : Inv next ⟨fresh, (id, []) :: path⟩) : Inv next ⟨fresh, path⟩ := by
  obtain ⟨-, -, hnext, hrest⟩ := h.trail
  have hfin := h.finished_leave_iff
  have hmono : ∀ w, Finished ⟨fresh, (id, []) :: path⟩ w → Finished ⟨fresh, path⟩ w :=
    fun w hw => (hfin w).2 (Or.inr hw)
  have hlinks : ∀ w ∈ next id, Finished ⟨fresh, (id, []) :: path⟩ w := by
    intro w hw
    rcases hnext w hw with hw | hw | hw
    · exact absurd hw List.not_mem_nil
    · exact hw
    · exact absurd hw (by simp)
  refine ⟨h.fresh_nodup, (List.nodup_cons.1 h.nodes_nodup).2, ?_,
    hrest.leave hmono ((hfin id).2 (Or.inl rfl)), ?_, ?_⟩
  · intro v hv
    exact h.not_fresh v (List.mem_cons_of_mem id hv)
  · intro v hv w hw
    rcases (hfin v).1 hv with rfl | hv
    · exact hmono w (hlinks w hw)
    · exact hmono w (h.closed v hv w hw)
  · intro v hv hcircle
    rcases (hfin v).1 hv with rfl | hv
    · -- a circle through the node would lead through finished nodes only
      obtain ⟨w, hw, hwv⟩ := Relation.TransGen.head'_iff.1 hcircle
      exact (h.finished_of_reflTransGen (hlinks w hw) hwv).2 (by simp [nodes])
    · exact h.acyclic v hv hcircle

lemma of_enter {id link : ℕ} {fresh links : List ℕ} {path : List (ℕ × List ℕ)}
    (h : Inv next ⟨fresh, (id, link :: links) :: path⟩) (hlink : link ∈ fresh) :
    Inv next ⟨fresh.erase link, (link, next link) :: (id, links) :: path⟩ := by
  obtain ⟨hlinks, -, hnext, hrest⟩ := h.trail
  have hnot : link ∉ id :: path.map (·.1) := fun hmem => h.not_fresh link hmem hlink
  have hfresh : fresh.Nodup := h.fresh_nodup
  -- the node goes from the fresh ones to the path, so no other node is finished by that
  refine h.of_finished_iff ?_ (hfresh.erase link) ?_ ?_ ?_
  · intro v
    simp only [Finished, nodes, List.map_cons, List.mem_cons, hfresh.mem_erase_iff]
    constructor
    · rintro ⟨h1, h2⟩
      refine ⟨fun hv => h1 ⟨fun hv' => h2 (Or.inl hv'), hv⟩, fun hv => h2 (Or.inr hv)⟩
    · rintro ⟨h1, h2⟩
      refine ⟨fun hv => h1 hv.2, ?_⟩
      rintro (rfl | hv)
      · exact h1 hlink
      · exact h2 hv
  · exact List.nodup_cons.2 ⟨hnot, h.nodes_nodup⟩
  · intro v hv hv'
    rw [hfresh.mem_erase_iff] at hv'
    rcases List.mem_cons.1 hv with hv | hv
    · exact hv'.1 hv
    · exact h.not_fresh v hv hv'.2
  · refine ⟨fun w hw => hw, by simp, fun w hw => Or.inl hw, ?_⟩
    refine ⟨fun w hw => hlinks w (List.mem_cons_of_mem link hw), ?_, ?_, hrest⟩
    · intro w hw
      obtain rfl : link = w := by simpa using hw
      exact hlinks link List.mem_cons_self
    · intro w hw
      rcases hnext w hw with hw | hw | hw
      · rcases List.mem_cons.1 hw with rfl | hw
        · exact Or.inr (Or.inr rfl)
        · exact Or.inl hw
      · exact Or.inr (Or.inl hw)
      · exact absurd hw (by simp)

lemma of_skip {id link : ℕ} {fresh links : List ℕ} {path : List (ℕ × List ℕ)}
    (h : Inv next ⟨fresh, (id, link :: links) :: path⟩) (hfresh : link ∉ fresh)
    (hpath : link ∉ id :: path.map (·.1)) : Inv next ⟨fresh, (id, links) :: path⟩ := by
  obtain ⟨hlinks, -, hnext, hrest⟩ := h.trail
  refine h.of_finished_iff (fun v => Iff.rfl) h.fresh_nodup h.nodes_nodup h.not_fresh ?_
  refine ⟨fun w hw => hlinks w (List.mem_cons_of_mem link hw), by simp, ?_, hrest⟩
  intro w hw
  rcases hnext w hw with hw | hw | hw
  · rcases List.mem_cons.1 hw with rfl | hw
    · exact Or.inr (Or.inl ⟨hfresh, hpath⟩)
    · exact Or.inl hw
  · exact Or.inr (Or.inl hw)
  · exact absurd hw (by simp)

/-- Every step keeps up what is known. -/
theorem of_step (h : Inv next s) (hst : Step next s t) : Inv next t := by
  cases hst with
  | start => exact h.of_start
  | leave => exact h.of_leave
  | enter hlink => exact h.of_enter hlink
  | skip hfresh hpath => exact h.of_skip hfresh hpath

/-- Where a link leads back to the path, the path from there on is a circle. -/
lemma isCircle_of_back {id link : ℕ} {fresh links : List ℕ} {path : List (ℕ × List ℕ)}
    (h : Inv next ⟨fresh, (id, link :: links) :: path⟩) (hpath : link ∈ id :: path.map (·.1)) :
    IsCircle (fun a b => b ∈ next a)
      (link :: ((id :: path.map (·.1)).takeWhile (· ≠ link)).reverse) := by
  have hchain : List.IsChain (fun a b => a ∈ next b) (link :: id :: path.map (·.1)) := by
    have hid : link ∈ next id := h.trail.1 link List.mem_cons_self
    exact List.isChain_cons_cons.2 ⟨hid, h.trail.isChain⟩
  have hnodup : (id :: path.map (·.1)).Nodup := h.nodes_nodup
  obtain ⟨near, far, hsplit⟩ := List.append_of_mem hpath
  rw [hsplit] at hchain hnodup ⊢
  have hnear : link ∉ near := by
    intro hmem
    exact (List.disjoint_of_nodup_append hnodup) hmem List.mem_cons_self
  have htake : (near ++ link :: far).takeWhile (· ≠ link) = near := by
    rw [List.takeWhile_append_of_pos]
    · simp
    · intro w hw
      have hne : w ≠ link := fun hwl => hnear (hwl ▸ hw)
      simpa using hne
  rw [htake]
  refine ⟨?_, link, near.reverse, rfl, ?_⟩
  · have hpart : near.Nodup := (List.nodup_append.1 hnodup).1
    rw [List.nodup_cons, List.mem_reverse, List.nodup_reverse]
    exact ⟨hnear, hpart⟩
  · have hpart : List.IsChain (fun a b => a ∈ next b) (link :: near ++ [link]) :=
      (List.isChain_split.1 hchain).1
    have hrev : link :: near.reverse ++ [link] = (link :: near ++ [link]).reverse := by simp
    rw [hrev, List.isChain_reverse]
    exact hpart

/-- A search finds a circle if there is one. -/
theorem run (h : Inv next s) :
    match run next s with
    | none => ∀ v, ¬ Relation.TransGen (fun a b => b ∈ next a) v v
    | some cycle => IsCircle (fun a b => b ∈ next a) cycle := by
  induction s using run.induct next with
  | case1 s t hst ih =>
    -- the search goes on, and the invariant with it
    rw [Search.run, hst]
    exact ih (h.of_step (step_eq_inl hst))
  | case2 s result hst =>
    rw [Search.run, hst]
    cases step_eq_inr hst with
    | done => exact fun v => h.acyclic v ⟨List.not_mem_nil, List.not_mem_nil⟩
    | back hpath => exact h.isCircle_of_back hpath

/-- What is known when a search begins, if only the nodes that it is about have links. -/
lemma range {n : ℕ} (hnext : ∀ v, n ≤ v → next v = []) : Inv next ⟨List.range n, []⟩ := by
  have hlinks : ∀ v, Finished ⟨List.range n, []⟩ v → next v = [] := by
    intro v hv
    exact hnext v (Nat.not_lt.1 fun hlt => hv.1 (List.mem_range.2 hlt))
  refine ⟨List.nodup_range, List.nodup_nil, by simp [nodes], trivial, ?_, ?_⟩
  · intro v hv w hw
    rw [hlinks v hv] at hw
    exact absurd hw List.not_mem_nil
  · intro v hv hcircle
    obtain ⟨w, hw, -⟩ := Relation.TransGen.head'_iff.1 hcircle
    rw [hlinks v hv] at hw
    exact List.not_mem_nil hw

end Inv

end Hierarchy.Search

end PluginFacts
