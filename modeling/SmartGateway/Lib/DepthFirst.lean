import Mathlib.Data.Finset.Card
import Mathlib.Logic.Relation

/-! # Depth-first search with cycle detection

The recursive three-colour search over a graph given by ordered successor lists:
a node on the current path is `visiting`, a node met before is `visited`, and a
visited node that is no longer on the path is finished. Meeting a node that is on
the path stops the search with that node.

The recursion depth is bounded by the nodes that have successors, so the search is
given that depth as a bound (`sources` below); `explore_spec` shows that the bound is
never reached and what the two outcomes mean:

* a finished search lists each node reachable from the start once, and no cycle is
  reachable;
* a stopped search names a node on a reachable cycle.
-/

namespace DepthFirst

open Relation

variable {α : Type}

/-- The marks of a search and the nodes in the order of their first visit. -/
structure Marks (α : Type) where
  visiting : Finset α
  visited : Finset α
  order : List α

/-- The marks before a search. -/
def Marks.start : Marks α := ⟨∅, ∅, []⟩

section Search

variable [DecidableEq α]

/-- The marks once `node` was put on the path. -/
def Marks.enter (marks : Marks α) (node : α) : Marks α :=
  ⟨insert node marks.visiting, insert node marks.visited, marks.order ++ [node]⟩

@[simp] theorem Marks.enter_visiting (marks : Marks α) (node : α) :
    (marks.enter node).visiting = insert node marks.visiting := rfl

@[simp] theorem Marks.enter_visited (marks : Marks α) (node : α) :
    (marks.enter node).visited = insert node marks.visited := rfl

@[simp] theorem Marks.enter_order (marks : Marks α) (node : α) :
    (marks.enter node).order = marks.order ++ [node] := rfl

/-- Visits `node` at recursion depth at most `depth`. -/
def search (succ : α → List α) : ℕ → α → Marks α → Except α (Marks α)
  | 0, node, _ => .error node
  | depth + 1, node, marks =>
    if node ∈ marks.visiting then .error node
    else if node ∈ marks.visited then .ok marks
    else
      match (succ node).foldlM (fun acc next => search succ depth next acc) (marks.enter node) with
      | .error cycle => .error cycle
      | .ok done => .ok { done with visiting := done.visiting.erase node }

variable (succ : α → List α) (depth : ℕ) {node : α} {marks : Marks α}

theorem search_visiting (h : node ∈ marks.visiting) :
    search succ (depth + 1) node marks = .error node := by
  rw [search, if_pos h]

theorem search_visited (hpath : node ∉ marks.visiting) (h : node ∈ marks.visited) :
    search succ (depth + 1) node marks = .ok marks := by
  rw [search, if_neg hpath, if_pos h]

theorem search_fresh (hpath : node ∉ marks.visiting) (hvisited : node ∉ marks.visited) :
    search succ (depth + 1) node marks =
      ((succ node).foldlM (fun acc next => search succ depth next acc) (marks.enter node)).map
        fun done => { done with visiting := done.visiting.erase node } := by
  rw [search, if_neg hpath, if_neg hvisited]
  cases (succ node).foldlM (fun acc next => search succ depth next acc) (marks.enter node) with
  | error _ => rfl
  | ok _ => rfl

end Search

/-- The edge relation of a successor function. -/
def Edge (succ : α → List α) (a b : α) : Prop := b ∈ succ a

/-- Reachability along edges. -/
abbrev Reach (succ : α → List α) : α → α → Prop := ReflTransGen (Edge succ)

/-- `x` lies on a cycle. -/
abbrev OnCycle (succ : α → List α) (x : α) : Prop := TransGen (Edge succ) x x

/-- No cycle is reachable from `a`. -/
def AcyclicFrom (succ : α → List α) (a : α) : Prop :=
  ∀ x, Reach succ a x → ¬ OnCycle succ x

variable {succ : α → List α}

/-! ## The invariant of a search -/

/-- A node that was visited and is no longer on the path. -/
def Marks.Finished (marks : Marks α) (x : α) : Prop :=
  x ∈ marks.visited ∧ x ∉ marks.visiting

/-- What holds of the marks whenever a node is entered or left. -/
structure Inv (succ : α → List α) (marks : Marks α) : Prop where
  path_visited : marks.visiting ⊆ marks.visited
  closed : ∀ x, marks.Finished x → ∀ y, Edge succ x y → marks.Finished y
  acyclic : ∀ x, marks.Finished x → ¬ OnCycle succ x

/-- All that is reachable from a finished node is finished. -/
theorem Inv.finished_of_reach {marks : Marks α} (h : Inv succ marks) {x y : α}
    (hx : marks.Finished x) (hxy : Reach succ x y) : marks.Finished y := by
  induction hxy with
  | refl => exact hx
  | tail _ hedge ih => exact h.closed _ ih _ hedge

/-- What a visit of `node` may assume: the path leads to `node`, and the depth left
covers the nodes with successors that are not on the path. -/
structure Ready [DecidableEq α] (succ : α → List α) (sources : Finset α) (depth : ℕ) (node : α)
    (marks : Marks α) : Prop where
  inv : Inv succ marks
  path : ∀ x ∈ marks.visiting, TransGen (Edge succ) x node
  room : (sources \ marks.visiting).card < depth

/-- What a finished visit of the nodes `starts` guarantees. -/
structure Done (succ : α → List α) (starts : List α) (marks marks' : Marks α) : Prop where
  inv : Inv succ marks'
  visiting : marks'.visiting = marks.visiting
  grows : marks.visited ⊆ marks'.visited
  finished : ∀ x ∈ starts, marks'.Finished x
  reached : ∀ x ∈ marks'.visited, x ∈ marks.visited ∨ ∃ s ∈ starts, Reach succ s x
  order : ∃ new, marks'.order = marks.order ++ new ∧ new.Nodup ∧
    ∀ x, x ∈ new ↔ x ∈ marks'.visited ∧ x ∉ marks.visited

/-- What a visit guarantees of either outcome. -/
def Outcome (succ : α → List α) (starts : List α) (marks : Marks α) :
    Except α (Marks α) → Prop
  | .ok marks' => Done succ starts marks marks'
  | .error x => OnCycle succ x ∧ ∃ s ∈ starts, Reach succ s x

theorem Done.refl {marks : Marks α} (h : Inv succ marks) : Done succ [] marks marks where
  inv := h
  visiting := rfl
  grows := Finset.Subset.refl _
  finished := by simp
  reached := fun x hx => Or.inl hx
  order := ⟨[], by simp, List.nodup_nil, by simp⟩

/-- A finished node stays finished. -/
theorem Done.keeps {starts : List α} {marks marks' : Marks α}
    (h : Done succ starts marks marks') {x : α} (hx : marks.Finished x) : marks'.Finished x :=
  ⟨h.grows hx.1, by rw [h.visiting]; exact hx.2⟩

variable [DecidableEq α] {sources : Finset α}

/-- What was ready before a visit is ready after it: the path of visiting nodes is the same. -/
theorem Done.ready {starts : List α} {depth : ℕ} {node : α} {marks marks' : Marks α}
    (h : Done succ starts marks marks') (hready : Ready succ sources depth node marks) :
    Ready succ sources depth node marks' where
  inv := h.inv
  path := by
    rw [h.visiting]
    exact hready.path
  room := by
    rw [h.visiting]
    exact hready.room

theorem Done.cons {start : α} {starts : List α} {marks marks' marks'' : Marks α}
    (h : Done succ [start] marks marks') (h' : Done succ starts marks' marks'') :
    Done succ (start :: starts) marks marks'' where
  inv := h'.inv
  visiting := h'.visiting.trans h.visiting
  grows := h.grows.trans h'.grows
  finished := by
    intro x hx
    rcases List.mem_cons.mp hx with rfl | hx
    · exact h'.keeps (h.finished x (by simp))
    · exact h'.finished x hx
  reached := by
    intro x hx
    rcases h'.reached x hx with hx | ⟨s, hs, hr⟩
    · rcases h.reached x hx with hx | ⟨s, hs, hr⟩
      · exact Or.inl hx
      · rw [List.mem_singleton] at hs
        exact Or.inr ⟨start, by simp, by rwa [← hs]⟩
    · exact Or.inr ⟨s, List.mem_cons_of_mem _ hs, hr⟩
  order := by
    -- The second search adds only what the first has left unvisited.
    obtain ⟨new, hnew, hnodup, hmem⟩ := h.order
    obtain ⟨new', hnew', hnodup', hmem'⟩ := h'.order
    refine ⟨new ++ new', by rw [hnew', hnew, List.append_assoc], ?_, ?_⟩
    · refine List.nodup_append.mpr ⟨hnodup, hnodup', ?_⟩
      intro a ha b hb hab
      subst hab
      exact ((hmem' a).mp hb).2 ((hmem a).mp ha).1
    · intro x
      rw [List.mem_append, hmem, hmem']
      constructor
      · rintro (⟨hx, hn⟩ | ⟨hx, hn⟩)
        · exact ⟨h'.grows hx, hn⟩
        · exact ⟨hx, fun hm => hn (h.grows hm)⟩
      · rintro ⟨hx, hn⟩
        by_cases hx' : x ∈ marks'.visited
        · exact Or.inl ⟨hx', hn⟩
        · exact Or.inr ⟨hx, hx'⟩

/-! ## One visit -/

/-- Entering a fresh node finishes nothing. -/
theorem Marks.Finished.of_enter {node x : α} {marks : Marks α}
    (h : (marks.enter node).Finished x) : marks.Finished x := by
  obtain ⟨hx, hn⟩ := h
  rw [enter, Finset.mem_insert, not_or] at hn
  exact ⟨(Finset.mem_insert.mp hx).resolve_left hn.1, hn.2⟩

theorem Inv.enter {node : α} {marks : Marks α} (h : Inv succ marks)
    (hfresh : node ∉ marks.visited) : Inv succ (marks.enter node) where
  path_visited := Finset.insert_subset_insert _ h.path_visited
  closed := by
    intro x hx y hxy
    have hy := h.closed x hx.of_enter y hxy
    refine ⟨Finset.mem_insert_of_mem hy.1, ?_⟩
    intro hmem
    rcases Finset.mem_insert.mp hmem with rfl | hmem
    · exact hfresh hy.1
    · exact hy.2 hmem
  acyclic := fun x hx => h.acyclic x hx.of_enter

/-- Entering a fresh node: the path grows by it, and each successor may be visited. -/
theorem Ready.enter {depth : ℕ} {node : α} {marks : Marks α}
    (h : Ready succ sources (depth + 1) node marks) (hpath : node ∉ marks.visiting)
    (hfresh : node ∉ marks.visited) (hsource : node ∈ sources) {next : α}
    (hnext : next ∈ succ node) : Ready succ sources depth next (marks.enter node) where
  inv := h.inv.enter hfresh
  path := by
    intro x hx
    rcases Finset.mem_insert.mp hx with rfl | hx
    · exact .single hnext
    · exact (h.path x hx).tail hnext
  room := by
    have hmem : node ∈ sources \ marks.visiting := Finset.mem_sdiff.mpr ⟨hsource, hpath⟩
    have hroom := h.room
    have hpos := Finset.card_pos.mpr ⟨node, hmem⟩
    change (sources \ insert node marks.visiting).card < depth
    rw [Finset.sdiff_insert, Finset.card_erase_of_mem hmem]
    omega

/-- Leaving a node whose successors were all visited. -/
theorem Done.leave {node : α} {marks marks' : Marks α} (hinv : Inv succ marks)
    (hpath : node ∉ marks.visiting) (hfresh : node ∉ marks.visited)
    (h : Done succ (succ node)
      (marks.enter node) marks') :
    Done succ [node] marks { marks' with visiting := marks'.visiting.erase node } := by
  have hvisiting : marks'.visiting.erase node = marks.visiting := by
    rw [h.visiting]
    exact Finset.erase_insert hpath
  have hnode : node ∈ marks'.visited := h.grows (Finset.mem_insert_self _ _)
  -- the finished nodes are those finished before the node is left, and the node
  have hsplit : ∀ x, x ∈ marks'.visited ∧ x ∉ marks.visiting → x = node ∨ marks'.Finished x := by
    rintro x ⟨hx, hn⟩
    by_cases hxn : x = node
    · exact Or.inl hxn
    · refine Or.inr ⟨hx, ?_⟩
      rw [h.visiting, Marks.enter_visiting, Finset.mem_insert, not_or]
      exact ⟨hxn, hn⟩
  have hfin : ∀ x, marks'.Finished x → x ∈ marks'.visited ∧ x ∉ marks.visiting := by
    rintro x ⟨hx, hn⟩
    refine ⟨hx, fun hm => hn ?_⟩
    rw [h.visiting]
    exact Finset.mem_insert_of_mem hm
  rw [hvisiting]
  refine ⟨⟨?_, ?_, ?_⟩, rfl, ?_, ?_, ?_, ?_⟩
  · exact hinv.path_visited.trans ((Finset.subset_insert _ _).trans h.grows)
  · intro x hx y hxy
    rcases hsplit x hx with rfl | hx
    · exact hfin y (h.finished y hxy)
    · exact hfin y (h.inv.closed x hx y hxy)
  · intro x hx hcycle
    rcases hsplit x hx with rfl | hx
    · -- a cycle through the node returns to it from a finished successor
      obtain ⟨y, hxy, hyx⟩ := TransGen.head'_iff.mp hcycle
      have hfinished := h.inv.finished_of_reach (h.finished y hxy) hyx
      apply hfinished.2
      rw [h.visiting]
      exact Finset.mem_insert_self _ _
    · exact h.inv.acyclic x hx hcycle
  · exact (Finset.subset_insert _ _).trans h.grows
  · intro x hx
    rw [List.mem_singleton] at hx
    subst hx
    exact ⟨hnode, hpath⟩
  · intro x hx
    rcases h.reached x hx with hx | ⟨s, hs, hr⟩
    · rcases Finset.mem_insert.mp hx with rfl | hx
      · exact Or.inr ⟨x, by simp, .refl⟩
      · exact Or.inl hx
    · exact Or.inr ⟨node, by simp, .head hs hr⟩
  · obtain ⟨new, hnew, hnodup, hmem⟩ := h.order
    have hnot : node ∉ new := fun hm => ((hmem node).mp hm).2 (Finset.mem_insert_self _ _)
    refine ⟨node :: new, by simp [hnew], List.nodup_cons.mpr ⟨hnot, hnodup⟩, ?_⟩
    intro x
    rw [List.mem_cons, hmem]
    constructor
    · rintro (rfl | ⟨hx, hn⟩)
      · exact ⟨hnode, hfresh⟩
      · exact ⟨hx, fun hm => hn (Finset.mem_insert_of_mem hm)⟩
    · rintro ⟨hx, hn⟩
      by_cases hxn : x = node
      · exact Or.inl hxn
      · refine Or.inr ⟨hx, fun hm => ?_⟩
        rcases Finset.mem_insert.mp hm with h | h
        · exact hxn h
        · exact hn h

/-- A visit of a list of nodes, given that each single visit meets its outcome. -/
theorem outcome_foldlM {depth : ℕ}
    (hvisit : ∀ node marks, Ready succ sources depth node marks →
      Outcome succ [node] marks (search succ depth node marks))
    (nodes : List α) (marks : Marks α) (hinv : Inv succ marks)
    (hready : ∀ node ∈ nodes, Ready succ sources depth node marks) :
    Outcome succ nodes marks
      (nodes.foldlM (fun acc next => search succ depth next acc) marks) := by
  induction nodes generalizing marks with
  | nil => exact Done.refl hinv
  | cons node nodes ih =>
    -- The first node, then the rest from the marks it leaves.
    have hnode := hvisit node marks (hready node (by simp))
    rw [List.foldlM_cons]
    cases hsearch : search succ depth node marks with
    | error x =>
      rw [hsearch] at hnode
      obtain ⟨hcycle, s, hs, hr⟩ := hnode
      exact ⟨hcycle, s, by rw [List.mem_singleton.mp hs]; simp, hr⟩
    | ok marks' =>
      rw [hsearch] at hnode
      have hdone : Done succ [node] marks marks' := hnode
      have hrest := ih marks' hdone.inv fun next hnext =>
        hdone.ready (hready next (List.mem_cons_of_mem _ hnext))
      change Outcome succ (node :: nodes) marks
        (nodes.foldlM (fun acc next => search succ depth next acc) marks')
      cases hfold : nodes.foldlM (fun acc next => search succ depth next acc) marks' with
      | error x =>
        rw [hfold] at hrest
        obtain ⟨hcycle, s, hs, hr⟩ := hrest
        exact ⟨hcycle, s, List.mem_cons_of_mem _ hs, hr⟩
      | ok marks'' =>
        rw [hfold] at hrest
        exact hdone.cons hrest

/-- Every visit within its depth meets its outcome. The induction is on the depth. -/
theorem outcome_search (hsources : ∀ a, succ a ≠ [] → a ∈ sources) (depth : ℕ) (node : α)
    (marks : Marks α) (h : Ready succ sources depth node marks) :
    Outcome succ [node] marks (search succ depth node marks) := by
  induction depth generalizing node marks with
  | zero => exact absurd h.room (Nat.not_lt_zero _)
  | succ depth ih =>
    by_cases hpath : node ∈ marks.visiting
    · rw [search_visiting succ depth hpath]
      exact ⟨h.path node hpath, node, by simp, .refl⟩
    by_cases hvisited : node ∈ marks.visited
    · rw [search_visited succ depth hpath hvisited]
      refine ⟨h.inv, rfl, Finset.Subset.refl _, ?_, fun x hx => Or.inl hx,
        [], by simp, List.nodup_nil, by simp⟩
      intro x hx
      rw [List.mem_singleton] at hx
      subst hx
      exact ⟨hvisited, hpath⟩
    rw [search_fresh succ depth hpath hvisited]
    -- a node without successors needs no room, any other is a source
    have hfold : Outcome succ (succ node)
        (marks.enter node)
        ((succ node).foldlM (fun acc next => search succ depth next acc)
          (marks.enter node)) := by
      cases hsucc : succ node with
      | nil => exact Done.refl (h.inv.enter hvisited)
      | cons first rest =>
        have hsource : node ∈ sources := hsources node (by rw [hsucc]; simp)
        rw [← hsucc]
        have hready : ∀ next ∈ succ node, Ready succ sources depth next
            (marks.enter node) :=
          fun next hnext => h.enter hpath hvisited hsource hnext
        exact outcome_foldlM ih _ _ (hready first (by rw [hsucc]; simp)).inv hready
    cases hres : (succ node).foldlM (fun acc next => search succ depth next acc)
        (marks.enter node) with
    | error x =>
      rw [hres] at hfold
      obtain ⟨hcycle, s, hs, hr⟩ := hfold
      exact ⟨hcycle, node, by simp, .head hs hr⟩
    | ok done =>
      rw [hres] at hfold
      exact Done.leave h.inv hpath hvisited hfold

/-! ## A whole search -/

/-- The search from `start`, with room for every node that has successors. -/
def explore (succ : α → List α) (sources : Finset α) (start : α) : Except α (Marks α) :=
  search succ (sources.card + 1) start Marks.start

/-- What a whole search finds: the nodes reachable from `start`, once each, if no cycle is
reachable, and otherwise a node on a reachable cycle. -/
inductive Explored (succ : α → List α) (start : α) : Except α (Marks α) → Prop where
  | ok (marks : Marks α) (acyclic : AcyclicFrom succ start) (nodup : marks.order.Nodup)
      (mem_order : ∀ x, x ∈ marks.order ↔ Reach succ start x) : Explored succ start (.ok marks)
  | error (x : α) (cycle : OnCycle succ x) (reach : Reach succ start x) :
      Explored succ start (.error x)

theorem ready_start (start : α) : Ready succ sources (sources.card + 1) start Marks.start where
  inv := ⟨by simp [Marks.start], by simp [Marks.start, Marks.Finished],
    by simp [Marks.start, Marks.Finished]⟩
  path := by simp [Marks.start]
  room := by simp [Marks.start]

theorem explore_spec (hsources : ∀ a, succ a ≠ [] → a ∈ sources) (start : α) :
    Explored succ start (explore succ sources start) := by
  have h := outcome_search hsources (sources.card + 1) start Marks.start (ready_start start)
  unfold explore
  cases hres : search succ (sources.card + 1) start Marks.start with
  | error x =>
    rw [hres] at h
    obtain ⟨hcycle, s, hs, hr⟩ := h
    rw [List.mem_singleton.mp hs] at hr
    exact .error x hcycle hr
  | ok marks =>
    rw [hres] at h
    have hdone : Done succ [start] Marks.start marks := h
    have hclosed : ∀ x, Reach succ start x → marks.Finished x :=
      fun _ hx => hdone.inv.finished_of_reach (hdone.finished start (by simp)) hx
    obtain ⟨new, hnew, hnodup, hmem⟩ := hdone.order
    have horder : marks.order = new := by simpa [Marks.start] using hnew
    refine .ok marks (fun x hx => hdone.inv.acyclic x (hclosed x hx)) (horder ▸ hnodup) ?_
    intro x
    rw [horder, hmem]
    constructor
    · rintro ⟨hx, -⟩
      rcases hdone.reached x hx with hx | ⟨s, hs, hr⟩
      · simp [Marks.start] at hx
      · rwa [List.mem_singleton.mp hs] at hr
    · intro hx
      exact ⟨(hclosed x hx).1, by simp [Marks.start]⟩

/-- A visit only appends to the order, given that each single visit does. -/
theorem foldlM_order {depth : ℕ}
    (hvisit : ∀ node marks marks', search succ depth node marks = .ok marks' →
      marks.order <+: marks'.order)
    {nodes : List α} {marks marks' : Marks α}
    (h : nodes.foldlM (fun acc next => search succ depth next acc) marks = .ok marks') :
    marks.order <+: marks'.order := by
  induction nodes generalizing marks with
  | nil =>
    cases h
    exact List.prefix_rfl
  | cons node nodes ih =>
    rw [List.foldlM_cons] at h
    cases hnode : search succ depth node marks with
    | error x =>
      rw [hnode] at h
      cases h
    | ok marks₁ =>
      rw [hnode] at h
      exact (hvisit node marks marks₁ hnode).trans (ih h)

theorem search_order {depth : ℕ} {node : α} {marks marks' : Marks α}
    (h : search succ depth node marks = .ok marks') : marks.order <+: marks'.order := by
  induction depth generalizing node marks marks' with
  | zero => cases h
  | succ depth ih =>
    rw [search] at h
    split at h
    · cases h
    split at h
    · cases h
      exact List.prefix_rfl
    split at h
    · cases h
    · next done hfold =>
      cases h
      have hdone := foldlM_order (fun _ _ _ => ih) hfold
      rw [Marks.enter_order] at hdone
      exact (List.prefix_append _ _).trans hdone

/-- A search meets its start first. -/
theorem explore_order {start : α} {marks : Marks α} (h : explore succ sources start = .ok marks) :
    ∃ rest, marks.order = start :: rest := by
  rw [explore, search] at h
  simp only [Marks.start, Finset.notMem_empty, if_false] at h
  split at h
  · cases h
  · next done hfold =>
    cases h
    obtain ⟨rest, hrest⟩ := foldlM_order (fun _ _ _ => search_order) hfold
    exact ⟨rest, hrest.symm⟩

/-- A search finishes exactly when no cycle is reachable. -/
theorem explore_ok_iff (hsources : ∀ a, succ a ≠ [] → a ∈ sources) (start : α) :
    (∃ marks, explore succ sources start = .ok marks) ↔ AcyclicFrom succ start := by
  have h := explore_spec hsources start
  constructor
  · rintro ⟨marks, hok⟩
    rw [hok] at h
    cases h with
    | ok _ acyclic => exact acyclic
  · intro hacyclic
    cases hres : explore succ sources start with
    | ok marks => exact ⟨marks, rfl⟩
    | error x =>
      rw [hres] at h
      cases h with
      | error _ cycle reach => exact absurd cycle (hacyclic x reach)

end DepthFirst
