import Mathlib.Data.Finset.Lattice.Fold
import SmartGateway.Lib.DepthFirst

/-! # The preorder of a search

`Unfolds succ nodes order` says that `order` is the depth-first preorder of the paths
that start at `nodes`: each node is followed by the preorder of its successors, and a
node is repeated for every path that leads to it. It mentions no marks, so it is what a
search is compared with: a search that finishes lists the nodes of the unfolding by their
first occurrence (`explore_preorder`).

An unfolding exists exactly where no path is infinite; `exists_unfolds` builds it from
the absence of reachable cycles.
-/

namespace DepthFirst

variable {α : Type} {succ : α → List α}

/-- `order` is the depth-first preorder of the paths from `nodes`, taken in order. -/
inductive Unfolds (succ : α → List α) : List α → List α → Prop where
  | nil : Unfolds succ [] []
  | cons {node : α} {nodes below after : List α} (hbelow : Unfolds succ (succ node) below)
      (hafter : Unfolds succ nodes after) : Unfolds succ (node :: nodes) (node :: below ++ after)

/-- What an unfolding lists is reachable from where it starts. -/
theorem Unfolds.reach {nodes order : List α} (h : Unfolds succ nodes order) :
    ∀ x ∈ order, ∃ s ∈ nodes, Reach succ s x := by
  induction h with
  | nil => simp
  | @cons node nodes below after _ _ ihbelow ihafter =>
    intro x hx
    rw [List.cons_append, List.mem_cons, List.mem_append] at hx
    rcases hx with rfl | hx | hx
    · exact ⟨x, List.mem_cons_self, .refl⟩
    · obtain ⟨s, hs, hr⟩ := ihbelow x hx
      exact ⟨node, List.mem_cons_self, .head hs hr⟩
    · obtain ⟨s, hs, hr⟩ := ihafter x hx
      exact ⟨s, List.mem_cons_of_mem _ hs, hr⟩

/-- Unfoldings of single nodes make up one of a list. -/
theorem exists_unfolds_of_forall {nodes : List α}
    (h : ∀ node ∈ nodes, ∃ below, Unfolds succ (succ node) below) :
    ∃ order, Unfolds succ nodes order := by
  induction nodes with
  | nil => exact ⟨[], .nil⟩
  | cons node nodes ih =>
    obtain ⟨below, hbelow⟩ := h node List.mem_cons_self
    obtain ⟨after, hafter⟩ := ih fun next hnext => h next (List.mem_cons_of_mem _ hnext)
    exact ⟨node :: below ++ after, .cons hbelow hafter⟩

variable [DecidableEq α] {sources : Finset α}

/-- Below a node from which no cycle is reachable everything unfolds. The induction is on
the nodes with successors that the path to the node has not met. -/
theorem exists_unfolds_below (hsources : ∀ a, succ a ≠ [] → a ∈ sources) (room : ℕ)
    (path : Finset α) (node : α) (hpath : ∀ x ∈ path, Relation.TransGen (Edge succ) x node)
    (hacyclic : AcyclicFrom succ node) (hroom : (sources \ path).card < room) :
    ∃ below, Unfolds succ (succ node) below := by
  induction room generalizing path node with
  | zero => exact absurd hroom (Nat.not_lt_zero _)
  | succ room ih =>
    apply exists_unfolds_of_forall
    intro next hnext
    have hsource : node ∈ sources := hsources node (List.ne_nil_of_mem hnext)
    -- a node that the path leads to is not on it, for it would be on a cycle
    have hfresh : node ∉ path := fun hmem => hacyclic node .refl (hpath node hmem)
    apply ih (insert node path) next
    · intro x hx
      rcases Finset.mem_insert.mp hx with rfl | hx
      · exact .single hnext
      · exact (hpath x hx).tail hnext
    · intro x hx
      exact hacyclic x (.head hnext hx)
    · have hmem : node ∈ sources \ path := Finset.mem_sdiff.mpr ⟨hsource, hfresh⟩
      have hpos := Finset.card_pos.mpr ⟨node, hmem⟩
      rw [Finset.sdiff_insert, Finset.card_erase_of_mem hmem]
      omega

theorem exists_unfolds (hsources : ∀ a, succ a ≠ [] → a ∈ sources) {start : α}
    (hacyclic : AcyclicFrom succ start) : ∃ order, Unfolds succ [start] order := by
  apply exists_unfolds_of_forall
  intro node hnode
  rw [List.mem_singleton] at hnode
  subst hnode
  exact exists_unfolds_below hsources (sources.card + 1) ∅ node (by simp) hacyclic (by simp)

/-! ## A search lists its unfolding -/

/-- The marks after a search that has met the nodes of `order`: these are visited, and those
that were not visited before are appended by their first occurrence. -/
structure Listed (order : List α) (marks marks' : Marks α) : Prop where
  visited : ∀ x, x ∈ marks'.visited ↔ x ∈ marks.visited ∨ x ∈ order
  order : marks'.order = marks.order ++ (order.filter (· ∉ marks.visited)).eraseDups

/-- Nothing new is met. -/
theorem Listed.refl {order : List α} {marks : Marks α} (h : ∀ x ∈ order, x ∈ marks.visited) :
    Listed order marks marks where
  visited := fun x => ⟨Or.inl, fun hx => hx.elim id (h x)⟩
  order := by
    have hnil : order.filter (· ∉ marks.visited) = [] := by
      rw [List.filter_eq_nil_iff]
      intro x hx
      simpa using h x hx
    rw [hnil, List.eraseDups_nil, List.append_nil]

theorem Listed.append {order after : List α} {marks marks' marks'' : Marks α}
    (h : Listed order marks marks') (h' : Listed after marks' marks'') :
    Listed (order ++ after) marks marks'' where
  visited := by
    intro x
    rw [h'.visited, h.visited, List.mem_append, or_assoc]
  order := by
    rw [h'.order, h.order, List.append_assoc, List.filter_append, List.eraseDups_append]
    congr 3
    -- what the second search finds unvisited is what neither the marks nor the first have
    unfold List.removeAll
    rw [List.filter_filter]
    apply List.filter_congr
    intro x _
    have hx := h.visited x
    by_cases hvisited : x ∈ marks.visited
    · simp [hx, hvisited]
    · simp [hx, hvisited]

/-- Entering a fresh node, listing what is below it and leaving it again. -/
theorem Listed.enter {node : α} {below : List α} {marks marks' : Marks α}
    (hfresh : node ∉ marks.visited) (h : Listed below (marks.enter node) marks') :
    Listed (node :: below) marks { marks' with visiting := marks'.visiting.erase node } where
  visited := by
    intro x
    show x ∈ marks'.visited ↔ _
    rw [h.visited, Marks.enter_visited, Finset.mem_insert, List.mem_cons]
    tauto
  order := by
    show marks'.order = _
    have hbelow : below.filter (· ∉ (marks.enter node).visited) =
        (below.filter (· ∉ marks.visited)).filter (fun x => !x == node) := by
      rw [List.filter_filter]
      apply List.filter_congr
      intro x _
      simp [not_or, Bool.beq_eq_decide_eq]
    rw [h.order, Marks.enter_order, List.append_assoc, hbelow,
      List.filter_cons_of_pos (by simpa using hfresh), List.eraseDups_cons]
    rfl

/-- A search that finishes lists the unfolding of its nodes. The induction is on the
unfolding, so the depth of the search plays no part. -/
theorem listed_foldlM (hsources : ∀ a, succ a ≠ [] → a ∈ sources) {nodes order : List α}
    (hunfolds : Unfolds succ nodes order) {depth : ℕ} {marks marks' : Marks α}
    (hready : ∀ node ∈ nodes, Ready succ sources depth node marks)
    (h : nodes.foldlM (fun acc next => search succ depth next acc) marks = .ok marks') :
    Listed order marks marks' := by
  induction hunfolds generalizing depth marks marks' with
  | nil =>
    cases h
    exact Listed.refl (by simp)
  | @cons node nodes below after hbelow _ ihbelow ihafter =>
    rw [List.foldlM_cons] at h
    have hnode := hready node List.mem_cons_self
    have houtcome := outcome_search hsources depth node marks hnode
    cases hsearch : search succ depth node marks with
    | error x =>
      rw [hsearch] at h
      cases h
    | ok marks₁ =>
      rw [hsearch] at h houtcome
      -- the search of the first node leaves the others ready
      have hdone : Done succ [node] marks marks₁ := houtcome
      have hafter : Listed after marks₁ marks' := by
        apply ihafter _ h
        intro next hnext
        exact hdone.ready (hready next (List.mem_cons_of_mem _ hnext))
      refine Listed.append ?_ hafter
      cases depth with
      | zero => cases hsearch
      | succ depth =>
        rw [search] at hsearch
        split at hsearch
        · cases hsearch
        next hpath =>
        split at hsearch
        · -- a finished node: all below it is finished too
          next hvisited =>
          cases hsearch
          apply Listed.refl
          intro x hx
          rcases List.mem_cons.mp hx with rfl | hx
          · exact hvisited
          · obtain ⟨s, hs, hr⟩ := hbelow.reach x hx
            exact (hnode.inv.finished_of_reach ⟨hvisited, hpath⟩ (.head hs hr)).1
        · -- a fresh node: entered, its successors searched, left
          next hfresh =>
          split at hsearch
          · cases hsearch
          next done hfold =>
          cases hsearch
          refine Listed.enter hfresh (ihbelow ?_ hfold)
          intro next hnext
          exact hnode.enter hpath hfresh (hsources node (List.ne_nil_of_mem hnext)) hnext

/-- A finished search lists the nodes of its unfolding by their first occurrence. -/
theorem explore_preorder (hsources : ∀ a, succ a ≠ [] → a ∈ sources) {start : α}
    {marks : Marks α} {order : List α} (hunfolds : Unfolds succ [start] order)
    (h : explore succ sources start = .ok marks) : marks.order = order.eraseDups := by
  have hlisted : Listed order Marks.start marks := by
    have hready : ∀ node ∈ [start], Ready succ sources (sources.card + 1) node Marks.start := by
      intro node _
      exact ready_start node
    apply listed_foldlM hsources hunfolds hready
    rw [List.foldlM_cons]
    show (explore succ sources start >>= _) = _
    rw [h]
    rfl
  have horder := hlisted.order
  simpa [Marks.start] using horder

end DepthFirst
