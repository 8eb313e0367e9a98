import Mathlib.Data.Finset.Card
import Mathlib.Logic.Function.Iterate
import Mathlib.Logic.Relation
import Mathlib.Order.Monotone.Basic

/-! # Recursive queries

`WITH RECURSIVE t AS (start UNION SELECT target FROM edges JOIN t …)`: rounds that
add the targets of what is known, until nothing is new. There are at most as many
rounds with something new as there are edges, so the rounds are counted instead;
`mem_reachable` shows that the result is the reachable set.
-/

namespace RecursiveQuery

open Relation

variable {α : Type} [DecidableEq α]

/-- One round: everything known and the targets of its edges. -/
def extend (edges : List (α × α)) (known : Finset α) : Finset α :=
  known ∪ ((edges.filter fun edge => edge.1 ∈ known).map Prod.snd).toFinset

/-- The nodes reachable from `start`. -/
def reachable (edges : List (α × α)) (start : α) : Finset α :=
  (extend edges)^[edges.length + 1] {start}

theorem mem_extend {edges : List (α × α)} {known : Finset α} {x : α} :
    x ∈ extend edges known ↔ x ∈ known ∨ ∃ a ∈ known, (a, x) ∈ edges := by
  simp only [extend, Finset.mem_union, List.mem_toFinset, List.mem_map, List.mem_filter,
    decide_eq_true_eq]
  constructor
  · rintro (h | ⟨⟨a, b⟩, ⟨hedge, ha⟩, rfl⟩)
    · exact Or.inl h
    · exact Or.inr ⟨a, ha, hedge⟩
  · rintro (h | ⟨a, ha, hedge⟩)
    · exact Or.inl h
    · exact Or.inr ⟨(a, x), ⟨hedge, ha⟩, rfl⟩

theorem subset_extend (edges : List (α × α)) (known : Finset α) :
    known ⊆ extend edges known :=
  Finset.subset_union_left

variable (edges : List (α × α)) (start : α)

/-- What is known after `n` rounds. -/
def known (n : ℕ) : Finset α := (extend edges)^[n] {start}

theorem known_succ (n : ℕ) : known edges start (n + 1) = extend edges (known edges start n) :=
  Function.iterate_succ_apply' _ _ _

theorem card_known_le (n : ℕ) : (known edges start n).card ≤ edges.length + 1 := by
  have hsubset : known edges start n ⊆ insert start (edges.map Prod.snd).toFinset := by
    induction n with
    | zero => simp [known]
    | succ n ih =>
      intro x hx
      rw [known_succ, mem_extend] at hx
      rcases hx with hx | ⟨a, -, hedge⟩
      · exact ih hx
      · have htarget : x ∈ edges.map Prod.snd := List.mem_map.mpr ⟨(a, x), hedge, rfl⟩
        exact Finset.mem_insert_of_mem (List.mem_toFinset.mpr htarget)
  have hcard := Finset.card_le_card hsubset
  have hinsert := Finset.card_insert_le start (edges.map Prod.snd).toFinset
  have hlist := List.toFinset_card_le (edges.map Prod.snd)
  rw [List.length_map] at hlist
  omega

/-- After the last round nothing is new. -/
theorem extend_reachable : extend edges (reachable edges start) = reachable edges start := by
  have hstep : ∀ n, (known edges start n).card = (known edges start (n + 1)).card →
      extend edges (known edges start n) = known edges start n := by
    intro n hn
    have hle : (extend edges (known edges start n)).card ≤ (known edges start n).card := by
      rw [← known_succ, hn]
    exact (Finset.eq_of_subset_of_card_le (subset_extend edges _) hle).symm
  have hmono : Monotone fun n => (known edges start n).card := by
    apply monotone_nat_of_le_succ
    intro n
    rw [known_succ]
    exact Finset.card_le_card (subset_extend edges _)
  have hstab : ∀ n, (known edges start n).card = (known edges start (n + 1)).card →
      (known edges start (n + 1)).card = (known edges start (n + 2)).card := by
    intro n hn
    have hfix : known edges start (n + 1) = known edges start n := by
      rw [known_succ, hstep n hn]
    rw [known_succ edges start (n + 1), hfix, hstep n hn]
  have hlast := Nat.stabilises_of_monotone hmono (card_known_le edges start) hstab
    (Nat.le_succ (edges.length + 1))
  exact hstep (edges.length + 1) hlast.symm

theorem start_mem_known (n : ℕ) : start ∈ known edges start n := by
  induction n with
  | zero => simp [known]
  | succ n ih =>
    rw [known_succ]
    exact subset_extend edges _ ih

/-- A round learns only of nodes along edges. -/
theorem reaches_of_mem_known {n : ℕ} {x : α} (h : x ∈ known edges start n) :
    ReflTransGen (fun a b => (a, b) ∈ edges) start x := by
  induction n generalizing x with
  | zero =>
    rw [known, Function.iterate_zero_apply, Finset.mem_singleton] at h
    rw [h]
  | succ n ih =>
    rw [known_succ, mem_extend] at h
    rcases h with h | ⟨a, ha, hedge⟩
    · exact ih h
    · exact (ih ha).tail hedge

/-- The query returns exactly the nodes reachable along edges. -/
theorem mem_reachable {x : α} :
    x ∈ reachable edges start ↔ ReflTransGen (fun a b => (a, b) ∈ edges) start x := by
  constructor
  · intro h
    exact reaches_of_mem_known edges start (n := edges.length + 1) h
  · intro h
    induction h with
    | refl => exact start_mem_known edges start (edges.length + 1)
    | tail _ hedge ih =>
      rw [← extend_reachable]
      exact mem_extend.mpr (Or.inr ⟨_, ih, hedge⟩)

end RecursiveQuery
