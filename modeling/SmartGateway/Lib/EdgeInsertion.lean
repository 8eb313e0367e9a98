import Mathlib.Logic.Relation

/-! # Adding one edge to a graph

A path in the graph with the edge from `s` to `t` added either was there before or goes
through the edge, and then it leads to `s` first and goes on from `t`. So the edge closes a
cycle in an acyclic graph exactly when `s` is reachable from `t`.
-/

namespace EdgeInsertion

open Relation

variable {α : Type}

/-- The graph `r` with the edge from `s` to `t` added. -/
def Inserted (r : α → α → Prop) (s t a b : α) : Prop := r a b ∨ (a = s ∧ b = t)

/-- No node lies on a cycle. -/
def Acyclic (r : α → α → Prop) : Prop := ∀ x, ¬ TransGen r x x

variable {r : α → α → Prop} {s t : α}

theorem reach_inserted {a b : α} (h : ReflTransGen r a b) : ReflTransGen (Inserted r s t) a b := by
  induction h with
  | refl => exact .refl
  | tail _ hedge ih => exact ih.tail (Or.inl hedge)

theorem transGen_inserted {a b : α} (h : TransGen (Inserted r s t) a b) :
    TransGen r a b ∨ (ReflTransGen r a s ∧ ReflTransGen r t b) := by
  induction h with
  | single hedge =>
    rcases hedge with hedge | ⟨rfl, rfl⟩
    · exact Or.inl (.single hedge)
    · exact Or.inr ⟨.refl, .refl⟩
  | tail _ hedge ih =>
    rcases hedge with hedge | ⟨rfl, rfl⟩
    · rcases ih with hold | ⟨hto, hfrom⟩
      · exact Or.inl (hold.tail hedge)
      · exact Or.inr ⟨hto, hfrom.tail hedge⟩
    · -- the last edge is the new one, so the path leads to `s`
      rcases ih with hold | ⟨hto, -⟩
      · exact Or.inr ⟨hold.to_reflTransGen, .refl⟩
      · exact Or.inr ⟨hto, .refl⟩

/-- The new edge keeps an acyclic graph acyclic exactly when it closes no path. -/
theorem acyclic_inserted_iff (h : Acyclic r) :
    Acyclic (Inserted r s t) ↔ ¬ ReflTransGen r t s := by
  constructor
  · intro hacyclic hpath
    have hlift : ReflTransGen (Inserted r s t) t s := reach_inserted hpath
    exact hacyclic s (TransGen.head' (Or.inr ⟨rfl, rfl⟩) hlift)
  · intro hpath x hcycle
    rcases transGen_inserted hcycle with hold | ⟨hto, hfrom⟩
    · exact h x hold
    · exact hpath (hfrom.trans hto)

end EdgeInsertion
