import Mathlib.Data.List.Basic

/-! # Which comes first

A list in which nothing of one kind stands before something of another kind was there: no
answer before its question, no end before its beginning. In a list that is sorted by a strict
order this is a matter of the order.
-/

namespace Precedence

variable {α β : Type}

/-- Before every element that meets `q` stands one that meets `p`. -/
def Precedes (p q : α → Prop) (xs : List α) : Prop :=
  ∀ before x, before ++ [x] <+: xs → q x → ∃ y ∈ before, p y

variable {p q : α → Prop} {xs : List α}

theorem precedes_nil : Precedes p q [] := by
  intro before x hfront
  rw [List.prefix_nil, List.append_eq_nil_iff] at hfront
  cases hfront.2

/-- One element more at the end. -/
theorem Precedes.snoc {x : α} (h : Precedes p q xs) (hx : q x → ∃ y ∈ xs, p y) :
    Precedes p q (xs ++ [x]) := by
  intro before z hfront hz
  rcases List.prefix_concat_iff.mp hfront with hlast | hearlier
  · obtain ⟨rfl, hsame⟩ := List.append_inj' hlast rfl
    rw [List.singleton_inj] at hsame
    subst hsame
    exact hx hz
  · exact h before z hearlier hz

theorem Precedes.front {ys : List α} (h : Precedes p q xs) (hfront : ys <+: xs) :
    Precedes p q ys := by
  intro before x hbefore hx
  exact h before x (hbefore.trans hfront) hx

/-- Where nothing meets `q` there is nothing to precede. -/
theorem precedes_of_forall_not (h : ∀ x ∈ xs, ¬ q x) : Precedes p q xs := by
  intro before x hfront hx
  have hmem : x ∈ xs := hfront.subset (List.mem_append_right _ (List.mem_singleton_self x))
  exact absurd hx (h x hmem)

/-- The same of the elements a list was made from. -/
theorem precedes_map {f : β → α} {ys : List β} :
    Precedes p q (ys.map f) ↔ Precedes (fun y => p (f y)) (fun y => q (f y)) ys := by
  constructor
  · intro h before y hfront hy
    have hmapped : before.map f ++ [f y] <+: ys.map f := by
      have := hfront.map f
      rwa [List.map_append, List.map_singleton] at this
    obtain ⟨z, hz, hpz⟩ := h (before.map f) (f y) hmapped hy
    obtain ⟨w, hw, rfl⟩ := List.mem_map.mp hz
    exact ⟨w, hw, hpz⟩
  · intro h before x hfront hx
    obtain ⟨after, hsplit⟩ := hfront
    obtain ⟨first, rest, rfl, hfirst, -⟩ := List.map_eq_append_iff.mp hsplit.symm
    obtain ⟨front, last, rfl, rfl, hlast⟩ := List.map_eq_append_iff.mp hfirst
    obtain ⟨y, rfl, rfl⟩ := List.map_eq_singleton_iff.mp hlast
    obtain ⟨w, hw, hpw⟩ := h front y (List.prefix_append _ _) hx
    exact ⟨f w, List.mem_map_of_mem hw, hpw⟩

section Sorted

variable {r : α → α → Prop}

/-- In a sorted list an element precedes those it is less than. -/
theorem precedes_of_pairwise (hsorted : xs.Pairwise r) (hasymm : ∀ x y, r x y → ¬ r y x) {a : α}
    (ha : a ∈ xs) (hp : p a) (hq : ∀ x ∈ xs, q x → r a x) : Precedes p q xs := by
  intro before x hfront hx
  obtain ⟨after, rfl⟩ := hfront
  rw [List.append_assoc, List.singleton_append] at hsorted ha hq
  have hless : r a x := hq x (by simp) hx
  have hrest := (List.pairwise_append.mp hsorted).2.1
  rcases List.mem_append.mp ha with hbefore | hlater
  · exact ⟨a, hbefore, hp⟩
  · rcases List.mem_cons.mp hlater with rfl | hafter
    · exact absurd hless (hasymm _ _ hless)
    · have hgreater : r x a := (List.pairwise_cons.mp hrest).1 a hafter
      exact absurd hless (hasymm _ _ hgreater)

/-- In a sorted list an element is not preceded by those it is less than. -/
theorem not_precedes_of_pairwise (hsorted : xs.Pairwise r) (hasymm : ∀ x y, r x y → ¬ r y x)
    {b : α} (hb : b ∈ xs) (hq : q b) (hp : ∀ x ∈ xs, p x → r b x) : ¬ Precedes p q xs := by
  intro h
  obtain ⟨before, after, rfl⟩ := List.append_of_mem hb
  have hfront : before ++ [b] <+: before ++ b :: after := by
    refine ⟨after, ?_⟩
    rw [List.append_assoc, List.singleton_append]
  obtain ⟨y, hy, hpy⟩ := h before b hfront hq
  have hless : r b y := hp y (List.mem_append_left _ hy) hpy
  have hgreater : r y b := (List.pairwise_append.mp hsorted).2.2 y hy b List.mem_cons_self
  exact hasymm _ _ hless hgreater

end Sorted

end Precedence
