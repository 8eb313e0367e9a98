import Mathlib.Data.List.Basic

/-! # Labelled transition systems

States, labelled steps, finite runs and the two induction rules every safety
proof uses: an invariant of the reachable states, and a property that every
step with an allowed label preserves, along a run with allowed labels only.
-/

/-- A transition system with labelled steps. -/
structure Transition (σ ℓ : Type) where
  Init : σ → Prop
  Step : σ → ℓ → σ → Prop

namespace Transition

variable {σ ℓ : Type} {M : Transition σ ℓ}

/-- A finite run: the labels of its steps, in order. -/
inductive Steps (M : Transition σ ℓ) : σ → List ℓ → σ → Prop where
  | refl (s : σ) : Steps M s [] s
  | tail {s s' s'' : σ} {ls : List ℓ} {l : ℓ} :
      Steps M s ls s' → M.Step s' l s'' → Steps M s (ls ++ [l]) s''

/-- A state some run from an initial state ends in. -/
def Reachable (M : Transition σ ℓ) (s : σ) : Prop :=
  ∃ s₀ ls, M.Init s₀ ∧ M.Steps s₀ ls s

theorem Reachable.init {s : σ} (h : M.Init s) : M.Reachable s :=
  ⟨s, [], h, .refl s⟩

theorem Reachable.step {s s' : σ} {l : ℓ} (h : M.Reachable s) (hstep : M.Step s l s') :
    M.Reachable s' := by
  obtain ⟨s₀, ls, hinit, hsteps⟩ := h
  exact ⟨s₀, ls ++ [l], hinit, hsteps.tail hstep⟩

/-- What every step with an allowed label preserves, a run with allowed labels
preserves. -/
theorem Steps.preserves {P : σ → Prop} (allowed : ℓ → Prop)
    (hstep : ∀ s l s', P s → allowed l → M.Step s l s' → P s')
    {s s' : σ} {ls : List ℓ} (hrun : M.Steps s ls s') (hallowed : ∀ l ∈ ls, allowed l)
    (hs : P s) : P s' := by
  induction hrun with
  | refl => exact hs
  | tail _ hlast ih =>
    have hpre : P _ := ih fun l hl => hallowed l (List.mem_append_left _ hl)
    exact hstep _ _ _ hpre (hallowed _ (by simp)) hlast

/-- A step before a run. -/
theorem Steps.head {s s' s'' : σ} {ls : List ℓ} {l : ℓ} (hstep : M.Step s l s')
    (hrun : M.Steps s' ls s'') : M.Steps s (l :: ls) s'' := by
  induction hrun with
  | refl => exact .tail (.refl s) hstep
  | tail _ hlast ih => exact ih.tail hlast

theorem Steps.append {s s' s'' : σ} {ls ls' : List ℓ} (h : M.Steps s ls s')
    (h' : M.Steps s' ls' s'') : M.Steps s (ls ++ ls') s'' := by
  induction h' with
  | refl =>
    rw [List.append_nil]
    exact h
  | tail _ hlast ih =>
    rw [← List.append_assoc]
    exact ih.tail hlast

/-- The step of a run with a given label, with the runs before and after it. -/
theorem Steps.split {s s' : σ} {ls₁ ls₂ : List ℓ} {l : ℓ} (h : M.Steps s (ls₁ ++ l :: ls₂) s') :
    ∃ t t', M.Steps s ls₁ t ∧ M.Step t l t' ∧ M.Steps t' ls₂ s' := by
  generalize hls : ls₁ ++ l :: ls₂ = ls at h
  induction h generalizing ls₂ with
  | refl => simp at hls
  | @tail s₁ s₂ ls' l' hrun hlast ih =>
    rcases List.eq_nil_or_concat ls₂ with rfl | ⟨ls₂, last, rfl⟩
    · obtain ⟨rfl, hl⟩ := List.append_inj' hls rfl
      cases hl
      exact ⟨s₁, s₂, hrun, hlast, .refl _⟩
    · rw [List.concat_eq_append, ← List.cons_append, ← List.append_assoc] at hls
      obtain ⟨hinit, hl⟩ := List.append_inj' hls rfl
      cases hl
      obtain ⟨t, t', hbefore, hstep, hafter⟩ := ih hinit
      rw [List.concat_eq_append]
      exact ⟨t, t', hbefore, hstep, hafter.tail hlast⟩

theorem Steps.nil {s s' : σ} (h : M.Steps s [] s') : s' = s := by
  generalize hls : ([] : List ℓ) = ls at h
  cases h with
  | refl => rfl
  | tail => simp at hls

theorem Steps.uncons {s s' : σ} {ls : List ℓ} {l : ℓ} (h : M.Steps s (l :: ls) s') :
    ∃ t, M.Step s l t ∧ M.Steps t ls s' := by
  have hsplit : M.Steps s ([] ++ l :: ls) s' := h
  obtain ⟨t, t', hnone, hstep, hrest⟩ := hsplit.split
  rw [hnone.nil] at hstep
  exact ⟨t', hstep, hrest⟩

/-- A run that leaves a set of states has a step that leaves it. -/
theorem Steps.leaves {P : σ → Prop} {s s' : σ} {ls : List ℓ} (hrun : M.Steps s ls s') (hs : P s)
    (hs' : ¬ P s') : ∃ ls₁ l ls₂ t t', ls = ls₁ ++ l :: ls₂ ∧ M.Steps s ls₁ t ∧ P t ∧
      M.Step t l t' ∧ ¬ P t' ∧ M.Steps t' ls₂ s' := by
  induction hrun with
  | refl => exact absurd hs hs'
  | @tail s₁ s₂ ls l hrun hlast ih =>
    by_cases hmid : P s₁
    · exact ⟨ls, l, [], s₁, s₂, rfl, hrun, hmid, hlast, hs', .refl _⟩
    · obtain ⟨ls₁, l', ls₂, t, t', hls, hbefore, ht, hstep, ht', hafter⟩ := ih hmid
      refine ⟨ls₁, l', ls₂ ++ [l], t, t', ?_, hbefore, ht, hstep, ht', hafter.tail hlast⟩
      rw [hls, List.append_assoc, List.cons_append]

/-- Invariant induction over the reachable states. -/
theorem Reachable.invariant {I : σ → Prop} (hinit : ∀ s, M.Init s → I s)
    (hstep : ∀ s l s', I s → M.Step s l s' → I s') {s : σ} (h : M.Reachable s) : I s := by
  obtain ⟨s₀, ls, hs₀, hrun⟩ := h
  exact hrun.preserves (fun _ => True) (fun s l s' hs _ => hstep s l s' hs)
    (fun _ _ => trivial) (hinit s₀ hs₀)

/-- The same steps, as far as they meet a condition. -/
def restrict (M : Transition σ ℓ) (allowed : σ → ℓ → σ → Prop) : Transition σ ℓ where
  Init := M.Init
  Step s l s' := M.Step s l s' ∧ allowed s l s'

/-- A run whose steps meet the condition is a run. -/
theorem Steps.of_restrict {allowed : σ → ℓ → σ → Prop} {s s' : σ} {ls : List ℓ}
    (h : (M.restrict allowed).Steps s ls s') : M.Steps s ls s' := by
  induction h with
  | refl => exact .refl _
  | tail _ hstep ih => exact ih.tail hstep.1

/-- A step with the states around it. -/
structure Taken (σ ℓ : Type) where
  before : σ
  label : ℓ
  after : σ

/-- The same steps, each recorded with the states around it. -/
def recorded (M : Transition σ ℓ) : Transition σ (Taken σ ℓ) where
  Init := M.Init
  Step s taken s' := taken.before = s ∧ taken.after = s' ∧ M.Step s taken.label s'

theorem recorded_step {s s' : σ} {l : ℓ} (h : M.Step s l s') : M.recorded.Step s ⟨s, l, s'⟩ s' :=
  ⟨rfl, rfl, h⟩

theorem Steps.of_recorded {s s' : σ} {run : List (Taken σ ℓ)} (h : M.recorded.Steps s run s') :
    M.Steps s (run.map Taken.label) s' := by
  induction h with
  | refl => exact .refl _
  | tail _ hstep ih =>
    rw [List.map_append, List.map_singleton]
    exact ih.tail hstep.2.2

/-- Every recorded step is a step of the system. -/
theorem Steps.step_of_mem {s s' : σ} {run : List (Taken σ ℓ)} (h : M.recorded.Steps s run s')
    {taken : Taken σ ℓ} (hmem : taken ∈ run) : M.Step taken.before taken.label taken.after := by
  induction h with
  | refl => cases hmem
  | tail _ hstep ih =>
    rcases List.mem_append.mp hmem with hearlier | hlast
    · exact ih hearlier
    · obtain ⟨hbefore, hafter, hstep⟩ := hstep
      rw [List.mem_singleton.mp hlast, hbefore, hafter]
      exact hstep

end Transition
