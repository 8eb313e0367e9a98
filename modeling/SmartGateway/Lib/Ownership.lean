import SmartGateway.Lib.Interleaving

/-! # Calls that own what they created

Some answers hand out a token, each a new one, such as a file number. A token stays with the
call that got it, so what a call knows about its own tokens is not changed by the others.

`Owned.step` is the rule of rely and guarantee for that: `K` is what a running call knows,
from its whole history, and another call has to leave it alone only as far as the tokens of
the two are different.
-/

namespace Concurrent

variable {S : Signature} {σ N τ : Type} {C : Concurrent S σ N}

/-- The tokens a history was given. -/
def held (token : Event S → Option τ) (past : List (Event S)) : List τ := past.filterMap token

theorem held_snoc (token : Event S → Option τ) (past : List (Event S)) (e : Event S) :
    held token (past ++ [e]) = held token past ++ (token e).toList :=
  Event.filterMap_snoc token past e

/-- What a step of a call of `A` may assume and must guarantee: `I` is the invariant of the shared
state, `issued` tells the tokens that were handed out, `K` is what a call knows and `G` what its
program checks before a step. -/
structure Owned (C : Concurrent S σ N) (A : N → Prop) (token : Event S → Option τ)
    (issued : σ → τ → Prop) (I : σ → Prop) (K : N → List (Event S) → σ → Prop)
    (G : N → List (Event S) → S.Op → Prop) : Prop where
  body : ∀ name, A name → ∃ Q, (C.body name).Always (G name) Q []
  start : ∀ name s, A name → I s → K name [] s
  /-- A token is new when it is handed out. -/
  fresh : ∀ name op s r s', C.Effect name op s r s' →
    (∀ t, issued s t → issued s' t) ∧ ∀ t ∈ token ⟨op, r⟩, ¬ issued s t ∧ issued s' t
  effect : ∀ name past op s r s', A name → I s → K name past s →
    (∀ t ∈ held token past, issued s t) → G name past op →
    C.Effect name op s r s' → I s' ∧ K name (past ++ [⟨op, r⟩]) s'
  /-- Two calls without a common token leave each other alone. -/
  apart : ∀ name past op s r s' name' past', A name → A name' → I s → K name past s →
    G name past op → C.Effect name op s r s' → K name' past' s →
    (∀ t ∈ held token past', issued s t ∧ t ∉ held token past) → K name' past' s'
  ambient : ∀ s ended s', I s → C.Ambient s ended s' →
    I s' ∧ (∀ t, issued s t → issued s' t) ∧
      ∀ name past, A name → ¬ ended name → K name past s → K name past s'

/-- What holds of every world: the invariant, each running call with what it knows, and no token
held twice. -/
structure Separate (C : Concurrent S σ N) (A : N → Prop) (token : Event S → Option τ)
    (issued : σ → τ → Prop) (I : σ → Prop) (K : N → List (Event S) → σ → Prop)
    (w : World C) : Prop where
  shared : I w.shared
  running : Running A w
  path : ∀ id f, w.flights id = some f → (C.body f.name).Path f.past f.rest
  known : ∀ id f, w.flights id = some f → K f.name f.past w.shared
  issued : ∀ id f, w.flights id = some f → ∀ t ∈ held token f.past, issued w.shared t
  apart : ∀ id id' f f', w.flights id = some f → w.flights id' = some f' → id ≠ id' →
    ∀ t ∈ held token f.past, t ∉ held token f'.past

variable {A : N → Prop} {token : Event S → Option τ} {issued : σ → τ → Prop} {I : σ → Prop}
  {K : N → List (Event S) → σ → Prop} {G : N → List (Event S) → S.Op → Prop} {w w' : World C}

theorem Separate.of_idle (hI : I w.shared) (hidle : ∀ id, w.flights id = none) :
    Separate C A token issued I K w := by
  have hnone : ∀ id f, w.flights id ≠ some f := by
    intro id f hf
    rw [hidle] at hf
    cases hf
  exact ⟨hI, fun id f hf => absurd hf (hnone id f), fun id f hf => absurd hf (hnone id f),
    fun id f hf => absurd hf (hnone id f), fun id f hf => absurd hf (hnone id f),
    fun id _ f _ hf => absurd hf (hnone id f)⟩

/-- A step after which no call knows or holds more than before. -/
theorem Separate.fewer (h : Separate C A token issued I K w) (hI : I w'.shared)
    (hflights : ∀ id f, w'.flights id = some f → w.flights id = some f)
    (hissued : ∀ t, issued w.shared t → issued w'.shared t)
    (hknown : ∀ id f, w'.flights id = some f → K f.name f.past w.shared →
      K f.name f.past w'.shared) :
    Separate C A token issued I K w' where
  shared := hI
  running id f hf := h.running id f (hflights id f hf)
  path id f hf := h.path id f (hflights id f hf)
  known id f hf := hknown id f hf (h.known id f (hflights id f hf))
  issued id f hf t ht := hissued t (h.issued id f (hflights id f hf) t ht)
  apart id id' f f' hf hf' := h.apart id id' f f' (hflights id f hf) (hflights id' f' hf')

/-- What is checked before a step of a running call. -/
theorem Separate.checked (h : Separate C A token issued I K w)
    (howned : Owned C A token issued I K G) {id : ℕ} {name : N} {past : List (Event S)} {op : S.Op}
    {next : S.Res op → Program S (C.Ret name)}
    (hflight : w.flights id = some ⟨name, past, .call op next⟩) : G name past op := by
  obtain ⟨Q, halways⟩ := howned.body name (h.running id _ hflight)
  have hrest := halways.path (h.path id _ hflight)
  rw [List.nil_append] at hrest
  exact hrest.1

/-- Every step of calls of `A` keeps a world separate. -/
theorem Owned.step (h : Owned C A token issued I K G) (hw : Separate C A token issued I K w)
    {l : Label C} (hstart : ∀ id name, l = .start id name → A name) (hstep : C.Step w l w') :
    Separate C A token issued I K w' := by
  have hrunning := hw.running.step hstep hstart
  cases hstep with
  | start name =>
    refine ⟨hw.shared, hrunning, ?_, ?_, ?_, ?_⟩
    · intro id f hf
      rcases update_cases hf with ⟨-, rfl⟩ | ⟨-, hold⟩
      · exact .refl _
      · exact hw.path id f hold
    · intro id f hf
      rcases update_cases hf with ⟨-, rfl⟩ | ⟨-, hold⟩
      · exact h.start name w.shared (hstart _ name rfl) hw.shared
      · exact hw.known id f hold
    · intro id f hf t ht
      rcases update_cases hf with ⟨-, rfl⟩ | ⟨-, hold⟩
      · cases ht
      · exact hw.issued id f hold t ht
    · -- the new call holds nothing yet
      intro id id' f f' hf hf' hne t ht
      rcases update_cases hf with ⟨-, rfl⟩ | ⟨-, hold⟩
      · cases ht
      rcases update_cases hf' with ⟨-, rfl⟩ | ⟨-, hold'⟩
      · exact List.not_mem_nil
      · exact hw.apart id id' f f' hold hold' hne t ht
  | @call id name past op next r s hflight heffect =>
    have hknown := hw.known id _ hflight
    have hname := hw.running id _ hflight
    have hchecked := hw.checked h hflight
    obtain ⟨hshared, hnow⟩ := h.effect name past op _ r s hname hw.shared hknown
      (hw.issued id _ hflight) hchecked heffect
    obtain ⟨hissued, hfresh⟩ := h.fresh name op _ r s heffect
    -- the call that makes the step knows more, the others lose nothing
    refine ⟨hshared, hrunning, ?_, ?_, ?_, ?_⟩
    · intro id' f hf
      rcases update_cases hf with ⟨-, rfl⟩ | ⟨-, hold⟩
      · exact (hw.path id _ hflight).snoc r
      · exact hw.path id' f hold
    · intro id' f hf
      rcases update_cases hf with ⟨-, rfl⟩ | ⟨hne, hold⟩
      · exact hnow
      · refine h.apart name past op _ r s f.name f.past hname (hw.running id' f hold) hw.shared
          hknown hchecked heffect (hw.known id' f hold) ?_
        intro t ht
        exact ⟨hw.issued id' f hold t ht, hw.apart id' id f _ hold hflight hne t ht⟩
    · intro id' f hf t ht
      rcases update_cases hf with ⟨-, rfl⟩ | ⟨-, hold⟩
      · rw [held_snoc, List.mem_append, Option.mem_toList] at ht
        rcases ht with ht | ht
        · exact hissued t (hw.issued id _ hflight t ht)
        · exact (hfresh t ht).2
      · exact hissued t (hw.issued id' f hold t ht)
    · -- a token handed out now is not one that another call has
      intro id₁ id₂ f₁ f₂ hf₁ hf₂ hne t ht₁ ht₂
      rcases update_cases hf₁ with ⟨rfl, rfl⟩ | ⟨hne₁, hold₁⟩
      · rcases update_cases hf₂ with ⟨rfl, -⟩ | ⟨-, hold₂⟩
        · exact hne rfl
        rw [held_snoc, List.mem_append, Option.mem_toList] at ht₁
        rcases ht₁ with ht₁ | ht₁
        · exact hw.apart id₁ id₂ _ f₂ hflight hold₂ hne t ht₁ ht₂
        · exact (hfresh t ht₁).1 (hw.issued id₂ f₂ hold₂ t ht₂)
      · rcases update_cases hf₂ with ⟨rfl, rfl⟩ | ⟨-, hold₂⟩
        · rw [held_snoc, List.mem_append, Option.mem_toList] at ht₂
          rcases ht₂ with ht₂ | ht₂
          · exact hw.apart id₁ id₂ f₁ _ hold₁ hflight hne t ht₁ ht₂
          · exact (hfresh t ht₂).1 (hw.issued id₁ f₁ hold₁ t ht₁)
        · exact hw.apart id₁ id₂ f₁ f₂ hold₁ hold₂ hne t ht₁ ht₂
  -- the other steps only end calls, or change the shared state as `ambient` allows
  | finish hflight =>
    refine hw.fewer hw.shared ?_ (fun _ ht => ht) fun _ _ _ hknown => hknown
    intro id f hf
    exact update_none hf
  | drop id =>
    refine hw.fewer hw.shared ?_ (fun _ ht => ht) fun _ _ _ hknown => hknown
    intro id f hf
    exact update_none hf
  | ambient hambient hnext hended =>
    obtain ⟨hshared, hissued, hknown⟩ := h.ambient _ _ _ hw.shared hambient
    refine hw.fewer hshared (fun id f hf => (hended id f hf).1) hissued ?_
    intro id f hf
    obtain ⟨hold, hlive⟩ := hended id f hf
    exact hknown f.name f.past (hw.running id f hold) hlive

/-- A run in which only calls of `A` start keeps a world separate. -/
theorem Owned.steps (h : Owned C A token issued I K G) {Init : σ → Prop} {ls : List (Label C)}
    (hrun : (C.toTransition Init).Steps w ls w')
    (hstarts : ∀ id name, Label.start id name ∈ ls → A name)
    (hw : Separate C A token issued I K w) : Separate C A token issued I K w' := by
  refine hrun.preserves (P := Separate C A token issued I K)
    (fun l => ∀ id name, l = .start id name → A name) ?_ ?_ hw
  · intro w l w' hw hstart hstep
    exact h.step hw hstart hstep
  · rintro l hl id name rfl
    exact hstarts id name hl

/-- A call that has ended knew what it knows to the last. -/
theorem Owned.finished (h : Owned C A token issued I K G) {Init : σ → Prop} {ls : List (Label C)}
    (hinit : (C.toTransition Init).Init w) (hrun : (C.toTransition Init).Steps w ls w')
    (hstarts : ∀ id name, Label.start id name ∈ ls → A name)
    (hw : Separate C A token issued I K w) {id : ℕ} {name : N} {result : C.Ret name}
    (hfinish : .finish id name result ∈ ls) {P : List (Event S) → S.Op → Prop}
    {Q : List (Event S) → C.Ret name → Prop} (halways : A name → (C.body name).Always P Q []) :
    ∃ past s, Q past result ∧ K name past s ∧
      ∀ name' e, .call id name' e ∈ ls ↔ name' = name ∧ e ∈ past := by
  have hrecalls := recalls_of_run hinit hrun
  induction hrun with
  | refl => cases hfinish
  | @tail w₁ w₂ ls l hbefore hlast ih =>
    have hstarts' := fun id name hstart => hstarts id name (List.mem_append_left _ hstart)
    rcases List.mem_append.mp hfinish with hearlier | hnow
    · obtain ⟨past, s, hresult, hknown, hevents⟩ :=
        ih hstarts' hearlier (recalls_of_run hinit hbefore)
      refine ⟨past, s, hresult, hknown, fun name' e => ?_⟩
      rw [List.mem_append, List.mem_singleton, hevents name' e]
      refine or_iff_left ?_
      -- a call that has ended makes no step any more
      rintro rfl
      cases hlast with
      | call hflight _ =>
        rw [((recalls_of_run hinit hbefore).finished id name result hearlier).1] at hflight
        cases hflight
    · rw [List.mem_singleton] at hnow
      subst hnow
      have hmid := h.steps hbefore hstarts' hw
      cases hlast with
      | @finish _ _ past _ hflight =>
        have hrest := (halways (hmid.running id _ hflight)).path (hmid.path id _ hflight)
        rw [List.nil_append] at hrest
        refine ⟨past, w₁.shared, hrest, hmid.known id _ hflight, fun name' e => ?_⟩
        have hcalls := ((recalls_of_run hinit hbefore).running id _ hflight).2 name' e
        rw [List.mem_append, List.mem_singleton]
        simpa using hcalls

/-! ## Calls that are over

The labels of a run tell the history of each of its calls, running or not. If nothing that happens
between the steps takes from what a call knows, then a call knows it to the end of the run,
whatever has become of the call.
-/

/-- The history of a call. -/
def eventsOf (id : ℕ) (ls : List (Label C)) : List (Event S) :=
  ls.filterMap fun
    | .call id' _ e => if id' = id then some e else none
    | _ => none

theorem eventsOf_call (id id' : ℕ) (name : N) (e : Event S) (ls : List (Label C)) :
    eventsOf id (ls ++ [.call id' name e]) =
      eventsOf id ls ++ if id' = id then [e] else [] := by
  unfold eventsOf
  rw [List.filterMap_append]
  by_cases hid : id' = id
  · simp [hid]
  · simp [hid]

theorem eventsOf_quiet (id : ℕ) {l : Label C} (hl : ∀ id name e, l ≠ .call id name e)
    (ls : List (Label C)) : eventsOf id (ls ++ [l]) = eventsOf id ls := by
  unfold eventsOf
  rw [List.filterMap_append]
  cases l with
  | call id' name e => exact absurd rfl (hl id' name e)
  | _ => simp

theorem mem_eventsOf {id : ℕ} {e : Event S} {ls : List (Label C)} :
    e ∈ eventsOf id ls ↔ ∃ name, .call id name e ∈ ls := by
  unfold eventsOf
  rw [List.mem_filterMap]
  constructor
  · rintro ⟨l, hl, heq⟩
    cases l with
    | call id' name e' =>
      dsimp only at heq
      split at heq
      · next hid =>
        cases heq
        exact ⟨name, hid ▸ hl⟩
      · cases heq
    | _ => cases heq
  · rintro ⟨name, hl⟩
    exact ⟨_, hl, if_pos rfl⟩

/-- What holds at the end of a run with the labels `ls`, of every call that was started. -/
structure Kept (C : Concurrent S σ N) (A : N → Prop) (token : Event S → Option τ)
    (issued : σ → τ → Prop) (I : σ → Prop) (K : N → List (Event S) → σ → Prop)
    (ls : List (Label C)) (w : World C) : Prop where
  separate : Separate C A token issued I K w
  flight : ∀ id f, w.flights id = some f → .start id f.name ∈ ls ∧ f.past = eventsOf id ls
  started : ∀ id name, .start id name ∈ ls → A name ∧ id < w.next ∧
    K name (eventsOf id ls) w.shared ∧ ∃ rest, (C.body name).Path (eventsOf id ls) rest
  called : ∀ id name e, .call id name e ∈ ls → .start id name ∈ ls
  unique : ∀ id name name', .start id name ∈ ls → .start id name' ∈ ls → name = name'
  finished : ∀ id name result, .finish id name result ∈ ls → .start id name ∈ ls ∧
    w.flights id = none ∧ (C.body name).Path (eventsOf id ls) (.pure result)
  issued : ∀ id, ∀ t ∈ held token (eventsOf id ls), issued w.shared t
  apart : ∀ id id', id ≠ id' →
    ∀ t ∈ held token (eventsOf id ls), t ∉ held token (eventsOf id' ls)

namespace Kept

variable {ls : List (Label C)}

theorem of_idle (hI : I w.shared) (hidle : ∀ id, w.flights id = none) :
    Kept C A token issued I K [] w where
  separate := .of_idle hI hidle
  flight id f hf := by
    rw [hidle] at hf
    cases hf
  started _ _ h := absurd h List.not_mem_nil
  called _ _ _ h := absurd h List.not_mem_nil
  unique _ _ _ h := absurd h List.not_mem_nil
  finished _ _ _ h := absurd h List.not_mem_nil
  issued _ _ ht := absurd ht List.not_mem_nil
  apart _ _ _ _ ht := absurd ht List.not_mem_nil

/-- A number that is not used yet has no history. -/
theorem unused (h : Kept C A token issued I K ls w) {id : ℕ} (hid : w.next ≤ id) :
    eventsOf id ls = [] := by
  rw [List.eq_nil_iff_forall_not_mem]
  intro e he
  obtain ⟨name, hcall⟩ := mem_eventsOf.mp he
  have hlt := (h.started id name (h.called id name e hcall)).2.1
  omega

/-- A step that is neither a start nor a step of a call. -/
theorem quiet (h : Kept C A token issued I K ls w) {l : Label C}
    (hl : ∀ id name e, l ≠ .call id name e) (hstart : ∀ id name, l ≠ .start id name)
    (hseparate : Separate C A token issued I K w') (hnext : w'.next = w.next)
    (hflights : ∀ id f, w'.flights id = some f → w.flights id = some f)
    (hfinish : ∀ id name result, l = .finish id name result →
      w.flights id = some ⟨name, eventsOf id ls, .pure result⟩ ∧ w'.flights id = none)
    (hissued : ∀ t, issued w.shared t → issued w'.shared t)
    (hknown : ∀ name past, A name → K name past w.shared → K name past w'.shared) :
    Kept C A token issued I K (ls ++ [l]) w' := by
  have hevents (id : ℕ) := eventsOf_quiet id hl ls
  have hstarted : ∀ id name, Label.start id name ∈ ls ++ [l] ↔ .start id name ∈ ls := by
    intro id name
    rw [List.mem_append, List.mem_singleton]
    exact or_iff_left fun heq => hstart id name heq.symm
  refine ⟨hseparate, ?_, ?_, ?_, ?_, ?_, ?_, ?_⟩
  · intro id f hf
    rw [hstarted, hevents]
    exact h.flight id f (hflights id f hf)
  · intro id name hname
    rw [hstarted] at hname
    obtain ⟨hA, hlt, hK, hpath⟩ := h.started id name hname
    rw [hevents, hnext]
    exact ⟨hA, hlt, hknown name _ hA hK, hpath⟩
  · intro id name e he
    rw [hstarted]
    rcases List.mem_append.mp he with hearlier | hnow
    · exact h.called id name e hearlier
    · exact absurd (List.mem_singleton.mp hnow).symm (hl id name e)
  · intro id name name' hname hname'
    rw [hstarted] at hname hname'
    exact h.unique id name name' hname hname'
  · intro id name result hresult
    rw [hstarted, hevents]
    rcases List.mem_append.mp hresult with hearlier | hnow
    · obtain ⟨hname, hnone, hpath⟩ := h.finished id name result hearlier
      refine ⟨hname, ?_, hpath⟩
      rw [Option.eq_none_iff_forall_ne_some] at hnone ⊢
      intro f hf
      exact hnone f (hflights id f hf)
    · obtain ⟨hflight, hnone⟩ := hfinish id name result (List.mem_singleton.mp hnow).symm
      exact ⟨(h.flight id _ hflight).1, hnone, h.separate.path id _ hflight⟩
  · intro id t ht
    rw [hevents] at ht
    exact hissued t (h.issued id t ht)
  · intro id id' hne t ht
    rw [hevents] at ht ⊢
    exact h.apart id id' hne t ht

theorem start (h : Kept C A token issued I K ls w) {name : N} (hname : A name)
    (hnew : K name [] w.shared)
    (hseparate : Separate C A token issued I K (⟨w.shared, w.next + 1,
      Function.update w.flights w.next (some ⟨name, [], C.body name⟩)⟩ : World C)) :
    Kept C A token issued I K (ls ++ [.start w.next name])
      ⟨w.shared, w.next + 1, Function.update w.flights w.next (some ⟨name, [], C.body name⟩)⟩ := by
  have hevents (id : ℕ) : eventsOf id (ls ++ [.start w.next name]) = eventsOf id ls :=
    eventsOf_quiet id (by simp) ls
  have hstarted : ∀ id name', Label.start id name' ∈ ls ++ [Label.start w.next name] ↔
      .start id name' ∈ ls ∨ id = w.next ∧ name' = name := by
    intro id name'
    simp
  -- so what is known of the new call is what its empty history shows
  have hunused := h.unused (Nat.le_refl w.next)
  refine ⟨hseparate, ?_, ?_, ?_, ?_, ?_, ?_, ?_⟩
  · intro id f hf
    rw [hstarted, hevents]
    rcases update_cases hf with ⟨rfl, rfl⟩ | ⟨-, hold⟩
    · exact ⟨Or.inr ⟨rfl, rfl⟩, hunused.symm⟩
    · obtain ⟨hname, hpast⟩ := h.flight id f hold
      exact ⟨Or.inl hname, hpast⟩
  · intro id name' hname'
    rw [hstarted] at hname'
    rw [hevents]
    rcases hname' with hearlier | ⟨rfl, rfl⟩
    · obtain ⟨hA, hlt, hK, hpath⟩ := h.started id name' hearlier
      exact ⟨hA, Nat.lt_succ_of_lt hlt, hK, hpath⟩
    · rw [hunused]
      exact ⟨hname, Nat.lt_succ_self _, hnew, _, .refl _⟩
  · intro id name' e he
    rw [hstarted]
    have hearlier : Label.call id name' e ∈ ls := by simpa using he
    exact Or.inl (h.called id name' e hearlier)
  · -- the number is new
    intro id name₁ name₂ h₁ h₂
    rw [hstarted] at h₁ h₂
    rcases h₁ with h₁ | ⟨rfl, rfl⟩
    · rcases h₂ with h₂ | ⟨rfl, rfl⟩
      · exact h.unique id name₁ name₂ h₁ h₂
      · have hlt := (h.started _ name₁ h₁).2.1
        omega
    · rcases h₂ with h₂ | ⟨-, rfl⟩
      · have hlt := (h.started _ name₂ h₂).2.1
        omega
      · rfl
  · intro id name' result hresult
    rw [hstarted, hevents]
    have hearlier : Label.finish id name' result ∈ ls := by simpa using hresult
    obtain ⟨hname', hnone, hpath⟩ := h.finished id name' result hearlier
    have hlt := (h.started id name' hname').2.1
    have hne : id ≠ w.next := by omega
    exact ⟨Or.inl hname', (Function.update_of_ne hne ..).trans hnone, hpath⟩
  · intro id t ht
    rw [hevents] at ht
    exact h.issued id t ht
  · intro id id' hne t ht
    rw [hevents] at ht ⊢
    exact h.apart id id' hne t ht

theorem call (h : Kept C A token issued I K ls w) (howned : Owned C A token issued I K G) {id : ℕ}
    {name : N} {past : List (Event S)} {op : S.Op} {next : S.Res op → Program S (C.Ret name)}
    {r : S.Res op} {s : σ} (hflight : w.flights id = some ⟨name, past, .call op next⟩)
    (heffect : C.Effect name op w.shared r s)
    (hseparate : Separate C A token issued I K (⟨s, w.next,
      Function.update w.flights id (some ⟨name, past ++ [⟨op, r⟩], next r⟩)⟩ : World C)) :
    Kept C A token issued I K (ls ++ [.call id name ⟨op, r⟩])
      ⟨s, w.next, Function.update w.flights id (some ⟨name, past ++ [⟨op, r⟩], next r⟩)⟩ := by
  obtain ⟨hname, hpast⟩ := h.flight id _ hflight
  obtain ⟨hA, hlt, hknown, -⟩ := h.started id name hname
  dsimp only at hname hpast
  -- what is checked is checked of the events of the call, which its flight lists
  have hchecked := h.separate.checked howned hflight
  rw [hpast] at hchecked
  obtain ⟨hissued, hfresh⟩ := howned.fresh name op _ r s heffect
  have hself : eventsOf id (ls ++ [.call id name ⟨op, r⟩]) = eventsOf id ls ++ [⟨op, r⟩] := by
    rw [eventsOf_call, if_pos rfl]
  have hother : ∀ id', id' ≠ id → eventsOf id' (ls ++ [.call id name ⟨op, r⟩]) =
      eventsOf id' ls := by
    intro id' hne
    rw [eventsOf_call, if_neg hne.symm, List.append_nil]
  have hstarted : ∀ id' name', Label.start id' name' ∈ ls ++ [Label.call id name ⟨op, r⟩] ↔
      .start id' name' ∈ ls := by
    intro id' name'
    simp
  refine ⟨hseparate, ?_, ?_, ?_, ?_, ?_, ?_, ?_⟩
  · intro id' f hf
    rw [hstarted]
    rcases update_cases hf with ⟨rfl, rfl⟩ | ⟨hne, hold⟩
    · rw [hself, hpast]
      exact ⟨hname, rfl⟩
    · rw [hother id' hne]
      exact h.flight id' f hold
  · intro id' name' hname'
    rw [hstarted] at hname'
    obtain ⟨hA', hlt', hknown', rest, hpath'⟩ := h.started id' name' hname'
    by_cases hid : id' = id
    · subst hid
      cases h.unique id' name name' hname hname'
      rw [hself]
      have hnow := (howned.effect name _ op _ r s hA h.separate.shared hknown (h.issued id')
        hchecked heffect).2
      have hrun := h.separate.path id' _ hflight
      rw [hpast] at hrun
      exact ⟨hA, hlt, hnow, next r, hrun.snoc r⟩
    · rw [hother id' hid]
      refine ⟨hA', hlt', ?_, rest, hpath'⟩
      refine howned.apart name _ op _ r s name' _ hA hA' h.separate.shared hknown hchecked heffect
        hknown' fun t ht => ?_
      exact ⟨h.issued id' t ht, h.apart id' id hid t ht⟩
  · intro id' name' e he
    rw [hstarted]
    rcases List.mem_append.mp he with hearlier | hnow
    · exact h.called id' name' e hearlier
    · cases List.mem_singleton.mp hnow
      exact hname
  · intro id' name₁ name₂ h₁ h₂
    rw [hstarted] at h₁ h₂
    exact h.unique id' name₁ name₂ h₁ h₂
  · intro id' name' result hresult
    rw [hstarted]
    have hearlier : Label.finish id' name' result ∈ ls := by simpa using hresult
    obtain ⟨hname', hnone, hpath⟩ := h.finished id' name' result hearlier
    -- a call that is over makes no step
    have hne : id' ≠ id := by
      rintro rfl
      rw [hnone] at hflight
      cases hflight
    rw [hother id' hne]
    exact ⟨hname', (Function.update_of_ne hne ..).trans hnone, hpath⟩
  · intro id' t ht
    by_cases hid : id' = id
    · subst hid
      rw [hself, held_snoc, List.mem_append, Option.mem_toList] at ht
      rcases ht with ht | ht
      · exact hissued t (h.issued id' t ht)
      · exact (hfresh t ht).2
    · rw [hother id' hid] at ht
      exact hissued t (h.issued id' t ht)
  · -- a token handed out now is not one that another call has or had
    intro id₁ id₂ hne t ht₁ ht₂
    by_cases hid₁ : id₁ = id
    · subst hid₁
      rw [hother id₂ hne.symm] at ht₂
      rw [hself, held_snoc, List.mem_append, Option.mem_toList] at ht₁
      rcases ht₁ with ht₁ | ht₁
      · exact h.apart id₁ id₂ hne t ht₁ ht₂
      · exact (hfresh t ht₁).1 (h.issued id₂ t ht₂)
    · rw [hother id₁ hid₁] at ht₁
      by_cases hid₂ : id₂ = id
      · subst hid₂
        rw [hself, held_snoc, List.mem_append, Option.mem_toList] at ht₂
        rcases ht₂ with ht₂ | ht₂
        · exact h.apart id₁ id₂ hne t ht₁ ht₂
        · exact (hfresh t ht₂).1 (h.issued id₁ t ht₁)
      · rw [hother id₂ hid₂] at ht₂
        exact h.apart id₁ id₂ hne t ht₁ ht₂

end Kept

/-- If what happens between the steps takes from no call what it knows, then at the end of a run
every call that was started knows what it knows from its history. -/
theorem Owned.kept (h : Owned C A token issued I K G)
    (hambient : ∀ s ended s', I s → C.Ambient s ended s' →
      ∀ name past, A name → K name past s → K name past s')
    {Init : σ → Prop} {ls : List (Label C)} (hinit : (C.toTransition Init).Init w)
    (hI : I w.shared) (hrun : (C.toTransition Init).Steps w ls w')
    (hstarts : ∀ id name, Label.start id name ∈ ls → A name) :
    Kept C A token issued I K ls w' := by
  induction hrun with
  | refl => exact .of_idle hI hinit.2.2
  | @tail mid w' ls l hbefore hlast ih =>
    have hkept := ih fun id name hstart => hstarts id name (List.mem_append_left _ hstart)
    have hnow : ∀ id name, l = .start id name → A name := by
      rintro id name rfl
      exact hstarts id name (List.mem_append_right _ (List.mem_singleton_self _))
    have hseparate := h.step hkept.separate hnow hlast
    -- a start and a step of a call add to a history, the other steps are quiet
    cases hlast with
    | start name =>
      have hname := hnow _ name rfl
      exact hkept.start hname (h.start name _ hname hkept.separate.shared) hseparate
    | call hflight heffect => exact hkept.call h hflight heffect hseparate
    | @finish id name past result hflight =>
      obtain ⟨-, hpast⟩ := hkept.flight id _ hflight
      dsimp only at hpast
      subst hpast
      refine hkept.quiet (by simp) (by simp) hseparate rfl (fun _ _ hf => update_none hf) ?_
        (fun _ ht => ht) fun _ _ _ hknown => hknown
      intro id' name' result' heq
      cases heq
      exact ⟨hflight, Function.update_self ..⟩
    | drop id =>
      exact hkept.quiet (by simp) (by simp) hseparate rfl (fun _ _ hf => update_none hf) (by simp)
        (fun _ ht => ht) fun _ _ _ hknown => hknown
    | ambient hshared hnext hended =>
      exact hkept.quiet (by simp) (by simp) hseparate hnext (fun id f hf => (hended id f hf).1)
        (by simp) (h.ambient _ _ _ hkept.separate.shared hshared).2.1
        (hambient _ _ _ hkept.separate.shared hshared)

end Concurrent
