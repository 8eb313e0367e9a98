import Mathlib.Logic.Function.Basic
import Mathlib.Logic.Relation
import SmartGateway.Lib.Program
import SmartGateway.Lib.Transition

/-! # Interleaved calls

Concurrent calls on a shared state. Each call runs a program; its steps interleave with
those of the other calls, and it can be dropped between any two of them. What a step can
answer and change is a relation, so a step may also fail or be applied without an answer.

The invariant rule `Guarantee.step` is that of rely and guarantee: an invariant of the shared
state, and for each event in the history of a running call a fact that stays true whatever
the other calls do. It can be restricted to runs in which only some events happen.
-/

/-- A system of concurrent calls. -/
structure Concurrent (S : Signature) (σ N : Type) where
  Ret : N → Type
  /-- The program a call runs. -/
  body : (name : N) → Program S (Ret name)
  /-- What a step of a call can answer, with the shared state after it. -/
  Effect : N → (op : S.Op) → σ → S.Res op → σ → Prop
  /-- What can happen between the steps; it ends the calls in the predicate. -/
  Ambient : σ → (N → Prop) → σ → Prop

namespace Concurrent

variable {S : Signature} {σ N : Type} {C : Concurrent S σ N}

/-- A running call: what it was answered so far and what is left of it. -/
structure Flight (C : Concurrent S σ N) where
  name : N
  past : List (Event S)
  rest : Program S (C.Ret name)

/-- The shared state and the running calls, numbered in the order of their start. -/
structure World (C : Concurrent S σ N) where
  shared : σ
  next : ℕ
  flights : ℕ → Option (Flight C)

inductive Label (C : Concurrent S σ N) where
  | start (id : ℕ) (name : N)
  | call (id : ℕ) (name : N) (event : Event S)
  | finish (id : ℕ) (name : N) (result : C.Ret name)
  | drop (id : ℕ)
  | ambient

/-- The steps of the system. -/
inductive Step (C : Concurrent S σ N) : World C → Label C → World C → Prop where
  | start (w : World C) (name : N) :
      Step C w (.start w.next name)
        ⟨w.shared, w.next + 1,
          Function.update w.flights w.next (some ⟨name, [], C.body name⟩)⟩
  | call {w : World C} {id : ℕ} {name : N} {past : List (Event S)} {op : S.Op}
      {next : S.Res op → Program S (C.Ret name)} {r : S.Res op} {s : σ}
      (hflight : w.flights id = some ⟨name, past, .call op next⟩)
      (heffect : C.Effect name op w.shared r s) :
      Step C w (.call id name ⟨op, r⟩)
        ⟨s, w.next, Function.update w.flights id (some ⟨name, past ++ [⟨op, r⟩], next r⟩)⟩
  | finish {w : World C} {id : ℕ} {name : N} {past : List (Event S)} {result : C.Ret name}
      (hflight : w.flights id = some ⟨name, past, .pure result⟩) :
      Step C w (.finish id name result)
        ⟨w.shared, w.next, Function.update w.flights id none⟩
  | drop (w : World C) (id : ℕ) :
      Step C w (.drop id) ⟨w.shared, w.next, Function.update w.flights id none⟩
  | ambient {w w' : World C} {ended : N → Prop} (hshared : C.Ambient w.shared ended w'.shared)
      (hnext : w'.next = w.next)
      (hended : ∀ id f, w'.flights id = some f → w.flights id = some f ∧ ¬ ended f.name) :
      Step C w .ambient w'

/-! Each step of a call, by what it leaves of the call. -/

theorem exists_start (w : World C) (name : N) :
    ∃ w', C.Step w (.start w.next name) w' ∧ w'.shared = w.shared ∧
      w'.flights w.next = some ⟨name, [], C.body name⟩ :=
  ⟨_, .start w name, rfl, Function.update_self ..⟩

theorem exists_call {w : World C} {id : ℕ} {name : N} {past : List (Event S)} {op : S.Op}
    {next : S.Res op → Program S (C.Ret name)} {r : S.Res op} {s s' : σ}
    (hflight : w.flights id = some ⟨name, past, .call op next⟩) (hshared : w.shared = s)
    (heffect : C.Effect name op s r s') :
    ∃ w', C.Step w (.call id name ⟨op, r⟩) w' ∧ w'.shared = s' ∧
      w'.flights id = some ⟨name, past ++ [⟨op, r⟩], next r⟩ := by
  rw [← hshared] at heffect
  exact ⟨_, .call hflight heffect, rfl, Function.update_self ..⟩

theorem exists_finish {w : World C} {id : ℕ} {name : N} {past : List (Event S)}
    {result : C.Ret name} (hflight : w.flights id = some ⟨name, past, .pure result⟩) :
    ∃ w', C.Step w (.finish id name result) w' ∧ w'.shared = w.shared :=
  ⟨_, .finish hflight, rfl⟩

/-- The system from the given initial states, without running calls. -/
def toTransition (C : Concurrent S σ N) (Init : σ → Prop) : Transition (World C) (Label C) where
  Init w := Init w.shared ∧ w.next = 0 ∧ ∀ id, w.flights id = none
  Step := C.Step

/-- Steps of calls are restricted to those `ok` accepts, by their event and the shared states
around them; every other step is allowed. -/
def Allowed (ok : Event S → σ → σ → Prop) (w : World C) : Label C → World C → Prop
  | .call _ _ event, w' => ok event w.shared w'.shared
  | _, _ => True

theorem allowed_true (w : World C) (l : Label C) (w' : World C) :
    Allowed (fun _ _ _ => True) w l w' := by
  cases l <;> trivial

/-! ## The invariant rule -/

/-- What a step of a call may assume and must guarantee, if the call is one of `A` and `ok`
accepts the step: `I` is the invariant of the shared state, `J` the fact about an event of a
running call, `G` what programs check before a step. -/
structure Guarantee (C : Concurrent S σ N) (A : N → Prop) (ok : Event S → σ → σ → Prop)
    (I : σ → Prop) (J : ℕ → N → Event S → σ → Prop) (G : N → List (Event S) → S.Op → Prop) :
    Prop where
  body : ∀ name, A name → ∃ Q, (C.body name).Always (G name) Q []
  effect : ∀ id name past op s r s', I s → (∀ e ∈ past, J id name e s) → G name past op →
    C.Effect name op s r s' → ok ⟨op, r⟩ s s' →
    I s' ∧ J id name ⟨op, r⟩ s' ∧ ∀ id' name' e, J id' name' e s → J id' name' e s'
  ambient : ∀ s ended s', I s → C.Ambient s ended s' →
    I s' ∧ ∀ id name e, ¬ ended name → J id name e s → J id name e s'

/-- What holds of every world: the invariant of the shared state, and each running call is at
some point of its program, with the facts about its events. -/
structure Consistent (C : Concurrent S σ N) (I : σ → Prop) (J : ℕ → N → Event S → σ → Prop)
    (w : World C) : Prop where
  shared : I w.shared
  path : ∀ id f, w.flights id = some f → (C.body f.name).Path f.past f.rest
  events : ∀ id f, w.flights id = some f → ∀ e ∈ f.past, J id f.name e w.shared

/-- Only calls of `A` are running. -/
def Running (A : N → Prop) (w : World C) : Prop :=
  ∀ id f, w.flights id = some f → A f.name

variable {A : N → Prop} {ok : Event S → σ → σ → Prop} {I : σ → Prop}
  {J : ℕ → N → Event S → σ → Prop} {G : N → List (Event S) → S.Op → Prop}

/-- A running call after an update at `id` is the new one, or an old one elsewhere. -/
theorem update_cases {flights : ℕ → Option (Flight C)} {id id' : ℕ} {f f' : Flight C}
    (h : Function.update flights id (some f) id' = some f') :
    (id' = id ∧ f' = f) ∨ (id' ≠ id ∧ flights id' = some f') := by
  by_cases hid : id' = id
  · subst hid
    rw [Function.update_self, Option.some.injEq] at h
    exact Or.inl ⟨rfl, h.symm⟩
  · rw [Function.update_of_ne hid] at h
    exact Or.inr ⟨hid, h⟩

theorem update_none {flights : ℕ → Option (Flight C)} {id id' : ℕ} {f' : Flight C}
    (h : Function.update flights id none id' = some f') : flights id' = some f' := by
  by_cases hid : id' = id
  · subst hid
    rw [Function.update_self] at h
    cases h
  · rwa [Function.update_of_ne hid] at h

/-- As long as only calls of `A` start, only calls of `A` are running. -/
theorem Running.step {w w' : World C} {l : Label C} (h : Running A w) (hstep : C.Step w l w')
    (hstart : ∀ id name, l = .start id name → A name) : Running A w' := by
  intro id f hf
  cases hstep with
  | start name =>
    rcases update_cases hf with ⟨-, rfl⟩ | ⟨-, hold⟩
    · exact hstart _ name rfl
    · exact h id f hold
  | @call id' name past op next r s hflight heffect =>
    rcases update_cases hf with ⟨-, rfl⟩ | ⟨-, hold⟩
    · exact h id' ⟨name, past, .call op next⟩ hflight
    · exact h id f hold
  | finish hflight => exact h id f (update_none hf)
  | drop id' => exact h id f (update_none hf)
  | ambient _ _ hended => exact h id f (hended id f hf).1

/-- Every allowed step of a call of `A` keeps a world consistent. -/
theorem Guarantee.step_running (h : Guarantee C A ok I J G) {w w' : World C} {l : Label C}
    (hw : Consistent C I J w) (hrunning : Running A w) (hl : Allowed ok w l w')
    (hstep : C.Step w l w') : Consistent C I J w' := by
  cases hstep with
  | start name =>
    refine ⟨hw.shared, ?_, ?_⟩
    · intro id f hf
      rcases update_cases hf with ⟨-, rfl⟩ | ⟨-, hold⟩
      · exact .refl _
      · exact hw.path id f hold
    · intro id f hf
      rcases update_cases hf with ⟨-, rfl⟩ | ⟨-, hold⟩
      · simp
      · exact hw.events id f hold
  | @call id name past op next r s hflight heffect =>
    -- The step is made at a point of the program, so its condition holds of the history.
    have hpath := hw.path id _ hflight
    have hpast := hw.events id _ hflight
    have hguard : G name past op := by
      obtain ⟨Q, halways⟩ := h.body name (hrunning id _ hflight)
      have hrest := halways.path hpath
      rw [List.nil_append] at hrest
      exact hrest.1
    -- What the other calls know stays true over the step.
    obtain ⟨hshared, hevent, hstable⟩ :=
      h.effect id name past op _ r s hw.shared hpast hguard heffect hl
    refine ⟨hshared, ?_, ?_⟩
    · intro id' f hf
      rcases update_cases hf with ⟨-, rfl⟩ | ⟨-, hold⟩
      · exact hpath.snoc r
      · exact hw.path id' f hold
    · intro id' f hf e he
      rcases update_cases hf with ⟨rfl, rfl⟩ | ⟨-, hold⟩
      · rcases List.mem_append.mp he with he | he
        · exact hstable _ _ e (hpast e he)
        · rw [List.mem_singleton] at he
          subst he
          exact hevent
      · exact hstable _ _ e (hw.events id' f hold e he)
  | finish hflight =>
    exact ⟨hw.shared, fun id f hf => hw.path id f (update_none hf),
      fun id f hf => hw.events id f (update_none hf)⟩
  | drop id =>
    exact ⟨hw.shared, fun id f hf => hw.path id f (update_none hf),
      fun id f hf => hw.events id f (update_none hf)⟩
  -- Between the steps calls end, but none goes on.
  | ambient hambient hnext hended =>
    obtain ⟨hshared, hstable⟩ := h.ambient _ _ _ hw.shared hambient
    refine ⟨hshared, ?_, ?_⟩
    · intro id f hf
      exact hw.path id f (hended id f hf).1
    · intro id f hf e he
      obtain ⟨hold, hlive⟩ := hended id f hf
      exact hstable id f.name e hlive (hw.events id f hold e he)

/-- Every allowed step keeps a world consistent. -/
theorem Guarantee.step (h : Guarantee C (fun _ => True) ok I J G) {w w' : World C} {l : Label C}
    (hw : Consistent C I J w) (hl : Allowed ok w l w') (hstep : C.Step w l w') :
    Consistent C I J w' :=
  h.step_running hw (fun _ _ _ => trivial) hl hstep

/-- A world without running calls is consistent. -/
theorem Consistent.of_idle {w : World C} (hI : I w.shared) (hidle : ∀ id, w.flights id = none) :
    Consistent C I J w := by
  refine ⟨hI, ?_, ?_⟩
  · intro id f hf
    rw [hidle] at hf
    cases hf
  · intro id f hf
    rw [hidle] at hf
    cases hf

/-- A run of allowed steps keeps a world consistent. -/
theorem Guarantee.steps (h : Guarantee C (fun _ => True) ok I J G) {Init : σ → Prop} {w w' : World C}
    {ls : List (Label C)} (hrun : ((C.toTransition Init).restrict (Allowed ok)).Steps w ls w')
    (hw : Consistent C I J w) : Consistent C I J w' := by
  refine hrun.preserves (P := C.Consistent I J) (fun _ => True) ?_ (fun _ _ => trivial) hw
  rintro w l w' hw - ⟨hstep, hallowed⟩
  exact h.step hw hallowed hstep

/-- If every event is allowed, every reachable world is consistent. -/
theorem Guarantee.reachable (h : Guarantee C (fun _ => True) (fun _ _ _ => True) I J G)
    {Init : σ → Prop}
    (hinit : ∀ s, Init s → I s) {w : World C} (hw : (C.toTransition Init).Reachable w) :
    Consistent C I J w := by
  refine hw.invariant ?_ ?_
  · rintro w ⟨hshared, -, hidle⟩
    exact .of_idle (hinit _ hshared) hidle
  · intro w l w' hw hstep
    exact h.step hw (allowed_true w l w') hstep

/-- Every running call is at some point of its program. -/
theorem path_of_reachable {Init : σ → Prop} {w : World C} (hw : (C.toTransition Init).Reachable w)
    {id : ℕ} {f : Flight C} (hf : w.flights id = some f) : (C.body f.name).Path f.past f.rest := by
  have htrivial : Guarantee C (fun _ => True) (fun _ _ _ => True) (fun _ => True)
      (fun _ _ _ _ => True) fun _ _ _ => True := by
    refine ⟨fun name _ => ⟨_, (C.body name).always_true []⟩, ?_, ?_⟩
    · intros
      exact ⟨trivial, trivial, fun _ _ _ _ => trivial⟩
    · intros
      exact ⟨trivial, fun _ _ _ _ _ => trivial⟩
  exact (htrivial.reachable (fun _ _ => trivial) hw).path id f hf

/-- Calls are numbered from zero up to the next number. -/
theorem flight_lt {Init : σ → Prop} {w : World C} (hw : (C.toTransition Init).Reachable w)
    {id : ℕ} {f : Flight C} (hf : w.flights id = some f) : id < w.next := by
  have hall : ∀ id f, w.flights id = some f → id < w.next := by
    refine hw.invariant (I := fun w => ∀ id f, w.flights id = some f → id < w.next) ?_ ?_
    · rintro w ⟨-, -, hidle⟩ id f hf
      rw [hidle] at hf
      cases hf
    · intro w l w' hw hstep id f hf
      cases hstep with
      | start name =>
        rcases update_cases hf with ⟨rfl, -⟩ | ⟨-, hold⟩
        · exact Nat.lt_succ_self _
        · exact Nat.lt_succ_of_lt (hw id f hold)
      | call hflight _ =>
        rcases update_cases hf with ⟨rfl, -⟩ | ⟨-, hold⟩
        · exact hw _ _ hflight
        · exact hw id f hold
      | finish _ => exact hw id f (update_none hf)
      | drop _ => exact hw id f (update_none hf)
      | ambient _ hnext hended =>
        rw [hnext]
        exact hw id f (hended id f hf).1
  exact hall id f hf

/-- Before a step of a running call, its program's condition holds of the history. -/
theorem Consistent.before {w : World C} (hw : Consistent C I J w) {id : ℕ} {name : N}
    {past : List (Event S)} {op : S.Op} {next : S.Res op → Program S (C.Ret name)}
    (hflight : w.flights id = some ⟨name, past, .call op next⟩)
    {P : List (Event S) → S.Op → Prop} {Q : List (Event S) → C.Ret name → Prop}
    (halways : (C.body name).Always P Q []) : P past op := by
  have hrest := halways.path (hw.path id _ hflight)
  rw [List.nil_append] at hrest
  exact hrest.1

/-- The result of a call meets the condition its program establishes. -/
theorem Consistent.result {w : World C} (hw : Consistent C I J w) {id : ℕ} {name : N}
    {past : List (Event S)} {result : C.Ret name}
    (hflight : w.flights id = some ⟨name, past, .pure result⟩)
    {P : List (Event S) → S.Op → Prop} {Q : List (Event S) → C.Ret name → Prop}
    (halways : (C.body name).Always P Q []) : Q past result := by
  have hrest := halways.path (hw.path id _ hflight)
  rwa [List.nil_append] at hrest

/-! ## Calls that have ended -/

section Ended

variable {Init : σ → Prop} {w w' : World C} {ls : List (Label C)}

/-- A run in which only calls of `A` start keeps a world consistent. -/
theorem Guarantee.steps_running (h : Guarantee C A (fun _ _ _ => True) I J G)
    (hrun : (C.toTransition Init).Steps w ls w')
    (hstarts : ∀ id name, Label.start id name ∈ ls → A name) (hw : Consistent C I J w)
    (hrunning : Running A w) : Consistent C I J w' ∧ Running A w' := by
  refine hrun.preserves (P := fun w => C.Consistent I J w ∧ Running A w)
    (fun l => ∀ id name, l = .start id name → A name) ?_ ?_ ⟨hw, hrunning⟩
  · rintro w l w' ⟨hw, hrunning⟩ hstart hstep
    exact ⟨h.step_running hw hrunning (allowed_true w l w') hstep, hrunning.step hstep hstart⟩
  · rintro l hl id name rfl
    exact hstarts id name hl

/-- What is known about an event stays true over a step, if no ambient step ends the call. -/
theorem Guarantee.fact (h : Guarantee C A (fun _ _ _ => True) I J G) {l : Label C}
    (hw : Consistent C I J w) (hrunning : Running A w) (hstep : C.Step w l w') {id : ℕ} {name : N}
    (hlive : ∀ s ended s', C.Ambient s ended s' → ¬ ended name) {e : Event S}
    (hfact : J id name e w.shared) : J id name e w'.shared := by
  cases hstep with
  | start name' => exact hfact
  | @call id' name' past op next r s hflight heffect =>
    obtain ⟨Q, halways⟩ := h.body name' (hrunning id' _ hflight)
    exact (h.effect id' name' past op _ r s hw.shared (hw.events id' _ hflight)
      (hw.before hflight halways) heffect trivial).2.2 id name e hfact
  | finish hflight => exact hfact
  | drop id' => exact hfact
  | ambient hambient _ _ =>
    exact (h.ambient _ _ _ hw.shared hambient).2 id name e (hlive _ _ _ hambient) hfact

/-- What a call knew when it ended is still true at the end of the run. -/
theorem Guarantee.finished (h : Guarantee C A (fun _ _ _ => True) I J G)
    (hrun : (C.toTransition Init).Steps w ls w')
    (hstarts : ∀ id name, Label.start id name ∈ ls → A name) (hw : Consistent C I J w)
    (hrunning : Running A w) {id : ℕ} {name : N} {result : C.Ret name}
    (hlive : ∀ s ended s', C.Ambient s ended s' → ¬ ended name)
    (hfinish : .finish id name result ∈ ls) {P : List (Event S) → S.Op → Prop}
    {Q : List (Event S) → C.Ret name → Prop} (halways : A name → (C.body name).Always P Q []) :
    ∃ past, Q past result ∧ ∀ e ∈ past, J id name e w'.shared := by
  induction hrun with
  | refl => cases hfinish
  | tail hbefore hlast ih =>
    have hstarts' := fun id name hstart => hstarts id name (List.mem_append_left _ hstart)
    obtain ⟨hmid, hmidRunning⟩ := h.steps_running hbefore hstarts' hw hrunning
    rcases List.mem_append.mp hfinish with hearlier | hnow
    · obtain ⟨past, hresult, hfacts⟩ := ih hstarts' hearlier
      exact ⟨past, hresult, fun e he => h.fact hmid hmidRunning hlast hlive (hfacts e he)⟩
    · rw [List.mem_singleton] at hnow
      subst hnow
      cases hlast with
      | finish hflight =>
        have hresult := hmid.result hflight (halways (hmidRunning id _ hflight))
        exact ⟨_, hresult, hmid.events id _ hflight⟩

end Ended

/-! ## A call on its own -/

section Alone

variable {Init : σ → Prop} {w : World C} {name : N}

/-- A running call can go to its end while nothing else happens. -/
theorem exists_reachable_of_flight {id : ℕ} {past : List (Event S)}
    {rest : Program S (C.Ret name)} {s s' : σ} {result : C.Ret name}
    (hrun : Program.Runs (C.Effect name) rest s result s') (hw : (C.toTransition Init).Reachable w)
    (hflight : w.flights id = some ⟨name, past, rest⟩) (hshared : w.shared = s) :
    ∃ w', (C.toTransition Init).Reachable w' ∧ w'.shared = s' := by
  induction hrun generalizing w past with
  | pure a s => exact ⟨w, hw, hshared⟩
  | call hcall _ ih =>
    obtain ⟨w', hstep, hshared', hflight'⟩ := exists_call hflight hshared hcall
    exact ih (hw.step hstep) hflight' hshared'

/-- A state that a call leads to is reached. -/
theorem exists_reachable_of_runs (hw : (C.toTransition Init).Reachable w) {s' : σ}
    {result : C.Ret name} (hrun : Program.Runs (C.Effect name) (C.body name) w.shared result s') :
    ∃ w', (C.toTransition Init).Reachable w' ∧ w'.shared = s' := by
  obtain ⟨started, hstart, hshared, hflight⟩ := exists_start w name
  exact exists_reachable_of_flight hrun (hw.step hstart) hflight hshared

/-- The steps of one call after its start. -/
def IsStepOf (id : ℕ) (name : N) (result : C.Ret name) (l : Label C) : Prop :=
  (∃ e, l = .call id name e) ∨ l = .finish id name result

theorem exists_steps_of_flight {id : ℕ} {past : List (Event S)} {rest : Program S (C.Ret name)}
    {s s' : σ} {result : C.Ret name} (hrun : Program.Runs (C.Effect name) rest s result s')
    (hflight : w.flights id = some ⟨name, past, rest⟩) (hshared : w.shared = s) :
    ∃ ls w', (C.toTransition Init).Steps w ls w' ∧ w'.shared = s' ∧
      .finish id name result ∈ ls ∧ ∀ l ∈ ls, IsStepOf id name result l := by
  induction hrun generalizing w past with
  | pure a s =>
    obtain ⟨w', hstep, hshared'⟩ := exists_finish hflight
    refine ⟨[.finish id name a], w', .tail (.refl w) hstep, hshared'.trans hshared,
      List.mem_singleton_self _, ?_⟩
    intro l hl
    exact Or.inr (List.mem_singleton.mp hl)
  | @call op next _ _ _ r _ hcall _ ih =>
    obtain ⟨w₁, hstep, hshared₁, hflight₁⟩ := exists_call hflight hshared hcall
    obtain ⟨ls, w', hsteps, hshared', hfinish, hls⟩ := ih hflight₁ hshared₁
    refine ⟨_ :: ls, w', hsteps.head hstep, hshared', List.mem_cons_of_mem _ hfinish, ?_⟩
    intro l hl
    rcases List.mem_cons.mp hl with rfl | hlater
    · exact Or.inl ⟨_, rfl⟩
    · exact hls l hlater

/-- A call can be made from its start to its end while nothing else happens. -/
theorem exists_steps_of_runs {s' : σ} {result : C.Ret name}
    (hrun : Program.Runs (C.Effect name) (C.body name) w.shared result s') :
    ∃ ls w', (C.toTransition Init).Steps w (.start w.next name :: ls) w' ∧ w'.shared = s' ∧
      .finish w.next name result ∈ ls ∧ ∀ l ∈ ls, IsStepOf w.next name result l := by
  obtain ⟨started, hstart, hshared, hflight⟩ := exists_start w name
  obtain ⟨ls, w', hsteps, hrest⟩ := exists_steps_of_flight hrun hflight hshared
  exact ⟨ls, w', hsteps.head hstart, hrest⟩

/-- Steps of the surroundings that end no call. -/
def Quietly (C : Concurrent S σ N) : σ → σ → Prop :=
  Relation.ReflTransGen fun s s' => C.Ambient s (fun _ => False) s'

theorem exists_quietly {s s' : σ} (hshared : w.shared = s) (h : C.Quietly s s') :
    ∃ ls w', (C.toTransition Init).Steps w ls w' ∧ w'.shared = s' ∧ w'.flights = w.flights ∧
      ∀ l ∈ ls, l = .ambient := by
  induction h with
  | refl =>
    refine ⟨[], w, .refl w, hshared, rfl, ?_⟩
    intro l hl
    cases hl
  | @tail t t' _ hambient ih =>
    obtain ⟨ls, w₁, hsteps, hshared₁, hflights, hls⟩ := ih
    have hstep : (C.toTransition Init).Step w₁ .ambient ⟨t', w₁.next, w₁.flights⟩ := by
      refine @Step.ambient _ _ _ _ _ _ (fun _ => False) (hshared₁ ▸ hambient) rfl ?_
      intro id f hf
      exact ⟨hf, not_false⟩
    refine ⟨ls ++ [.ambient], ⟨t', w₁.next, w₁.flights⟩, hsteps.tail hstep, rfl, hflights, ?_⟩
    intro l hl
    rcases List.mem_append.mp hl with hearlier | hlast
    · exact hls l hearlier
    · exact List.mem_singleton.mp hlast

/-- The effect of a step after the surroundings have made theirs. -/
def Amid (C : Concurrent S σ N) (name : N) (op : S.Op) (s : σ) (r : S.Res op) (s' : σ) : Prop :=
  ∃ t, C.Quietly s t ∧ C.Effect name op t r s'

theorem exists_steps_of_flight_amid {id : ℕ} {past : List (Event S)}
    {rest : Program S (C.Ret name)} {s s' : σ} {result : C.Ret name}
    (hrun : Program.Runs (C.Amid name) rest s result s')
    (hflight : w.flights id = some ⟨name, past, rest⟩) (hshared : w.shared = s) :
    ∃ ls w', (C.toTransition Init).Steps w ls w' ∧ w'.shared = s' ∧
      .finish id name result ∈ ls ∧ ∀ l ∈ ls, IsStepOf id name result l ∨ l = .ambient := by
  induction hrun generalizing w past with
  | pure a s =>
    obtain ⟨w', hstep, hshared'⟩ := exists_finish hflight
    refine ⟨[.finish id name a], w', .tail (.refl w) hstep, hshared'.trans hshared,
      List.mem_singleton_self _, ?_⟩
    intro l hl
    exact Or.inl (Or.inr (List.mem_singleton.mp hl))
  | @call op next _ _ _ r _ hcall _ ih =>
    obtain ⟨t, hquietly, heffect⟩ := hcall
    obtain ⟨ls₁, w₁, hsteps₁, hshared₁, hflights, hls₁⟩ :=
      @exists_quietly _ _ _ _ Init _ _ _ hshared hquietly
    obtain ⟨w₂, hstep, hshared₂, hflight₂⟩ :=
      exists_call ((congrFun hflights id).trans hflight) hshared₁ heffect
    obtain ⟨ls, w', hsteps, hshared', hfinish, hls⟩ := ih hflight₂ hshared₂
    refine ⟨ls₁ ++ _ :: ls, w', hsteps₁.append (hsteps.head hstep), hshared',
      List.mem_append_right _ (List.mem_cons_of_mem _ hfinish), ?_⟩
    intro l hl
    rcases List.mem_append.mp hl with hambient | hl
    · exact Or.inr (hls₁ l hambient)
    · rcases List.mem_cons.mp hl with rfl | hlater
      · exact Or.inl (Or.inl ⟨_, rfl⟩)
      · exact hls l hlater

/-- A call can be made from its start to its end while the surroundings make steps between its
own. -/
theorem exists_steps_of_amid {s' : σ} {result : C.Ret name}
    (hrun : Program.Runs (C.Amid name) (C.body name) w.shared result s') :
    ∃ ls w', (C.toTransition Init).Steps w (.start w.next name :: ls) w' ∧ w'.shared = s' ∧
      .finish w.next name result ∈ ls ∧
      ∀ l ∈ ls, IsStepOf w.next name result l ∨ l = .ambient := by
  obtain ⟨started, hstart, hshared, hflight⟩ := exists_start w name
  obtain ⟨ls, w', hsteps, hrest⟩ := exists_steps_of_flight_amid hrun hflight hshared
  exact ⟨ls, w', hsteps.head hstart, hrest⟩

theorem not_start_of_alone {id : ℕ} {result : C.Ret name} {ls : List (Label C)}
    (h : ∀ l ∈ ls, IsStepOf id name result l) (id' : ℕ) (name' : N) : .start id' name' ∉ ls := by
  intro hmem
  rcases h _ hmem with ⟨e, hl⟩ | hl
  · cases hl
  · cases hl

theorem not_ambient_of_alone {id : ℕ} {result : C.Ret name} {ls : List (Label C)}
    (h : ∀ l ∈ ls, IsStepOf id name result l) : .ambient ∉ ls := by
  intro hmem
  rcases h _ hmem with ⟨e, hl⟩ | hl
  · cases hl
  · cases hl

end Alone

/-! ## What the labels of a run tell

A number stands for one call, so the events under it in the labels are the history of that
call: of a running call they are its past, and of a call that has ended the path to its
result.
-/

section Labels

variable {Init : σ → Prop} {w w' : World C} {ls : List (Label C)}

/-- What the labels of a run that ended in `w` tell about its calls. -/
structure Recalls (ls : List (Label C)) (w : World C) : Prop where
  unused : ∀ id, w.next ≤ id → w.flights id = none ∧ ∀ name e, Label.call id name e ∉ ls
  running : ∀ id f, w.flights id = some f → (C.body f.name).Path f.past f.rest ∧
    ∀ name e, Label.call id name e ∈ ls ↔ name = f.name ∧ e ∈ f.past
  called : ∀ id name e, Label.call id name e ∈ ls → ∃ past next,
    (C.body name).Path past (.call e.op next) ∧ ∀ e' ∈ past, Label.call id name e' ∈ ls
  finished : ∀ id name result, Label.finish id name result ∈ ls → w.flights id = none ∧
    id < w.next ∧ ∃ past, (C.body name).Path past (.pure result) ∧
      ∀ name' e, Label.call id name' e ∈ ls ↔ name' = name ∧ e ∈ past

namespace Recalls

theorem of_idle (hidle : ∀ id, w.flights id = none) : Recalls [] w := by
  refine ⟨fun id _ => ⟨hidle id, by simp⟩, ?_, by simp, by simp⟩
  intro id f hf
  rw [hidle] at hf
  cases hf

theorem lt_of_flight (h : Recalls ls w) {id : ℕ} {f : Flight C} (hf : w.flights id = some f) :
    id < w.next := by
  by_contra hle
  rw [(h.unused id (Nat.le_of_not_lt hle)).1] at hf
  cases hf

/-- A step that is no step of a call, starts no call and ends at most some. -/
theorem quiet (h : Recalls ls w) {l : Label C} (hl : ∀ id name e, l ≠ .call id name e)
    (hfinish : ∀ id name result, l ≠ .finish id name result) (hnext : w'.next = w.next)
    (hflights : ∀ id f, w'.flights id = some f → w.flights id = some f) :
    Recalls (ls ++ [l]) w' := by
  have hcall : ∀ id name e, Label.call id name e ∈ ls ++ [l] ↔ Label.call id name e ∈ ls := by
    intro id name e
    rw [List.mem_append, List.mem_singleton]
    exact or_iff_left fun heq => hl id name e heq.symm
  have hnone : ∀ id, w.flights id = none → w'.flights id = none := by
    intro id hid
    rw [Option.eq_none_iff_forall_ne_some] at hid ⊢
    exact fun f hf => hid f (hflights id f hf)
  refine ⟨?_, ?_, ?_, ?_⟩
  · intro id hid
    rw [hnext] at hid
    obtain ⟨hfree, hunused⟩ := h.unused id hid
    exact ⟨hnone id hfree, fun name e => (hcall id name e).not.mpr (hunused name e)⟩
  · intro id f hf
    simp only [hcall]
    exact h.running id f (hflights id f hf)
  · intro id name e he
    simp only [hcall] at he ⊢
    exact h.called id name e he
  · intro id name result hresult
    rcases List.mem_append.mp hresult with hearlier | hnow
    · obtain ⟨hfree, hlt, hpast⟩ := h.finished id name result hearlier
      simp only [hcall]
      exact ⟨hnone id hfree, hnext ▸ hlt, hpast⟩
    · exact absurd (List.mem_singleton.mp hnow).symm (hfinish id name result)

theorem start (h : Recalls ls w) (name : N) :
    Recalls (ls ++ [.start w.next name]) ⟨w.shared, w.next + 1,
      Function.update w.flights w.next (some ⟨name, [], C.body name⟩)⟩ := by
  have hcall : ∀ id name' e,
      Label.call id name' e ∈ ls ++ [.start w.next name] ↔ Label.call id name' e ∈ ls := by
    intro id name' e
    simp
  refine ⟨?_, ?_, ?_, ?_⟩
  · intro id hid
    have hne : id ≠ w.next := by
      dsimp only at hid
      omega
    obtain ⟨hfree, hunused⟩ := h.unused id (Nat.le_of_succ_le hid)
    exact ⟨(Function.update_of_ne hne ..).trans hfree,
      fun name e => (hcall id name e).not.mpr (hunused name e)⟩
  · intro id f hf
    simp only [hcall]
    rcases update_cases hf with ⟨rfl, rfl⟩ | ⟨-, hold⟩
    · refine ⟨.refl _, fun name' e => ?_⟩
      simp [(h.unused w.next (Nat.le_refl _)).2 name' e]
    · exact h.running id f hold
  · intro id name' e he
    simp only [hcall] at he ⊢
    exact h.called id name' e he
  · intro id name' result hresult
    have hearlier : Label.finish id name' result ∈ ls := by simpa using hresult
    obtain ⟨hfree, hlt, hpast⟩ := h.finished id name' result hearlier
    simp only [hcall, Function.update_of_ne (Nat.ne_of_lt hlt)]
    exact ⟨hfree, Nat.lt_succ_of_lt hlt, hpast⟩

theorem call (h : Recalls ls w) {id : ℕ} {name : N} {past : List (Event S)} {op : S.Op}
    {next : S.Res op → Program S (C.Ret name)} {r : S.Res op} {s : σ}
    (hflight : w.flights id = some ⟨name, past, .call op next⟩) :
    Recalls (ls ++ [.call id name ⟨op, r⟩]) ⟨s, w.next,
      Function.update w.flights id (some ⟨name, past ++ [⟨op, r⟩], next r⟩)⟩ := by
  have hlt := h.lt_of_flight hflight
  obtain ⟨hpath, hpast⟩ := h.running id _ hflight
  have hcall : ∀ id' name' e, Label.call id' name' e ∈ ls ++ [.call id name ⟨op, r⟩] ↔
      Label.call id' name' e ∈ ls ∨ (id' = id ∧ name' = name ∧ e = ⟨op, r⟩) := by
    intro id' name' e
    simp
  refine ⟨?_, ?_, ?_, ?_⟩
  · intro id' hid
    have hne : id' ≠ id := by
      rintro rfl
      exact absurd hlt (Nat.not_lt.mpr hid)
    obtain ⟨hfree, hunused⟩ := h.unused id' hid
    simp only [hcall, Function.update_of_ne hne]
    exact ⟨hfree, fun name' e he => he.elim (hunused name' e) fun he => hne he.1⟩
  · intro id' f hf
    simp only [hcall]
    rcases update_cases hf with ⟨rfl, rfl⟩ | ⟨hne, hold⟩
    · refine ⟨hpath.snoc r, fun name' e => ?_⟩
      rw [hpast name' e, List.mem_append, List.mem_singleton]
      simp only [true_and]
      tauto
    · obtain ⟨hpath', hpast'⟩ := h.running id' f hold
      refine ⟨hpath', fun name' e => ?_⟩
      rw [hpast' name' e]
      exact or_iff_left fun he => hne he.1
  · intro id' name' e he
    simp only [hcall] at he ⊢
    rcases he with hearlier | ⟨rfl, rfl, rfl⟩
    · obtain ⟨past', next', hpath', hevents⟩ := h.called id' name' e hearlier
      exact ⟨past', next', hpath', fun e' he' => Or.inl (hevents e' he')⟩
    · exact ⟨past, next, hpath, fun e' he' => Or.inl ((hpast name' e').mpr ⟨rfl, he'⟩)⟩
  · intro id' name' result hresult
    have hearlier : Label.finish id' name' result ∈ ls := by simpa using hresult
    obtain ⟨hfree, hlt', past', hpath', hevents⟩ := h.finished id' name' result hearlier
    -- a call that is over makes no step
    have hne : id' ≠ id := by
      rintro rfl
      rw [hfree] at hflight
      cases hflight
    simp only [hcall, Function.update_of_ne hne]
    refine ⟨hfree, hlt', past', hpath', fun name' e => ?_⟩
    rw [hevents name' e]
    exact or_iff_left fun he => hne he.1

theorem finish (h : Recalls ls w) {id : ℕ} {name : N} {past : List (Event S)}
    {result : C.Ret name} (hflight : w.flights id = some ⟨name, past, .pure result⟩) :
    Recalls (ls ++ [.finish id name result])
      ⟨w.shared, w.next, Function.update w.flights id none⟩ := by
  have hlt := h.lt_of_flight hflight
  have hcall : ∀ id' name' e,
      Label.call id' name' e ∈ ls ++ [.finish id name result] ↔ Label.call id' name' e ∈ ls := by
    intro id' name' e
    simp
  refine ⟨?_, ?_, ?_, ?_⟩
  · intro id' hid
    have hne : id' ≠ id := by
      rintro rfl
      exact absurd hlt (Nat.not_lt.mpr hid)
    obtain ⟨hfree, hunused⟩ := h.unused id' hid
    simp only [hcall, Function.update_of_ne hne]
    exact ⟨hfree, hunused⟩
  · intro id' f hf
    simp only [hcall]
    exact h.running id' f (update_none hf)
  · intro id' name' e he
    simp only [hcall] at he ⊢
    exact h.called id' name' e he
  · intro id' name' result' hresult
    simp only [hcall]
    rcases List.mem_append.mp hresult with hearlier | hnow
    · obtain ⟨hfree, hlt', hpast⟩ := h.finished id' name' result' hearlier
      refine ⟨?_, hlt', hpast⟩
      rw [Option.eq_none_iff_forall_ne_some]
      intro f hf
      rw [update_none hf] at hfree
      cases hfree
    · rw [List.mem_singleton] at hnow
      cases hnow
      obtain ⟨hpath, hpast⟩ := h.running id _ hflight
      exact ⟨Function.update_self .., hlt, past, hpath, hpast⟩

theorem step (h : Recalls ls w) {l : Label C} (hstep : C.Step w l w') : Recalls (ls ++ [l]) w' := by
  cases hstep with
  | start name => exact h.start name
  | call hflight _ => exact h.call hflight
  | finish hflight => exact h.finish hflight
  | drop id => exact h.quiet (by simp) (by simp) rfl fun _ _ hf => update_none hf
  | ambient _ hnext hended => exact h.quiet (by simp) (by simp) hnext fun id f hf => (hended id f hf).1

end Recalls

theorem recalls_of_run (hinit : (C.toTransition Init).Init w)
    (hrun : (C.toTransition Init).Steps w ls w') : Recalls ls w' := by
  induction hrun with
  | refl => exact .of_idle hinit.2.2
  | tail _ hstep ih => exact ih.step hstep

/-- When a call makes a step, its steps before are the path of its program to that step. -/
theorem exists_path_of_call {before after : List (Label C)} {id : ℕ} {name : N} {event : Event S}
    (hinit : (C.toTransition Init).Init w)
    (hrun : (C.toTransition Init).Steps w (before ++ .call id name event :: after) w') :
    ∃ past next, (C.body name).Path past (.call event.op next) ∧
      ∀ other e, Label.call id other e ∈ before ↔ other = name ∧ e ∈ past := by
  obtain ⟨reached, next, hbefore, hstep, -⟩ := hrun.split
  have hrecalls := recalls_of_run hinit hbefore
  cases hstep with
  | call hflight _ =>
    obtain ⟨hpath, hpast⟩ := hrecalls.running id _ hflight
    exact ⟨_, _, hpath, hpast⟩

end Labels

end Concurrent
