import Mathlib.Data.List.Basic

/-! # Effect programs

A program that performs calls and goes on with their answers, as a tree: `pure`
is a finished program and `call op next` performs `op` and continues with
`next` on the answer. Between two calls a program only computes, so a call is
where an asynchronous function can wait, fail, or be dropped.

* `run` executes a program with a handler that answers each call;
* `Path` relates a program to what is left of it after some calls were answered,
  whatever the answers were;
* `Always` is a triple over histories: before every call `P` holds of the history
  and the call, and `Q` of the history and the result at the end;
* `Calls` bounds the calls a program can make;
* `Owes` says that a program makes a wanted call before it ends, as long as its calls are
  answered in an allowed way;
* `Runs` is `run` for calls whose answers are not determined by the state.
-/

/-- The calls a program can make and the type of the answer to each. -/
structure Signature where
  Op : Type
  Res : Op → Type

/-- A call together with its answer. -/
structure Event (S : Signature) where
  op : S.Op
  res : S.Res op

namespace Event

variable {S : Signature} {α : Type}

/-- What a view shows of a history with one more call. -/
theorem filterMap_snoc (view : Event S → Option α) (past : List (Event S)) (e : Event S) :
    (past ++ [e]).filterMap view = past.filterMap view ++ (view e).toList := by
  rw [List.filterMap_append]
  cases h : view e with
  | none => simp [h]
  | some a => simp [h]

theorem mem_filterMap_snoc {view : Event S → Option α} {past : List (Event S)} {e : Event S}
    {a : α} : a ∈ (past ++ [e]).filterMap view ↔ a ∈ past.filterMap view ∨ view e = some a := by
  rw [filterMap_snoc, List.mem_append, Option.mem_toList]

end Event

/-- A program over the calls of `S`. -/
inductive Program (S : Signature) (α : Type) : Type where
  | pure (a : α)
  | call (op : S.Op) (next : S.Res op → Program S α)

namespace Program

variable {S T : Signature} {α β : Type} {σ : Type}

/-- Sequencing. -/
def bind : Program S α → (α → Program S β) → Program S β
  | .pure a, f => f a
  | .call op next, f => .call op fun r => (next r).bind f

/-- The program that makes one call. -/
def perform (op : S.Op) : Program S (S.Res op) := .call op .pure

instance : Monad (Program S) where
  pure := .pure
  bind := bind

/-! ## Running -/

/-- Runs a program with a handler that answers each call in a state. -/
def run (handle : (op : S.Op) → σ → S.Res op × σ) : Program S α → σ → α × σ
  | .pure a, s => (a, s)
  | .call op next, s => (next (handle op s).1).run handle (handle op s).2

/-- The calls a run makes, with their answers. -/
def trace (handle : (op : S.Op) → σ → S.Res op × σ) : Program S α → σ → List (Event S)
  | .pure _, _ => []
  | .call op next, s =>
    ⟨op, (handle op s).1⟩ :: (next (handle op s).1).trace handle (handle op s).2

section Run

variable (handle : (op : S.Op) → σ → S.Res op × σ)

@[simp] theorem run_pure (a : α) (s : σ) : (Program.pure a).run handle s = (a, s) := rfl

@[simp] theorem run_call (op : S.Op) (next : S.Res op → Program S α) (s : σ) :
    (Program.call op next).run handle s =
      (next (handle op s).1).run handle (handle op s).2 := rfl

theorem run_bind (p : Program S α) (f : α → Program S β) (s : σ) :
    (p >>= f).run handle s = (f (p.run handle s).1).run handle (p.run handle s).2 := by
  induction p generalizing s with
  | pure a => rfl
  | call op next ih => exact ih (handle op s).1 (handle op s).2

theorem trace_bind (p : Program S α) (f : α → Program S β) (s : σ) :
    (p.bind f).trace handle s =
      p.trace handle s ++ (f (p.run handle s).1).trace handle (p.run handle s).2 := by
  induction p generalizing s with
  | pure a => rfl
  | call op next ih => exact congrArg (_ :: ·) (ih (handle op s).1 (handle op s).2)

/-- After a call a run goes on with its answer. -/
theorem run_perform_bind {op : S.Op} {f : S.Res op → Program S β} {s t : σ} {r : S.Res op}
    (h : handle op s = (r, t)) :
    ((perform op).bind f).run handle s = (f r).run handle t := by
  change (f (handle op s).1).run handle (handle op s).2 = _
  rw [h]

/-- The calls a run makes, with their answers, each with the state it was made in. -/
def log : Program S α → σ → List (σ × Event S)
  | .pure _, _ => []
  | .call op next, s =>
    (s, ⟨op, (handle op s).1⟩) :: (next (handle op s).1).log (handle op s).2

theorem log_bind (p : Program S α) (f : α → Program S β) (s : σ) :
    (p.bind f).log handle s =
      p.log handle s ++ (f (p.run handle s).1).log handle (p.run handle s).2 := by
  induction p generalizing s with
  | pure a => rfl
  | call op next ih => exact congrArg (_ :: ·) (ih (handle op s).1 (handle op s).2)

theorem log_perform_bind {op : S.Op} {f : S.Res op → Program S β} {s t : σ} {r : S.Res op}
    (h : handle op s = (r, t)) :
    ((perform op).bind f).log handle s = (s, ⟨op, r⟩) :: (f r).log handle t := by
  change (s, ⟨op, (handle op s).1⟩) :: (f (handle op s).1).log handle (handle op s).2 = _
  rw [h]

end Run

/-! ## Fallible programs -/

section Fallible

variable {ε : Type}

/-- The `?` operator: goes on with a value, stops with an error. -/
def andThen (p : Program S (Except ε α)) (f : α → Program S (Except ε β)) :
    Program S (Except ε β) :=
  p.bind fun
    | .ok a => f a
    | .error error => .pure (.error error)

theorem run_andThen_ok {handle : (op : S.Op) → σ → S.Res op × σ} {p : Program S (Except ε α)}
    {f : α → Program S (Except ε β)} {s s' : σ} {a : α}
    (h : p.run handle s = (.ok a, s')) : (p.andThen f).run handle s = (f a).run handle s' := by
  have hbind := run_bind handle p
    (fun | .ok a => f a | .error error => .pure (.error error)) s
  rw [h] at hbind
  exact hbind

theorem run_andThen_error {handle : (op : S.Op) → σ → S.Res op × σ} {p : Program S (Except ε α)}
    {f : α → Program S (Except ε β)} {s s' : σ} {error : ε}
    (h : p.run handle s = (.error error, s')) :
    (p.andThen f).run handle s = (.error error, s') := by
  have hbind := run_bind handle p
    (fun | .ok a => f a | .error error => .pure (.error error)) s
  rw [h] at hbind
  exact hbind

end Fallible

/-! ## Interpreting calls as programs -/

/-- Replaces each call by a program over other calls. -/
def interp (f : (op : S.Op) → Program T (S.Res op)) : Program S α → Program T α
  | .pure a => .pure a
  | .call op next => (f op).bind fun r => (next r).interp f

/-! ## Paths -/

/-- What is left of a program after its first calls were answered. -/
inductive Path : Program S α → List (Event S) → Program S α → Prop where
  | refl (p : Program S α) : Path p [] p
  | head {op : S.Op} {next : S.Res op → Program S α} {es : List (Event S)} {q : Program S α}
      (r : S.Res op) : Path (next r) es q → Path (.call op next) (⟨op, r⟩ :: es) q

theorem Path.snoc {p : Program S α} {es : List (Event S)} {op : S.Op}
    {next : S.Res op → Program S α} (h : Path p es (.call op next)) (r : S.Res op) :
    Path p (es ++ [⟨op, r⟩]) (next r) := by
  generalize hq : Program.call op next = q at h
  induction h with
  | refl =>
    subst hq
    exact .head r (.refl _)
  | head r' _ ih => exact .head r' (ih hq)

theorem Path.trans {p q r : Program S α} {es es' : List (Event S)} (h : Path p es q)
    (h' : Path q es' r) : Path p (es ++ es') r := by
  induction h with
  | refl => exact h'
  | head answer _ ih => exact .head answer (ih h')

/-- A program whose calls can all be answered can be run to its end. -/
theorem exists_path_pure (hres : ∀ op, Nonempty (S.Res op)) (p : Program S α) :
    ∃ es a, Path p es (.pure a) := by
  induction p with
  | pure a => exact ⟨[], a, .refl _⟩
  | call op next ih =>
    obtain ⟨answer⟩ := hres op
    obtain ⟨es, a, hpath⟩ := ih answer
    exact ⟨⟨op, answer⟩ :: es, a, .head answer hpath⟩

theorem path_pure_iff {a : α} {es : List (Event S)} {q : Program S α} :
    Path (.pure a) es q ↔ es = [] ∧ q = .pure a := by
  constructor
  · intro h
    cases h
    exact ⟨rfl, rfl⟩
  · rintro ⟨rfl, rfl⟩
    exact .refl _

/-- One call ends with its answer. -/
theorem Path.perform_pure {op : S.Op} {es : List (Event S)} {answer : S.Res op}
    (h : Path (perform op) es (.pure answer)) : es = [⟨op, answer⟩] := by
  cases h with
  | head r h =>
    obtain ⟨rfl, hr⟩ := path_pure_iff.mp h
    cases hr
    rfl

/-- The calls of a sequence are those of its parts. -/
theorem Path.bind_pure {p : Program S α} {f : α → Program S β} {es : List (Event S)} {b : β}
    (h : Path (p.bind f) es (.pure b)) :
    ∃ es₁ a es₂, es = es₁ ++ es₂ ∧ Path p es₁ (.pure a) ∧ Path (f a) es₂ (.pure b) := by
  induction p generalizing es with
  | pure a => exact ⟨[], a, es, rfl, .refl _, h⟩
  | call op next ih =>
    cases h with
    | head r h =>
      obtain ⟨es₁, a, es₂, rfl, hfirst, hsecond⟩ := ih r h
      exact ⟨⟨op, r⟩ :: es₁, a, es₂, rfl, .head r hfirst, hsecond⟩

/-- A run follows a path. -/
theorem path_trace (handle : (op : S.Op) → σ → S.Res op × σ) (p : Program S α) (s : σ) :
    Path p (p.trace handle s) (.pure (p.run handle s).1) := by
  induction p generalizing s with
  | pure a => exact .refl _
  | call op next ih => exact .head _ (ih _ _)

/-! ## Triples over histories -/

/-- `P` holds of the history and the call before every call, `Q` of the history and
the result at the end, whatever the answers are. -/
def Always (P : List (Event S) → S.Op → Prop) (Q : List (Event S) → α → Prop) :
    List (Event S) → Program S α → Prop
  | past, .pure a => Q past a
  | past, .call op next => P past op ∧ ∀ r, Always P Q (past ++ [⟨op, r⟩]) (next r)

section Always

variable {P : List (Event S) → S.Op → Prop} {Q : List (Event S) → α → Prop}
  {past : List (Event S)}

theorem Always.mono {P' : List (Event S) → S.Op → Prop} {Q' : List (Event S) → α → Prop}
    {p : Program S α} (h : Always P Q past p) (hP : ∀ past op, P past op → P' past op)
    (hQ : ∀ past a, Q past a → Q' past a) : Always P' Q' past p := by
  induction p generalizing past with
  | pure a => exact hQ _ _ h
  | call op next ih => exact ⟨hP _ _ h.1, fun r => ih r (h.2 r)⟩

theorem Always.and {P' : List (Event S) → S.Op → Prop} {Q' : List (Event S) → α → Prop}
    {p : Program S α} (h : Always P Q past p) (h' : Always P' Q' past p) :
    Always (fun past op => P past op ∧ P' past op) (fun past a => Q past a ∧ Q' past a) past p := by
  induction p generalizing past with
  | pure a => exact ⟨h, h'⟩
  | call op next ih => exact ⟨⟨h.1, h'.1⟩, fun r => ih r (h.2 r) (h'.2 r)⟩

/-- A program meets the trivial conditions. -/
theorem always_true (p : Program S α) (past : List (Event S)) :
    Always (fun _ _ => True) (fun _ _ => True) past p := by
  induction p generalizing past with
  | pure a => exact trivial
  | call op next ih => exact ⟨trivial, fun r => ih r _⟩

/-- A triple goes on after any calls made before, about the part of the history that is its
own. -/
theorem Always.shift {p : Program S α} (h : Always P Q past p) (earlier : List (Event S)) :
    Always (fun whole op => ∃ own, whole = earlier ++ own ∧ P own op)
      (fun whole a => ∃ own, whole = earlier ++ own ∧ Q own a) (earlier ++ past) p := by
  induction p generalizing past with
  | pure a => exact ⟨past, rfl, h⟩
  | call op next ih =>
    refine ⟨⟨past, rfl, h.1⟩, fun r => ?_⟩
    rw [List.append_assoc]
    exact ih r (h.2 r)

/-- Events of the history stay in it. -/
theorem Always.keep {p : Program S α} (h : Always P Q past p) (e : Event S) (he : e ∈ past) :
    Always P (fun past a => Q past a ∧ e ∈ past) past p := by
  induction p generalizing past with
  | pure a => exact ⟨h, he⟩
  | call op next ih => exact ⟨h.1, fun r => ih r (h.2 r) (List.mem_append_left _ he)⟩

/-- A view that shows none of the calls shows the same at the end. -/
theorem Always.unseen {β : Type} {view : Event S → Option β} {p : Program S α}
    (h : Always P Q past p)
    (hview : ∀ past op (r : S.Res op), P past op → view ⟨op, r⟩ = none) :
    Always P (fun past' a => Q past' a ∧ past'.filterMap view = past.filterMap view) past p := by
  induction p generalizing past with
  | pure a => exact ⟨h, rfl⟩
  | call op next ih =>
    refine ⟨h.1, fun r => ?_⟩
    have hnow : (past ++ [(⟨op, r⟩ : Event S)]).filterMap view = past.filterMap view := by
      rw [Event.filterMap_snoc, hview past op r h.1, Option.toList_none, List.append_nil]
    have hrest := ih r (h.2 r)
    rwa [hnow] at hrest

/-- Sequencing rule. -/
theorem Always.bind {R : List (Event S) → β → Prop} {p : Program S β} {f : β → Program S α}
    (h : Always P R past p) (hf : ∀ past b, R past b → Always P Q past (f b)) :
    Always P Q past (p >>= f) := by
  induction p generalizing past with
  | pure b => exact hf _ _ h
  | call op next ih => exact ⟨h.1, fun r => ih r (h.2 r)⟩

/-- The `?` rule: an error ends the program. -/
theorem Always.andThen {ε : Type} {R : List (Event S) → Except ε β → Prop}
    {Q : List (Event S) → Except ε α → Prop} {p : Program S (Except ε β)}
    {f : β → Program S (Except ε α)} (h : Always P R past p)
    (hok : ∀ past b, R past (.ok b) → Always P Q past (f b))
    (herror : ∀ past error, R past (.error error) → Q past (.error error)) :
    Always P Q past (p.andThen f) := by
  apply h.bind
  intro past result hresult
  cases result with
  | ok b => exact hok past b hresult
  | error error => exact herror past error hresult

/-- A triple holds of what is left of a program, with the calls made so far as history. -/
theorem Always.path {p q : Program S α} {es : List (Event S)} (h : Always P Q past p)
    (hpath : Path p es q) : Always P Q (past ++ es) q := by
  induction hpath generalizing past with
  | refl => simpa using h
  | head r _ ih =>
    have := ih (h.2 r)
    rwa [List.append_assoc] at this

/-- Before every event of a path, the condition of its call held. -/
theorem Always.before {p q : Program S α} {es es₁ es₂ : List (Event S)} {e : Event S}
    (h : Always P Q past p) (hpath : Path p es q) (hes : es = es₁ ++ e :: es₂) :
    P (past ++ es₁) e.op := by
  induction hpath generalizing past es₁ with
  | refl => simp at hes
  | head r hrest ih =>
    cases es₁ with
    | nil =>
      rw [List.nil_append, List.cons.injEq] at hes
      rw [← hes.1, List.append_nil]
      exact h.1
    | cons e' es₁ =>
      rw [List.cons_append, List.cons.injEq] at hes
      have hlater := ih (h.2 r) hes.2
      rwa [List.append_assoc, List.singleton_append, hes.1] at hlater

/-- The result of a run meets its condition, with the events of the run as history. -/
theorem Always.run {p : Program S α} (h : Always P Q past p)
    (handle : (op : S.Op) → σ → S.Res op × σ) (s : σ) :
    Q (past ++ p.trace handle s) (p.run handle s).1 :=
  h.path (path_trace handle p s)

/-- An invariant of every call a program makes is an invariant of its run, and every answer
was given in a state where it held. -/
theorem Always.run_preserves {p : Program S α} {I : σ → Prop} (h : Always P Q past p)
    (handle : (op : S.Op) → σ → S.Res op × σ)
    (hstep : ∀ past op s, P past op → I s → I (handle op s).2) {s : σ} (hs : I s) :
    I (p.run handle s).2 ∧
      ∀ e ∈ p.trace handle s, ∃ s', I s' ∧ e.res = (handle e.op s').1 := by
  induction p generalizing past s with
  | pure a => exact ⟨hs, by simp [trace]⟩
  | call op next ih =>
    have hnext : I (handle op s).2 := hstep past op s h.1 hs
    obtain ⟨hfinal, hevents⟩ := ih (handle op s).1 (h.2 _) hnext
    refine ⟨hfinal, ?_⟩
    intro e he
    rcases List.mem_cons.mp he with rfl | he
    · exact ⟨s, hs, rfl⟩
    · exact hevents e he

end Always

/-! ## Triples of composed programs -/

section Compose

/-- Runs a program up to a call whose answer is not waited for, after `awaited` calls that were
answered, and then `rest`. -/
def cutShort : Program S α → Program S α → Nat → Program S α
  | .pure a, _, _ => .pure a
  | .call op _, rest, 0 => .call op fun _ => rest
  | .call op next, rest, awaited + 1 => .call op fun r => (next r).cutShort rest awaited

/-- Wherever a program is cut short, the triple of `rest` has to hold from there. -/
theorem Always.cutShort {P : List (Event S) → S.Op → Prop} {Q : List (Event S) → α → Prop}
    {M : List (Event S) → Prop} {past : List (Event S)} {p rest : Program S α}
    (h : Always P Q past p) (hcut : ∀ past op r, P past op → M (past ++ [⟨op, r⟩]))
    (hrest : ∀ past, M past → Always P Q past rest) (awaited : Nat) :
    Always P Q past (p.cutShort rest awaited) := by
  induction p generalizing past awaited with
  | pure a =>
    cases awaited with
    | zero => exact h
    | succ awaited => exact h
  | call op next ih =>
    cases awaited with
    | zero => exact ⟨h.1, fun r => hrest _ (hcut past op r h.1)⟩
    | succ awaited => exact ⟨h.1, fun r => ih r (h.2 r) awaited⟩

/-- A triple of a program and one of the program of each call give one of the program with its
calls replaced; `Rep` relates the histories. -/
theorem Always.interp {P : List (Event S) → S.Op → Prop} {Q : List (Event S) → α → Prop}
    {P' : List (Event T) → T.Op → Prop} {Rep : List (Event T) → List (Event S) → Prop}
    {f : (op : S.Op) → Program T (S.Res op)} {past : List (Event S)} {es : List (Event T)}
    {p : Program S α} (h : Always P Q past p)
    (hf : ∀ es past op, Rep es past → P past op →
      Always P' (fun es' r => Rep es' (past ++ [⟨op, r⟩])) es (f op))
    (hrep : Rep es past) :
    Always P' (fun es' a => ∃ past', Rep es' past' ∧ Q past' a) es (p.interp f) := by
  induction p generalizing past es with
  | pure a => exact ⟨past, hrep, h⟩
  | call op next ih =>
    refine (hf es past op hrep h.1).bind ?_
    intro es' r hrep'
    exact ih r (h.2 r) hrep'

end Compose

/-! ## The calls of a program -/

/-- Every call a program can make meets `P`, whatever the answers are. -/
def Calls (P : S.Op → Prop) : Program S α → Prop
  | .pure _ => True
  | .call op next => P op ∧ ∀ r, Calls P (next r)

section Calls

variable {P : S.Op → Prop}

theorem Calls.bind {p : Program S α} {f : α → Program S β} (hp : Calls P p)
    (hf : ∀ a, Calls P (f a)) : Calls P (p.bind f) := by
  induction p with
  | pure a => exact hf a
  | call op next ih => exact ⟨hp.1, fun r => ih r (hp.2 r)⟩

theorem Calls.andThen {ε : Type} {p : Program S (Except ε α)} {f : α → Program S (Except ε β)}
    (hp : Calls P p) (hf : ∀ a, Calls P (f a)) : Calls P (p.andThen f) := by
  apply hp.bind
  intro result
  cases result with
  | ok a => exact hf a
  | error error => trivial

/-- What every call preserves holds after a run, and before each of its calls. -/
theorem Calls.preserves {p : Program S α} {I : σ → Prop} (hp : Calls P p)
    (handle : (op : S.Op) → σ → S.Res op × σ)
    (hstep : ∀ op s, P op → I s → I (handle op s).2) {s : σ} (hs : I s) :
    I (p.run handle s).2 ∧ ∀ x ∈ p.log handle s, I x.1 ∧ P x.2.op := by
  induction p generalizing s with
  | pure a => exact ⟨hs, by simp [log]⟩
  | call op next ih =>
    obtain ⟨hfinal, hlog⟩ := ih (handle op s).1 (hp.2 _) (hstep op s hp.1 hs)
    refine ⟨hfinal, ?_⟩
    intro x hx
    rcases List.mem_cons.mp hx with rfl | hx
    · exact ⟨hs, hp.1⟩
    · exact hlog x hx

theorem Calls.mono {P' : S.Op → Prop} {p : Program S α} (hp : Calls P p)
    (h : ∀ op, P op → P' op) : Calls P' p := by
  induction p with
  | pure a => trivial
  | call op next ih => exact ⟨h op hp.1, fun r => ih r (hp.2 r)⟩

/-- Calls that need no condition add themselves to the history, and nothing else. -/
theorem Calls.always {C : List (Event S) → S.Op → Prop} {p : Program S α} (hp : Calls P p)
    (hC : ∀ past op, P op → C past op) (past : List (Event S)) :
    Always C (fun past' _ => ∃ own, past' = past ++ own ∧ ∀ e ∈ own, P e.op) past p := by
  induction p generalizing past with
  | pure a =>
    refine ⟨[], (List.append_nil past).symm, ?_⟩
    intro e he
    cases he
  | call op next ih =>
    refine ⟨hC past op hp.1, fun r => ?_⟩
    refine (ih r (hp.2 r) (past ++ [⟨op, r⟩])).mono (fun _ _ h => h) ?_
    rintro past' _ ⟨own, rfl, hown⟩
    refine ⟨⟨op, r⟩ :: own, ?_, ?_⟩
    · rw [List.append_assoc, List.singleton_append]
    · intro e he
      rcases List.mem_cons.mp he with rfl | he
      · exact hp.1
      · exact hown e he

/-- What is left of a program makes no other calls. -/
theorem Calls.path {p q : Program S α} {es : List (Event S)} (hp : Calls P p)
    (hpath : Path p es q) : Calls P q := by
  induction hpath with
  | refl => exact hp
  | head r _ ih => exact ih (hp.2 r)

end Calls

/-! ## Calls a program owes -/

/-- As long as its calls are answered in an allowed way, a program makes a wanted call, or ends
with a result that meets `Q` without one. -/
def Owes (allowed wanted : Event S → Prop) (Q : α → Prop) : Program S α → Prop
  | .pure a => Q a
  | .call op next => ∀ r, allowed ⟨op, r⟩ → wanted ⟨op, r⟩ ∨ Owes allowed wanted Q (next r)

section Owes

variable {allowed wanted : Event S → Prop}

/-- Every program ends with some result. -/
theorem owes_true (p : Program S α) : p.Owes allowed wanted fun _ => True := by
  induction p with
  | pure a => trivial
  | call op next ih => exact fun r _ => Or.inr (ih r)

theorem Owes.bind {R : α → Prop} {Q : β → Prop} {p : Program S α} {f : α → Program S β}
    (hp : p.Owes allowed wanted R) (hf : ∀ a, R a → (f a).Owes allowed wanted Q) :
    (p.bind f).Owes allowed wanted Q := by
  induction p with
  | pure a => exact hf a hp
  | call op next ih =>
    intro r hr
    rcases hp r hr with hwanted | hnext
    · exact Or.inl hwanted
    · exact Or.inr (ih r hnext)

/-- What is owed after a first call. -/
theorem owes_perform {Q : α → Prop} {op : S.Op} {f : S.Res op → Program S α}
    (h : ∀ r, allowed ⟨op, r⟩ → wanted ⟨op, r⟩ ∨ (f r).Owes allowed wanted Q) :
    ((perform op).bind f).Owes allowed wanted Q :=
  h

end Owes

/-! ## Runs among answers that are not determined -/

/-- A run of a program whose calls are answered as `effect` allows. -/
inductive Runs (effect : (op : S.Op) → σ → S.Res op → σ → Prop) :
    Program S α → σ → α → σ → Prop where
  | pure (a : α) (s : σ) : Runs effect (.pure a) s a s
  | call {op : S.Op} {next : S.Res op → Program S α} {s s' t : σ} {r : S.Res op} {a : α}
      (hcall : effect op s r s') (hrest : Runs effect (next r) s' a t) :
      Runs effect (.call op next) s a t

section Runs

variable {effect : (op : S.Op) → σ → S.Res op → σ → Prop}

theorem runs_pure {a b : α} {s t : σ} : Runs effect (.pure a) s b t ↔ b = a ∧ t = s := by
  constructor
  · intro h
    cases h
    exact ⟨rfl, rfl⟩
  · rintro ⟨rfl, rfl⟩
    exact .pure b t

/-- A run of a sequence is a run of each part. -/
theorem runs_bind {p : Program S α} {f : α → Program S β} {s t : σ} {b : β} :
    Runs effect (p.bind f) s b t ↔ ∃ a s', Runs effect p s a s' ∧ Runs effect (f a) s' b t := by
  constructor
  · intro h
    induction p generalizing s with
    | pure a => exact ⟨a, s, .pure a s, h⟩
    | call op next ih =>
      cases h with
      | call hcall hrest =>
        obtain ⟨a, s', hfirst, hsecond⟩ := ih _ hrest
        exact ⟨a, s', .call hcall hfirst, hsecond⟩
  · rintro ⟨a, s', hfirst, hsecond⟩
    induction hfirst with
    | pure => exact hsecond
    | call hcall _ ih => exact .call hcall (ih hsecond)

/-- A run stays one where more answers are allowed. -/
theorem Runs.mono {effect' : (op : S.Op) → σ → S.Res op → σ → Prop} {p : Program S α} {s t : σ}
    {a : α} (h : Runs effect p s a t) (heffect : ∀ op s r t, effect op s r t → effect' op s r t) :
    Runs effect' p s a t := by
  induction h with
  | pure a s => exact .pure a s
  | call hcall _ ih => exact .call (heffect _ _ _ _ hcall) ih

theorem runs_perform {op : S.Op} {s t : σ} {r : S.Res op} :
    Runs effect (perform op) s r t ↔ effect op s r t := by
  constructor
  · intro h
    cases h with
    | call hcall hrest =>
      obtain ⟨rfl, rfl⟩ := runs_pure.mp hrest
      exact hcall
  · intro h
    exact .call h (.pure r t)

end Runs

end Program
