import SmartGateway.Lib.Program

/-! # Two runs

Two programs that make the same calls for as long as the answers they get are related. Run by
handlers that give related answers and change the state in one way, they end in one state, with
related results.

`AlikeBut` is the same up to calls that are not looked at: either program can make any number of
them, and goes on the same way whatever they answer. In `Matched` programs the calls themselves can
differ, each from the one it is matched with.
-/

namespace Program

variable {S : Signature} {α β : Type} {σ : Type}
  {related : (op : S.Op) → S.Res op → S.Res op → Prop}

/-- The programs make the same calls, whatever related answers they get, and their results are
related by `R`. -/
inductive Alike (related : (op : S.Op) → S.Res op → S.Res op → Prop) (R : α → α → Prop) :
    Program S α → Program S α → Prop where
  | pure {a b : α} (h : R a b) : Alike related R (.pure a) (.pure b)
  | call (op : S.Op) {next next' : S.Res op → Program S α}
      (h : ∀ r r', related op r r' → Alike related R (next r) (next' r')) :
      Alike related R (.call op next) (.call op next')

namespace Alike

/-- Sequencing rule. -/
theorem bind {R : α → α → Prop} {Q : β → β → Prop} {p q : Program S α} {f g : α → Program S β}
    (h : Alike related R p q) (hnext : ∀ a b, R a b → Alike related Q (f a) (g b)) :
    Alike related Q (p.bind f) (q.bind g) := by
  induction h with
  | pure hR => exact hnext _ _ hR
  | call op _ ih => exact .call op ih

/-- The `?` rule: an error ends both programs. -/
theorem andThen {ε : Type} {Q : Except ε β → Except ε β → Prop}
    {p q : Program S (Except ε α)} {f g : α → Program S (Except ε β)}
    (h : Alike related (fun a b => a = b) p q) (hok : ∀ a, Alike related Q (f a) (g a))
    (herror : ∀ error, Q (.error error) (.error error)) :
    Alike related Q (p.andThen f) (q.andThen g) := by
  refine h.bind ?_
  rintro result _ rfl
  cases result with
  | ok a => exact hok a
  | error error => exact .pure (herror error)

/-- After a call the programs go on with related answers. -/
theorem perform {Q : β → β → Prop} {op : S.Op} {f g : S.Res op → Program S β}
    (h : ∀ r r', related op r r' → Alike related Q (f r) (g r')) :
    Alike related Q ((Program.perform op).bind f) ((Program.perform op).bind g) :=
  .call op h

theorem mono {R Q : α → α → Prop} {p q : Program S α} (h : Alike related R p q)
    (hRQ : ∀ a b, R a b → Q a b) : Alike related Q p q := by
  induction h with
  | pure hR => exact .pure (hRQ _ _ hR)
  | call op _ ih => exact .call op ih

/-- A program whose answers do not differ is alike to itself. -/
theorem refl {p : Program S α} (hp : p.Calls fun op => ∀ r r', related op r r' → r = r') :
    Alike related (fun a b => a = b) p p := by
  induction p with
  | pure a => exact .pure rfl
  | call op next ih =>
    refine .call op ?_
    intro r r' hr
    obtain rfl := hp.1 r r' hr
    exact ih r (hp.2 r)

/-- Two handlers that give related answers and change the state in one way make the same calls
of alike programs, and leave one state. -/
theorem run {R : α → α → Prop} {p q : Program S α} (h : Alike related R p q)
    {first second : (op : S.Op) → σ → S.Res op × σ}
    (hanswer : ∀ op s, related op (first op s).1 (second op s).1)
    (hstate : ∀ op s, (first op s).2 = (second op s).2) (s : σ) :
    R (p.run first s).1 (q.run second s).1 ∧ (p.run first s).2 = (q.run second s).2 ∧
      (p.trace first s).map Event.op = (q.trace second s).map Event.op := by
  induction h generalizing s with
  | pure hR => exact ⟨hR, rfl, rfl⟩
  | call op _ ih =>
    have hnext := ih _ _ (hanswer op s) (first op s).2
    obtain ⟨hresult, hend, hcalls⟩ := hnext
    rw [run_call, run_call, ← hstate]
    refine ⟨hresult, hend, ?_⟩
    rw [trace, trace, List.map_cons, List.map_cons, ← hstate, hcalls]

end Alike

/-! ## Calls that are not looked at -/

/-- The programs make the same calls but for `silent` ones, whatever related answers they get and
whatever the silent calls answer, and their results are related by `R`. -/
inductive AlikeBut (silent : S.Op → Bool) (related : (op : S.Op) → S.Res op → S.Res op → Prop)
    (R : α → α → Prop) : Program S α → Program S α → Prop where
  | pure {a b : α} (h : R a b) : AlikeBut silent related R (.pure a) (.pure b)
  | call (op : S.Op) {next next' : S.Res op → Program S α} (hop : silent op = false)
      (h : ∀ r r', related op r r' → AlikeBut silent related R (next r) (next' r')) :
      AlikeBut silent related R (.call op next) (.call op next')
  | left (op : S.Op) {next : S.Res op → Program S α} {q : Program S α} (hop : silent op = true)
      (h : ∀ r, AlikeBut silent related R (next r) q) :
      AlikeBut silent related R (.call op next) q
  | right (op : S.Op) {next : S.Res op → Program S α} {p : Program S α} (hop : silent op = true)
      (h : ∀ r, AlikeBut silent related R p (next r)) :
      AlikeBut silent related R p (.call op next)

/-- Two handlers whose states are related by `Sim`: calls that are looked at are answered
relatedly, and no silent call of either one changes what is related. -/
structure Simulates {τ : Type} (silent : S.Op → Bool)
    (related : (op : S.Op) → S.Res op → S.Res op → Prop) (Sim : σ → τ → Prop)
    (first : (op : S.Op) → σ → S.Res op × σ) (second : (op : S.Op) → τ → S.Res op × τ) :
    Prop where
  answers : ∀ op s t, silent op = false → Sim s t → related op (first op s).1 (second op t).1
  after : ∀ op s t, silent op = false → Sim s t → Sim (first op s).2 (second op t).2
  left : ∀ op s t, silent op = true → Sim s t → Sim (first op s).2 t
  right : ∀ op s t, silent op = true → Sim s t → Sim s (second op t).2

/-- The calls of a run that are looked at. -/
def observed (silent : S.Op → Bool) (events : List (Event S)) : List S.Op :=
  (events.map Event.op).filter fun op => !silent op

theorem observed_cons (silent : S.Op → Bool) (event : Event S) (events : List (Event S)) :
    observed silent (event :: events) =
      if silent event.op then observed silent events else event.op :: observed silent events := by
  unfold observed
  rw [List.map_cons, List.filter_cons]
  cases silent event.op <;> rfl

namespace AlikeBut

variable {silent : S.Op → Bool}

theorem bind {R : α → α → Prop} {Q : β → β → Prop} {p q : Program S α} {f g : α → Program S β}
    (h : AlikeBut silent related R p q)
    (hnext : ∀ a b, R a b → AlikeBut silent related Q (f a) (g b)) :
    AlikeBut silent related Q (p.bind f) (q.bind g) := by
  induction h with
  | pure hR => exact hnext _ _ hR
  | call op hop _ ih => exact .call op hop ih
  | left op hop _ ih => exact .left op hop ih
  | right op hop _ ih => exact .right op hop ih

/-- The `?` rule: an error ends both programs. -/
theorem andThen {ε : Type} {Q : Except ε β → Except ε β → Prop}
    {p q : Program S (Except ε α)} {f g : α → Program S (Except ε β)}
    (h : AlikeBut silent related (fun a b => a = b) p q)
    (hok : ∀ a, AlikeBut silent related Q (f a) (g a))
    (herror : ∀ error, Q (.error error) (.error error)) :
    AlikeBut silent related Q (p.andThen f) (q.andThen g) := by
  refine h.bind ?_
  rintro result _ rfl
  cases result with
  | ok a => exact hok a
  | error error => exact .pure (herror error)

/-- After a call that is looked at the programs go on with related answers. -/
theorem perform {Q : β → β → Prop} {op : S.Op} {f g : S.Res op → Program S β}
    (hop : silent op = false)
    (h : ∀ r r', related op r r' → AlikeBut silent related Q (f r) (g r')) :
    AlikeBut silent related Q ((Program.perform op).bind f) ((Program.perform op).bind g) :=
  .call op hop h

/-- A program without silent calls, whose answers do not differ, is alike to itself. -/
theorem refl {p : Program S α}
    (hp : p.Calls fun op => silent op = false ∧ ∀ r r', related op r r' → r = r') :
    AlikeBut silent related (fun a b => a = b) p p := by
  induction p with
  | pure a => exact .pure rfl
  | call op next ih =>
    refine .call op hp.1.1 ?_
    intro r r' hr
    obtain rfl := hp.1.2 r r' hr
    exact ih r (hp.2 r)

/-- Silent calls of the first program are skipped. -/
theorem skip_left {Q : β → β → Prop} {p : Program S α} {f : α → Program S β} {q : Program S β}
    (hp : p.Calls fun op => silent op = true) (h : ∀ a, AlikeBut silent related Q (f a) q) :
    AlikeBut silent related Q (p.bind f) q := by
  induction p with
  | pure a => exact h a
  | call op next ih => exact .left op hp.1 fun r => ih r (hp.2 r)

theorem skip_right {Q : β → β → Prop} {p : Program S α} {f : α → Program S β} {q : Program S β}
    (hp : p.Calls fun op => silent op = true) (h : ∀ a, AlikeBut silent related Q q (f a)) :
    AlikeBut silent related Q q (p.bind f) := by
  induction p with
  | pure a => exact h a
  | call op next ih => exact .right op hp.1 fun r => ih r (hp.2 r)

/-- Run by handlers that simulate each other, alike programs give related results and make the
same calls but for silent ones. The induction is on how the programs are alike. -/
theorem run {τ : Type} {R : α → α → Prop} {p q : Program S α}
    (h : AlikeBut silent related R p q) {Sim : σ → τ → Prop}
    {first : (op : S.Op) → σ → S.Res op × σ} {second : (op : S.Op) → τ → S.Res op × τ}
    (hsim : Simulates silent related Sim first second) {s : σ} {t : τ} (hst : Sim s t) :
    R (p.run first s).1 (q.run second t).1 ∧ Sim (p.run first s).2 (q.run second t).2 ∧
      observed silent (p.trace first s) = observed silent (q.trace second t) := by
  induction h generalizing s t with
  | pure hR => exact ⟨hR, hst, rfl⟩
  | call op hop _ ih =>
    obtain ⟨hresult, hend, hcalls⟩ :=
      ih _ _ (hsim.answers op s t hop hst) (hsim.after op s t hop hst)
    refine ⟨hresult, hend, ?_⟩
    rw [trace, trace, observed_cons, observed_cons, hcalls]
  | left op hop _ ih =>
    obtain ⟨hresult, hend, hcalls⟩ := ih (first op s).1 (hsim.left op s t hop hst)
    refine ⟨hresult, hend, ?_⟩
    rw [trace, observed_cons, if_pos hop, hcalls]
  | right op hop _ ih =>
    obtain ⟨hresult, hend, hcalls⟩ := ih (second op t).1 (hsim.right op s t hop hst)
    refine ⟨hresult, hend, ?_⟩
    rw [trace, observed_cons, if_pos hop, hcalls]

end AlikeBut

/-! ## Calls that are matched -/

/-- The programs make matching calls, one by one, whatever matching answers they get, and their
results are related by `R`. -/
inductive Matched (matching : S.Op → S.Op → Prop)
    (related : (op op' : S.Op) → S.Res op → S.Res op' → Prop) (R : α → α → Prop) :
    Program S α → Program S α → Prop where
  | pure {a b : α} (h : R a b) : Matched matching related R (.pure a) (.pure b)
  | call {op op' : S.Op} {next : S.Res op → Program S α} {next' : S.Res op' → Program S α}
      (hop : matching op op')
      (h : ∀ r r', related op op' r r' → Matched matching related R (next r) (next' r')) :
      Matched matching related R (.call op next) (.call op' next')

/-- Matching calls are answered relatedly in related states, and leave related states. -/
def Answering {τ : Type} (matching : S.Op → S.Op → Prop)
    (related : (op op' : S.Op) → S.Res op → S.Res op' → Prop) (Sim : σ → τ → Prop)
    (first : (op : S.Op) → σ → S.Res op × σ) (second : (op : S.Op) → τ → S.Res op × τ) : Prop :=
  ∀ op op' s t, matching op op' → Sim s t →
    related op op' (first op s).1 (second op' t).1 ∧ Sim (first op s).2 (second op' t).2

namespace Matched

variable {matching : S.Op → S.Op → Prop}
  {related : (op op' : S.Op) → S.Res op → S.Res op' → Prop}

theorem bind {R : α → α → Prop} {Q : β → β → Prop} {p q : Program S α} {f g : α → Program S β}
    (h : Matched matching related R p q)
    (hnext : ∀ a b, R a b → Matched matching related Q (f a) (g b)) :
    Matched matching related Q (p.bind f) (q.bind g) := by
  induction h with
  | pure hR => exact hnext _ _ hR
  | call hop _ ih => exact .call hop ih

/-- The `?` rule: an error ends both programs. -/
theorem andThen {ε : Type} {Q : Except ε β → Except ε β → Prop}
    {p q : Program S (Except ε α)} {f g : α → Program S (Except ε β)}
    (h : Matched matching related (fun a b => a = b) p q)
    (hok : ∀ a, Matched matching related Q (f a) (g a))
    (herror : ∀ error, Q (.error error) (.error error)) :
    Matched matching related Q (p.andThen f) (q.andThen g) := by
  refine h.bind ?_
  rintro result _ rfl
  cases result with
  | ok a => exact hok a
  | error error => exact .pure (herror error)

/-- After matching calls the programs go on with related answers. -/
theorem perform {Q : β → β → Prop} {op op' : S.Op} {f : S.Res op → Program S β}
    {g : S.Res op' → Program S β} (hop : matching op op')
    (h : ∀ r r', related op op' r r' → Matched matching related Q (f r) (g r')) :
    Matched matching related Q ((Program.perform op).bind f) ((Program.perform op').bind g) :=
  .call hop h

/-- A program whose calls match themselves, with answers that do not differ, is matched by
itself. -/
theorem refl {p : Program S α}
    (hp : p.Calls fun op => matching op op ∧ ∀ r r', related op op r r' → r = r') :
    Matched matching related (fun a b => a = b) p p := by
  induction p with
  | pure a => exact .pure rfl
  | call op next ih =>
    refine .call hp.1.1 ?_
    intro r r' hr
    obtain rfl := hp.1.2 r r' hr
    exact ih r (hp.2 r)

/-- Run by handlers that answer matching calls relatedly, matched programs give related results,
leave related states, and make matching calls one by one. -/
theorem run {τ : Type} {R : α → α → Prop} {p q : Program S α} (h : Matched matching related R p q)
    {Sim : σ → τ → Prop} {first : (op : S.Op) → σ → S.Res op × σ}
    {second : (op : S.Op) → τ → S.Res op × τ}
    (hanswering : Answering matching related Sim first second) {s : σ} {t : τ} (hst : Sim s t) :
    R (p.run first s).1 (q.run second t).1 ∧ Sim (p.run first s).2 (q.run second t).2 ∧
      List.Forall₂ (fun event event' => matching event.op event'.op) (p.trace first s)
        (q.trace second t) := by
  induction h generalizing s t with
  | pure hR => exact ⟨hR, hst, .nil⟩
  | call hop _ ih =>
    obtain ⟨hanswer, hnext⟩ := hanswering _ _ s t hop hst
    obtain ⟨hresult, hend, hcalls⟩ := ih _ _ hanswer hnext
    exact ⟨hresult, hend, .cons hop hcalls⟩

end Matched

end Program
