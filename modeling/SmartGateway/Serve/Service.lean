import SmartGateway.Inbound.Visit
import SmartGateway.Lib.Ownership
import SmartGateway.Serve.Compositions

/-! # A running gateway

Any number of requests and flushes of the spool at once, in any of the compositions of `serve`.
Every call can fail or lose its answer, the primary can take a record late, other processes write
to it, and the process can stop at any time. Still every execution of a request that was served is
on the books, under an identity of its own, and the books hold nothing else.
-/

namespace SmartGateway

open Inbound Upstream
open Program (Always)

/-! ## Programs -/

/-- The calls of a running gateway: those of a delivery, and those of a request that have nothing to
do with its repository or its spool. -/
inductive ServiceOp where
  | delivery (op : DeliveryOp)
  | outside (op : ApplicationOp)

abbrev ServiceOp.Answer : ServiceOp → Type
  | .delivery op => op.Answer
  | .outside op => op.Answer OpenAiSseDecoder

abbrev serviceCalls : Signature where
  Op := ServiceOp
  Res := ServiceOp.Answer

def onService (op : DeliveryOp) : Program serviceCalls (delivery.Res op) :=
  Program.perform (S := serviceCalls) (.delivery op)

/-- What a call of the application comes to in a composition. -/
def Composition.port (composition : Composition) :
    (op : ApplicationOp) → Program serviceCalls (op.Answer OpenAiSseDecoder)
  | .configuration op => ((composition.repository op).interp onSide).interp onService
  | .appendAttempt attempt => (appendAttempt attempt).interp onService
  | op => Program.perform (S := serviceCalls) (.outside op)

/-- What runs in a gateway: requests, and the flushes of the worker. -/
inductive Work where
  | visit (visit : Visit)
  | flush (limit : Nat)

/-! ## States -/

/-- The books, with the identities that were drawn by this gateway, those in use elsewhere, and the
records that were handed to the primary or the spool so far. -/
structure ServiceState (σ : Type) where
  books : ServeState σ
  drawn : List AttemptId
  elsewhere : List AttemptId
  handed : List AttemptRecord

namespace DeliveryOp

/-- The record a call hands over. -/
def hands : DeliveryOp → Option AttemptRecord
  | .side _ (.recordAttempt attempt) | .append attempt => some attempt
  | _ => none

/-- The entries a call removes from the spool. -/
def removes : DeliveryOp → List String
  | .acknowledge entryIds => entryIds
  | _ => []

end DeliveryOp

namespace ServiceOp

def hands : ServiceOp → Option AttemptRecord
  | .delivery op => op.hands
  | .outside _ => none

def removes : ServiceOp → List String
  | .delivery op => op.removes
  | .outside _ => []

end ServiceOp

variable {σ : Type}

/-- What a call can answer and change. -/
inductive ServiceAnswers (store : AttemptStore σ) :
    (op : ServiceOp) → ServiceState σ → op.Answer → ServiceState σ → Prop where
  | delivered {s : ServiceState σ} {op : DeliveryOp} {answer : op.Answer} {books : ServeState σ}
    (h : ServeState.Answers store op s.books answer books) :
    ServiceAnswers store (.delivery op) s answer { s with books, handed := op.hands.toList ++ s.handed }
  /-- An identity is one that nobody uses. -/
  | drew {s : ServiceState σ} {attemptId : AttemptId} (hdrawn : attemptId ∉ s.drawn)
    (helsewhere : attemptId ∉ s.elsewhere) :
    ServiceAnswers store (.outside .newAttemptId) s attemptId { s with drawn := attemptId :: s.drawn }
  | answered (s : ServiceState σ) (op : ApplicationOp) (hop : op ≠ .newAttemptId)
    (answer : op.Answer OpenAiSseDecoder) : ServiceAnswers store (.outside op) s answer s

/-- What happens between the calls. -/
inductive Befalls (store : AttemptStore σ) : ServiceState σ → ServiceState σ → Prop where
  /-- The primary takes a record it was sent, late or once more. -/
  | late (s : ServiceState σ) (now : Int) {attempt : AttemptRecord} (hhanded : attempt ∈ s.handed) :
    Befalls store s { s with books := s.books.takes store now attempt }
  /-- The primary takes a record of another process. -/
  | others (s : ServiceState σ) (now : Int) {attempt : AttemptRecord}
    (hdrawn : attempt.attemptId ∉ s.drawn) :
    Befalls store s
      { s with
        books := s.books.takes store now attempt
        elsewhere := attempt.attemptId :: s.elsewhere
        handed := attempt :: s.handed }
  /-- The other tables of the primary change. -/
  | changed (s : ServiceState σ) (primary : σ)
    (htable : store.table primary = store.table s.books.primary) :
    Befalls store s { s with books := { s.books with primary } }
  | outage (s : ServiceState σ) (accepting : Bool) :
    Befalls store s { s with books := { s.books with accepting } }
  /-- The process stops, or is started again. -/
  | restart (s : ServiceState σ) : Befalls store s s

/-- A running gateway. Whatever happens can end any of the calls. -/
def service (parse : String → Option Json) (print : Json → String) (composition : Composition)
    (store : AttemptStore σ) : Concurrent serviceCalls (ServiceState σ) Work where
  Ret
    | .visit _ => ClientResponse
    | .flush _ => Except String Nat
  body
    | .visit visit => (visit.serve parse print composition.gateway).interp composition.port
    | .flush limit => (flushUsageSpool limit).interp onService
  Effect _ := ServiceAnswers store
  Ambient s _ s' := Befalls store s s'

/-- A row read as a record. -/
def AttemptRow.record (row : AttemptRow) (attemptId : AttemptId) : AttemptRecord where
  attemptId := attemptId
  requestId := row.requestId
  routeId := row.routeId
  outcome := row.outcome
  failureCategory := row.failureCategory

/-- The books show records that were handed over: a row is one of them under its identity, and an
entry of the spool one under its id. -/
structure ServeState.Shows (store : AttemptStore σ) (handed : List AttemptRecord)
    (s : ServeState σ) : Prop where
  rows : ∀ key row, (store.table s.primary).get? key = some row →
    ∃ attempt ∈ handed, attempt.attemptId.text = key ∧ row.record attempt.attemptId = attempt
  entries : ∀ key row, s.spool.get? key = some row →
    row.payload.id = key ∧ key = DurableUsageSpool.entryId row.payload.attempt ∧
      row.payload.attempt ∈ handed

namespace ServiceState

/-- The identities of what was handed over are in use, and the books show nothing else. -/
structure Sound (store : AttemptStore σ) (s : ServiceState σ) : Prop where
  books : s.books.Shows store s.handed
  known : ∀ attempt ∈ s.handed,
    attempt.attemptId ∈ s.drawn ∨ attempt.attemptId ∈ s.elsewhere

/-- On what earlier processes have left. -/
structure Starts (store : AttemptStore σ) (s : ServiceState σ) : Prop where
  sound : s.Sound store
  drawn : s.drawn = []

/-- The primary has a row for the record, and one that has ended if the record says so. -/
def Recorded (store : AttemptStore σ) (s : ServiceState σ) (attempt : AttemptRecord) : Prop :=
  ∃ row, (store.table s.books.primary).get? attempt.attemptId.text = some row ∧
    (attempt.outcome.isStreamTerminal = true → row.outcome ≠ .committed)

/-- The record is in the primary or the spool. -/
def Holds (store : AttemptStore σ) (s : ServiceState σ) (attempt : AttemptRecord) : Prop :=
  s.Recorded store attempt ∨
    ∃ row, s.books.spool.get? (DurableUsageSpool.entryId attempt) = some row

end ServiceState

/-! ## What a step changes -/

/-- A row that takes a record stays as it was, or is the record then. -/
theorem ControlPlane.mergeAttempt_record (attempt : AttemptRecord) (row : AttemptRow) :
    mergeAttempt attempt row = row ∨
      (mergeAttempt attempt row).record attempt.attemptId = attempt := by
  unfold mergeAttempt
  split
  · next h =>
    refine Or.inr ?_
    rw [AttemptRow.record, h.1, h.2.1]
  · exact Or.inl rfl

/-- A row that has taken a record that ends it has ended. -/
theorem ControlPlane.ended_of_mergeAttempt {attempt : AttemptRecord} {row : AttemptRow}
    (hmerged : mergeAttempt attempt row = row) (hidentifies : row.Identifies attempt)
    (hterminal : attempt.outcome.isStreamTerminal = true) : row.outcome ≠ .committed := by
  intro hcommitted
  unfold mergeAttempt at hmerged
  rw [if_pos ⟨hidentifies.1, hidentifies.2, hcommitted, isStreamTerminal_iff.mpr hterminal⟩]
    at hmerged
  have hends : attempt.outcome = row.outcome := congrArg AttemptRow.outcome hmerged
  rw [hcommitted] at hends
  exact AttemptOutcome.ne_committed_of_isStreamTerminal hterminal hends

namespace ServeState

variable {store : AttemptStore σ} {s s' : ServeState σ} {handed : List AttemptRecord}
  {attempt : AttemptRecord}

/-- A call on the books lets the primary take the record it hands over, adds it to the spool,
removes entries, or changes no attempt. -/
theorem Answers.cases {op : DeliveryOp} {answer : op.Answer} (h : Answers store op s answer s') :
    (∃ now attempt, op.hands = some attempt ∧ s' = s.takes store now attempt) ∨
    (∃ now attempt, op.hands = some attempt ∧
      s' = { s with spool := s.spool.append now attempt }) ∨
    s' = { s with spool := s.spool.acknowledge op.removes } ∨
    (store.table s'.primary = store.table s.primary ∧ s'.spool = s.spool) := by
  cases h with
  | recorded _ now attempt => exact Or.inl ⟨now, attempt, rfl, rfl⟩
  | answerLost _ now attempt => exact Or.inl ⟨now, attempt, rfl, rfl⟩
  | spooled _ now attempt => exact Or.inr (Or.inl ⟨now, attempt, rfl, rfl⟩)
  | appended _ now attempt => exact Or.inr (Or.inl ⟨now, attempt, rfl, rfl⟩)
  | acknowledged _ entryIds => exact Or.inr (Or.inr (Or.inl rfl))
  | other _ _ _ _ primary htable => exact Or.inr (Or.inr (Or.inr ⟨htable, rfl⟩))
  | _ => exact Or.inr (Or.inr (Or.inr ⟨rfl, rfl⟩))

theorem Shows.mono (h : s.Shows store handed) {handed' : List AttemptRecord}
    (hmono : ∀ attempt ∈ handed, attempt ∈ handed') : s.Shows store handed' := by
  constructor
  · intro key row hrow
    rcases h.rows key row hrow with ⟨attempt, hattempt, hshows⟩
    exact ⟨attempt, hmono attempt hattempt, hshows⟩
  · intro key row hrow
    rcases h.entries key row hrow with ⟨hid, hkey, hattempt⟩
    exact ⟨hid, hkey, hmono _ hattempt⟩

theorem Shows.takes (hrecords : store.Records) (h : s.Shows store handed) (now : Int)
    (hattempt : attempt ∈ handed) : (s.takes store now attempt).Shows store handed := by
  refine ⟨?_, h.entries⟩
  intro key row hrow
  have hget := hrecords.get?_record s.primary now attempt key
  by_cases hkey : key = attempt.attemptId.text
  · rw [if_pos hkey, ← hkey] at hget
    -- the row is new, or the one that was there with the record merged into it
    cases hold : (store.table s.primary).get? key with
    | none =>
      rw [hold, Option.elim_none] at hget
      cases hget.symm.trans hrow
      exact ⟨attempt, hattempt, hkey.symm, rfl⟩
    | some old =>
      rw [hold, Option.elim_some] at hget
      cases hget.symm.trans hrow
      rcases ControlPlane.mergeAttempt_record attempt old with hsame | hrecord
      · rw [hsame]
        exact h.rows key old hold
      · exact ⟨attempt, hattempt, hkey.symm, hrecord⟩
  · rw [if_neg hkey] at hget
    exact h.rows key row (hget.symm.trans hrow)

theorem Shows.append (h : s.Shows store handed) (now : Int) (hattempt : attempt ∈ handed) :
    ({ s with spool := s.spool.append now attempt } : ServeState σ).Shows store handed := by
  refine ⟨h.rows, ?_⟩
  intro key row hrow
  have hget := DurableUsageSpool.get?_append s.spool now attempt key
  rw [hrow] at hget
  split at hget
  · next hkey =>
    -- an entry that is there already is left as it is
    cases hold : s.spool.get? key with
    | none =>
      rw [hold, Option.getD_none, Option.some.injEq] at hget
      subst hget
      exact ⟨rfl, hkey, hattempt⟩
    | some old =>
      rw [hold, Option.getD_some, Option.some.injEq] at hget
      subst hget
      exact h.entries key row hold
  · exact h.entries key row hget.symm

theorem Shows.acknowledge (h : s.Shows store handed) (entryIds : List String) :
    ({ s with spool := s.spool.acknowledge entryIds } : ServeState σ).Shows store handed := by
  refine ⟨h.rows, ?_⟩
  intro key row hrow
  have hget := DurableUsageSpool.get?_acknowledge s.spool entryIds key
  rw [hrow] at hget
  split at hget
  · cases hget
  · exact h.entries key row hget.symm

theorem Shows.same (h : s.Shows store handed)
    (htable : store.table s'.primary = store.table s.primary) (hspool : s'.spool = s.spool) :
    s'.Shows store handed := by
  constructor
  · rw [htable]
    exact h.rows
  · rw [hspool]
    exact h.entries

/-- What is handed over by a call is what the books may show more. -/
theorem Answers.shows (hrecords : store.Records) {op : DeliveryOp} {answer : op.Answer}
    (h : Answers store op s answer s') (hshows : s.Shows store handed) :
    s'.Shows store (op.hands.toList ++ handed) := by
  have hmore : s.Shows store (op.hands.toList ++ handed) :=
    hshows.mono fun _ hattempt => List.mem_append_right _ hattempt
  have hhanded : ∀ attempt, op.hands = some attempt → attempt ∈ op.hands.toList ++ handed := by
    intro attempt hattempt
    rw [hattempt]
    exact List.mem_cons_self
  rcases h.cases with ⟨now, attempt, hattempt, rfl⟩ | ⟨now, attempt, hattempt, rfl⟩ | rfl |
    ⟨htable, hspool⟩
  · exact hmore.takes hrecords now (hhanded attempt hattempt)
  · exact hmore.append now (hhanded attempt hattempt)
  · exact hmore.acknowledge _
  · exact hmore.same htable hspool

end ServeState

namespace ServiceState

variable {store : AttemptStore σ} {s s' : ServiceState σ}

/-- What a step leaves: `hands` are the records it hands over, `removes` the entries it removes
from the spool. -/
structure Extends (store : AttemptStore σ) (hands : List AttemptRecord) (removes : List String)
    (s s' : ServiceState σ) : Prop where
  handed : ∀ attempt, attempt ∈ s'.handed ↔ attempt ∈ hands ∨ attempt ∈ s.handed
  drawn : ∀ attemptId ∈ s.drawn, attemptId ∈ s'.drawn
  recorded : ∀ attempt, s.Recorded store attempt → s'.Recorded store attempt
  spooled : ∀ key row, s.books.spool.get? key = some row →
    key ∈ removes ∨ s'.books.spool.get? key = some row

/-- A record stays on the books of a primary that takes another one. -/
theorem Recorded.takes (hrecords : store.Records) {attempt : AttemptRecord}
    (h : s.Recorded store attempt) (now : Int) (other : AttemptRecord)
    (hbooks : s'.books = s.books.takes store now other) : s'.Recorded store attempt := by
  rcases h with ⟨row, hrow, hends⟩
  rcases hrecords.follows_record hrow now other with ⟨new, hnew, hfollows, -⟩
  refine ⟨new, ?_, ?_⟩
  · rw [hbooks]
    exact hnew
  · -- a row that has ended takes no other end
    intro hterminal
    have hended := hends hterminal
    rw [hfollows.eq_of_ne_committed hended]
    exact hended

theorem Recorded.same {attempt : AttemptRecord} (h : s.Recorded store attempt)
    (htable : store.table s'.books.primary = store.table s.books.primary) :
    s'.Recorded store attempt := by
  unfold Recorded
  rw [htable]
  exact h

/-- Records of one attempt with one outcome are recorded together. -/
theorem Recorded.congr {a b : AttemptRecord} (h : s.Recorded store a)
    (hsame : DurableUsageSpool.entryId a = DurableUsageSpool.entryId b) : s.Recorded store b := by
  rcases DurableUsageSpool.entryId_injective hsame with ⟨hid, houtcome⟩
  unfold Recorded at h ⊢
  rw [← hid, ← houtcome]
  exact h

/-- A step that hands over nothing and leaves the spool alone. -/
theorem extends_quiet (hhanded : s'.handed = s.handed)
    (hdrawn : ∀ attemptId ∈ s.drawn, attemptId ∈ s'.drawn)
    (hrecorded : ∀ attempt, s.Recorded store attempt → s'.Recorded store attempt)
    (hspool : s'.books.spool = s.books.spool) : Extends store [] [] s s' := by
  refine ⟨?_, hdrawn, hrecorded, ?_⟩
  · intro attempt
    rw [hhanded]
    simp
  · intro key row hrow
    rw [hspool]
    exact Or.inr hrow

theorem extends_of_answers (hrecords : store.Records) {op : ServiceOp} {answer : op.Answer}
    (h : ServiceAnswers store op s answer s') :
    Extends store op.hands.toList op.removes s s' := by
  cases h with
  | @delivered _ op answer books hanswers =>
    refine ⟨fun _ => List.mem_append, fun _ hdrawn => hdrawn, ?_, ?_⟩
    · intro attempt hrecorded
      rcases hanswers.cases with ⟨now, other, -, rfl⟩ | ⟨now, other, -, rfl⟩ | rfl | ⟨htable, -⟩
      · exact hrecorded.takes hrecords now other rfl
      · exact hrecorded
      · exact hrecorded
      · exact hrecorded.same htable
    · -- an entry goes only by being acknowledged
      intro key row hrow
      rcases hanswers.cases with ⟨now, other, -, rfl⟩ | ⟨now, other, -, rfl⟩ | rfl | ⟨-, hspool⟩
      · exact Or.inr hrow
      · refine Or.inr ?_
        dsimp only
        rw [DurableUsageSpool.get?_append, hrow]
        split
        · rfl
        · rfl
      · by_cases hkey : key ∈ op.removes
        · exact Or.inl hkey
        · refine Or.inr ?_
          dsimp only
          rw [DurableUsageSpool.get?_acknowledge, if_neg hkey, hrow]
      · refine Or.inr ?_
        dsimp only
        rw [hspool, hrow]
  | drew hdrawn helsewhere =>
    exact extends_quiet rfl (fun _ hmem => List.mem_cons_of_mem _ hmem)
      (fun _ hrecorded => hrecorded) rfl
  | answered op hop answer =>
    exact extends_quiet rfl (fun _ hmem => hmem) (fun _ hrecorded => hrecorded) rfl

/-- What happens between the calls hands over no record of an identity that was drawn, and removes
nothing. -/
theorem extends_of_befalls (hrecords : store.Records) (h : Befalls store s s') :
    ∃ hands, (∀ attempt ∈ hands, attempt.attemptId ∉ s.drawn) ∧ Extends store hands [] s s' := by
  have hnone : ∀ attempt ∈ ([] : List AttemptRecord), attempt.attemptId ∉ s.drawn :=
    fun _ hnow => absurd hnow List.not_mem_nil
  cases h with
  | late now hhanded =>
    exact ⟨[], hnone, extends_quiet rfl (fun _ hmem => hmem)
      (fun _ hrecorded => hrecorded.takes hrecords now _ rfl) rfl⟩
  | @others now attempt hdrawn =>
    refine ⟨[attempt], ?_, by simp, fun _ hmem => hmem,
      fun _ hrecorded => hrecorded.takes hrecords now _ rfl, fun _ _ hrow => Or.inr hrow⟩
    intro other hother
    rw [List.mem_singleton.mp hother]
    exact hdrawn
  | changed primary htable =>
    exact ⟨[], hnone, extends_quiet rfl (fun _ hmem => hmem)
      (fun _ hrecorded => hrecorded.same htable) rfl⟩
  | outage accepting =>
    exact ⟨[], hnone, extends_quiet rfl (fun _ hmem => hmem) (fun _ hrecorded => hrecorded) rfl⟩
  | restart =>
    exact ⟨[], hnone, extends_quiet rfl (fun _ hmem => hmem) (fun _ hrecorded => hrecorded) rfl⟩

theorem Sound.answers (hrecords : store.Records) (hs : s.Sound store) {op : ServiceOp}
    {answer : op.Answer} (h : ServiceAnswers store op s answer s')
    (hhands : ∀ attempt ∈ op.hands,
      attempt.attemptId ∈ s.drawn ∨ attempt.attemptId ∈ s.elsewhere) : s'.Sound store := by
  cases h with
  | @delivered _ op answer books hanswers =>
    refine ⟨hanswers.shows hrecords hs.books, ?_⟩
    intro attempt hattempt
    rcases List.mem_append.mp hattempt with hnow | hearlier
    · exact hhands attempt (Option.mem_toList.mp hnow)
    · exact hs.known attempt hearlier
  | drew hdrawn helsewhere =>
    refine ⟨hs.books, ?_⟩
    intro attempt hattempt
    exact (hs.known attempt hattempt).imp (List.mem_cons_of_mem _) id
  | answered op hop answer => exact hs

theorem Sound.befalls (hrecords : store.Records) (hs : s.Sound store) (h : Befalls store s s') :
    s'.Sound store := by
  cases h with
  | late now hhanded => exact ⟨hs.books.takes hrecords now hhanded, hs.known⟩
  | @others now attempt hdrawn =>
    have hmore := hs.books.mono fun other hother => List.mem_cons_of_mem attempt hother
    refine ⟨hmore.takes hrecords now List.mem_cons_self, ?_⟩
    intro other hother
    rcases List.mem_cons.mp hother with rfl | hearlier
    · exact Or.inr List.mem_cons_self
    · exact (hs.known other hearlier).imp id (List.mem_cons_of_mem _)
  | changed primary htable => exact ⟨hs.books.same htable rfl, hs.known⟩
  | outage accepting => exact ⟨hs.books.same rfl rfl, hs.known⟩
  | restart => exact hs

end ServiceState

end SmartGateway
