import SmartGateway.Application.Gateway
import SmartGateway.Lib.Transition
import SmartGateway.Runtime.Delivery
import SmartGateway.Storage.AttemptLifecycle

/-! # The compositions of `serve`

`serve` puts a gateway together in one of three ways. They differ in the repository behind the
gateway, in whether the gateway has a spool of its own, and in whether the spool is flushed:
a step of a composition is a call that its programs make, a flush if it has one, or something
outside of it. Calls of concurrent requests interleave, so a call is a step by itself.

The primary accepts writes or does not; while it does, a call can still fail or lose its
answer.
-/

namespace SmartGateway

open Program

inductive Composition where
  | sqlite
  /-- PostgreSQL reachable at start. -/
  | postgres
  /-- PostgreSQL unreachable at start, with a last-known-good snapshot. -/
  | lastKnownGood
deriving DecidableEq

namespace Composition

/-- What each `Gateway` is built with. -/
def gateway : Composition → Gateway
  | .sqlite => { usageSpool := true, accounting := true }
  | .postgres => { usageSpool := false, accounting := true }
  | .lastKnownGood => { usageSpool := false, accounting := false }

/-- The repository of the gateway: the primary, the primary with the snapshot behind it, or the
snapshot alone. -/
def repository : Composition → (op : RepositoryOp) → Program sides (Except String op.Output)
  | .sqlite, op => Program.perform (S := sides) (.primary, op)
  | .postgres, op => SnapshotFallback.body op
  | .lastKnownGood, op => Program.perform (S := sides) (.fallback, op)

/-- Whether the spool is flushed, at start and by a worker. -/
def flushes : Composition → Bool
  | .postgres => true
  | .sqlite | .lastKnownGood => false

/-- The state of the primary store. -/
abbrev Primary : Composition → Type
  | .sqlite => ControlPlane
  | .postgres | .lastKnownGood => Postgres.Session

def store (digest : String → String) (leaseId : String) :
    (composition : Composition) → AttemptStore composition.Primary
  | .sqlite => Sqlite.attempts
  | .postgres | .lastKnownGood => Postgres.attempts digest leaseId

theorem records (digest : String → String) (leaseId : String) (composition : Composition) :
    (composition.store digest leaseId).Records := by
  cases composition with
  | sqlite => exact Sqlite.records_attempts
  | postgres => exact Postgres.records_attempts digest leaseId
  | lastKnownGood => exact Postgres.records_attempts digest leaseId

end Composition

/-! ## States and calls -/

structure ServeState (σ : Type) where
  primary : σ
  /-- The primary store accepts writes. -/
  accepting : Bool
  spool : DurableUsageSpool

namespace ServeState

variable {σ : Type}

/-- The primary takes a record. -/
def takes (s : ServeState σ) (store : AttemptStore σ) (now : Int) (attempt : AttemptRecord) :
    ServeState σ :=
  { s with primary := (store.record s.primary now attempt).2 }

/-- What a call can answer and change. -/
inductive Answers (store : AttemptStore σ) :
    (op : DeliveryOp) → ServeState σ → op.Answer → ServeState σ → Prop where
  | recorded (s : ServeState σ) (now : Int) (attempt : AttemptRecord) (h : s.accepting = true) :
    Answers store (.side .primary (.recordAttempt attempt)) s
      (store.record s.primary now attempt).1 (s.takes store now attempt)
  | refused (s : ServeState σ) (op : RepositoryOp) (error : String) :
    Answers store (.side .primary op) s (.error error) s
  /-- The primary takes the record, its answer does not get through. -/
  | answerLost (s : ServeState σ) (now : Int) (attempt : AttemptRecord) (error : String)
    (h : s.accepting = true) :
    Answers store (.side .primary (.recordAttempt attempt)) s (.error error)
      (s.takes store now attempt)
  /-- The other methods of the primary write no attempts. -/
  | other (s : ServeState σ) (op : RepositoryOp) (hop : ∀ attempt, op ≠ .recordAttempt attempt)
    (answer : Except String op.Output) (primary : σ)
    (htable : store.table primary = store.table s.primary) :
    Answers store (.side .primary op) s answer { s with primary }
  /-- `SnapshotRepository::record_attempt`. -/
  | spooled (s : ServeState σ) (now : Int) (attempt : AttemptRecord) :
    Answers store (.side .fallback (.recordAttempt attempt)) s (.ok ())
      { s with spool := s.spool.append now attempt }
  /-- The other methods of the snapshot leave the spool alone. -/
  | fallback (s : ServeState σ) (op : RepositoryOp) (hop : ∀ attempt, op ≠ .recordAttempt attempt)
    (answer : Except String op.Output) : Answers store (.side .fallback op) s answer s
  | appended (s : ServeState σ) (now : Int) (attempt : AttemptRecord) :
    Answers store (.append attempt) s (.ok (DurableUsageSpool.entryId attempt))
      { s with spool := s.spool.append now attempt }
  | listed (s : ServeState σ) (limit : Nat) :
    Answers store (.pending limit) s (.ok (s.spool.pending limit)) s
  | acknowledged (s : ServeState σ) (entryIds : List String) :
    Answers store (.acknowledge entryIds) s (.ok ())
      { s with spool := s.spool.acknowledge entryIds }
  /-- The local database fails; it is transactional. -/
  | fallbackFailed (s : ServeState σ) (op : RepositoryOp) (error : String) :
    Answers store (.side .fallback op) s (.error error) s
  | appendFailed (s : ServeState σ) (attempt : AttemptRecord) (error : String) :
    Answers store (.append attempt) s (.error error) s
  | listFailed (s : ServeState σ) (limit : Nat) (error : String) :
    Answers store (.pending limit) s (.error error) s
  | acknowledgeFailed (s : ServeState σ) (entryIds : List String) (error : String) :
    Answers store (.acknowledge entryIds) s (.error error) s

/-- The primary holds emitted attempts and the spool has entries of emitted records, under their
ids. -/
structure Orderly (store : AttemptStore σ) (emitted : AttemptRecord → Prop) (s : ServeState σ) :
    Prop where
  rows : ∀ key row, (store.table s.primary).get? key = some row →
    ∃ attempt, emitted attempt ∧ attempt.attemptId.text = key ∧ row.Identifies attempt
  entries : ∀ key row, s.spool.get? key = some row →
    row.payload.id = key ∧ emitted row.payload.attempt

/-- The record is in the primary, and taking it again would change nothing. -/
def Taken (store : AttemptStore σ) (attempt : AttemptRecord) (s : ServeState σ) : Prop :=
  ∃ row, (store.table s.primary).get? attempt.attemptId.text = some row ∧
    row.Identifies attempt ∧ ControlPlane.mergeAttempt attempt row = row

end ServeState

/-! ## Steps -/

namespace Composition

/-- The calls that the requests of a composition make: those of the methods of its repository,
and those on the spool of its gateway. -/
inductive MakesCall (composition : Composition) (emitted : AttemptRecord → Prop) :
    DeliveryOp → Prop where
  | method {op : RepositoryOp} (hop : ∀ attempt, op = .recordAttempt attempt → emitted attempt)
    {es : List (Event sides)} {call : sides.Op}
    {next : sides.Res call → Program sides (Except String op.Output)}
    (hpath : Path (composition.repository op) es (.call call next)) :
    MakesCall composition emitted (.side call.1 call.2)
  | append {attempt : AttemptRecord} (hattempt : emitted attempt) {Body : Type}
    {es : List (Event (application Body))}
    {next : Except String Unit → UseCase Body (Except ApplicationError Unit)}
    (hpath : Path (composition.gateway.persistAttempt attempt) es
      (.call (.appendAttempt attempt) next)) :
    MakesCall composition emitted (.append attempt)

inductive ServeStep where
  | call (op : DeliveryOp)
  | flush
  | outage (accepting : Bool)
  | others (attempt : AttemptRecord)

/-- A step of a composition whose attempts emit the records of `emitted`. -/
inductive Does (composition : Composition) (digest : String → String) (leaseId : String)
    (emitted : AttemptRecord → Prop) :
    ServeState composition.Primary → ServeStep → ServeState composition.Primary → Prop where
  | call {s s' : ServeState composition.Primary} {op : DeliveryOp} {answer : op.Answer}
    (hcall : composition.MakesCall emitted op)
    (hanswer : ServeState.Answers (composition.store digest leaseId) op s answer s') :
    Does composition digest leaseId emitted s (.call op) s'
  /-- `flush_usage_spool(&spool, &primary, 100)`. -/
  | flush {s s' : ServeState composition.Primary} {result : Except String Nat}
    (hflushes : composition.flushes = true)
    (hruns : Runs (S := delivery) (ServeState.Answers (composition.store digest leaseId))
      (flushUsageSpool 100) s result s') :
    Does composition digest leaseId emitted s .flush s'
  | outage (s : ServeState composition.Primary) (accepting : Bool) :
    Does composition digest leaseId emitted s (.outage accepting) { s with accepting }
  /-- Another process records an attempt. -/
  | others (s : ServeState composition.Primary) (now : Int) {attempt : AttemptRecord}
    (hattempt : emitted attempt) :
    Does composition digest leaseId emitted s (.others attempt)
      (s.takes (composition.store digest leaseId) now attempt)

/-- A composition from its start, on the databases that earlier processes left. -/
def system (composition : Composition) (digest : String → String) (leaseId : String)
    (emitted : AttemptRecord → Prop) :
    Transition (ServeState composition.Primary) ServeStep where
  Init := ServeState.Orderly (composition.store digest leaseId) emitted
  Step := composition.Does digest leaseId emitted

/-- Some step delivers the entry to the primary and removes it from the spool. -/
def WayOut (composition : Composition) (digest : String → String) (leaseId : String)
    (emitted : AttemptRecord → Prop) (s : ServeState composition.Primary) (entry : SpoolEntry) :
    Prop :=
  ∃ step s', (composition.system digest leaseId emitted).Step s step s' ∧
    s'.Taken (composition.store digest leaseId) entry.attempt ∧ s'.spool.get? entry.id = none

end Composition

/-! ## What steps preserve -/

/-- An attempt id is drawn for one request on one route. -/
def OneRouteEach (emitted : AttemptRecord → Prop) : Prop :=
  ∀ a b, emitted a → emitted b → a.attemptId = b.attemptId →
    a.requestId = b.requestId ∧ a.routeId = b.routeId

namespace ServeState

variable {σ : Type} {store : AttemptStore σ} {emitted : AttemptRecord → Prop} {s s' : ServeState σ}

/-- The row of an emitted record that the primary takes. -/
theorem Orderly.get?_takes (hrecords : store.Records) (hemitted : OneRouteEach emitted)
    (h : s.Orderly store emitted) (now : Int) {attempt : AttemptRecord} (hattempt : emitted attempt) :
    ∃ row, (store.table (s.takes store now attempt).primary).get? attempt.attemptId.text = some row ∧
      row.Identifies attempt := by
  have hget := hrecords.get?_record s.primary now attempt attempt.attemptId.text
  rw [if_pos rfl] at hget
  refine ⟨_, hget, ?_⟩
  cases hold : (store.table s.primary).get? attempt.attemptId.text with
  | none => exact ⟨rfl, rfl⟩
  | some old =>
    obtain ⟨held, hheld, hid, hidentifies⟩ := h.rows _ _ hold
    obtain ⟨hrequest, hroute⟩ := hemitted held attempt hheld hattempt (AttemptId.ext hid)
    obtain ⟨hrequest', hroute'⟩ := (ControlPlane.follows_mergeAttempt attempt old).identity
    rw [Option.elim_some]
    exact ⟨by rw [hrequest', hidentifies.1, hrequest], by rw [hroute', hidentifies.2, hroute]⟩

theorem Orderly.takes (hrecords : store.Records) (hemitted : OneRouteEach emitted)
    (h : s.Orderly store emitted) (now : Int) {attempt : AttemptRecord}
    (hattempt : emitted attempt) : (s.takes store now attempt).Orderly store emitted := by
  refine ⟨?_, h.entries⟩
  intro key row hrow
  by_cases hkey : key = attempt.attemptId.text
  · subst hkey
    obtain ⟨row', hrow', hidentifies⟩ := h.get?_takes hrecords hemitted now hattempt
    rw [hrow, Option.some.injEq] at hrow'
    exact ⟨attempt, hattempt, rfl, hrow' ▸ hidentifies⟩
  · have hget := hrecords.get?_record s.primary now attempt key
    rw [if_neg hkey] at hget
    exact h.rows key row (hget ▸ hrow)

theorem Orderly.append (h : s.Orderly store emitted) (now : Int) {attempt : AttemptRecord}
    (hattempt : emitted attempt) :
    ({ s with spool := s.spool.append now attempt } : ServeState σ).Orderly store emitted := by
  refine ⟨h.rows, ?_⟩
  intro key row hrow
  have hget := DurableUsageSpool.get?_append s.spool now attempt key
  rw [hrow] at hget
  split at hget
  · cases hold : s.spool.get? key with
    | some old =>
      rw [hold, Option.getD_some, Option.some.injEq] at hget
      rw [hget]
      exact h.entries key old hold
    | none =>
      rw [hold, Option.getD_none, Option.some.injEq] at hget
      rw [hget]
      exact ⟨rfl, hattempt⟩
  · exact h.entries key row hget.symm

theorem Orderly.acknowledge (h : s.Orderly store emitted) (entryIds : List String) :
    ({ s with spool := s.spool.acknowledge entryIds } : ServeState σ).Orderly store emitted := by
  refine ⟨h.rows, ?_⟩
  intro key row hrow
  have hget := DurableUsageSpool.get?_acknowledge s.spool entryIds key
  rw [hrow] at hget
  split at hget
  · cases hget
  · exact h.entries key row hget.symm

/-- The record a call passes on, if it passes one on, is an emitted one. -/
def Passes (emitted : AttemptRecord → Prop) : DeliveryOp → Prop
  | .side _ op => ∀ attempt, op = .recordAttempt attempt → emitted attempt
  | .append attempt => emitted attempt
  | .pending _ | .acknowledge _ => True

theorem Answers.orderly (hrecords : store.Records) (hemitted : OneRouteEach emitted)
    {op : DeliveryOp} {answer : op.Answer} (h : Answers store op s answer s')
    (hop : Passes emitted op) (horderly : s.Orderly store emitted) :
    s'.Orderly store emitted := by
  cases h with
  | recorded _ now attempt => exact horderly.takes hrecords hemitted now (hop attempt rfl)
  | answerLost _ now attempt =>
    exact horderly.takes hrecords hemitted now (hop attempt rfl)
  | other _ op hother _ primary htable =>
    refine ⟨?_, horderly.entries⟩
    intro key row hrow
    exact horderly.rows key row (htable ▸ hrow)
  | spooled _ now attempt => exact horderly.append now (hop attempt rfl)
  | appended _ now attempt => exact horderly.append now hop
  | acknowledged _ entryIds => exact horderly.acknowledge entryIds
  | _ => exact horderly

/-- A pending entry is stored under its id, and its record was emitted. -/
theorem Orderly.pending (h : s.Orderly store emitted) {limit : Nat} {entry : SpoolEntry}
    (hentry : entry ∈ s.spool.pending limit) :
    (∃ row, s.spool.get? entry.id = some row ∧ row.payload = entry) ∧ emitted entry.attempt := by
  obtain ⟨key, row, hrow, rfl⟩ := DurableUsageSpool.mem_pending hentry
  obtain ⟨hid, hattempt⟩ := h.entries key row hrow
  exact ⟨⟨row, hid ▸ hrow, rfl⟩, hattempt⟩

/-! ## Flushing -/

theorem orderly_deliverEntries (hrecords : store.Records) (hemitted : OneRouteEach emitted)
    {entries : List SpoolEntry} (hentries : ∀ entry ∈ entries, emitted entry.attempt)
    {acknowledged result : List String} (horderly : s.Orderly store emitted)
    (h : Runs (S := delivery) (Answers store) (deliverEntries entries acknowledged) s result s') :
    s'.Orderly store emitted := by
  induction entries generalizing s acknowledged with
  | nil =>
    obtain ⟨-, rfl⟩ := runs_pure.mp h
    exact horderly
  | cons entry entries ih =>
    obtain ⟨answer, mid, hcall, hrest⟩ := runs_bind.mp h
    have hpasses : Passes emitted (.side .primary (.recordAttempt entry.attempt)) := by
      intro attempt hattempt
      cases hattempt
      exact hentries entry List.mem_cons_self
    have hmid := (runs_perform.mp hcall).orderly hrecords hemitted hpasses horderly
    cases answer with
    | error error =>
      obtain ⟨-, rfl⟩ := runs_pure.mp hrest
      exact hmid
    | ok _ =>
      exact ih (fun other hother => hentries other (List.mem_cons_of_mem _ hother)) hmid hrest

theorem orderly_flush (hrecords : store.Records) (hemitted : OneRouteEach emitted) {limit : Nat}
    {result : Except String Nat} (horderly : s.Orderly store emitted)
    (h : Runs (S := delivery) (Answers store) (flushUsageSpool limit) s result s') :
    s'.Orderly store emitted := by
  obtain ⟨listed, mid, hlist, h⟩ := runs_bind.mp h
  have hlisted := runs_perform.mp hlist
  cases hlisted with
  | listFailed =>
    obtain ⟨-, rfl⟩ := runs_pure.mp h
    exact horderly
  | listed =>
    obtain ⟨acknowledged, mid', hdeliver, h⟩ := runs_bind.mp h
    have hmid := orderly_deliverEntries hrecords hemitted
      (fun entry hentry => (horderly.pending hentry).2) horderly hdeliver
    obtain ⟨answer, last, hacknowledge, h⟩ := runs_bind.mp h
    have hlast := (runs_perform.mp hacknowledge).orderly hrecords hemitted trivial hmid
    cases answer with
    | error error =>
      obtain ⟨-, rfl⟩ := runs_pure.mp h
      exact hlast
    | ok _ =>
      obtain ⟨-, rfl⟩ := runs_pure.mp h
      exact hlast

/-! ## A flush that gets through -/

theorem Orderly.taken_takes (hrecords : store.Records) (hemitted : OneRouteEach emitted)
    (h : s.Orderly store emitted) (now : Int) {attempt : AttemptRecord} (hattempt : emitted attempt) :
    (s.takes store now attempt).Taken store attempt := by
  obtain ⟨row, hrow, hidentifies⟩ := h.get?_takes hrecords hemitted now hattempt
  have hcall : (now, attempt) ∈ [(now, attempt)] := List.mem_singleton.mpr rfl
  obtain ⟨row', hrow', hmerge⟩ := hrecords.delivered (s := s.primary) hcall
  have hsame : row' = row := by
    have hget : (store.table (s.takes store now attempt).primary).get? attempt.attemptId.text =
        some row' := hrow'
    rw [hrow, Option.some.injEq] at hget
    exact hget.symm
  exact ⟨row, hrow, hidentifies, hsame ▸ hmerge⟩

/-- A record that was taken stays so. -/
theorem Taken.takes (hrecords : store.Records) {attempt : AttemptRecord}
    (h : s.Taken store attempt) (now : Int) (other : AttemptRecord) :
    (s.takes store now other).Taken store attempt := by
  obtain ⟨row, hrow, hidentifies, hmerge⟩ := h
  obtain ⟨new, hnew, hfollows, -⟩ := hrecords.follows_record hrow now other
  refine ⟨new, hnew, ?_, ?_⟩
  · exact ⟨hfollows.identity.1.trans hidentifies.1, hfollows.identity.2.trans hidentifies.2⟩
  · have hmerged : (ControlPlane.mergeAttempt attempt row).Follows new := by
      rw [hmerge]
      exact hfollows
    exact ControlPlane.mergeAttempt_eq_self hmerged

/-- A primary that accepts writes takes emitted records one after the other. -/
theorem exists_runs_deliverEntries (hrecords : store.Records) (hemitted : OneRouteEach emitted)
    {entries : List SpoolEntry} (hentries : ∀ entry ∈ entries, emitted entry.attempt)
    (acknowledged : List String) (horderly : s.Orderly store emitted)
    (haccepts : s.accepting = true) :
    ∃ s', Runs (S := delivery) (Answers store) (deliverEntries entries acknowledged) s
        (acknowledged ++ entries.map SpoolEntry.id) s' ∧
      s'.spool = s.spool ∧ (∀ attempt, s.Taken store attempt → s'.Taken store attempt) ∧
      ∀ entry ∈ entries, s'.Taken store entry.attempt := by
  induction entries generalizing s acknowledged with
  | nil =>
    refine ⟨s, ?_, rfl, fun _ htaken => htaken, fun _ hentry => nomatch hentry⟩
    exact runs_pure.mpr ⟨List.append_nil _, rfl⟩
  | cons entry entries ih =>
    have hattempt := hentries entry List.mem_cons_self
    -- the row of the attempt identifies it, so the primary does not refuse
    obtain ⟨row, hrow, hidentifies⟩ := horderly.get?_takes hrecords hemitted 0 hattempt
    have hok : (store.record s.primary 0 entry.attempt).1 = .ok () :=
      (hrecords.ok_iff s.primary 0 entry.attempt).mpr ⟨row, hrow, hidentifies⟩
    have hanswer : Answers store (.side .primary (.recordAttempt entry.attempt)) s (.ok ())
        (s.takes store 0 entry.attempt) := hok ▸ .recorded s 0 entry.attempt haccepts
    obtain ⟨s', hruns, hspool, hkeeps, htaken⟩ :=
      ih (fun other hother => hentries other (List.mem_cons_of_mem _ hother))
        (acknowledged ++ [entry.id]) (horderly.takes hrecords hemitted 0 hattempt) haccepts
    refine ⟨s', ?_, hspool, fun attempt h => hkeeps attempt (h.takes hrecords 0 _), ?_⟩
    · rw [List.map_cons]
      have hids : acknowledged ++ [entry.id] ++ entries.map SpoolEntry.id =
          acknowledged ++ entry.id :: entries.map SpoolEntry.id := by
        rw [List.append_assoc, List.singleton_append]
      rw [← hids]
      exact runs_bind.mpr ⟨.ok (), _, runs_perform.mpr hanswer, hruns⟩
    · intro other hother
      rcases List.mem_cons.mp hother with rfl | hlater
      · exact hkeeps _ (horderly.taken_takes hrecords hemitted 0 hattempt)
      · exact htaken other hlater

/-- A primary that accepts writes takes what a flush lists, and the spool lets it go. -/
theorem exists_runs_flush (hrecords : store.Records) (hemitted : OneRouteEach emitted)
    (horderly : s.Orderly store emitted) (haccepts : s.accepting = true) (limit : Nat) :
    ∃ result s', Runs (S := delivery) (Answers store) (flushUsageSpool limit) s result s' ∧
      ∀ entry ∈ s.spool.pending limit,
        s'.Taken store entry.attempt ∧ s'.spool.get? entry.id = none := by
  have hentries : ∀ entry ∈ s.spool.pending limit, emitted entry.attempt :=
    fun entry hentry => (horderly.pending hentry).2
  obtain ⟨mid, hdeliver, hspool, -, htaken⟩ :=
    exists_runs_deliverEntries hrecords hemitted hentries [] horderly haccepts
  refine ⟨.ok ((s.spool.pending limit).map SpoolEntry.id).length,
    { mid with spool := mid.spool.acknowledge ((s.spool.pending limit).map SpoolEntry.id) },
    ?_, ?_⟩
  · refine runs_bind.mpr ⟨_, _, runs_perform.mpr (.listed s limit), ?_⟩
    refine runs_bind.mpr ⟨_, _, hdeliver, ?_⟩
    exact runs_bind.mpr ⟨_, _, runs_perform.mpr (.acknowledged mid _), .pure _ _⟩
  · intro entry hentry
    refine ⟨htaken entry hentry, ?_⟩
    have hget := DurableUsageSpool.get?_acknowledge mid.spool
      ((s.spool.pending limit).map SpoolEntry.id) entry.id
    rw [if_pos (List.mem_map_of_mem (f := SpoolEntry.id) hentry)] at hget
    exact hget

/-- A call of a request takes no entry out of the spool. -/
theorem Answers.keeps {op : DeliveryOp} {answer : op.Answer} (h : Answers store op s answer s')
    (hop : ∀ entryIds, op ≠ .acknowledge entryIds) {id : String} (hid : s.spool.get? id ≠ none) :
    s'.spool.get? id ≠ none := by
  have happend : ∀ now attempt, (s.spool.append now attempt).get? id ≠ none := by
    intro now attempt
    rw [DurableUsageSpool.get?_append]
    split
    · exact Option.some_ne_none _
    · exact hid
  cases h with
  | spooled _ now attempt => exact happend now attempt
  | appended _ now attempt => exact happend now attempt
  | acknowledged _ entryIds => exact absurd rfl (hop entryIds)
  | _ => exact hid

end ServeState

namespace Composition

variable {composition : Composition} {digest : String → String} {leaseId : String}
  {emitted : AttemptRecord → Prop} {s s' : ServeState composition.Primary}

/-- Both sides of a repository are asked the method it was called with. -/
theorem repository_calls (composition : Composition) (op : RepositoryOp) :
    Calls (fun call : sides.Op => call.2 = op) (composition.repository op) := by
  cases composition with
  | sqlite => exact ⟨rfl, fun _ => trivial⟩
  | postgres =>
    rw [repository, SnapshotFallback.body_eq_orElse]
    refine ⟨rfl, ?_⟩
    rintro (error | value)
    · exact ⟨rfl, fun _ => trivial⟩
    · trivial
  | lastKnownGood => exact ⟨rfl, fun _ => trivial⟩

theorem passes_of_makesCall {op : DeliveryOp} (h : composition.MakesCall emitted op) :
    ServeState.Passes emitted op := by
  cases h with
  | @method op hop es call next hpath =>
    have hcall : call.2 = op := ((composition.repository_calls op).path hpath).1
    show ∀ attempt, call.2 = .recordAttempt attempt → emitted attempt
    rw [hcall]
    exact hop
  | append hattempt _ => exact hattempt

theorem orderly_of_does (hemitted : OneRouteEach emitted) {step : ServeStep}
    (h : composition.Does digest leaseId emitted s step s')
    (horderly : s.Orderly (composition.store digest leaseId) emitted) :
    s'.Orderly (composition.store digest leaseId) emitted := by
  have hrecords := composition.records digest leaseId
  cases h with
  | call hcall hanswer =>
    exact hanswer.orderly hrecords hemitted (passes_of_makesCall hcall) horderly
  | flush _ hruns => exact ServeState.orderly_flush hrecords hemitted horderly hruns
  | outage accepting => exact ⟨horderly.rows, horderly.entries⟩
  | others now hattempt => exact horderly.takes hrecords hemitted now hattempt

theorem orderly_of_reachable (hemitted : OneRouteEach emitted)
    (h : (composition.system digest leaseId emitted).Reachable s) :
    s.Orderly (composition.store digest leaseId) emitted :=
  h.invariant (I := ServeState.Orderly (composition.store digest leaseId) emitted)
    (fun _ hinit => hinit) (fun _ _ _ horderly hstep => orderly_of_does hemitted hstep horderly)

/-- Without a flush no step takes an entry out of the spool. -/
theorem keeps_of_does (hflushes : composition.flushes = false) {step : ServeStep}
    (h : composition.Does digest leaseId emitted s step s') {id : String}
    (hid : s.spool.get? id ≠ none) : s'.spool.get? id ≠ none := by
  cases h with
  | call hcall hanswer =>
    apply hanswer.keeps ?_ hid
    intro entryIds hop
    subst hop
    cases hcall
  | flush hflush _ =>
    rw [hflushes] at hflush
    cases hflush
  | outage accepting => exact hid
  | others now hattempt => exact hid

end Composition

/-! ## The way out -/

theorem DurableUsageSpool.pending_mono (spool : DurableUsageSpool) {limit limit' : Nat}
    (h : limit ≤ limit') {entry : SpoolEntry} (hentry : entry ∈ spool.pending limit) :
    entry ∈ spool.pending limit' := by
  unfold pending at hentry ⊢
  obtain ⟨row, hrow, rfl⟩ := List.mem_map.mp hentry
  exact List.mem_map_of_mem (f := fun row : String × SpoolRow => row.2.payload)
    ((List.take_subset_take_left _ h) hrow)

/-- Without a flush no entry has a way out. -/
theorem Composition.not_wayOut {composition : Composition} (hflushes : composition.flushes = false)
    (digest : String → String) (leaseId : String) (emitted : AttemptRecord → Prop)
    {s : ServeState composition.Primary} {entry : SpoolEntry}
    (hstored : s.spool.get? entry.id ≠ none) :
    ¬ composition.WayOut digest leaseId emitted s entry := by
  rintro ⟨step, s', hstep, -, hremoved⟩
  exact keeps_of_does hflushes hstep hstored hremoved

/-- In every reachable state of every composition, with a primary that accepts writes, the
oldest entry of the spool has a way out exactly in the composition with PostgreSQL reachable at
start. -/
theorem way_out_iff {emitted : AttemptRecord → Prop} (hemitted : OneRouteEach emitted)
    (composition : Composition) (digest : String → String) (leaseId : String)
    {s : ServeState composition.Primary}
    (hs : (composition.system digest leaseId emitted).Reachable s) (haccepts : s.accepting = true)
    {entry : SpoolEntry} (hentry : entry ∈ s.spool.pending 1) :
    composition.WayOut digest leaseId emitted s entry ↔ composition = .postgres := by
  have horderly := Composition.orderly_of_reachable hemitted hs
  obtain ⟨row, hrow, -⟩ := (horderly.pending hentry).1
  constructor
  · intro hwayOut
    by_contra hother
    have hflushes : composition.flushes = false := by
      cases composition with
      | postgres => exact absurd rfl hother
      | sqlite => rfl
      | lastKnownGood => rfl
    have hstored : s.spool.get? entry.id ≠ none := by
      rw [hrow]
      exact Option.some_ne_none row
    exact Composition.not_wayOut hflushes digest leaseId emitted hstored hwayOut
  · rintro rfl
    obtain ⟨result, s', hruns, htaken⟩ := ServeState.exists_runs_flush
      (Composition.records digest leaseId .postgres) hemitted horderly haccepts 100
    exact ⟨.flush, s', .flush rfl hruns,
      htaken entry (s.spool.pending_mono (by omega) hentry)⟩

/-! ## An outage -/

namespace Composition

/-- The attempt of an outage. -/
def outageAttempt : AttemptRecord where
  attemptId := .least
  requestId := "request"
  routeId := "route"
  outcome := .failed
  failureCategory := none

def outageEntry : SpoolEntry where
  id := DurableUsageSpool.entryId outageAttempt
  attempt := outageAttempt

/-- The smallest control plane, without attempts. -/
def smallest : (composition : Composition) → composition.Primary
  | .sqlite => ControlPlane.oneRoute ⟨"closed", none, none⟩
  | .postgres | .lastKnownGood => Postgres.Session.closedRoute

/-- The smallest control plane with a spool that is empty, or has the entry. -/
def serving (composition : Composition) (accepting spooled : Bool) :
    ServeState composition.Primary where
  primary := composition.smallest
  accepting := accepting
  spool := if spooled then DurableUsageSpool.append .empty 0 outageAttempt else .empty

theorem outageEntry_pending (composition : Composition) :
    outageEntry ∈ (composition.serving true true).spool.pending 1 := by
  show outageEntry ∈ (DurableUsageSpool.append .empty 0 outageAttempt).pending 1
  decide +kernel

theorem oneRouteEach_outage : OneRouteEach (· = outageAttempt) := by
  rintro a b rfl rfl -
  exact ⟨rfl, rfl⟩

theorem orderly_serving (composition : Composition) (accepting : Bool) :
    (composition.serving accepting false).Orderly (composition.store id "lease")
      (· = outageAttempt) := by
  constructor
  · intro key row hrow
    cases composition with
    | sqlite => cases hrow
    | postgres => cases hrow
    | lastKnownGood => cases hrow
  · intro key row hrow
    cases hrow

end Composition

theorem postgres_way_out :
    Composition.postgres.WayOut id "lease" (· = Composition.outageAttempt)
      (Composition.postgres.serving true true) Composition.outageEntry := by
  apply (way_out_iff Composition.oneRouteEach_outage .postgres id "lease" ?_ rfl
    (Composition.outageEntry_pending .postgres)).mpr rfl
  apply Transition.Reachable.init
  exact (Composition.orderly_serving .postgres true).append 0 rfl

/-- After an outage that a record was spooled in, the entry stays in the spool of the
compositions without a flush. -/
theorem stranded_after_outage :
    ((Composition.sqlite.system id "lease" (· = Composition.outageAttempt)).Reachable
        (Composition.sqlite.serving true true) ∧
      Composition.outageEntry ∈ (Composition.sqlite.serving true true).spool.pending 1 ∧
      ¬ Composition.sqlite.WayOut id "lease" (· = Composition.outageAttempt)
        (Composition.sqlite.serving true true) Composition.outageEntry) ∧
    (Composition.lastKnownGood.system id "lease" (· = Composition.outageAttempt)).Reachable
        (Composition.lastKnownGood.serving true true) ∧
      Composition.outageEntry ∈ (Composition.lastKnownGood.serving true true).spool.pending 1 ∧
      ¬ Composition.lastKnownGood.WayOut id "lease" (· = Composition.outageAttempt)
        (Composition.lastKnownGood.serving true true) Composition.outageEntry := by
  have hstored : (DurableUsageSpool.append .empty 0 Composition.outageAttempt).get?
      Composition.outageEntry.id ≠ none := by
    decide +kernel
  have hrecord : ∀ attempt, RepositoryOp.recordAttempt Composition.outageAttempt =
      .recordAttempt attempt → attempt = Composition.outageAttempt := by
    rintro attempt hattempt
    cases hattempt
    rfl
  constructor
  · refine ⟨?_, Composition.outageEntry_pending .sqlite, Composition.not_wayOut rfl id "lease" _ hstored⟩
    have hstart := Transition.Reachable.init (M := Composition.sqlite.system id "lease" _)
      (Composition.orderly_serving .sqlite true)
    have houtage := hstart.step (.outage _ false)
    -- the primary refuses the record, and the gateway puts it into its spool
    have hrefused := houtage.step (.call (.method hrecord (.refl _))
      (.refused _ _ "database is locked"))
    have hcall : Composition.sqlite.MakesCall (· = Composition.outageAttempt)
        (.append Composition.outageAttempt) :=
      @Composition.MakesCall.append _ _ _ rfl Unit _ _
        (.head (Except.error "database is locked" : Except String Unit) (.refl _))
    have hspooled := hrefused.step (.call hcall (.appended _ 0 _))
    exact hspooled.step (.outage _ true)
  · refine ⟨?_, Composition.outageEntry_pending .lastKnownGood,
      Composition.not_wayOut rfl id "lease" _ hstored⟩
    have hstart := Transition.Reachable.init (M := Composition.lastKnownGood.system id "lease" _)
      (Composition.orderly_serving .lastKnownGood false)
    -- the snapshot puts every record into the spool
    have hspooled := hstart.step (.call (.method hrecord (.refl _)) (.spooled _ 0 _))
    exact hspooled.step (.outage _ true)

end SmartGateway
