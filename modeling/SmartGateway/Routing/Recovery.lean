import SmartGateway.Application.Gateway
import SmartGateway.Routing.RouteStore
import SmartGateway.Upstream.StreamRun

/-! # Recovery from transient failures

A failure goes from the upstream through the gateway into the row of its route. Every producer
but one gives a transient failure a retry time: a request that got no answer at all is reported
without one, and its route stays open. `transient_failure_recovers_iff` says so for each of the
three stores; `unanswered_request_strands_route` is the smallest run that shows it.
-/

namespace SmartGateway

open Upstream

/-! ## Programs of the application on a store -/

namespace RouteStore

variable {σ : Type} (store : RouteStore σ)

/-- Answers the calls of the application: those of the configuration repository by the store,
all others by `others`. -/
def serve (setting : CallSetting) (now : Int)
    (others : (op : ApplicationOp) → op.Answer OpenAiSseDecoder) :
    (op : ApplicationOp) → σ → op.Answer OpenAiSseDecoder × σ
  | .configuration op, s => store.handle setting now op s
  | op, s => (others op, s)

variable {store} {setting : CallSetting} {now : Int}
  {others : (op : ApplicationOp) → op.Answer OpenAiSseDecoder} {s s' : σ}

/-- Persisting hands the record to the store, and then at most to the spool. -/
theorem run_persisting {α : Type} (usageSpool : Bool) (record : AttemptRecord)
    (taken refused unspooled : α) (s : σ) :
    ((persisting usageSpool record taken refused unspooled).run
        (store.serve setting now others) s).2 =
      (store.handle setting now (.recordAttempt record) s).2 := by
  unfold persisting
  rw [Program.run_perform_bind _ (r := (store.handle setting now (.recordAttempt record) s).1)
    (t := (store.handle setting now (.recordAttempt record) s).2) rfl]
  by_cases htaken : (store.handle setting now (.recordAttempt record) s).1.isOk = true
  · rw [if_pos htaken]
    rfl
  · rw [if_neg htaken]
    by_cases hspool : usageSpool = true
    · rw [if_pos hspool, Program.run_perform_bind _ (r := others (.appendAttempt record)) rfl]
      split <;> rfl
    · rw [if_neg hspool]
      rfl

theorem run_persistAttempt (gateway : Gateway) (attempt : AttemptRecord) (s : σ) :
    ((gateway.persistAttempt attempt).run (store.serve setting now others) s).2 =
      (store.handle setting now (.recordAttempt attempt) s).2 := by
  rw [Gateway.persistAttempt_eq, run_persisting]

theorem run_persist (attempt : StreamAttempt) (record : AttemptRecord) (s : σ) :
    ((attempt.persist record).run (store.serve setting now others) s).2 =
      (store.handle setting now (.recordAttempt record) s).2 := by
  rw [StreamAttempt.persist_eq, run_persisting]

theorem run_requireIf {op : RepositoryOp}
    (h : (Gateway.requireIf true op).run (store.serve setting now others) s = (.ok (), s')) :
    s' = (store.handle setting now op s).2 := by
  rw [Gateway.requireIf, if_pos rfl, Program.run_perform_bind _
    (r := (store.handle setting now op s).1) (t := (store.handle setting now op s).2) rfl] at h
  revert h
  rcases (store.handle setting now op s).1 with error | value
  · intro h
    cases h
  · intro h
    cases h
    rfl

/-- Handling a failure that opens its route ends with the mark of the route. -/
theorem run_handlePreCommitFailure {gateway : Gateway} {request : InferenceRequest}
    {route : RouteCandidate} {failure : ProviderFailure}
    (hopens : failure.category.opensRoute = true)
    (h : (gateway.handlePreCommitFailure request route failure).run
      (store.serve setting now others) s = (.ok (), s')) :
    ∃ record, s' = (store.handle setting now (.markRouteFailure route.routeId failure)
      (store.handle setting now (.recordAttempt record) s).2).2 := by
  have hblocks : failure.category.blocksAccount = false :=
    ErrorCategory.opensRoute_eq_true_iff.mp hopens
  unfold Gateway.handlePreCommitFailure at h
  rw [Program.run_perform_bind _ (r := others .newAttemptId) rfl] at h
  set record := Gateway.failedRecord request route failure (others .newAttemptId)
  have hstate : ((gateway.persistAttempt record).run (store.serve setting now others) s).2 = _ :=
    run_persistAttempt gateway record s
  refine ⟨record, ?_⟩
  cases hpersist : (gateway.persistAttempt record).run (store.serve setting now others) s with
  | mk result s₁ =>
    rw [hpersist] at hstate
    dsimp only at hstate
    subst hstate
    cases result with
    | error error =>
      rw [Program.run_andThen_error hpersist] at h
      cases h
    | ok value =>
      -- A failure that opens the route leaves the account alone.
      have hskip : (Gateway.requireIf false
          (.markAccountFailure route.providerAccountId failure)).run
          (store.serve setting now others) (store.handle setting now (.recordAttempt record) s).2 =
          (.ok (), (store.handle setting now (.recordAttempt record) s).2) := rfl
      rw [Program.run_andThen_ok hpersist, hblocks, Program.run_andThen_ok hskip, hopens] at h
      exact run_requireIf h

/-- So does reporting a failure of a committed stream. -/
theorem run_fail {attempt : StreamAttempt} {failure : ProviderFailure}
    (hopens : failure.category.opensRoute = true) (s : σ) :
    ((attempt.fail failure).run (store.serve setting now others) s).2 =
      (store.handle setting now (.markRouteFailure attempt.routeId failure)
        (store.handle setting now (.recordAttempt
          (attempt.record .partialFailed (some failure.category.debug))) s).2).2 := by
  have hblocks : failure.category.blocksAccount = false :=
    ErrorCategory.opensRoute_eq_true_iff.mp hopens
  unfold StreamAttempt.fail
  change ((attempt.persist _ >>= _).run _ s).2 = _
  rw [Program.run_bind, run_persist, hblocks, hopens]
  rfl

/-! ## Recovery -/

variable {route : RouteCandidate} {failure : ProviderFailure}

/-- Once a record and then the failure of its circuit are written, a usable route recovers exactly
if the failure has a retry time. -/
theorem recovers_marked_iff (husable : store.Usable route s)
    (hopens : failure.category.opensRoute = true) (record : AttemptRecord) :
    store.Recovers route (store.handle setting now (.markRouteFailure route.routeId failure)
      (store.handle setting now (.recordAttempt record) s).2).2 ↔ failure.retryAtUnix ≠ none := by
  have hrecorded := husable.call (store.handle_call setting now (.recordAttempt record) s) id
  exact recovers_failed_iff hrecorded hopens (store.handle_call setting now _ _)

end RouteStore

/-- The three stores. -/
inductive StoreKind where
  | sqlite
  | postgres
  | snapshot

namespace StoreKind

abbrev State : StoreKind → Type
  | .sqlite => ControlPlane
  | .postgres => Postgres.Session
  | .snapshot => SnapshotRepository

def store : (kind : StoreKind) → RouteStore kind.State
  | .sqlite => Sqlite.store
  | .postgres => Postgres.store
  | .snapshot => SnapshotRepository.store

end StoreKind

/-- On each of the three stores, with a route that is usable there: after the gateway has handled
a transient failure of `execute`, the route recovers exactly if the request got an answer; after
it has reported a transient failure of a committed stream, the route always recovers. -/
theorem transient_failure_recovers_iff {Chunk : Type} (kind : StoreKind) (setting : CallSetting)
    (now : Int) (others : (op : ApplicationOp) → op.Answer OpenAiSseDecoder)
    (route : RouteCandidate) (s s' : kind.State) (failure : ProviderFailure)
    (clock : Option Nat) (husable : kind.store.Usable route s)
    (htransient : failure.category.isTransient = true) :
    (∀ (gateway : Gateway) (request : InferenceRequest) (sent : HttpResult),
      execute clock request sent = .error failure →
      (gateway.handlePreCommitFailure request route failure).run
        (kind.store.serve setting now others) s = (.ok (), s') →
      (kind.store.Recovers route s' ↔ sent ≠ .sendError)) ∧
    (∀ (codec : ChunkCodec Chunk) (stream stream' : CommittedStream Chunk)
      (program : UseCase OpenAiSseDecoder Unit),
      (committed codec).Reachable stream → stream.attempt.routeId = route.routeId →
      (committed codec).Step stream (.polls clock) stream' →
      stream'.pendingTerminal = some (.failed failure, program) →
      program.run (kind.store.serve setting now others) s = ((), s') →
      kind.store.Recovers route s') := by
  have hopens := ErrorCategory.opensRoute_of_isTransient htransient
  constructor
  -- Before the first byte: the failure is timed unless the request was never answered.
  · intro gateway request sent hexecute hrun
    obtain ⟨record, rfl⟩ := RouteStore.run_handlePreCommitFailure hopens hrun
    rw [RouteStore.recovers_marked_iff husable hopens record]
    exact execute_retry_ne_none_iff hexecute htransient
  -- In a stream every failure was made by the decoder, which times them all.
  · intro codec stream stream' program hreachable hroute hstep hstarted hrun
    obtain ⟨rfl, htimed⟩ := started_failure hreachable hstep hstarted
    have hfinal : ((stream.attempt.fail failure).run (kind.store.serve setting now others) s).2 =
        _ := RouteStore.run_fail hopens s
    rw [hrun, hroute] at hfinal
    dsimp only at hfinal
    rw [hfinal, RouteStore.recovers_marked_iff husable hopens]
    exact htimed.retry_ne_none htransient

/-! ## A request without an answer -/

namespace Unanswered

/-- The smallest control plane in each of the stores, its circuit closed. -/
def state : (kind : StoreKind) → kind.State
  | .sqlite => .oneRoute ⟨"closed", none, none⟩
  | .postgres => .closedRoute
  | .snapshot => .oneRoute (.single "route" ⟨"closed", none⟩)

def request : InferenceRequest := { requestId := "request", model := "model", stream := false }

def gateway : Gateway := { usageSpool := false, accounting := false }

def setting : CallSetting := { digest := id, leaseId := "lease" }

def others : (op : ApplicationOp) → op.Answer OpenAiSseDecoder
  | .configuration (.authenticate _) => .ok true
  | .configuration (.candidates _) => .ok []
  | .configuration (.recordAttempt _) => .ok ()
  | .configuration (.markRouteSuccess _) => .ok ()
  | .configuration (.markRouteFailure _ _) => .ok ()
  | .configuration (.markAccountFailure _ _) => .ok ()
  | .resolve _ => .ok "secret"
  | .execute _ _ _ => .error sendFailure
  | .newAttemptId => .least
  | .appendAttempt _ => .ok ()
  | .recordQuotaSnapshot _ => .ok ()
  | .recordBillingRecord _ => .ok ()
  | .unixTime => some 0

/-- What the gateway makes of a failure of the only route. -/
def handled (kind : StoreKind) (failure : ProviderFailure) :
    Except ApplicationError Unit × kind.State :=
  (gateway.handlePreCommitFailure request ControlPlane.onlyRoute failure).run
    (kind.store.serve setting 0 others) (state kind)

theorem usable_state (kind : StoreKind) :
    kind.store.Usable ControlPlane.onlyRoute (state kind) := by
  have haccount : ∀ {v : StateView}, v.account "account" = some "available" →
      v.AccountUsable ControlPlane.onlyRoute := fun h => ⟨"available", h, by decide⟩
  have hconfigured : ∀ {db : ControlPlane}, db.providerRoutes = (ControlPlane.oneRoute
      ⟨"closed", none, none⟩).providerRoutes → db.providerAccounts = (ControlPlane.oneRoute
      ⟨"closed", none, none⟩).providerAccounts → db.Configured ControlPlane.onlyRoute := by
    intro db hroutes haccounts
    refine ⟨⟨"route", ⟨"model", "account", "upstream", 1, true⟩,
      ⟨"openai-compatible", "env:KEY", "https://provider.test", true,
        CredentialReference.envKey.wellFormed⟩, ⟨"closed", none, none⟩,
      ⟨"available", none, none⟩⟩, rfl, ?_, ?_, rfl, rfl⟩
    · rw [hroutes]
      rfl
    · rw [haccounts]
      rfl
  cases kind with
  | sqlite => exact ⟨hconfigured rfl rfl, Option.some_ne_none _, haccount rfl⟩
  | postgres => exact ⟨hconfigured rfl rfl, Option.some_ne_none _, haccount rfl⟩
  | snapshot => exact ⟨List.mem_singleton_self _, Option.some_ne_none _, haccount rfl⟩

/-- The gateway has handled the missing answer, and the route does not recover. -/
def Stranded (kind : StoreKind) : Prop :=
  execute (some 0) request .sendError = .error sendFailure ∧
  sendFailure.category.isTransient = true ∧ kind.store.Usable ControlPlane.onlyRoute (state kind) ∧
  (handled kind sendFailure).1 = .ok () ∧
  ¬ kind.store.Recovers ControlPlane.onlyRoute (handled kind sendFailure).2

theorem handled_ok {failure : ProviderFailure} (hopens : failure.category.opensRoute = true)
    (kind : StoreKind) : handled kind failure = (.ok (), (handled kind failure).2) := by
  obtain ⟨category, message, status, retryAt⟩ := failure
  cases category <;> cases hopens <;> cases kind <;> rfl

theorem stranded (kind : StoreKind) : Stranded kind := by
  have hok : handled kind sendFailure = _ := handled_ok rfl kind
  refine ⟨rfl, rfl, usable_state kind, congrArg Prod.fst hok, ?_⟩
  obtain ⟨record, hfinal⟩ := RouteStore.run_handlePreCommitFailure rfl hok
  rw [hfinal, RouteStore.recovers_marked_iff (usable_state kind) rfl record]
  exact fun hretry => hretry rfl

/-- A refused connection opens the circuit of its route for good, in each of the stores. -/
theorem unanswered_request_strands_route :
    Stranded .sqlite ∧ Stranded .postgres ∧ Stranded .snapshot :=
  ⟨stranded .sqlite, stranded .postgres, stranded .snapshot⟩

/-- A reply with an error status. -/
def serverError : ProviderFailure := classify (some 0) 503 (.object [])

def codec : ChunkCodec Unit := { parse := fun _ => none, chunk := fun _ => none }

/-- A stream whose connection breaks before its first chunk. -/
def broken : CommittedStream Unit where
  upstream := .new [.ready (some (.error ()))]
  attempt :=
    { usageSpool := false
      attemptId := .least
      requestId := "request"
      routeId := "route"
      providerAccountId := "account" }
  pendingTerminal := none
  terminalEmitted := false

def transportError : ProviderFailure := sanitizedFailure (some 0) .providerUnavailable

theorem broken_poll : (broken.poll codec (some 0)).pendingTerminal =
    some (.failed transportError, broken.attempt.fail transportError) := by
  have hpolled : broken.upstream.pollNext codec (some 0) =
      (.ready (some (.failed transportError)), { source := [], buffer := [], terminal := true }) := by
    rw [OpenAiSseDecoder.pollNext]
    rfl
  unfold CommittedStream.poll
  rw [hpolled]
  rfl

/-- The route recovers from a server error and from a broken stream. -/
theorem answered_requests_recover :
    StoreKind.postgres.store.Recovers ControlPlane.onlyRoute (handled .postgres serverError).2 ∧
    StoreKind.sqlite.store.Recovers ControlPlane.onlyRoute
      ((broken.attempt.fail transportError).run (StoreKind.sqlite.store.serve setting 0 others)
        (state .sqlite)).2 := by
  have htransient : serverError.category.isTransient = true := by decide +kernel
  constructor
  · have hrecovers := (@transient_failure_recovers_iff Unit .postgres setting 0 others
      ControlPlane.onlyRoute (state .postgres) (handled .postgres serverError).2 serverError
      (some 0) (usable_state .postgres) htransient).1
    exact (hrecovers gateway request (.response 503 (some (.object [])) []) rfl
      (handled_ok (ErrorCategory.opensRoute_of_isTransient htransient) .postgres)).mpr (by simp)
  · have hrecovers := (@transient_failure_recovers_iff Unit .sqlite setting 0 others
      ControlPlane.onlyRoute (state .sqlite) ((broken.attempt.fail transportError).run
        (StoreKind.sqlite.store.serve setting 0 others) (state .sqlite)).2 transportError
      (some 0) (usable_state .sqlite) rfl).2
    exact hrecovers codec broken _ _ (.init ⟨_, _, rfl⟩) rfl (.polls (some 0) rfl rfl)
      broken_poll rfl

end Unanswered

end SmartGateway
