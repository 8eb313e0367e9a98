import SmartGateway.Application.StreamAttempt

/-! # The gateway

`Gateway::infer`: authenticate, ask for the candidates, then try them in order until one
executes, with the outcome of every attempt persisted before the loop goes on or returns.
-/

namespace SmartGateway

inductive ApplicationError where
  | unauthorized
  | configuration (text : String)
  | upstreamUnavailable
  | upstream (text : String)
deriving DecidableEq

def ApplicationError.message : ApplicationError → String
  | .unauthorized => "authentication failed"
  | .configuration text => "configuration error: " ++ text
  | .upstreamUnavailable => "no upstream route is currently available"
  | .upstream text => "no eligible route succeeded: " ++ text

/-- A protocol-neutral application response. -/
inductive InferenceResponse (Body Chunk : Type) where
  | complete (response : Json)
  | streaming (stream : ManagedInferenceStream Body Chunk)

/-- What `infer` returns. -/
abbrev InferenceResult (Body Chunk : Type) :=
  Except ApplicationError (InferenceResponse Body Chunk)

/-- Whether a usage spool and an accounting repository are configured. -/
structure Gateway where
  usageSpool : Bool
  accounting : Bool

def routeUnavailable (error : String) : Bool :=
  Text.startsWith error "no eligible route exists for"
    -- Storage adapters filter open routes before candidate planning and report this case as
    -- an unknown model.
    || Text.startsWith error "requested logical model"

namespace Gateway

variable {Body Chunk : Type}

/-- `.map_err(ApplicationError::Configuration)`. -/
def configure {α : Type} : Except String α → Except ApplicationError α
  | .ok value => .ok value
  | .error error => .error (.configuration error)

def persistAttempt (gateway : Gateway) (attempt : AttemptRecord) :
    UseCase Body (Except ApplicationError Unit) :=
  (ask (.configuration (.recordAttempt attempt))).bind fun
    | .ok _ => .pure (.ok ())
    | .error _ =>
      if gateway.usageSpool then
        (ask (.appendAttempt attempt)).bind fun
          | .ok _ => .pure (.ok ())
          | .error _ => .pure (.error (.configuration
            "control plane unavailable while persisting usage attempt; durable local spool is unavailable"))
      else
        .pure (.error (.configuration
          "control plane unavailable while persisting usage attempt; no durable local spool is configured"))

theorem persistAttempt_eq (gateway : Gateway) (attempt : AttemptRecord) :
    (gateway.persistAttempt attempt : UseCase Body _) =
      persisting gateway.usageSpool attempt (.ok ())
        (.error (.configuration
          "control plane unavailable while persisting usage attempt; durable local spool is unavailable"))
        (.error (.configuration
          "control plane unavailable while persisting usage attempt; no durable local spool is configured")) := by
  unfold persistAttempt persisting
  congr 1
  funext answer
  rcases answer with error | value
  · dsimp only
    split
    · congr 1
      funext spooled
      rcases spooled with error | value <;> rfl
    · rfl
  · rfl

/-- Hands each quota snapshot over, whatever the answers are. -/
def recordQuotaSnapshots : List ProviderQuotaSnapshot → UseCase Body Unit
  | [] => .pure ()
  | snapshot :: snapshots =>
    (ask (.recordQuotaSnapshot snapshot)).bind fun _ => recordQuotaSnapshots snapshots

/-- The seconds of the clock as an `i64`. -/
def observedAtUnix : Option Nat → Int
  | none => 0
  | some seconds => min seconds i64Max

def persistAuthoritativeEvidence (gateway : Gateway) (providerAccountId : String)
    (attemptId : AttemptId) (evidence : ProviderAuthoritativeEvidence) : UseCase Body Unit :=
  if !gateway.accounting then .pure ()
  else if evidence.isEmpty || !(evidence.validateForAccount providerAccountId).isOk then .pure ()
  else (recordQuotaSnapshots evidence.quotaSnapshots).bind fun _ =>
    match evidence.billing with
    | none => .pure ()
    | some billing =>
      (ask .unixTime).bind fun seconds =>
        (ask (.recordBillingRecord
          { recordId := attemptId.text
            attemptId
            providerAccountId
            providerRequestId := billing.providerRequestId
            billedUnits := billing.billedUnits
            charge := billing.charge
            observedAtUnix := observedAtUnix seconds
            freshUntilUnix := observedAtUnix seconds
            source := billing.source })).bind fun _ => .pure ()

def handleExecution (gateway : Gateway) (request : InferenceRequest) (route : RouteCandidate)
    (execution : InferenceExecution Body) :
    UseCase Body (InferenceResult Body Chunk) :=
  (ask .newAttemptId).bind fun attemptId =>
    match execution with
    | .complete response authoritativeEvidence =>
      (gateway.persistAttempt
        { attemptId
          requestId := request.requestId
          routeId := route.routeId
          outcome := .succeeded
          failureCategory := none }).andThen fun _ =>
        (ask (.configuration (.markRouteSuccess route.routeId))).bind fun marked =>
          match configure marked with
          | .error error => .pure (.error error)
          | .ok _ =>
            match authoritativeEvidence with
            | none => .pure (.ok (.complete response))
            | some evidence =>
              (gateway.persistAuthoritativeEvidence route.providerAccountId attemptId
                evidence).bind fun _ => .pure (.ok (.complete response))
    | .streaming body =>
      let attempt : StreamAttempt :=
        { usageSpool := gateway.usageSpool
          attemptId
          requestId := request.requestId
          routeId := route.routeId
          providerAccountId := route.providerAccountId }
      (attempt.persist (attempt.record .committed none)).bind fun
        | .error _ => .pure (.error (.configuration
          "control plane unavailable while persisting committed attempt"))
        | .ok _ => .pure (.ok (.streaming
          { upstream := body, attempt, pendingTerminal := none, terminalEmitted := false }))

/-- Makes a call if `condition` holds; its error is a configuration error. -/
def requireIf (condition : Bool) (op : RepositoryOp) :
    UseCase Body (Except ApplicationError Unit) :=
  if condition then
    (ask (.configuration op)).bind fun answer =>
      match configure answer with
      | .ok _ => .pure (.ok ())
      | .error error => .pure (.error error)
  else .pure (.ok ())

/-- The record of an attempt that failed before commitment. -/
def failedRecord (request : InferenceRequest) (route : RouteCandidate)
    (failure : ProviderFailure) (attemptId : AttemptId) : AttemptRecord :=
  { attemptId
    requestId := request.requestId
    routeId := route.routeId
    outcome := .failed
    failureCategory := some failure.category.debug }

def handlePreCommitFailure (gateway : Gateway) (request : InferenceRequest)
    (route : RouteCandidate) (failure : ProviderFailure) :
    UseCase Body (Except ApplicationError Unit) :=
  (ask .newAttemptId).bind fun attemptId =>
    (gateway.persistAttempt (failedRecord request route failure attemptId)).andThen fun _ =>
      (requireIf failure.category.blocksAccount
        (.markAccountFailure route.providerAccountId failure)).andThen fun _ =>
          requireIf failure.category.opensRoute (.markRouteFailure route.routeId failure)

/-- The loop of `infer` over the candidates. -/
def tryCandidates (gateway : Gateway) (request : InferenceRequest) :
    List RouteCandidate → Option String →
      UseCase Body (InferenceResult Body Chunk)
  | [], lastFailure => .pure (.error (.upstream (lastFailure.getD "no eligible route")))
  | route :: candidates, _ =>
    (ask (.resolve route.credentialRef)).bind fun
      | .error error => tryCandidates gateway request candidates (some error)
      | .ok credential =>
        (ask (.execute route request credential)).bind fun
          | .ok execution => gateway.handleExecution request route execution
          | .error failure =>
            (gateway.handlePreCommitFailure request route failure).andThen fun _ =>
              tryCandidates gateway request candidates (some failure.message)

def infer (gateway : Gateway) (rawKey : String) (request : InferenceRequest) :
    UseCase Body (InferenceResult Body Chunk) :=
  (ask (.configuration (.authenticate rawKey))).bind fun
    | .error error => .pure (.error (.configuration error))
    | .ok false => .pure (.error .unauthorized)
    | .ok true =>
      (ask (.configuration (.candidates request.model))).bind fun
        | .error error =>
          .pure (.error (if routeUnavailable error then .upstreamUnavailable
            else .configuration error))
        | .ok candidates => gateway.tryCandidates request candidates none

end Gateway

end SmartGateway
