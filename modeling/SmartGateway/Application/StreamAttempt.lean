import SmartGateway.Inference
import SmartGateway.Lib.Program

/-! # Stream attempts

The calls an application use case makes, and what happens to an attempt once its response has
been committed to a stream: the managed stream hands frames on and, at the first terminal
event, starts the program that records the outcome.
-/

namespace SmartGateway

/-- The calls of the application: its repository, secret resolver, executor, usage spool and
accounting repository, a fresh attempt identity, and the system clock. -/
inductive ApplicationOp where
  | configuration (op : RepositoryOp)
  | resolve (reference : CredentialReference)
  | execute (route : RouteCandidate) (request : InferenceRequest) (credential : String)
  | newAttemptId
  | appendAttempt (attempt : AttemptRecord)
  | recordQuotaSnapshot (snapshot : ProviderQuotaSnapshot)
  | recordBillingRecord (record : ProviderBillingRecord)
  | unixTime

/-- What each call answers; the clock reads nothing before the epoch. -/
abbrev ApplicationOp.Answer (Body : Type) : ApplicationOp → Type
  | .configuration op => Except String op.Output
  | .resolve _ => Except String String
  | .execute _ _ _ => Except ProviderFailure (InferenceExecution Body)
  | .newAttemptId => AttemptId
  | .unixTime => Option Nat
  | _ => Except String Unit

abbrev application (Body : Type) : Signature where
  Op := ApplicationOp
  Res := ApplicationOp.Answer Body

/-- A program of the application. -/
abbrev UseCase (Body : Type) (α : Type) : Type := Program (application Body) α

/-- Performs one call. -/
abbrev ask {Body : Type} (op : ApplicationOp) : UseCase Body (op.Answer Body) :=
  Program.perform (S := application Body) op

/-- What an attempt keeps once its response is committed; `usageSpool` says whether a durable
local spool is configured. -/
structure StreamAttempt where
  usageSpool : Bool
  attemptId : AttemptId
  requestId : String
  routeId : String
  providerAccountId : String

namespace StreamAttempt

variable {Body : Type}

def record (attempt : StreamAttempt) (outcome : AttemptOutcome)
    (failureCategory : Option String) : AttemptRecord :=
  { attemptId := attempt.attemptId
    requestId := attempt.requestId
    routeId := attempt.routeId
    outcome
    failureCategory }

def persist (attempt : StreamAttempt) (record : AttemptRecord) :
    UseCase Body (Except Unit Unit) :=
  (ask (.configuration (.recordAttempt record))).bind fun
    | .ok _ => .pure (.ok ())
    | .error _ =>
      if attempt.usageSpool then
        (ask (.appendAttempt record)).bind fun
          | .ok _ => .pure (.ok ())
          | .error _ => .pure (.error ())
      else .pure (.error ())

def succeed (attempt : StreamAttempt) : UseCase Body Unit :=
  (attempt.persist (attempt.record .succeeded none)).bind fun
    | .ok _ => (ask (.configuration (.markRouteSuccess attempt.routeId))).bind fun _ => .pure ()
    | .error _ => .pure ()

/-- Makes a call and ignores its answer if `condition` holds. -/
def callIf (condition : Bool) (op : RepositoryOp) : UseCase Body Unit :=
  if condition then (ask (.configuration op)).bind fun _ => .pure () else .pure ()

def fail (attempt : StreamAttempt) (failure : ProviderFailure) : UseCase Body Unit :=
  (attempt.persist (attempt.record .partialFailed (some failure.category.debug))).bind fun _ =>
    (callIf failure.category.blocksAccount
      (.markAccountFailure attempt.providerAccountId failure)).bind fun _ =>
        callIf failure.category.opensRoute (.markRouteFailure attempt.routeId failure)

def cancel (attempt : StreamAttempt) : UseCase Body Unit :=
  (attempt.persist (attempt.record .cancelled none)).bind fun _ => .pure ()

end StreamAttempt

/-! ## Persistence -/

/-- What both ways to persist a record do: the repository first, then the spool, with a result
for a record that was taken, one for a record the spool refused, and one for no spool. -/
def persisting {Body α : Type} (usageSpool : Bool) (record : AttemptRecord)
    (taken refused unspooled : α) : UseCase Body α :=
  (ask (.configuration (.recordAttempt record))).bind fun answer =>
    if answer.isOk then .pure taken
    else if usageSpool then
      (ask (.appendAttempt record)).bind fun spooled =>
        if spooled.isOk then .pure taken else .pure refused
    else .pure unspooled

theorem StreamAttempt.persist_eq {Body : Type} (attempt : StreamAttempt)
    (record : AttemptRecord) :
    (attempt.persist record : UseCase Body _) =
      persisting attempt.usageSpool record (.ok ()) (.error ()) (.error ()) := by
  unfold persist persisting
  congr 1
  funext answer
  rcases answer with error | value
  · dsimp only
    split
    · congr 1
      funext spooled
      rcases spooled with error | value <;> rfl
    · rfl
  · rfl

/-! ## The managed stream -/

/-- A stream after commitment; the pending terminal holds what is left to run of the future
that records the outcome. -/
structure ManagedInferenceStream (Body Chunk : Type) where
  upstream : Body
  attempt : StreamAttempt
  pendingTerminal : Option (InferenceStreamEvent Chunk × UseCase Body Unit)
  terminalEmitted : Bool

def sanitizedPostCommitFailure : ProviderFailure :=
  { category := .providerUnavailable
    message := "provider stream could not be completed"
    status := none
    retryAtUnix := none }

namespace ManagedInferenceStream

variable {Body Chunk : Type}

/-- The arms of `poll_next` on what the upstream returned: a frame is handed on, a terminal
event or the end of the upstream starts the future that records the outcome. -/
def receive (stream : ManagedInferenceStream Body Chunk) :
    Poll (Option (InferenceStreamEvent Chunk)) →
      Option (Poll (Option (InferenceStreamEvent Chunk))) × ManagedInferenceStream Body Chunk
  | .pending => (some .pending, stream)
  | .ready (some (.frame chunk)) => (some (.ready (some (.frame chunk))), stream)
  | .ready (some .completed) =>
    (none, { stream with pendingTerminal := some (.completed, stream.attempt.succeed) })
  | .ready (some (.failed failure)) =>
    (none, { stream with pendingTerminal := some (.failed failure, stream.attempt.fail failure) })
  | .ready none =>
    let failure := sanitizedPostCommitFailure
    (none, { stream with pendingTerminal := some (.failed failure, stream.attempt.fail failure) })

end ManagedInferenceStream

end SmartGateway
