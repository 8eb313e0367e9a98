import SmartGateway.Application.Gateway
import SmartGateway.Application.ManagedStream
import SmartGateway.Routing.SnapshotProbes

/-! # Requests over a snapshot

Any number of requests run `Gateway::infer` over one `SnapshotRepository`, or over a
`SnapshotFallback` with the snapshot behind a primary that answers whatever it likes or nothing
at all, at any time. A request that was answered with a stream goes on as that stream. Steps of
different requests interleave, and a request can be dropped between any two of its own.

Besides the repository and the requests the state keeps, for each route, the request that was
last handed a probe of it.
-/

namespace SmartGateway

variable {Body Chunk : Type}

/-! ## The repository -/

/-- How a call of the application can be answered, with the side that answers it and the
snapshot afterwards; `behind` says whether there is a primary in front of the snapshot. -/
inductive Answers (digest : String → String) (behind : Bool) :
    (op : ApplicationOp) → SnapshotRepository → op.Answer Body → Side → SnapshotRepository →
      Prop where
  /-- While the primary answers, the snapshot is not asked. -/
  | primary {op : RepositoryOp} (hbehind : behind = true) (repository : SnapshotRepository)
      (value : op.Output) :
    Answers digest behind (.configuration op) repository (.ok value) .primary repository
  | snapshot (now : Int) (op : RepositoryOp) (repository : SnapshotRepository) :
    Answers digest behind (.configuration op) repository
      (SnapshotRepository.handle digest now op repository).1 .fallback
      (SnapshotRepository.handle digest now op repository).2
  /-- The spool of the snapshot does not take the record. -/
  | unrecorded (attempt : AttemptRecord) (error : String) (repository : SnapshotRepository) :
    Answers digest behind (.configuration (.recordAttempt attempt)) repository (.error error)
      .fallback repository
  /-- The clock cannot be read. -/
  | untimed (logicalModel error : String) (repository : SnapshotRepository) :
    Answers digest behind (.configuration (.candidates logicalModel)) repository (.error error)
      .fallback repository
  /-- The spool of the gateway can be that of the snapshot. -/
  | spooled (now : Int) (attempt : AttemptRecord) (repository : SnapshotRepository) :
    Answers digest behind (.appendAttempt attempt) repository (.ok ()) .fallback
      (repository.recordAttempt now attempt)
  /-- Every other call leaves the snapshot alone. -/
  | elsewhere {op : ApplicationOp} (hop : ∀ op', op ≠ .configuration op')
      (repository : SnapshotRepository) (answer : op.Answer Body) :
    Answers digest behind op repository answer .fallback repository

/-- What a `SnapshotFallback` answers is among the answers, whatever its primary does. -/
theorem answers_handle {π : Type}
    (primary : (op : RepositoryOp) → π → Except String op.Output × π)
    (digest : String → String) (now : Int) (op : RepositoryOp) (p : π)
    (repository : SnapshotRepository) :
    ∃ side, @Answers Body digest true (.configuration op) repository
      (SnapshotFallback.handle primary (SnapshotRepository.handle digest now) op
        (p, repository)).1 side
      (SnapshotFallback.handle primary (SnapshotRepository.handle digest now) op
        (p, repository)).2.2 := by
  cases hprimary : primary op p with
  | mk answer p' =>
    cases answer with
    | ok value =>
      rw [SnapshotFallback.handle_of_ok _ _ hprimary]
      exact ⟨.primary, .primary rfl repository value⟩
    | error error =>
      rw [SnapshotFallback.handle_of_error _ _ hprimary]
      exact ⟨.fallback, .snapshot now op repository⟩

/-! ## Requests -/

/-- Where a request is. -/
inductive Phase (Body Chunk : Type) where
  /-- What is left of `infer`. -/
  | inferring (rest : UseCase Body (InferenceResult Body Chunk))
  /-- The stream it was answered with. -/
  | streaming (life : StreamLife Body Chunk)

/-- A stream before its first poll. -/
def ManagedInferenceStream.life (stream : ManagedInferenceStream Body Chunk) :
    StreamLife Body Chunk :=
  { stream, dropped := false, inFlight := none, cancellation := none, history := [] }

/-- The request is no longer in flight: its stream was dropped, or has yielded its last event. -/
def Phase.Over : Phase Body Chunk → Prop
  | .inferring _ => False
  | .streaming life => life.dropped = true ∨ life.stream.terminalEmitted = true

/-- The snapshot, the requests, and the request that the last probe of a route went to. -/
structure Traffic (Body Chunk : Type) where
  repository : SnapshotRepository
  requests : ℕ → Option (Phase Body Chunk)
  probes : String → Option ℕ

inductive TrafficStep (Body Chunk : Type) where
  | starts (id : ℕ) (rawKey : String) (request : InferenceRequest)
  | asks (id : ℕ) (call : Event (application Body)) (side : Side)
  | commits (id : ℕ)
  | returns (id : ℕ)
  | drops (id : ℕ)
  | streams (id : ℕ) (step : StreamStep Body Chunk) (side : Side)

/-- The call of a live stream, or of the task its drop has spawned. A call that was in flight
when the stream was dropped does not go on to the snapshot. -/
def StreamStep.asked : StreamStep Body Chunk → Option (Event (application Body))
  | .answered call | .cancels call => some call
  | _ => none

/-- How a step of a stream can leave the snapshot. -/
inductive StreamAnswers (digest : String → String) (behind : Bool) :
    StreamStep Body Chunk → SnapshotRepository → Side → SnapshotRepository → Prop where
  | asked {step : StreamStep Body Chunk} {call : Event (application Body)}
      {repository repository' : SnapshotRepository} {side : Side} (hcall : step.asked = some call)
      (hanswer : Answers digest behind call.op repository call.res side repository') :
    StreamAnswers digest behind step repository side repository'
  | silent {step : StreamStep Body Chunk} (hsilent : step.asked = none)
      (repository : SnapshotRepository) :
    StreamAnswers digest behind step repository .fallback repository

/-- Remembers a request as the one that has the probe of each route it has turned half open. -/
def noteProbes (id : ℕ) (before after : SnapshotRepository) (probes : String → Option ℕ) :
    String → Option ℕ :=
  fun routeId =>
    if after.ProbeTaken routeId ∧ ¬ before.ProbeTaken routeId then some id else probes routeId

namespace Traffic

/-- What one step does. -/
inductive Step (gateway : Gateway) (digest : String → String) (behind : Bool) :
    Traffic Body Chunk → TrafficStep Body Chunk → Traffic Body Chunk → Prop where
  | starts {w : Traffic Body Chunk} {id : ℕ} (hfree : w.requests id = none) (rawKey : String)
      (request : InferenceRequest) :
    Step gateway digest behind w (.starts id rawKey request)
      { w with
        requests := Function.update w.requests id
          (some (.inferring (gateway.infer rawKey request))) }
  | asks {w : Traffic Body Chunk} {id : ℕ} {op : ApplicationOp}
      {next : op.Answer Body → UseCase Body (InferenceResult Body Chunk)}
      {answer : op.Answer Body} {side : Side} {repository : SnapshotRepository}
      (hrequest : w.requests id = some (.inferring (.call op next)))
      (hanswer : Answers digest behind op w.repository answer side repository) :
    Step gateway digest behind w (.asks id ⟨op, answer⟩ side)
      { repository
        requests := Function.update w.requests id (some (.inferring (next answer)))
        probes := noteProbes id w.repository repository w.probes }
  | commits {w : Traffic Body Chunk} {id : ℕ} {stream : ManagedInferenceStream Body Chunk}
      (hrequest : w.requests id = some (.inferring (.pure (.ok (.streaming stream))))) :
    Step gateway digest behind w (.commits id)
      { w with requests := Function.update w.requests id (some (.streaming stream.life)) }
  | returns {w : Traffic Body Chunk} {id : ℕ} {result : InferenceResult Body Chunk}
      (hrequest : w.requests id = some (.inferring (.pure result)))
      (hresult : ∀ stream, result ≠ .ok (.streaming stream)) :
    Step gateway digest behind w (.returns id)
      { w with requests := Function.update w.requests id none }
  | drops {w : Traffic Body Chunk} {id : ℕ} {op : ApplicationOp}
      {next : op.Answer Body → UseCase Body (InferenceResult Body Chunk)}
      (hrequest : w.requests id = some (.inferring (.call op next))) :
    Step gateway digest behind w (.drops id)
      { w with requests := Function.update w.requests id none }
  | streams {w : Traffic Body Chunk} {id : ℕ} {life life' : StreamLife Body Chunk}
      {step : StreamStep Body Chunk} {side : Side} {repository : SnapshotRepository}
      (hrequest : w.requests id = some (.streaming life)) (hstep : StreamLife.Step life step life')
      (hanswer : StreamAnswers digest behind step w.repository side repository) :
    Step gateway digest behind w (.streams id step side)
      { repository
        requests := Function.update w.requests id (some (.streaming life'))
        probes := noteProbes id w.repository repository w.probes }

/-- No request is in flight. -/
def Idle (w : Traffic Body Chunk) : Prop :=
  ∀ id phase, w.requests id = some phase → phase.Over

end Traffic

/-- The traffic over a snapshot that was loaded in a state `Loaded` accepts. -/
def traffic (Body Chunk : Type) (gateway : Gateway) (digest : String → String) (behind : Bool)
    (Loaded : SnapshotRepository → Prop) :
    Transition (Traffic Body Chunk) (TrafficStep Body Chunk) where
  Init w := ∃ snapshot usageSpool, Loaded (.new snapshot usageSpool) ∧
    w = { repository := .new snapshot usageSpool, requests := fun _ => none,
          probes := fun _ => none }
  Step := Traffic.Step gateway digest behind

end SmartGateway
