import SmartGateway.Domain.Accounting
import SmartGateway.Domain.Json

/-! # Inference

What crosses the boundary between the application and an executor: the request, the events of
a streamed response, and the result of one outbound attempt. The chunks of a stream and the
stream itself are parameters; the application only hands them on.
-/

namespace SmartGateway

/-- The parts of a request the application and the executor look at. -/
structure InferenceRequest where
  requestId : String
  model : String
  stream : Bool
deriving DecidableEq

/-- Typed events crossing the upstream/application boundary. -/
inductive InferenceStreamEvent (Chunk : Type) where
  | frame (chunk : Chunk)
  | completed
  | failed (failure : ProviderFailure)

/-- One outbound attempt, separated by its response commitment semantics. -/
inductive InferenceExecution (Body : Type) where
  | complete (response : Json) (authoritativeEvidence : Option ProviderAuthoritativeEvidence)
  /-- Successful upstream headers have committed this attempt. -/
  | streaming (body : Body)

/-- What a poll of a stream or a future returns. -/
inductive Poll (α : Type) where
  | pending
  | ready (value : α)

end SmartGateway
