import SmartGateway.Application.FollowUp
import SmartGateway.Inbound.PublicStream
import SmartGateway.Upstream.ErrorBodies

/-! # Rendering

`application_error_response` turns what `infer` returns into an HTTP response, and a server sends
it: a JSON body at once, a stream event by event for as long as its client reads. A client can go
away after any number of events; the stream is then dropped.
-/

namespace SmartGateway

/-- `Drop`: a stream that has emitted no terminal event spawns the task that cancels it. -/
def ManagedInferenceStream.drop {Body Chunk : Type} (stream : ManagedInferenceStream Body Chunk) :
    UseCase Body Unit :=
  if stream.terminalEmitted then .pure () else stream.attempt.cancel

namespace Inbound

open Upstream

/-! ## Responses -/

abbrev PublicStream := ManagedInferenceStream OpenAiSseDecoder OpenAiChatCompletionChunk

inductive ResponseBody where
  | json (value : Json)
  /-- `Body::from_stream(public_sse_stream(stream))`. -/
  | events (stream : PublicStream)

structure Response where
  status : Nat
  headers : List (String × String)
  body : ResponseBody

namespace Response

/-- `(status, Json(value)).into_response()`. -/
def json (status : Nat) (value : Json) : Response :=
  { status, headers := [("content-type", "application/json")], body := .json value }

def error (status : Nat) (code message : String) : Response :=
  json status
    (.object [("error",
      .object [("message", .string message), ("type", .string code), ("code", .string code)])])

end Response

def sanitizedUpstreamMessage (_ : String) : String :=
  "The configured upstream provider could not complete the request"

def applicationErrorResponse :
    InferenceResult OpenAiSseDecoder OpenAiChatCompletionChunk → Response
  | .ok (.complete response) => .json 200 response
  | .ok (.streaming stream) =>
    { status := 200
      headers := [("content-type", "text/event-stream"), ("cache-control", "no-cache"),
        ("x-accel-buffering", "no")]
      body := .events stream }
  | .error .unauthorized => .error 401 "invalid_api_key" "Invalid gateway key"
  | .error (.configuration message) => .error 400 "configuration_error" message
  | .error .upstreamUnavailable =>
    .error 503 "upstream_unavailable" "No upstream route is currently available"
  | .error (.upstream message) =>
    .error 502 "upstream_error" (sanitizedUpstreamMessage message)

/-! ## Sending -/

/-- The events a client reads that goes away after `events` of them, or once nothing more comes.
The clock is looked at when an event is there, though only the time of a failure is used; a
terminal event is recorded before it is returned. -/
def readStream (codec : ChunkCodec OpenAiChatCompletionChunk) :
    Nat → PublicStream → UseCase OpenAiSseDecoder (List StreamEvent)
  | 0, stream => stream.drop.bind fun _ => .pure []
  | events + 1, stream =>
    (ask .unixTime).bind fun clock =>
      let (result, upstream) := stream.upstream.next codec clock
      match ManagedInferenceStream.receive { stream with upstream } result with
      | (some (.ready (some event)), stream) =>
        (readStream codec events stream).bind fun later => .pure (event :: later)
      | (some _, stream) => stream.drop.bind fun _ => .pure []
      | (none, stream) =>
        match stream.pendingTerminal with
        | some (event, program) => program.bind fun _ => .pure [event]
        | none => .pure []

/-- What a client receives: the bytes of the body in the pieces they are sent in. -/
structure ClientResponse where
  status : Nat
  headers : List (String × String)
  body : List Bytes

/-- Sends a response to a client that reads `events` events of a stream; `parse` and `print` are
those of `serde_json`, which prints every value. -/
def Response.send (parse : String → Option Json) (print : Json → String) (events : Nat)
    (response : Response) : UseCase OpenAiSseDecoder ClientResponse :=
  match response.body with
  | .json value =>
    .pure
      { status := response.status
        headers := response.headers
        body := [Text.encode (print value).toList] }
  | .events stream =>
    (readStream (chunkCodec parse) events stream).bind fun sent =>
      .pure
        { status := response.status
          headers := response.headers
          body := publicSseStream (fun value => some (print value)) sent }

/-- `infer` and the rendering of its result. -/
def respond (parse : String → Option Json) (print : Json → String) (gateway : Gateway)
    (rawKey : String) (request : InferenceRequest) (events : Nat) :
    UseCase OpenAiSseDecoder ClientResponse :=
  (gateway.infer rawKey request).bind fun result =>
    (applicationErrorResponse result).send parse print events

/-! ## Sending only follows up -/

theorem followsUp_drop (stream : PublicStream) : FollowsUp stream.drop := by
  unfold ManagedInferenceStream.drop
  split
  · exact FollowsUp.pure _
  · exact stream.attempt.followsUp_cancel

theorem followsUp_readStream (codec : ChunkCodec OpenAiChatCompletionChunk) (events : Nat)
    (stream : PublicStream) : FollowsUp (readStream codec events stream) := by
  induction events generalizing stream with
  | zero => exact (followsUp_drop stream).bind fun _ => FollowsUp.pure _
  | succ events ih =>
    refine FollowsUp.ask rfl ?_
    intro clock
    generalize stream.upstream.next codec clock = polled
    obtain ⟨result, upstream⟩ := polled
    rcases result with _ | _ | (chunk | _ | failure)
    · exact (followsUp_drop _).bind fun _ => FollowsUp.pure _
    · exact (stream.attempt.followsUp_fail _).bind fun _ => FollowsUp.pure _
    · exact (ih _).bind fun _ => FollowsUp.pure _
    · exact stream.attempt.followsUp_succeed.bind fun _ => FollowsUp.pure _
    · exact (stream.attempt.followsUp_fail _).bind fun _ => FollowsUp.pure _

theorem followsUp_send (parse : String → Option Json) (print : Json → String) (events : Nat)
    (response : Response) : FollowsUp (response.send parse print events) := by
  unfold Response.send
  split
  · exact FollowsUp.pure _
  · exact (followsUp_readStream _ events _).bind fun _ => FollowsUp.pure _

end Inbound

end SmartGateway
