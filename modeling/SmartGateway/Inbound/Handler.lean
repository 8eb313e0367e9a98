import SmartGateway.Application.Permissions
import SmartGateway.Inbound.ChatRequest
import SmartGateway.Inbound.Rendering
import SmartGateway.Lib.Interleaving

/-! # The HTTP handler

`router` and `chat_completion`, over everything a request reads: its method, path, header values
and body. Requests are served concurrently, by stores that can answer anything. What each does
is permitted by the key it presents, and the status of its response says what it has done.
-/

namespace SmartGateway

namespace Inbound

open Upstream
open Program (Always)

/-! ## Requests -/

/-- A request as it arrives. The names of its headers are in lower case; `payload` is the value of
the body, if the `Json` extractor accepts it. -/
structure HttpRequest where
  method : String
  path : String
  headers : List (String × Bytes)
  payload : Option Json

/-- `HeaderValue::to_str`: a value of visible ASCII characters, spaces and tabs. -/
def toStr (value : Bytes) : Option (List Char) :=
  if value.all fun byte => byte = 9 || (32 ≤ byte && byte < 127) then
    some (value.map fun byte => Char.ofNat byte.toNat)
  else none

def bearer (headers : List (String × Bytes)) : Option String :=
  (((headers.lookup "authorization").bind toStr).bind
    (Text.stripPrefix "Bearer ".toList)).map String.ofList

/-! ## The handler -/

/-- `chat_completion`; `requestId` is the identity drawn for the request. -/
def chatCompletion (gateway : Gateway) (requestId : String) (headers : List (String × Bytes))
    (payload : Option Json) : UseCase OpenAiSseDecoder Response :=
  match bearer headers with
  | none => .pure (.error 401 "invalid_api_key" "Missing Bearer gateway key")
  | some key =>
    match payload with
    | none => .pure (.error 400 "invalid_request_error" "Malformed JSON request body")
    | some value =>
      match decodeRequest value with
      | .error failure => .pure (.error 400 failure.code failure.message)
      | .ok input =>
        (gateway.infer key (input.toInferenceRequest requestId).toInferenceRequest).bind
          fun result => .pure (applicationErrorResponse result)

/-- A response without a body. -/
def emptyResponse (status : Nat) (headers : List (String × String)) : ClientResponse :=
  { status, headers, body := [] }

/-- `router`, with the sending of the response to a client that reads `events` events of a stream.
A path without a route is not found; a route answers other methods with those it has, and those
with a `GET` handler answer `HEAD` as well. -/
def router (parse : String → Option Json) (print : Json → String) (gateway : Gateway)
    (requestId : String) (events : Nat) (request : HttpRequest) :
    UseCase OpenAiSseDecoder ClientResponse :=
  if request.path = "/v1/chat/completions" then
    if request.method = "POST" then
      (chatCompletion gateway requestId request.headers request.payload).bind fun response =>
        response.send parse print events
    else .pure (emptyResponse 405 [("allow", "POST")])
  else if request.path = "/healthz" then
    if request.method = "GET" ∨ request.method = "HEAD" then .pure (emptyResponse 204 [])
    else .pure (emptyResponse 405 [("allow", "GET,HEAD")])
  else .pure (emptyResponse 404 [])

/-- A request with the identity that is drawn for it, and how much of a stream its client reads. -/
structure Arrival where
  request : HttpRequest
  requestId : String
  events : Nat

def Arrival.serve (arrival : Arrival) (parse : String → Option Json) (print : Json → String)
    (gateway : Gateway) : UseCase OpenAiSseDecoder ClientResponse :=
  router parse print gateway arrival.requestId arrival.events arrival.request

/-- Requests served concurrently. What the ports answer, how that changes the state, and what
else happens to it are arbitrary. -/
def server {σ : Type} (parse : String → Option Json) (print : Json → String) (gateway : Gateway)
    (effect : (op : ApplicationOp) → σ → op.Answer OpenAiSseDecoder → σ → Prop)
    (ambient : σ → (Arrival → Prop) → σ → Prop) :
    Concurrent (application OpenAiSseDecoder) σ Arrival where
  Ret _ := ClientResponse
  body arrival := arrival.serve parse print gateway
  Effect _ := effect
  Ambient := ambient

/-! ## What a request may do -/

section Sending

variable {requestId : String} {route : RouteCandidate}

theorem keepsBooks_drop {stream : PublicStream} (h : stream.attempt.Belongs requestId route) :
    KeepsBooks requestId route stream.drop := by
  unfold ManagedInferenceStream.drop
  split
  · exact trivial
  · exact h.cancel

/-- A stream that is read keeps books of its own attempt. -/
theorem keepsBooks_readStream (codec : ChunkCodec OpenAiChatCompletionChunk) (events : Nat)
    {stream : PublicStream} (h : stream.attempt.Belongs requestId route) :
    KeepsBooks requestId route (readStream codec events stream) := by
  induction events generalizing stream with
  | zero => exact (keepsBooks_drop h).bind fun _ => trivial
  | succ events ih =>
    refine ⟨trivial, fun clock => ?_⟩
    dsimp only [Program.bind]
    generalize stream.upstream.next codec clock = polled
    obtain ⟨result, upstream⟩ := polled
    have hread : { stream with upstream }.attempt.Belongs requestId route := h
    rcases result with _ | _ | (chunk | _ | failure)
    · exact (keepsBooks_drop hread).bind fun _ => trivial
    · exact (h.fail _).bind fun _ => trivial
    · exact (ih hread).bind fun _ => trivial
    · exact h.succeed.bind fun _ => trivial
    · exact (h.fail _).bind fun _ => trivial

end Sending

/-- What the calls of a request amount to, by the status of its response. -/
inductive Exchanged (request : HttpRequest) : History OpenAiSseDecoder → Nat → Prop where
  /-- It is not for `chat_completion`. -/
  | elsewhere {status : Nat} (h : request.path ≠ "/v1/chat/completions" ∨ request.method ≠ "POST")
      (hstatus : status = 204 ∨ status = 404 ∨ status = 405) : Exchanged request [] status
  | keyless (h : bearer request.headers = none) : Exchanged request [] 401
  | malformed {key : String} (hkey : bearer request.headers = some key)
      (h : ∀ value ∈ request.payload, ∃ failure, decodeRequest value = .error failure) :
      Exchanged request [] 400
  | refused {key : String} (hkey : bearer request.headers = some key) :
      Exchanged request [⟨.configuration (.authenticate key), .ok false⟩] 401
  | unanswered {key : String} (hkey : bearer request.headers = some key) (text : String) :
      Exchanged request [⟨.configuration (.authenticate key), .error text⟩] 400
  | accepted {key : String} {past : History OpenAiSseDecoder} {status : Nat}
      (hkey : bearer request.headers = some key) (h : Accepted key past)
      (hstatus : status = 200 ∨ status = 400 ∨ status = 502 ∨ status = 503) :
      Exchanged request past status

/-- The request has a key and asks for an inference. -/
def Asks (arrival : Arrival) (key : String) (request : InferenceRequest) : Prop :=
  arrival.request.path = "/v1/chat/completions" ∧ arrival.request.method = "POST" ∧
    bearer arrival.request.headers = some key ∧ ∃ value input,
      arrival.request.payload = some value ∧ decodeRequest value = .ok input ∧
        request = (input.toInferenceRequest arrival.requestId).toInferenceRequest

/-- Such a request is inferred, and what comes of it is sent. -/
theorem serve_of_asks {arrival : Arrival} {key : String} {request : InferenceRequest}
    (h : Asks arrival key request) (parse : String → Option Json) (print : Json → String)
    (gateway : Gateway) :
    arrival.serve parse print gateway =
      ((gateway.infer key request).bind fun result =>
        .pure (applicationErrorResponse result)).bind fun response =>
          response.send parse print arrival.events := by
  obtain ⟨hpath, hmethod, hkey, value, input, hpayload, hdecode, rfl⟩ := h
  unfold Arrival.serve router chatCompletion
  rw [if_pos hpath, if_pos hmethod, hkey, hpayload]
  dsimp only
  rw [hdecode]

section Exchange

variable {parse : String → Option Json} {print : Json → String} {gateway : Gateway}
  {http : HttpRequest} {key : String} {request : InferenceRequest}
  {past : History OpenAiSseDecoder}

/-- The response to a result says what the request has done, also once its stream is read. -/
theorem exchanged_send (hkey : bearer http.headers = some key) (events : Nat)
    {result : InferenceResult OpenAiSseDecoder OpenAiChatCompletionChunk}
    (h : Earned key request past result) :
    Always (S := application OpenAiSseDecoder) (Permitted key request)
      (fun past response => Exchanged http past response.status) past
      ((applicationErrorResponse result).send parse print events) := by
  rcases result with (_ | text | _ | text) | response | stream
  · have hpast : past = [⟨.configuration (.authenticate key), .ok false⟩] := h
    subst hpast
    exact .refused hkey
  · rcases h with rfl | haccepted
    · exact .unanswered hkey text
    · exact .accepted hkey haccepted (by simp [applicationErrorResponse, Response.error, Response.json])
  · exact .accepted hkey h (by simp [applicationErrorResponse, Response.error, Response.json])
  · exact .accepted hkey h (by simp [applicationErrorResponse, Response.error, Response.json])
  · exact .accepted hkey h (Or.inl rfl)
  · obtain ⟨haccepted, route, hoffered, hexecuted, hbelongs⟩ := h
    have hadmitted : Admitted key request past route := ⟨haccepted, hoffered, hexecuted⟩
    refine ((keepsBooks_readStream (chunkCodec parse) events hbelongs).always hadmitted).bind ?_
    rintro past' sent ⟨own, rfl⟩
    exact .accepted hkey (haccepted.append own) (Or.inl rfl)

/-- A request that asks for an inference keeps to what its key permits. -/
theorem permitted_respond (hkey : bearer http.headers = some key) (events : Nat) :
    Always (S := application OpenAiSseDecoder) (Permitted key request)
      (fun past response => Exchanged http past response.status) []
      (((gateway.infer key request).bind fun result =>
        .pure (applicationErrorResponse result)).bind fun response =>
          response.send parse print events) := by
  have hinfer : Always (S := application OpenAiSseDecoder) (Permitted key request)
      (fun past response => ∃ result, Earned key request past result ∧
        response = applicationErrorResponse result) []
      ((gateway.infer key request).bind fun result => .pure (applicationErrorResponse result)) :=
    (gateway.permitted_infer key request).bind fun _ result hresult => ⟨result, hresult, rfl⟩
  refine hinfer.bind ?_
  rintro past _ ⟨result, hearned, rfl⟩
  exact exchanged_send hkey events hearned

/-- Whatever it is answered, a request is asked for by its key before it does anything, does what
is permitted to it only, and its status says what it has done. -/
theorem exchanged_serve (parse : String → Option Json) (print : Json → String) (gateway : Gateway)
    (arrival : Arrival) :
    Always (S := application OpenAiSseDecoder)
      (fun past op => ∃ key request, Asks arrival key request ∧ Permitted key request past op)
      (fun past response => Exchanged arrival.request past response.status) []
      (arrival.serve parse print gateway) := by
  unfold Arrival.serve router
  split
  · next hpath =>
    split
    · next hmethod =>
      unfold chatCompletion
      cases hkey : bearer arrival.request.headers with
      | none => exact .keyless hkey
      | some key =>
        cases hpayload : arrival.request.payload with
        | none =>
          refine .malformed hkey ?_
          intro value hvalue
          rw [hpayload] at hvalue
          cases hvalue
        | some value =>
          dsimp only
          cases hdecode : decodeRequest value with
          | error failure =>
            -- refused before anything is asked
            refine .malformed hkey ?_
            intro other hother
            rw [hpayload, Option.mem_def, Option.some.injEq] at hother
            exact ⟨failure, hother ▸ hdecode⟩
          | ok input =>
            have hasks : Asks arrival key
                (input.toInferenceRequest arrival.requestId).toInferenceRequest :=
              ⟨hpath, hmethod, hkey, value, input, hpayload, hdecode, rfl⟩
            refine (permitted_respond hkey arrival.events).mono ?_ fun _ _ h => h
            intro past op hop
            exact ⟨key, _, hasks, hop⟩
    · next hmethod => exact .elsewhere (Or.inr hmethod) (Or.inr (Or.inr rfl))
  · next hpath =>
    split
    · split
      · exact .elsewhere (Or.inl hpath) (Or.inl rfl)
      · exact .elsewhere (Or.inl hpath) (Or.inr (Or.inr rfl))
    · exact .elsewhere (Or.inl hpath) (Or.inr (Or.inl rfl))

end Exchange

/-! ## Every run -/

section Runs

variable {σ : Type} {parse : String → Option Json} {print : Json → String} {gateway : Gateway}
  {effect : (op : ApplicationOp) → σ → op.Answer OpenAiSseDecoder → σ → Prop}
  {ambient : σ → (Arrival → Prop) → σ → Prop} {Init : σ → Prop}
  {w w' : Concurrent.World (server parse print gateway effect ambient)}
  {ls : List (Concurrent.Label (server parse print gateway effect ambient))}

/-- However requests interleave and whatever they are answered, each call is made for a request
that asks with a key, and is permitted by what the earlier calls of the same request were answered:
none but `authenticate` is made before the key was accepted, a route is executed only as a
candidate of this request and with a credential its reference was resolved to, and books are kept
only of routes that were executed. -/
theorem requests_authorized {before after : List (Concurrent.Label
    (server parse print gateway effect ambient))} {id : ℕ} {arrival : Arrival}
    {event : Event (application OpenAiSseDecoder)}
    (hinit : ((server parse print gateway effect ambient).toTransition Init).Init w)
    (hrun : ((server parse print gateway effect ambient).toTransition Init).Steps w
      (before ++ .call id arrival event :: after) w') :
    ∃ key request past, Asks arrival key request ∧ Permitted key request past event.op ∧
      ∀ other earlier, .call id other earlier ∈ before ↔ other = arrival ∧ earlier ∈ past := by
  obtain ⟨past, next, hpath, hearlier⟩ := Concurrent.exists_path_of_call hinit hrun
  have hrest := (exchanged_serve parse print gateway arrival).path hpath
  rw [List.nil_append] at hrest
  obtain ⟨key, request, hasks, hpermitted⟩ := hrest.1
  exact ⟨key, request, past, hasks, hpermitted, hearlier⟩

/-- When a request is served, its status says which calls were made for it. -/
theorem responses_earned
    (hinit : ((server parse print gateway effect ambient).toTransition Init).Init w)
    (hrun : ((server parse print gateway effect ambient).toTransition Init).Steps w ls w')
    {id : ℕ} {arrival : Arrival} {response : ClientResponse}
    (hfinish : .finish id arrival response ∈ ls) :
    ∃ past, Exchanged arrival.request past response.status ∧
      ∀ other event, .call id other event ∈ ls ↔ other = arrival ∧ event ∈ past := by
  have hrecalls := Concurrent.recalls_of_run hinit hrun
  obtain ⟨-, -, past, hpath, hevents⟩ := hrecalls.finished id arrival response hfinish
  have hrest := (exchanged_serve parse print gateway arrival).path hpath
  rw [List.nil_append] at hrest
  exact ⟨past, hrest, hevents⟩

end Runs

/-! ## A request that is served -/

namespace Served

def gateway : Gateway := { usageSpool := true, accounting := true }

/-- A server whose ports answer anything and keep nothing. -/
abbrev anything : Concurrent (application OpenAiSseDecoder) Unit Arrival :=
  server (fun _ => none) (fun _ => "") gateway (fun _ _ _ _ => True) fun _ _ _ => False

abbrev runs : Transition (Concurrent.World anything) (Concurrent.Label anything) :=
  anything.toTransition fun _ => True

def idle : Concurrent.World anything := ⟨(), 0, fun _ => none⟩

def arrival : Arrival where
  request :=
    { method := "POST"
      path := "/v1/chat/completions"
      headers := [("authorization", Text.encode "Bearer key".toList)]
      payload := some (oneMessage []) }
  requestId := "request"
  events := 0

def inference : InferenceRequest := { requestId := "request", model := "model", stream := false }

def route : RouteCandidate where
  routeId := "route"
  logicalModel := "model"
  providerAccountId := "account"
  provider := "provider"
  credentialRef := .envKey
  baseUrl := "https://provider"
  upstreamModel := "upstream-model"
  priority := 0

theorem asks_arrival : Asks arrival "key" inference := by
  have hbearer : bearer arrival.request.headers = some "key" := by decide +kernel
  exact ⟨rfl, rfl, hbearer, oneMessage [], oneMessageRequest, rfl, rfl, rfl⟩

theorem body_arrival : anything.body arrival =
    ((gateway.infer "key" inference).bind fun result =>
      .pure (applicationErrorResponse result)).bind fun response =>
        response.send (fun _ => none) (fun _ => "") 0 :=
  serve_of_asks asks_arrival _ _ _

/-- A call of the request can be answered in any way. -/
theorem exists_answer {w : Concurrent.World anything} {past : History OpenAiSseDecoder}
    {op : ApplicationOp} {next : op.Answer OpenAiSseDecoder → UseCase OpenAiSseDecoder ClientResponse}
    (hflight : w.flights 0 = some ⟨arrival, past, .call op next⟩)
    (answer : op.Answer OpenAiSseDecoder) :
    ∃ w', runs.Step w (.call 0 arrival ⟨op, answer⟩) w' ∧
      w'.flights 0 = some ⟨arrival, past ++ [⟨op, answer⟩], next answer⟩ := by
  have heffect : anything.Effect arrival op () answer () := trivial
  obtain ⟨w', hstep, -, hflight'⟩ := Concurrent.exists_call hflight rfl heffect
  exact ⟨w', hstep, hflight'⟩

/-- The calls up to the first execution. -/
def accepted : List (Concurrent.Label anything) :=
  [.start 0 arrival, .call 0 arrival ⟨.configuration (.authenticate "key"), .ok true⟩,
    .call 0 arrival ⟨.configuration (.candidates "model"), .ok [route]⟩,
    .call 0 arrival ⟨.resolve .envKey, .ok "credential"⟩]

theorem steps_accepted (answer : Except ProviderFailure (InferenceExecution OpenAiSseDecoder)) :
    ∃ w, runs.Steps idle (accepted ++ [.call 0 arrival
      ⟨.execute route inference "credential", answer⟩]) w := by
  obtain ⟨w₁, h₁, -, hf₁⟩ := Concurrent.exists_start idle arrival
  rw [body_arrival] at hf₁
  obtain ⟨w₂, h₂, hf₂⟩ := exists_answer hf₁ (.ok true)
  obtain ⟨w₃, h₃, hf₃⟩ := exists_answer hf₂ (.ok [route])
  obtain ⟨w₄, h₄, hf₄⟩ := exists_answer hf₃ (.ok "credential")
  obtain ⟨w₅, h₅, -⟩ := exists_answer hf₄ answer
  exact ⟨w₅, .head h₁ (.head h₂ (.head h₃ (.head h₄ (.head h₅ (.refl w₅)))))⟩

/-- The first execution of a request that was accepted. -/
theorem executes_for_key : ∃ key request past, Asks arrival key request ∧
    Permitted key request past (.execute route inference "credential") ∧
      ∀ other earlier, .call 0 other earlier ∈ accepted ↔ other = arrival ∧ earlier ∈ past := by
  obtain ⟨w, hrun⟩ := steps_accepted (.ok (.complete .null none))
  exact requests_authorized ⟨trivial, rfl, fun _ => rfl⟩ hrun

/-- A request whose key is not accepted. -/
def refused : List (Concurrent.Label anything) :=
  [.start 0 arrival, .call 0 arrival ⟨.configuration (.authenticate "key"), .ok false⟩]

/-- It is served without another call. -/
theorem refused_without_calls : ∃ response : ClientResponse, response.status = 401 ∧
    ∃ past, Exchanged arrival.request past response.status ∧
      ∀ other event, .call 0 other event ∈ refused ++ [.finish 0 arrival response] ↔
        other = arrival ∧ event ∈ past := by
  obtain ⟨w₁, h₁, -, hf₁⟩ := Concurrent.exists_start idle arrival
  rw [body_arrival] at hf₁
  obtain ⟨w₂, h₂, hf₂⟩ := exists_answer hf₁ (.ok false)
  obtain ⟨w₃, h₃, -⟩ := Concurrent.exists_finish hf₂
  have hrun : runs.Steps idle _ w₃ := .head h₁ (.head h₂ (.head h₃ (.refl w₃)))
  exact ⟨_, rfl, responses_earned ⟨trivial, rfl, fun _ => rfl⟩ hrun
    (List.mem_append_right refused (List.mem_singleton_self _))⟩

end Served

end Inbound

end SmartGateway
