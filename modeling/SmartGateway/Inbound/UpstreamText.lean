import SmartGateway.Inbound.Rendering
import SmartGateway.Lib.TwoRuns

/-! # What upstream texts decide

Two runs of `infer` and its rendering over one state of the stores, the fresh identities and the
clock, where the outside answers in other words: error bodies may differ except for their code,
and errors of the secret resolver in their text. Neither the calls of the runs, nor the stores
after them, nor the responses tell the runs apart.
-/

namespace SmartGateway

namespace Inbound

open Upstream

variable {σ : Type}

/-! ## Surroundings -/

/-- What surrounds a run: `call` is the part that the gateway is served by itself, its stores,
fresh identities and clock, with the state that any call leaves; `secret` and `sent` are what the
resolver and the upstreams answer. -/
structure Surroundings (σ : Type) where
  call : (op : ApplicationOp) → σ → op.Answer OpenAiSseDecoder × σ
  secret : σ → CredentialReference → Except String String
  sent : σ → RouteCandidate → InferenceRequest → String → HttpResult

namespace Surroundings

/-- Answers a call. The executor looks at a reply, and at the clock, when the reply is there. -/
def handle (w : Surroundings σ) : (op : ApplicationOp) → σ → op.Answer OpenAiSseDecoder × σ
  | .resolve reference, s => (w.secret s reference, (w.call (.resolve reference) s).2)
  | .execute route request credential, s =>
    let (clock, t) := w.call .unixTime (w.call (.execute route request credential) s).2
    (execute clock request (w.sent s route request credential), t)
  | op, s => w.call op s

/-- The response to a request, and the state after it. -/
def response (w : Surroundings σ) (parse : String → Option Json) (print : Json → String)
    (gateway : Gateway) (rawKey : String) (request : InferenceRequest) (events : Nat) (s : σ) :
    ClientResponse × σ :=
  (respond parse print gateway rawKey request events).run w.handle s

/-- The calls that are made for a request. -/
def calls (w : Surroundings σ) (parse : String → Option Json) (print : Json → String)
    (gateway : Gateway) (rawKey : String) (request : InferenceRequest) (events : Nat) (s : σ) :
    List ApplicationOp :=
  ((respond parse print gateway rawKey request events).trace w.handle s).map Event.op

end Surroundings

/-- Two answers of the secret resolver that differ at most in the text of an error. -/
inductive SameSecret : Except String String → Except String String → Prop where
  | resolved (credential : String) : SameSecret (.ok credential) (.ok credential)
  | refused (text text' : String) : SameSecret (.error text) (.error text')

/-- Surroundings that differ in the texts from outside, in streams as `streams` allows. -/
structure Surroundings.SameBut (streams : List SourcePoll → List SourcePoll → Prop)
    (w w' : Surroundings σ) : Prop where
  call : w.call = w'.call
  secret : ∀ s reference, SameSecret (w.secret s reference) (w'.secret s reference)
  sent : ∀ s route request credential,
    SameReply streams request (w.sent s route request credential)
      (w'.sent s route request credential)

/-! ## Answers that differ in text -/

section Alike

variable {codec : ChunkCodec OpenAiChatCompletionChunk}

/-- How the answers to a call may differ. -/
def SameAnswer (codec : ChunkCodec OpenAiChatCompletionChunk) :
    (op : ApplicationOp) → op.Answer OpenAiSseDecoder → op.Answer OpenAiSseDecoder → Prop
  | .resolve _, answer, answer' => SameSecret answer answer'
  | .execute _ _ _, answer, answer' => AlikeExecution codec answer answer'
  | _, answer, answer' => answer = answer'

/-- How the results of `infer` may differ. -/
inductive SameResult (codec : ChunkCodec OpenAiChatCompletionChunk) :
    InferenceResult OpenAiSseDecoder OpenAiChatCompletionChunk →
      InferenceResult OpenAiSseDecoder OpenAiChatCompletionChunk → Prop where
  | same (result : InferenceResult OpenAiSseDecoder OpenAiChatCompletionChunk) :
    SameResult codec result result
  | upstream (text text' : String) :
    SameResult codec (.error (.upstream text)) (.error (.upstream text'))
  | streaming (attempt : StreamAttempt) {upstream upstream' : OpenAiSseDecoder}
    (h : OpenAiSseDecoder.Alike codec upstream upstream') :
    SameResult codec
      (.ok (.streaming { upstream, attempt, pendingTerminal := none, terminalEmitted := false }))
      (.ok (.streaming
        { upstream := upstream', attempt, pendingTerminal := none, terminalEmitted := false }))

theorem Surroundings.SameBut.answer {w w' : Surroundings σ} (h : w.SameBut (SameRead codec) w')
    (op : ApplicationOp) (s : σ) : SameAnswer codec op (w.handle op s).1 (w'.handle op s).1 := by
  obtain ⟨call, secret, sent⟩ := w
  obtain ⟨_, secret', sent'⟩ := w'
  obtain ⟨rfl, hsecret, hsent⟩ := h
  cases op with
  | resolve reference => exact hsecret s reference
  | execute route request credential => exact (hsent s route request credential).execute _
  | _ => rfl

theorem Surroundings.SameBut.state {streams : List SourcePoll → List SourcePoll → Prop}
    {w w' : Surroundings σ} (h : w.SameBut streams w') (op : ApplicationOp) (s : σ) :
    (w.handle op s).2 = (w'.handle op s).2 := by
  obtain ⟨call, secret, sent⟩ := w
  obtain ⟨_, secret', sent'⟩ := w'
  obtain ⟨rfl, -, -⟩ := h
  cases op <;> rfl

/-- Where a program only follows up, the answers are the same. -/
theorem alike_of_followsUp {α : Type} {p : UseCase OpenAiSseDecoder α} (hp : FollowsUp p) :
    Program.Alike (SameAnswer codec) (fun a b => a = b) p p := by
  refine Program.Alike.refl (Program.Calls.mono hp ?_)
  intro op hop answer answer' hsame
  cases op with
  | resolve reference => cases hop
  | execute route request credential => cases hop
  | _ => exact hsame

/-! ## The gateway -/

theorem alike_handleExecution (gateway : Gateway) (request : InferenceRequest)
    (route : RouteCandidate) {execution execution' : InferenceExecution OpenAiSseDecoder}
    (h : AlikeExecution codec (.ok execution) (.ok execution')) :
    Program.Alike (SameAnswer codec) (SameResult codec)
      (gateway.handleExecution request route execution)
      (gateway.handleExecution request route execution') := by
  cases h with
  | complete response evidence =>
    refine (alike_of_followsUp (gateway.followsUp_handleExecution request route _)).mono ?_
    rintro result _ rfl
    exact .same result
  | streaming h =>
    refine .perform ?_
    rintro attemptId _ rfl
    refine (alike_of_followsUp (StreamAttempt.followsUp_persist _ _)).bind ?_
    rintro persisted _ rfl
    cases persisted with
    | error error => exact .pure (.same _)
    | ok value => exact .pure (.streaming _ h)

/-- The loop goes on alike: the failure it remembers decides nothing. -/
theorem alike_tryCandidates (gateway : Gateway) (request : InferenceRequest)
    (candidates : List RouteCandidate) (lastFailure lastFailure' : Option String) :
    Program.Alike (SameAnswer codec) (SameResult codec)
      (gateway.tryCandidates request candidates lastFailure)
      (gateway.tryCandidates request candidates lastFailure') := by
  induction candidates generalizing lastFailure lastFailure' with
  | nil => exact .pure (.upstream _ _)
  | cons route candidates ih =>
    refine .perform ?_
    intro secret secret' hsecret
    -- the text of a refusal is all that can differ, and it is only kept for the last answer
    cases hsecret with
    | refused text text' => exact ih _ _
    | resolved credential =>
      refine .perform ?_
      intro execution execution' hexecution
      have hexecution : AlikeExecution codec execution execution' := hexecution
      cases hexecution with
      | failed failure =>
        refine (alike_of_followsUp
          (gateway.followsUp_handlePreCommitFailure request route failure)).andThen ?_ ?_
        · intro _
          exact ih _ _
        · intro error
          exact .same _
      | complete response evidence =>
        exact alike_handleExecution gateway request route (.complete response evidence)
      | streaming h => exact alike_handleExecution gateway request route (.streaming h)

theorem alike_infer (gateway : Gateway) (rawKey : String) (request : InferenceRequest) :
    Program.Alike (SameAnswer codec) (SameResult codec) (gateway.infer rawKey request)
      (gateway.infer rawKey request) := by
  refine .perform ?_
  rintro authenticated _ rfl
  rcases authenticated with error | _ | _
  · exact .pure (.same _)
  · exact .pure (.same _)
  · refine .perform ?_
    rintro candidates _ rfl
    cases candidates with
    | error error => exact .pure (.same _)
    | ok candidates => exact alike_tryCandidates gateway request candidates none none

/-! ## The rendering -/

/-- Decoders that cannot be told apart are read alike. -/
theorem readStream_eq (events : Nat) (stream : PublicStream)
    {upstream upstream' : OpenAiSseDecoder}
    (h : OpenAiSseDecoder.Alike codec upstream upstream') :
    readStream codec events { stream with upstream } =
      readStream codec events { stream with upstream := upstream' } := by
  induction events generalizing upstream upstream' with
  | zero => rfl
  | succ events ih =>
    rw [readStream, readStream]
    congr 1
    funext clock
    obtain ⟨hresult, hnext⟩ := h.next clock
    dsimp only
    generalize upstream.next codec clock = polled at hresult hnext
    generalize upstream'.next codec clock = polled' at hresult hnext
    obtain ⟨result, decoder⟩ := polled
    obtain ⟨result', decoder'⟩ := polled'
    obtain rfl : result = result' := hresult
    rcases result with _ | _ | (chunk | _ | failure)
    · rfl
    · rfl
    · change (readStream codec events { stream with upstream := decoder }).bind _ =
        (readStream codec events { stream with upstream := decoder' }).bind _
      rw [ih (hnext chunk rfl)]
    · rfl
    · rfl

end Alike

/-- Results that differ in text are sent as one response. -/
theorem send_eq {parse : String → Option Json} (print : Json → String) (events : Nat)
    {result result' : InferenceResult OpenAiSseDecoder OpenAiChatCompletionChunk}
    (h : SameResult (chunkCodec parse) result result') :
    (applicationErrorResponse result).send parse print events =
      (applicationErrorResponse result').send parse print events := by
  cases h with
  | same => rfl
  | upstream text text' => rfl
  | streaming attempt h =>
    have hread := readStream_eq events
      { upstream := .new [], attempt, pendingTerminal := none, terminalEmitted := false } h
    unfold Response.send applicationErrorResponse
    dsimp only at hread ⊢
    rw [hread]

/-! ## Two runs -/

/-- Texts from outside decide nothing: runs that differ in them, where no size guard cuts a stream
off before its error, make the same calls, leave the same state and give the same response. -/
theorem upstream_text_decides_nothing {parse : String → Option Json} {w w' : Surroundings σ}
    (h : w.SameBut (SameRead (chunkCodec parse)) w') (print : Json → String) (gateway : Gateway)
    (rawKey : String) (request : InferenceRequest) (events : Nat) (s : σ) :
    w.calls parse print gateway rawKey request events s =
        w'.calls parse print gateway rawKey request events s ∧
      w.response parse print gateway rawKey request events s =
        w'.response parse print gateway rawKey request events s := by
  have halike : Program.Alike (SameAnswer (chunkCodec parse)) (fun a b => a = b)
      (respond parse print gateway rawKey request events)
      (respond parse print gateway rawKey request events) := by
    refine (alike_infer gateway rawKey request).bind ?_
    intro result result' hresult
    rw [send_eq print events hresult]
    exact alike_of_followsUp (followsUp_send _ _ _ _)
  obtain ⟨hresponse, hstate, hcalls⟩ := halike.run h.answer h.state s
  exact ⟨hcalls, Prod.ext hresponse hstate⟩

/-! ## Errors in other words -/

def quotaErrorStart : List Char :=
  "\x7b\"error\":\x7b\"code\":\"insufficient_quota\",\"message\":\"".toList

/-- An error of a stream, with a message. -/
def quotaErrorText (message : List Char) : List Char :=
  quotaErrorStart ++ message ++ "\"\x7d\x7d".toList

def quotaError (message : List Char) : Json :=
  .object [("code", .string "insufficient_quota"), ("message", .string (String.ofList message))]

/-- The parser at the text of such an error. -/
def parseQuotaError (text : String) : Option Json :=
  (Text.stripPrefix quotaErrorStart text.toList).map fun rest =>
    .object [("error", quotaError (rest.take (rest.length - 3)))]

theorem parseQuotaError_text (message : List Char) :
    parseQuotaError (String.ofList (quotaErrorText message)) =
      some (.object [("error", quotaError message)]) := by
  have htake : (message ++ "\"\x7d\x7d".toList).take
      ((message ++ "\"\x7d\x7d".toList).length - 3) = message := by
    apply List.take_left'
    rw [List.length_append]
    rfl
  rw [parseQuotaError, String.toList_ofList, quotaErrorText, List.append_assoc,
    Text.stripPrefix_append, Option.map_some, htake]

theorem dataError_quotaErrorText (message : List Char) :
    dataError (chunkCodec parseQuotaError) (quotaErrorText message) =
      some (quotaError message) := by
  have hmarker : Text.trim (quotaErrorText message) ≠ "[DONE]".toList := trim_ne_done rfl
  rw [dataError, if_neg hmarker]
  simp only [chunkCodec, parseQuotaError_text, Option.bind_some, Json.asObject]
  simp

theorem frameError_dataItem {Chunk : Type} (codec : ChunkCodec Chunk) {data : List Char}
    (hnewline : '\n' ∉ data) (hreturn : '\r' ∉ data) :
    frameError codec (Text.encode ("data: ".toList ++ data ++ ['\n'])) =
      dataError codec data := by
  rw [frameError, Text.fromUTF8_encode]
  simp only [String.toList_ofList, dataLines_item hnewline hreturn, List.intercalate_singleton]

/-- A stream that fails with such an error, in one chunk. -/
def quotaErrorSource (message : List Char) : List SourcePoll :=
  [.ready (some (.ok (dataItem (quotaErrorText message))))]

/-- A text without a line break. -/
def Unbroken (text : List Char) : Prop := '\n' ∉ text ∧ '\r' ∉ text

theorem Unbroken.quotaErrorText {message : List Char} (h : Unbroken message) :
    Unbroken (quotaErrorText message) := by
  constructor
  · rw [Inbound.quotaErrorText, List.mem_append, List.mem_append, not_or, not_or]
    exact ⟨⟨by decide, h.1⟩, by decide⟩
  · rw [Inbound.quotaErrorText, List.mem_append, List.mem_append, not_or, not_or]
    exact ⟨⟨by decide, h.2⟩, by decide⟩

/-- The one frame of such a stream. -/
def quotaErrorFrame (message : List Char) : Frame :=
  { content := Text.encode ("data: ".toList ++ quotaErrorText message ++ ['\n'])
    blankLine := [newline] }

theorem frames_quotaErrorSource {message : List Char} (h : Unbroken message) :
    frames (received (quotaErrorSource message)) = [quotaErrorFrame message] ∧
      frameError (chunkCodec parseQuotaError) (quotaErrorFrame message).content =
        some (quotaError message) := by
  obtain ⟨hnewline, hreturn⟩ := h.quotaErrorText
  have hreceived : received (quotaErrorSource message) = dataItem (quotaErrorText message) :=
    List.append_nil _
  constructor
  · rw [hreceived, frames, cutFrom_dataItem hnewline]
    rfl
  · rw [quotaErrorFrame, frameError_dataItem _ hnewline hreturn, dataError_quotaErrorText]

/-- Streams that fail in other words, without regard to the size of these. -/
theorem sameStream_quotaErrorSource {message message' : List Char}
    (h : Unbroken message) (h' : Unbroken message') :
    SameStream (chunkCodec parseQuotaError) (quotaErrorSource message)
      (quotaErrorSource message') := by
  obtain ⟨hframes, herror⟩ := frames_quotaErrorSource h
  obtain ⟨hframes', herror'⟩ := frames_quotaErrorSource h'
  have hcode : errorCode (some (quotaError message')) = errorCode (some (quotaError message)) := rfl
  rw [SameStream, hframes, hframes']
  exact .failed (.error herror) (hcode ▸ .error herror')

/-- A route whose credential is in the variable `KEY`, or in one that is not set. -/
def wordedRoute (routeId : String) (credentialRef : CredentialReference) : RouteCandidate :=
  { routeId
    logicalModel := "model"
    providerAccountId := "account"
    provider := "provider"
    credentialRef
    baseUrl := "https://provider"
    upstreamModel := "upstream-model"
    priority := 0 }

/-- Stores that take everything, over a plan. -/
def accepting (plan : List RouteCandidate) :
    (op : ApplicationOp) → Unit → op.Answer OpenAiSseDecoder × Unit
  | .configuration (.authenticate _), s => (.ok true, s)
  | .configuration (.candidates _), s => (.ok plan, s)
  | .configuration (.recordAttempt _), s => (.ok (), s)
  | .configuration (.markRouteSuccess _), s => (.ok (), s)
  | .configuration (.markRouteFailure _ _), s => (.ok (), s)
  | .configuration (.markAccountFailure _ _), s => (.ok (), s)
  | .resolve _, s => (.error "", s)
  | .execute _ _ _, s => (.error sendFailure, s)
  | .newAttemptId, s => (.least, s)
  | .appendAttempt _, s => (.ok (), s)
  | .recordQuotaSnapshot _, s => (.ok (), s)
  | .recordBillingRecord _, s => (.ok (), s)
  | .unixTime, s => (some 0, s)

def limitedBody (message : List Char) : Json :=
  .object [("error", .object
    [("code", .string "rate_limit_exceeded"), ("message", .string (String.ofList message))])]

/-- Surroundings in which the errors of the resolver, of a reply and of a stream have a text. -/
def worded (plan : List RouteCandidate) (text : List Char) : Surroundings Unit where
  call := accepting plan
  secret _ reference :=
    if reference = .envKey then .ok "credential" else .error (String.ofList text)
  sent _ route _ _ :=
    if route.routeId = "limited" then
      .response 429 (some (limitedBody text)) []
    else .response 200 none (quotaErrorSource text)

theorem sameBut_worded {streams : List SourcePoll → List SourcePoll → Prop}
    (plan : List RouteCandidate) {text text' : List Char}
    (h : streams (quotaErrorSource text) (quotaErrorSource text')) :
    (worded plan text).SameBut streams (worded plan text') where
  call := rfl
  secret s reference := by
    unfold worded
    dsimp only
    split
    · exact .resolved _
    · exact .refused _ _
  sent s route request credential := by
    unfold worded
    dsimp only
    split
    · have hstatus : ¬(200 ≤ 429 ∧ 429 < 300) := by decide
      have hcode : bodyCode (some (limitedBody text)) = bodyCode (some (limitedBody text')) := rfl
      exact .failed hstatus hcode _ _
    · rcases hrequest : request.stream with _ | _
      · exact .complete hrequest _ _ _ _
      · exact .streaming hrequest (by decide) _ _ h

/-- An item that is not too long is read. -/
theorem neverFailsForSize_quotaErrorSource {message : List Char}
    (h : (dataItem (quotaErrorText message)).length ≤ maxSseFrameBytes) :
    OpenAiSseDecoder.NeverFailsForSize (chunkCodec parseQuotaError)
      (.new (quotaErrorSource message)) := by
  rw [OpenAiSseDecoder.neverFailsForSize_iff, OpenAiSseDecoder.fits_new]
  refine ⟨?_, fun _ => trivial⟩
  rw [Cut.tail_start, List.length_nil, Nat.zero_add]
  exact h

/-- An item that is too long is not looked at. -/
theorem cutOff_quotaErrorSource {message : List Char}
    (h : maxSseFrameBytes < (dataItem (quotaErrorText message)).length) :
    OpenAiSseDecoder.CutOff (chunkCodec parseQuotaError) [] (.new (quotaErrorSource message)) := by
  refine .guard ?_
  intro clock
  have hiteration : OpenAiSseDecoder.iteration (chunkCodec parseQuotaError) clock
      (.new (quotaErrorSource message)) =
        .oversized { source := [], buffer := [], terminal := false } := by
    unfold OpenAiSseDecoder.iteration
    simp [OpenAiSseDecoder.new, quotaErrorSource, completeFrame, completeFrameFrom, h]
  exact .guard hiteration

/-! ### Runs in other words -/

def goneReference : CredentialReference :=
  ⟨"env:GONE", ['G', 'O', 'N', 'E'], by decide, by decide⟩

def wordedPlan : List RouteCandidate :=
  [wordedRoute "lost" goneReference, wordedRoute "limited" .envKey,
    wordedRoute "streaming" .envKey]

def wordedGateway : Gateway := { usageSpool := true, accounting := true }

def wordedRequest : InferenceRequest := { requestId := "request", model := "model", stream := true }

/-- No value is printed where a stream fails at once. -/
def printNothing (_ : Json) : String := ""

/-- A credential that is not there, a reply with an error, and a stream that fails. -/
theorem words_decide_nothing :
    (worded wordedPlan ['a']).calls parseQuotaError printNothing wordedGateway "key" wordedRequest
        2 () =
      (worded wordedPlan ['b', 'c']).calls parseQuotaError printNothing wordedGateway "key"
        wordedRequest 2 () ∧
    (worded wordedPlan ['a']).response parseQuotaError printNothing wordedGateway "key"
        wordedRequest 2 () =
      (worded wordedPlan ['b', 'c']).response parseQuotaError printNothing wordedGateway "key"
        wordedRequest 2 () := by
  apply upstream_text_decides_nothing
  apply sameBut_worded
  refine .read (sameStream_quotaErrorSource ⟨by decide, by decide⟩ ⟨by decide, by decide⟩) ?_ ?_
  · exact neverFailsForSize_quotaErrorSource (by decide +kernel)
  · exact neverFailsForSize_quotaErrorSource (by decide +kernel)

/-! ### A text that is too long -/

theorem readStream_failed {codec : ChunkCodec OpenAiChatCompletionChunk} {stream : PublicStream}
    {failure : Option Nat → ProviderFailure}
    (h : ∀ clock, (stream.upstream.next codec clock).1 = .ready (some (.failed (failure clock))))
    (events : Nat) :
    readStream codec (events + 1) stream = (ask .unixTime).bind fun clock =>
      (stream.attempt.fail (failure clock)).bind fun _ => .pure [.failed (failure clock)] := by
  rw [readStream]
  congr 1
  funext clock
  have hnext := h clock
  generalize stream.upstream.next codec clock = polled at hnext
  obtain ⟨result, upstream⟩ := polled
  obtain rfl : result = _ := hnext
  rfl

/-- A message that fills a frame by itself. -/
def longMessage : List Char := List.replicate maxSseFrameBytes 'x'

theorem longMessage_tooLong :
    maxSseFrameBytes < (dataItem (quotaErrorText longMessage)).length := by
  have hbytes := Text.length_le_length_encode
    ("data: ".toList ++ quotaErrorText longMessage ++ "\n\n".toList)
  have hlength : longMessage.length = maxSseFrameBytes := List.length_replicate
  unfold dataItem
  simp only [quotaErrorText, List.length_append, hlength] at hbytes ⊢
  have hpositive : 0 < "data: ".toList.length := by decide
  omega

def wordedAttempt : StreamAttempt :=
  { usageSpool := true
    attemptId := .least
    requestId := "request"
    routeId := "streaming"
    providerAccountId := "account" }

/-- The stream of a plan with one route, from its commitment on. -/
def wordedStream (text : List Char) : PublicStream :=
  { upstream := .new (quotaErrorSource text)
    attempt := wordedAttempt
    pendingTerminal := none
    terminalEmitted := false }

/-- The calls up to the commitment. -/
def committing : List ApplicationOp :=
  [.configuration (.authenticate "key"), .configuration (.candidates "model"),
    .resolve .envKey, .execute (wordedRoute "streaming" .envKey) wordedRequest "credential",
    .newAttemptId, .configuration (.recordAttempt (wordedAttempt.record .committed none))]

/-- After the commitment, the calls are those for the category of the failure. -/
theorem calls_worded {text : List Char} {category : ErrorCategory}
    (hnext : ∀ clock, ((wordedStream text).upstream.next (chunkCodec parseQuotaError) clock).1 =
      .ready (some (.failed (sanitizedFailure clock category)))) :
    (worded [wordedRoute "streaming" .envKey] text).calls parseQuotaError printNothing
        wordedGateway "key" wordedRequest 1 () =
      committing ++ .unixTime ::
        ((wordedAttempt.fail (sanitizedFailure (some 0) category)).trace
          (worded [wordedRoute "streaming" .envKey] text).handle ()).map Event.op := by
  have hinfer : (wordedGateway.infer "key" wordedRequest).run
      (worded [wordedRoute "streaming" .envKey] text).handle () =
        (.ok (.streaming (wordedStream text)), ()) := rfl
  rw [Surroundings.calls, respond, Program.trace_bind, hinfer, List.map_append]
  congr 1
  have hsend : (applicationErrorResponse (.ok (.streaming (wordedStream text)))).send
      parseQuotaError printNothing 1 =
        (readStream (chunkCodec parseQuotaError) 1 (wordedStream text)).bind fun sent =>
          .pure
            { status := 200
              headers := [("content-type", "text/event-stream"), ("cache-control", "no-cache"),
                ("x-accel-buffering", "no")]
              body := publicSseStream (fun value => some (printNothing value)) sent } := rfl
  rw [hsend, readStream_failed hnext, Program.trace_bind]
  change List.map Event.op ((_ :: Program.trace _ ((wordedAttempt.fail _).bind _) _) ++ []) = _
  rw [Program.trace_bind, List.append_nil, List.map_cons, List.map_append]
  exact congrArg _ (List.append_nil _)

theorem sanitizedOpenaiError_quotaError (clock : Option Nat) (message : List Char) :
    sanitizedOpenaiError clock (quotaError message) = sanitizedFailure clock .quotaExhausted := by
  have hcode : errorCode (some (quotaError message)) = "insufficient_quota" := by
    have hstring : ((some (quotaError message)).bind fun error => error.get "code").bind
        Json.asStr = some "insufficient_quota" := rfl
    rw [errorCode, hstring, Option.getD_some]
    exact Text.toLower_eq_self (by decide)
  have hcategory : sanitizedCategory "insufficient_quota" = .quotaExhausted := by decide
  rw [sanitizedOpenaiError, hcode, hcategory]

/-- A short error is read. -/
theorem next_wordedStream {text : List Char} (h : Unbroken text)
    (hsize : (dataItem (quotaErrorText text)).length ≤ maxSseFrameBytes) (clock : Option Nat) :
    ((wordedStream text).upstream.next (chunkCodec parseQuotaError) clock).1 =
      .ready (some (.failed (sanitizedFailure clock .quotaExhausted))) := by
  obtain ⟨hframes, herror⟩ := frames_quotaErrorSource h
  have hfits := OpenAiSseDecoder.neverFailsForSize_iff.mp (neverFailsForSize_quotaErrorSource hsize)
  have hopen : (wordedStream text).upstream.terminal = false := rfl
  rw [OpenAiSseDecoder.next_eq_firstOf hopen hfits]
  change OpenAiSseDecoder.firstOf (OpenAiSseDecoder.expected _ _ (.new (quotaErrorSource text))) = _
  rw [OpenAiSseDecoder.expected_new, hframes, outcome, decodeFrame_of_frameError herror,
    sanitizedOpenaiError_quotaError]
  rfl

/-- An error that is too long to be read is recorded as another one: the texts of streams, by
their size, decide which calls are made. -/
theorem long_text_decides :
    (worded [wordedRoute "streaming" .envKey] longMessage).SameBut
        (SameStream (chunkCodec parseQuotaError)) (worded [wordedRoute "streaming" .envKey] ['a']) ∧
      (worded [wordedRoute "streaming" .envKey] longMessage).calls parseQuotaError printNothing
          wordedGateway "key" wordedRequest 1 () ≠
        (worded [wordedRoute "streaming" .envKey] ['a']).calls parseQuotaError printNothing
          wordedGateway "key" wordedRequest 1 () := by
  have hlong : Unbroken longMessage := by
    constructor
    · intro hmem
      cases List.eq_of_mem_replicate hmem
    · intro hmem
      cases List.eq_of_mem_replicate hmem
  have hshort : Unbroken ['a'] := ⟨by decide, by decide⟩
  constructor
  · exact sameBut_worded _ (sameStream_quotaErrorSource hlong hshort)
  · intro hsame
    have hcut := calls_worded fun clock =>
      (cutOff_quotaErrorSource longMessage_tooLong).begins clock
    have hread := calls_worded (next_wordedStream hshort (by decide +kernel))
    rw [hcut, hread, List.append_cancel_left_eq] at hsame
    -- the two logs part at the record of the attempt
    have hrecords : wordedAttempt.record .partialFailed (some "ProviderUnavailable") =
        wordedAttempt.record .partialFailed (some "QuotaExhausted") := by
      injection hsame with _ hmarks
      injection hmarks with hrecord
      injection hrecord with hrecord
      injection hrecord
    have hcategories := congrArg AttemptRecord.failureCategory hrecords
    revert hcategories
    decide

end Inbound

end SmartGateway
