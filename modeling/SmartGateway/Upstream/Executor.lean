import SmartGateway.Upstream.SseDecoder

/-! # The OpenAI-compatible executor

What `execute` makes of the answer of the HTTP client: no answer at all, or a status with a body
that can be read as JSON or as a stream of bytes.
-/

namespace SmartGateway

namespace Upstream

/-- What sending the request returns; `json` is what reading the body as JSON gives. -/
inductive HttpResult where
  | sendError
  | response (status : Nat) (json : Option Json) (source : List SourcePoll)

/-- `{"error": {"code": "invalid_upstream_error"}}`. -/
def invalidUpstreamError : Json :=
  .object [("error", .object [("code", .string "invalid_upstream_error")])]

/-- `{"error": {"message": "provider returned an invalid JSON response"}}`. -/
def invalidJsonResponse : Json :=
  .object [("error", .object [("message", .string "provider returned an invalid JSON response")])]

/-! ## Usage evidence -/

def addUsageQuantity (billedUnits : List ProviderReportedQuantity) (value : Option Json)
    (kind : ProviderUnitKind) : List ProviderReportedQuantity :=
  match value.bind Json.asU64 with
  | none => billedUnits
  | some unscaled =>
    if unscaled ≤ i64Max then
      billedUnits ++
        [{ unit := { kind, currencyCode := none, customName := none }
           value := { unscaled, scale := 0 } }]
    else billedUnits

/-- Extracts only explicit OpenAI-compatible `usage` quantities. -/
def openaiUsageEvidence (body : Json) : Option ProviderAuthoritativeEvidence := do
  let usage ← body.get "usage"
  let details (name part : String) := (usage.get name).bind fun value => value.get part
  let billedUnits := addUsageQuantity [] (usage.get "prompt_tokens") .inputTokens
  let billedUnits := addUsageQuantity billedUnits
    (details "prompt_tokens_details" "cached_tokens") .cachedInputTokens
  let billedUnits := addUsageQuantity billedUnits (usage.get "completion_tokens") .outputTokens
  let billedUnits := addUsageQuantity billedUnits
    (details "completion_tokens_details" "reasoning_tokens") .reasoningTokens
  let billedUnits := addUsageQuantity billedUnits (usage.get "total_tokens") .totalTokens
  if billedUnits.isEmpty then none
  else
    return {
      quotaSnapshots := []
      billing := some
        { providerRequestId := none
          billedUnits
          charge := none
          source :=
            { sourceId := "openai-compatible.chat-completions.usage"
              evidenceVersion := none } } }

/-! ## Execution -/

/-- The failure of a request that got no answer. -/
def sendFailure : ProviderFailure :=
  { category := .providerUnavailable
    message := clientMessage .providerUnavailable
    status := none
    retryAtUnix := none }

/-- `execute`, with the clock at the time the answer is looked at. -/
def execute (clock : Option Nat) (request : InferenceRequest) :
    HttpResult → Except ProviderFailure (InferenceExecution OpenAiSseDecoder)
  | .sendError => .error sendFailure
  | .response status json source =>
    if ¬(200 ≤ status ∧ status < 300) then
      .error (classify clock status (json.getD invalidUpstreamError))
    else if request.stream then .ok (.streaming (.new source))
    else
      let body := json.getD invalidJsonResponse
      .ok (.complete body (openaiUsageEvidence body))

/-- A failure of `execute` is that of the missing answer, or one the classifier timed. -/
theorem execute_error {clock : Option Nat} {request : InferenceRequest} {sent : HttpResult}
    {failure : ProviderFailure} (h : execute clock request sent = .error failure) :
    (sent = .sendError ∧ failure = sendFailure) ∨ (sent ≠ .sendError ∧ Timed clock failure) := by
  cases sent with
  | sendError =>
    cases h
    exact Or.inl ⟨rfl, rfl⟩
  | response status json source =>
    right
    refine ⟨by simp, ?_⟩
    rw [execute] at h
    split at h
    · cases h
      exact timed_classify _ _ _
    · split at h <;> cases h

/-- Only a request that got no answer leaves a transient failure without a retry time. -/
theorem execute_retry_ne_none_iff {clock : Option Nat} {request : InferenceRequest}
    {sent : HttpResult} {failure : ProviderFailure}
    (h : execute clock request sent = .error failure)
    (htransient : failure.category.isTransient = true) :
    failure.retryAtUnix ≠ none ↔ sent ≠ .sendError := by
  rcases execute_error h with ⟨rfl, rfl⟩ | ⟨hsent, htimed⟩
  · simp [sendFailure]
  · simp [hsent, htimed.retry_ne_none htransient]

end Upstream

end SmartGateway
