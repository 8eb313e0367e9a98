import SmartGateway.Domain.JsonStruct

/-! # Chat-completion chunks

The canonical, public OpenAI chat-completion chunk and the structures in it, with their derived
writers and readers. A reader ignores every field that is not declared here.
-/

namespace SmartGateway

open StructReader

structure OpenAiFunctionCallDelta where
  name : Option String
  arguments : Option String
deriving DecidableEq

namespace OpenAiFunctionCallDelta

def toValue (call : OpenAiFunctionCallDelta) : Json :=
  .object <|
    optionalMember "name" .string call.name ++
    optionalMember "arguments" .string call.arguments

def ofValue : Json → Option OpenAiFunctionCallDelta :=
  fromValue do
    let name ← optional "name" Json.asStr
    let arguments ← optional "arguments" Json.asStr
    return { name, arguments }

theorem reads (call : OpenAiFunctionCallDelta) : Reads toValue ofValue call :=
  ReadsFields.reads <|
    .optional (by simp [List.lookup_append]) (fun v _ => reads_string v) <|
    .optional (by simp [List.lookup_append]) (fun v _ => reads_string v) <|
    .pure _ _

end OpenAiFunctionCallDelta

structure OpenAiToolCallDelta where
  index : Option UInt32
  id : Option String
  kind : Option String
  function : Option OpenAiFunctionCallDelta
deriving DecidableEq

namespace OpenAiToolCallDelta

def toValue (call : OpenAiToolCallDelta) : Json :=
  .object <|
    optionalMember "index" .ofU32 call.index ++
    optionalMember "id" .string call.id ++
    optionalMember "type" .string call.kind ++
    optionalMember "function" OpenAiFunctionCallDelta.toValue call.function

def ofValue : Json → Option OpenAiToolCallDelta :=
  fromValue do
    let index ← optional "index" Json.asU32
    let id ← optional "id" Json.asStr
    let kind ← optional "type" Json.asStr
    let function ← optional "function" OpenAiFunctionCallDelta.ofValue
    return { index, id, kind, function }

theorem reads (call : OpenAiToolCallDelta) : Reads toValue ofValue call :=
  ReadsFields.reads <|
    .optional (by simp [List.lookup_append]) (fun v _ => reads_u32 v) <|
    .optional (by simp [List.lookup_append]) (fun v _ => reads_string v) <|
    .optional (by simp [List.lookup_append]) (fun v _ => reads_string v) <|
    .optional (by simp [List.lookup_append]) (fun v _ => v.reads) <|
    .pure _ _

end OpenAiToolCallDelta

structure OpenAiChatCompletionDelta where
  role : Option String
  content : Option String
  refusal : Option String
  functionCall : Option OpenAiFunctionCallDelta
  toolCalls : Option (List OpenAiToolCallDelta)
deriving DecidableEq

namespace OpenAiChatCompletionDelta

def toValue (delta : OpenAiChatCompletionDelta) : Json :=
  .object <|
    optionalMember "role" .string delta.role ++
    optionalMember "content" .string delta.content ++
    optionalMember "refusal" .string delta.refusal ++
    optionalMember "function_call" OpenAiFunctionCallDelta.toValue delta.functionCall ++
    optionalMember "tool_calls" (.ofVec OpenAiToolCallDelta.toValue) delta.toolCalls

def ofValue : Json → Option OpenAiChatCompletionDelta :=
  fromValue do
    let role ← optional "role" Json.asStr
    let content ← optional "content" Json.asStr
    let refusal ← optional "refusal" Json.asStr
    let functionCall ← optional "function_call" OpenAiFunctionCallDelta.ofValue
    let toolCalls ← optional "tool_calls" (Json.asVec OpenAiToolCallDelta.ofValue)
    return { role, content, refusal, functionCall, toolCalls }

theorem reads (delta : OpenAiChatCompletionDelta) : Reads toValue ofValue delta :=
  ReadsFields.reads <|
    .optional (by simp [List.lookup_append]) (fun v _ => reads_string v) <|
    .optional (by simp [List.lookup_append]) (fun v _ => reads_string v) <|
    .optional (by simp [List.lookup_append]) (fun v _ => reads_string v) <|
    .optional (by simp [List.lookup_append]) (fun v _ => v.reads) <|
    .optional (by simp [List.lookup_append]) (fun _ _ => reads_vec fun v _ => v.reads) <|
    .pure _ _

end OpenAiChatCompletionDelta

/-! ## Log probabilities -/

structure OpenAiTopLogprob where
  token : String
  logprob : F64
  bytes : Option (List UInt8)
deriving DecidableEq

namespace OpenAiTopLogprob

def toValue (top : OpenAiTopLogprob) : Json :=
  .object <|
    member "token" (.string top.token) ++
    member "logprob" (.ofF64 top.logprob) ++
    optionalMember "bytes" (.ofVec .ofU8) top.bytes

def ofValue : Json → Option OpenAiTopLogprob :=
  fromValue do
    let token ← required "token" Json.asStr
    let logprob ← required "logprob" Json.asF64
    let bytes ← optional "bytes" (Json.asVec Json.asU8)
    return { token, logprob, bytes }

/-- The numbers are finite, as JSON numbers are. -/
def IsFinite (top : OpenAiTopLogprob) : Prop := top.logprob.IsFinite

theorem IsFinite.reads {top : OpenAiTopLogprob} (h : top.IsFinite) :
    Reads toValue ofValue top :=
  ReadsFields.reads <|
    .required (by simp [List.lookup_append]) (reads_string _) <|
    .required (by simp [List.lookup_append]) (reads_f64 h) <|
    .optional (by simp [List.lookup_append]) (fun _ _ => reads_vec fun v _ => reads_u8 v) <|
    .pure _ _

end OpenAiTopLogprob

structure OpenAiTokenLogprob where
  token : String
  logprob : F64
  bytes : Option (List UInt8)
  topLogprobs : List OpenAiTopLogprob
deriving DecidableEq

namespace OpenAiTokenLogprob

def toValue (logprob : OpenAiTokenLogprob) : Json :=
  .object <|
    member "token" (.string logprob.token) ++
    member "logprob" (.ofF64 logprob.logprob) ++
    optionalMember "bytes" (.ofVec .ofU8) logprob.bytes ++
    filledMember "top_logprobs" OpenAiTopLogprob.toValue logprob.topLogprobs

def ofValue : Json → Option OpenAiTokenLogprob :=
  fromValue do
    let token ← required "token" Json.asStr
    let logprob ← required "logprob" Json.asF64
    let bytes ← optional "bytes" (Json.asVec Json.asU8)
    let topLogprobs ← defaulted "top_logprobs" [] (Json.asVec OpenAiTopLogprob.ofValue)
    return { token, logprob, bytes, topLogprobs }

def IsFinite (logprob : OpenAiTokenLogprob) : Prop :=
  logprob.logprob.IsFinite ∧ ∀ top ∈ logprob.topLogprobs, top.IsFinite

theorem IsFinite.reads {logprob : OpenAiTokenLogprob} (h : logprob.IsFinite) :
    Reads toValue ofValue logprob :=
  ReadsFields.reads <|
    .required (by simp [List.lookup_append]) (reads_string _) <|
    .required (by simp [List.lookup_append]) (reads_f64 h.1) <|
    .optional (by simp [List.lookup_append]) (fun _ _ => reads_vec fun v _ => reads_u8 v) <|
    .defaulted (by simp [List.lookup_append]) (fun v hv => (h.2 v hv).reads) <|
    .pure _ _

end OpenAiTokenLogprob

structure OpenAiChoiceLogprobs where
  content : Option (List OpenAiTokenLogprob)
  refusal : Option (List OpenAiTokenLogprob)
deriving DecidableEq

namespace OpenAiChoiceLogprobs

def toValue (logprobs : OpenAiChoiceLogprobs) : Json :=
  .object <|
    optionalMember "content" (.ofVec OpenAiTokenLogprob.toValue) logprobs.content ++
    optionalMember "refusal" (.ofVec OpenAiTokenLogprob.toValue) logprobs.refusal

def ofValue : Json → Option OpenAiChoiceLogprobs :=
  fromValue do
    let content ← optional "content" (Json.asVec OpenAiTokenLogprob.ofValue)
    let refusal ← optional "refusal" (Json.asVec OpenAiTokenLogprob.ofValue)
    return { content, refusal }

def IsFinite (logprobs : OpenAiChoiceLogprobs) : Prop :=
  (∀ content ∈ logprobs.content, ∀ logprob ∈ content, logprob.IsFinite) ∧
    ∀ refusal ∈ logprobs.refusal, ∀ logprob ∈ refusal, logprob.IsFinite

theorem IsFinite.reads {logprobs : OpenAiChoiceLogprobs} (h : logprobs.IsFinite) :
    Reads toValue ofValue logprobs :=
  ReadsFields.reads <|
    .optional (by simp [List.lookup_append])
      (fun v hv => reads_vec fun l hl => (h.1 v hv l hl).reads) <|
    .optional (by simp [List.lookup_append])
      (fun v hv => reads_vec fun l hl => (h.2 v hv l hl).reads) <|
    .pure _ _

end OpenAiChoiceLogprobs

structure OpenAiChatCompletionChoice where
  index : Option UInt32
  delta : OpenAiChatCompletionDelta
  logprobs : Option OpenAiChoiceLogprobs
  finishReason : Option String
deriving DecidableEq

namespace OpenAiChatCompletionChoice

def toValue (choice : OpenAiChatCompletionChoice) : Json :=
  .object <|
    optionalMember "index" .ofU32 choice.index ++
    member "delta" choice.delta.toValue ++
    optionalMember "logprobs" OpenAiChoiceLogprobs.toValue choice.logprobs ++
    optionalMember "finish_reason" .string choice.finishReason

def ofValue : Json → Option OpenAiChatCompletionChoice :=
  fromValue do
    let index ← optional "index" Json.asU32
    let delta ← required "delta" OpenAiChatCompletionDelta.ofValue
    let logprobs ← optional "logprobs" OpenAiChoiceLogprobs.ofValue
    let finishReason ← optional "finish_reason" Json.asStr
    return { index, delta, logprobs, finishReason }

def IsFinite (choice : OpenAiChatCompletionChoice) : Prop :=
  ∀ logprobs ∈ choice.logprobs, logprobs.IsFinite

theorem IsFinite.reads {choice : OpenAiChatCompletionChoice} (h : choice.IsFinite) :
    Reads toValue ofValue choice :=
  ReadsFields.reads <|
    .optional (by simp [List.lookup_append]) (fun v _ => reads_u32 v) <|
    .required (by simp [List.lookup_append]) (choice.delta.reads) <|
    .optional (by simp [List.lookup_append]) (fun v hv => (h v hv).reads) <|
    .optional (by simp [List.lookup_append]) (fun v _ => reads_string v) <|
    .pure _ _

end OpenAiChatCompletionChoice

/-! ## Usage -/

structure OpenAiPromptTokensDetails where
  cachedTokens : Option UInt64
  audioTokens : Option UInt64
deriving DecidableEq

namespace OpenAiPromptTokensDetails

def toValue (details : OpenAiPromptTokensDetails) : Json :=
  .object <|
    optionalMember "cached_tokens" .ofU64 details.cachedTokens ++
    optionalMember "audio_tokens" .ofU64 details.audioTokens

def ofValue : Json → Option OpenAiPromptTokensDetails :=
  fromValue do
    let cachedTokens ← optional "cached_tokens" Json.asUnsigned
    let audioTokens ← optional "audio_tokens" Json.asUnsigned
    return { cachedTokens, audioTokens }

theorem reads (details : OpenAiPromptTokensDetails) : Reads toValue ofValue details :=
  ReadsFields.reads <|
    .optional (by simp [List.lookup_append]) (fun v _ => reads_u64 v) <|
    .optional (by simp [List.lookup_append]) (fun v _ => reads_u64 v) <|
    .pure _ _

end OpenAiPromptTokensDetails

structure OpenAiCompletionTokensDetails where
  reasoningTokens : Option UInt64
  audioTokens : Option UInt64
  acceptedPredictionTokens : Option UInt64
  rejectedPredictionTokens : Option UInt64
deriving DecidableEq

namespace OpenAiCompletionTokensDetails

def toValue (details : OpenAiCompletionTokensDetails) : Json :=
  .object <|
    optionalMember "reasoning_tokens" .ofU64 details.reasoningTokens ++
    optionalMember "audio_tokens" .ofU64 details.audioTokens ++
    optionalMember "accepted_prediction_tokens" .ofU64 details.acceptedPredictionTokens ++
    optionalMember "rejected_prediction_tokens" .ofU64 details.rejectedPredictionTokens

def ofValue : Json → Option OpenAiCompletionTokensDetails :=
  fromValue do
    let reasoningTokens ← optional "reasoning_tokens" Json.asUnsigned
    let audioTokens ← optional "audio_tokens" Json.asUnsigned
    let acceptedPredictionTokens ← optional "accepted_prediction_tokens" Json.asUnsigned
    let rejectedPredictionTokens ← optional "rejected_prediction_tokens" Json.asUnsigned
    return { reasoningTokens, audioTokens, acceptedPredictionTokens, rejectedPredictionTokens }

theorem reads (details : OpenAiCompletionTokensDetails) : Reads toValue ofValue details :=
  ReadsFields.reads <|
    .optional (by simp [List.lookup_append]) (fun v _ => reads_u64 v) <|
    .optional (by simp [List.lookup_append]) (fun v _ => reads_u64 v) <|
    .optional (by simp [List.lookup_append]) (fun v _ => reads_u64 v) <|
    .optional (by simp [List.lookup_append]) (fun v _ => reads_u64 v) <|
    .pure _ _

end OpenAiCompletionTokensDetails

structure OpenAiUsage where
  promptTokens : Option UInt64
  completionTokens : Option UInt64
  totalTokens : Option UInt64
  promptTokensDetails : Option OpenAiPromptTokensDetails
  completionTokensDetails : Option OpenAiCompletionTokensDetails
deriving DecidableEq

namespace OpenAiUsage

def toValue (usage : OpenAiUsage) : Json :=
  .object <|
    optionalMember "prompt_tokens" .ofU64 usage.promptTokens ++
    optionalMember "completion_tokens" .ofU64 usage.completionTokens ++
    optionalMember "total_tokens" .ofU64 usage.totalTokens ++
    optionalMember "prompt_tokens_details" OpenAiPromptTokensDetails.toValue
      usage.promptTokensDetails ++
    optionalMember "completion_tokens_details" OpenAiCompletionTokensDetails.toValue
      usage.completionTokensDetails

def ofValue : Json → Option OpenAiUsage :=
  fromValue do
    let promptTokens ← optional "prompt_tokens" Json.asUnsigned
    let completionTokens ← optional "completion_tokens" Json.asUnsigned
    let totalTokens ← optional "total_tokens" Json.asUnsigned
    let promptTokensDetails ← optional "prompt_tokens_details" OpenAiPromptTokensDetails.ofValue
    let completionTokensDetails ←
      optional "completion_tokens_details" OpenAiCompletionTokensDetails.ofValue
    return {
      promptTokens, completionTokens, totalTokens, promptTokensDetails,
      completionTokensDetails }

theorem reads (usage : OpenAiUsage) : Reads toValue ofValue usage :=
  ReadsFields.reads <|
    .optional (by simp [List.lookup_append]) (fun v _ => reads_u64 v) <|
    .optional (by simp [List.lookup_append]) (fun v _ => reads_u64 v) <|
    .optional (by simp [List.lookup_append]) (fun v _ => reads_u64 v) <|
    .optional (by simp [List.lookup_append]) (fun v _ => v.reads) <|
    .optional (by simp [List.lookup_append]) (fun v _ => v.reads) <|
    .pure _ _

end OpenAiUsage

/-! ## The chunk -/

structure OpenAiChatCompletionChunk where
  id : Option String
  object : Option String
  created : Option UInt64
  model : Option String
  serviceTier : Option String
  systemFingerprint : Option String
  choices : List OpenAiChatCompletionChoice
  usage : Option OpenAiUsage
deriving DecidableEq

namespace OpenAiChatCompletionChunk

def toValue (chunk : OpenAiChatCompletionChunk) : Json :=
  .object <|
    optionalMember "id" .string chunk.id ++
    optionalMember "object" .string chunk.object ++
    optionalMember "created" .ofU64 chunk.created ++
    optionalMember "model" .string chunk.model ++
    optionalMember "service_tier" .string chunk.serviceTier ++
    optionalMember "system_fingerprint" .string chunk.systemFingerprint ++
    member "choices" (.ofVec OpenAiChatCompletionChoice.toValue chunk.choices) ++
    optionalMember "usage" OpenAiUsage.toValue chunk.usage

def ofValue : Json → Option OpenAiChatCompletionChunk :=
  fromValue do
    let id ← optional "id" Json.asStr
    let object ← optional "object" Json.asStr
    let created ← optional "created" Json.asUnsigned
    let model ← optional "model" Json.asStr
    let serviceTier ← optional "service_tier" Json.asStr
    let systemFingerprint ← optional "system_fingerprint" Json.asStr
    let choices ← required "choices" (Json.asVec OpenAiChatCompletionChoice.ofValue)
    let usage ← optional "usage" OpenAiUsage.ofValue
    return {
      id, object, created, model, serviceTier, systemFingerprint, choices, usage }

def IsFinite (chunk : OpenAiChatCompletionChunk) : Prop :=
  ∀ choice ∈ chunk.choices, choice.IsFinite

theorem IsFinite.reads {chunk : OpenAiChatCompletionChunk} (h : chunk.IsFinite) :
    Reads toValue ofValue chunk :=
  ReadsFields.reads <|
    .optional (by simp [List.lookup_append]) (fun v _ => reads_string v) <|
    .optional (by simp [List.lookup_append]) (fun v _ => reads_string v) <|
    .optional (by simp [List.lookup_append]) (fun v _ => reads_u64 v) <|
    .optional (by simp [List.lookup_append]) (fun v _ => reads_string v) <|
    .optional (by simp [List.lookup_append]) (fun v _ => reads_string v) <|
    .optional (by simp [List.lookup_append]) (fun v _ => reads_string v) <|
    .required (by simp [List.lookup_append]) (reads_vec fun v hv => (h v hv).reads) <|
    .optional (by simp [List.lookup_append]) (fun v _ => v.reads) <|
    .pure _ _

/-- A chunk is an object that no reader takes for an error. -/
theorem lookup_error (chunk : OpenAiChatCompletionChunk) :
    ∃ members, chunk.toValue = .object members ∧ members.lookup "error" = none :=
  ⟨_, rfl, by simp [List.lookup_append]⟩

end OpenAiChatCompletionChunk

end SmartGateway
