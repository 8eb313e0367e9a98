import SmartGateway.ChatCompletionChunk
import SmartGateway.Domain.Schema

/-! # The schema of the chat-completion chunk

What `OpenAiChatCompletionChunk` and the structures in it declare, and that their readers and
writers follow it.
-/

namespace SmartGateway

open Schema

namespace OpenAiFunctionCallDelta

def schema : Schema :=
  .struct [("name", .optional, .string), ("arguments", .optional, .string)]

theorem described : Described schema ofValue toValue :=
  DescribedFields.struct (by decide) <|
    .optional described_string fun _ =>
    .optional described_string fun _ =>
    .pure rfl

end OpenAiFunctionCallDelta

namespace OpenAiToolCallDelta

def schema : Schema :=
  .struct [
    ("index", .optional, .unsigned UInt32.size),
    ("id", .optional, .string),
    ("type", .optional, .string),
    ("function", .optional, OpenAiFunctionCallDelta.schema)]

theorem described : Described schema ofValue toValue :=
  DescribedFields.struct (by decide) <|
    .optional described_u32 fun _ =>
    .optional described_string fun _ =>
    .optional described_string fun _ =>
    .optional OpenAiFunctionCallDelta.described fun _ =>
    .pure rfl

end OpenAiToolCallDelta

namespace OpenAiChatCompletionDelta

def schema : Schema :=
  .struct [
    ("role", .optional, .string),
    ("content", .optional, .string),
    ("refusal", .optional, .string),
    ("function_call", .optional, OpenAiFunctionCallDelta.schema),
    ("tool_calls", .optional, .list OpenAiToolCallDelta.schema)]

instance : Nonempty OpenAiChatCompletionDelta := ⟨⟨none, none, none, none, none⟩⟩

theorem described : Described schema ofValue toValue :=
  DescribedFields.struct (by decide) <|
    .optional described_string fun _ =>
    .optional described_string fun _ =>
    .optional described_string fun _ =>
    .optional OpenAiFunctionCallDelta.described fun _ =>
    .optional OpenAiToolCallDelta.described.list fun _ =>
    .pure rfl

end OpenAiChatCompletionDelta

/-! ## Log probabilities -/

namespace OpenAiTopLogprob

def schema : Schema :=
  .struct [
    ("token", .required, .string),
    ("logprob", .required, .number),
    ("bytes", .optional, .list (.unsigned UInt8.size))]

theorem described : Described schema ofValue toValue :=
  DescribedFields.struct (by decide) <|
    .required described_string fun _ =>
    .required described_f64 fun _ =>
    .optional described_u8.list fun _ =>
    .pure rfl

end OpenAiTopLogprob

namespace OpenAiTokenLogprob

def schema : Schema :=
  .struct [
    ("token", .required, .string),
    ("logprob", .required, .number),
    ("bytes", .optional, .list (.unsigned UInt8.size)),
    ("top_logprobs", .filled, .list OpenAiTopLogprob.schema)]

theorem described : Described schema ofValue toValue :=
  DescribedFields.struct (by decide) <|
    .required described_string fun _ =>
    .required described_f64 fun _ =>
    .optional described_u8.list fun _ =>
    .filled OpenAiTopLogprob.described fun _ =>
    .pure rfl

end OpenAiTokenLogprob

namespace OpenAiChoiceLogprobs

def schema : Schema :=
  .struct [
    ("content", .optional, .list OpenAiTokenLogprob.schema),
    ("refusal", .optional, .list OpenAiTokenLogprob.schema)]

theorem described : Described schema ofValue toValue :=
  DescribedFields.struct (by decide) <|
    .optional OpenAiTokenLogprob.described.list fun _ =>
    .optional OpenAiTokenLogprob.described.list fun _ =>
    .pure rfl

end OpenAiChoiceLogprobs

namespace OpenAiChatCompletionChoice

def schema : Schema :=
  .struct [
    ("index", .optional, .unsigned UInt32.size),
    ("delta", .required, OpenAiChatCompletionDelta.schema),
    ("logprobs", .optional, OpenAiChoiceLogprobs.schema),
    ("finish_reason", .optional, .string)]

theorem described : Described schema ofValue toValue :=
  DescribedFields.struct (by decide) <|
    .optional described_u32 fun _ =>
    .required OpenAiChatCompletionDelta.described fun _ =>
    .optional OpenAiChoiceLogprobs.described fun _ =>
    .optional described_string fun _ =>
    .pure rfl

end OpenAiChatCompletionChoice

/-! ## Usage -/

namespace OpenAiPromptTokensDetails

def schema : Schema :=
  .struct [
    ("cached_tokens", .optional, .unsigned UInt64.size),
    ("audio_tokens", .optional, .unsigned UInt64.size)]

theorem described : Described schema ofValue toValue :=
  DescribedFields.struct (by decide) <|
    .optional described_u64 fun _ =>
    .optional described_u64 fun _ =>
    .pure rfl

end OpenAiPromptTokensDetails

namespace OpenAiCompletionTokensDetails

def schema : Schema :=
  .struct [
    ("reasoning_tokens", .optional, .unsigned UInt64.size),
    ("audio_tokens", .optional, .unsigned UInt64.size),
    ("accepted_prediction_tokens", .optional, .unsigned UInt64.size),
    ("rejected_prediction_tokens", .optional, .unsigned UInt64.size)]

theorem described : Described schema ofValue toValue :=
  DescribedFields.struct (by decide) <|
    .optional described_u64 fun _ =>
    .optional described_u64 fun _ =>
    .optional described_u64 fun _ =>
    .optional described_u64 fun _ =>
    .pure rfl

end OpenAiCompletionTokensDetails

namespace OpenAiUsage

def schema : Schema :=
  .struct [
    ("prompt_tokens", .optional, .unsigned UInt64.size),
    ("completion_tokens", .optional, .unsigned UInt64.size),
    ("total_tokens", .optional, .unsigned UInt64.size),
    ("prompt_tokens_details", .optional, OpenAiPromptTokensDetails.schema),
    ("completion_tokens_details", .optional, OpenAiCompletionTokensDetails.schema)]

theorem described : Described schema ofValue toValue :=
  DescribedFields.struct (by decide) <|
    .optional described_u64 fun _ =>
    .optional described_u64 fun _ =>
    .optional described_u64 fun _ =>
    .optional OpenAiPromptTokensDetails.described fun _ =>
    .optional OpenAiCompletionTokensDetails.described fun _ =>
    .pure rfl

end OpenAiUsage

/-! ## The chunk -/

namespace OpenAiChatCompletionChunk

def schema : Schema :=
  .struct [
    ("id", .optional, .string),
    ("object", .optional, .string),
    ("created", .optional, .unsigned UInt64.size),
    ("model", .optional, .string),
    ("service_tier", .optional, .string),
    ("system_fingerprint", .optional, .string),
    ("choices", .required, .list OpenAiChatCompletionChoice.schema),
    ("usage", .optional, OpenAiUsage.schema)]

theorem described : Described schema ofValue toValue :=
  DescribedFields.struct (by decide) <|
    .optional described_string fun _ =>
    .optional described_string fun _ =>
    .optional described_u64 fun _ =>
    .optional described_string fun _ =>
    .optional described_string fun _ =>
    .optional described_string fun _ =>
    .required OpenAiChatCompletionChoice.described.list fun _ =>
    .optional OpenAiUsage.described fun _ =>
    .pure rfl

end OpenAiChatCompletionChunk

end SmartGateway
