import SmartGateway.ChunkSchema
import SmartGateway.Inbound.PublicStream

/-! # The allowlist of the stream

A frame of an upstream stream is read through the schema of the chunk. Two frames that agree on
what the schema declares are decoded alike, and a chunk that is written again has nothing but
declared members, with the values of the frame.
-/

namespace SmartGateway

namespace Upstream

variable {Chunk : Type}

/-! ## The value in a frame -/

/-- The JSON value in the data of a frame. -/
def frameJson (parse : String → Option Json) (frame : Bytes) : Option Json :=
  match String.fromUTF8? frame.toByteArray with
  | none => none
  | some text =>
    match dataLines text.toList with
    | [] => none
    | first :: rest =>
      if Text.trim (List.intercalate ['\n'] (first :: rest)) = "[DONE]".toList then none
      else parse (String.ofList (List.intercalate ['\n'] (first :: rest)))

/-- The event an object stands for. -/
def decodeObject (codec : ChunkCodec Chunk) (clock : Option Nat) (members : List (String × Json)) :
    Except ErrorCategory (Option (InferenceStreamEvent Chunk)) :=
  match members.lookup "error" with
  | some error => .ok (some (.failed (sanitizedOpenaiError clock error)))
  | none =>
    match codec.chunk (.object members) with
    | none => .error .providerUnavailable
    | some chunk => .ok (some (.frame chunk))

theorem decodeFrame_of_frameJson {codec : ChunkCodec Chunk} {frame : Bytes}
    {members : List (String × Json)} (h : frameJson codec.parse frame = some (.object members))
    (clock : Option Nat) : decodeFrame codec clock frame = decodeObject codec clock members := by
  rw [frameJson] at h
  split at h
  · cases h
  next text htext =>
  split at h
  · cases h
  next first rest hlines =>
  obtain ⟨hdone, hparse⟩ := Option.ite_none_left_eq_some.mp h
  have hdata : decodeFrame codec clock frame =
      decodeData codec clock (List.intercalate ['\n'] (first :: rest)) := by
    simp only [decodeFrame, htext, hlines]
  rw [hdata, decodeData, if_neg hdone, hparse]
  rfl

/-- A frame that stands for a chunk holds an object without an error, which is read as the
chunk. -/
theorem frameJson_of_chunk {codec : ChunkCodec Chunk} {clock : Option Nat} {frame : Bytes}
    {chunk : Chunk} (h : decodeFrame codec clock frame = .ok (some (.frame chunk))) :
    ∃ members, frameJson codec.parse frame = some (.object members) ∧
      members.lookup "error" = none ∧ codec.chunk (.object members) = some chunk := by
  -- each check that fails gives something other than a chunk
  rw [decodeFrame] at h
  split at h
  · cases h
  next text htext =>
  split at h
  · cases h
  next first rest hlines =>
  rw [decodeData] at h
  split at h
  · cases h
  next hdone =>
  split at h
  · cases h
  next value hparse =>
  split at h
  · cases h
  next members hobject =>
  split at h
  · cases h
  next herror =>
  split at h
  · cases h
  next chunk' hchunk =>
  cases h
  have hvalue : value = .object members := by
    cases value with
    | object members' => exact congrArg Json.object (Option.some.inj hobject)
    | _ => cases hobject
  subst hvalue
  refine ⟨members, ?_, herror, hchunk⟩
  rw [frameJson, htext]
  dsimp only
  rw [hlines]
  dsimp only
  rw [if_neg hdone, hparse]

end Upstream

namespace Inbound

open Upstream

variable {parse : String → Option Json}

/-- Frames that agree on the declared members are decoded alike, and what is written of a chunk
is the projection of its frame to them. -/
theorem allowlist (parse : String → Option Json) (clock : Option Nat) :
    (∀ frame frame' xs ys, frameJson parse frame = some (.object xs) →
      frameJson parse frame' = some (.object ys) →
      xs.lookup "error" = none → ys.lookup "error" = none →
      OpenAiChatCompletionChunk.schema.Agrees (.object xs) (.object ys) →
      decodeFrame (chunkCodec parse) clock frame = decodeFrame (chunkCodec parse) clock frame') ∧
    ∀ frame chunk, decodeFrame (chunkCodec parse) clock frame = .ok (some (.frame chunk)) →
      ∃ members, frameJson parse frame = some (.object members) ∧
        OpenAiChatCompletionChunk.schema.Projects (.object members) chunk.toValue := by
  constructor
  · intro frame frame' xs ys hxs hys herror herror' hagree
    have hread : OpenAiChatCompletionChunk.ofValue (.object xs) =
        OpenAiChatCompletionChunk.ofValue (.object ys) :=
      OpenAiChatCompletionChunk.described.same _ _ hagree
    have hx : decodeFrame (chunkCodec parse) clock frame = decodeObject (chunkCodec parse) clock xs :=
      decodeFrame_of_frameJson hxs clock
    have hy : decodeFrame (chunkCodec parse) clock frame' = decodeObject (chunkCodec parse) clock ys :=
      decodeFrame_of_frameJson hys clock
    rw [hx, hy]
    simp only [decodeObject, herror, herror', chunkCodec, hread]
  · intro frame chunk hframe
    obtain ⟨members, hjson, -, hread⟩ := frameJson_of_chunk hframe
    exact ⟨members, hjson, OpenAiChatCompletionChunk.described.projects _ _ hread⟩

/-! ## A frame with diagnostics in it -/

/-- The frame of some data. -/
def dataFrame (data : String) : Bytes := Text.encode ("data: ".toList ++ data.toList ++ ['\n'])

theorem frameJson_dataFrame {data : String} (hnewline : '\n' ∉ data.toList)
    (hreturn : '\r' ∉ data.toList) (hstart : data.toList.head? = some '\x7b') :
    frameJson parse (dataFrame data) = parse data := by
  rw [frameJson, dataFrame, Text.fromUTF8_encode]
  simp only [String.toList_ofList, dataLines_item hnewline hreturn, List.intercalate_singleton,
    if_neg (trim_ne_done hstart), String.ofList_toList]

def plainText : String := "\x7b\"choices\":[\x7b\"delta\":\x7b\"content\":\"hi\"\x7d\x7d]\x7d"

def plainMembers : List (String × Json) :=
  [("choices", .array [.object [("delta", .object [("content", .string "hi")])]])]

/-- The same with a diagnostic in the delta. -/
def leakyText : String :=
  "\x7b\"choices\":[\x7b\"delta\":\x7b\"content\":\"hi\",\"diagnostic\":\"sk-live\"\x7d\x7d]\x7d"

def leakyMembers : List (String × Json) :=
  [("choices", .array [.object [("delta",
    .object [("content", .string "hi"), ("diagnostic", .string "sk-live")])]])]

/-- The parser at the two texts. -/
def parseLeaky (text : String) : Option Json :=
  if text = plainText then some (.object plainMembers)
  else if text = leakyText then some (.object leakyMembers)
  else none

theorem agrees_leaky :
    OpenAiChatCompletionChunk.schema.Agrees (.object plainMembers) (.object leakyMembers) := by
  have hdelta : OpenAiChatCompletionDelta.schema.Agrees (.object [("content", .string "hi")])
      (.object ([("content", .string "hi")] ++ [("diagnostic", .string "sk-live")])) :=
    Schema.agrees_append (by simp)
  have hchoice : OpenAiChatCompletionChoice.schema.Agrees
      (.object [("delta", .object [("content", .string "hi")])])
      (.object [("delta", .object [("content", .string "hi"), ("diagnostic", .string "sk-live")])]) :=
    .object <|
      .field (.missing _ _) <| .field (.value hdelta) <| .field (.missing _ _) <|
      .field (.missing _ _) <| .done Iff.rfl
  refine .object <|
    .field (.missing _ _) <| .field (.missing _ _) <| .field (.missing _ _) <|
    .field (.missing _ _) <| .field (.missing _ _) <| .field (.missing _ _) <|
    .field (.value (.list rfl ?_)) <| .field (.missing _ _) <| .done Iff.rfl
  intro x y hmem
  obtain ⟨rfl, rfl⟩ : x = _ ∧ y = _ := Prod.mk.inj (List.mem_singleton.mp hmem)
  exact hchoice

theorem leaky_decoded_alike :
    decodeFrame (chunkCodec parseLeaky) none (dataFrame plainText) =
      decodeFrame (chunkCodec parseLeaky) none (dataFrame leakyText) := by
  have hplain : frameJson parseLeaky (dataFrame plainText) = some (.object plainMembers) := by
    rw [frameJson_dataFrame (by decide +kernel) (by decide +kernel) (by decide +kernel)]
    exact if_pos rfl
  have hleaky : frameJson parseLeaky (dataFrame leakyText) = some (.object leakyMembers) := by
    rw [frameJson_dataFrame (by decide +kernel) (by decide +kernel) (by decide +kernel), parseLeaky,
      if_neg (by decide +kernel), if_pos rfl]
  exact (allowlist parseLeaky none).1 _ _ _ _ hplain hleaky rfl rfl agrees_leaky

end Inbound

end SmartGateway
