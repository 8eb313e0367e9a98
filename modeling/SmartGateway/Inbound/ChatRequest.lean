import SmartGateway.Inference
import SmartGateway.Domain.MessageContent

/-! # From the request body to the upstream payload

A body is read into a wire structure, its contents are checked, and the payload is written from
what was read. The wire structures pass over members they do not know, and they are read from
arrays too, so what reaches the upstream model agrees with the body only if the body has no
other member (`encoded_agrees_iff`).
-/

namespace SmartGateway

open Json (Agree SameMember Absent OnlyMembers updateMember)
open OrderedRows (ok_of_bind forall₂_of_mapM)
open StructReader

/-! ## The wire structures -/

namespace Json

def asBool : Json → Option Bool
  | .bool value => some value
  | _ => none

end Json

structure WireChatMessage where
  role : String
  content : Json

namespace WireChatMessage

def reader : StructReader WireChatMessage := do
  let role ← required "role" Json.asStr
  let content ← required "content" some
  return { role, content }

def ofValue : Json → Option WireChatMessage := fromValue reader

end WireChatMessage

structure WireChatCompletionRequest where
  model : String
  messages : List WireChatMessage
  stream : Bool
  temperature : Option F64
  maxTokens : Option UInt32

namespace WireChatCompletionRequest

def reader : StructReader WireChatCompletionRequest := do
  let model ← required "model" Json.asStr
  let messages ← required "messages" (Json.asVec WireChatMessage.ofValue)
  let stream ← defaulted "stream" false Json.asBool
  let temperature ← optional "temperature" Json.asF64
  let maxTokens ← optional "max_tokens" Json.asU32
  return { model, messages, stream, temperature, maxTokens }

def ofValue : Json → Option WireChatCompletionRequest := fromValue reader

end WireChatCompletionRequest

/-! ## Decoding -/

structure RequestError where
  code : String
  message : String
deriving DecidableEq

structure ChatCompletionRequest where
  model : String
  messages : List ChatMessage
  stream : Bool
  temperature : Option F64
  maxTokens : Option UInt32

def contentError : MessageContentError → RequestError
  | .unsupportedPartType =>
    { code := "unsupported_content_part"
      message := "Message content contains an unsupported part type" }
  | .malformedContent | .malformedPart =>
    { code := "invalid_content_part"
      message := "Message content contains a malformed part" }

/-- The message of a wire message, if its content is accepted. -/
def WireChatMessage.decode (message : WireChatMessage) : Except RequestError ChatMessage :=
  match MessageContent.tryFromJson message.content with
  | .error error => .error (contentError error)
  | .ok content => .ok { role := message.role, content }

def decodeRequest (value : Json) : Except RequestError ChatCompletionRequest :=
  match WireChatCompletionRequest.ofValue value with
  | none =>
    .error
      { code := "invalid_request_error"
        message := "Request body does not match the chat completions schema" }
  | some request => do
    let messages ← request.messages.mapM WireChatMessage.decode
    return {
      model := request.model
      messages
      stream := request.stream
      temperature := request.temperature
      maxTokens := request.maxTokens }

/-! ## Encoding -/

/-- The whole `InferenceRequest`: with the fields only the payload is written from. -/
structure ChatInferenceRequest extends InferenceRequest where
  messages : List ChatMessage
  temperature : Option F64
  maxTokens : Option UInt32

/-- The request `chat_completion` makes of a decoded body. -/
def ChatCompletionRequest.toInferenceRequest (input : ChatCompletionRequest)
    (requestId : String) : ChatInferenceRequest where
  requestId := requestId
  model := input.model
  messages := input.messages
  stream := input.stream
  temperature := input.temperature
  maxTokens := input.maxTokens

def encodeMessage (message : ChatMessage) : Json :=
  .object (member "role" (.string message.role) ++ member "content" message.content.toValue)

/-- The members of the payload. -/
def encodedMembers (request : ChatInferenceRequest) (upstreamModel : String) :
    List (String × Json) :=
  member "model" (.string upstreamModel) ++
  member "messages" (.ofVec encodeMessage request.messages) ++
  member "stream" (.bool request.stream) ++
  optionalMember "temperature" .ofF64 request.temperature ++
  optionalMember "max_tokens" .ofU32 request.maxTokens

def encodeChatCompletion (request : ChatInferenceRequest) (upstreamModel : String) : Json :=
  .object (encodedMembers request upstreamModel)

/-! ## What should be sent -/

/-- A number in the spelling of a float. -/
def respell : Json → Json
  | .number value => .ofF64 (.ofNumber value)
  | value => value

/-- The members with the model replaced, the stream flag defaulted and the temperature spelled
as a float. -/
def forwardedMembers (upstreamModel : String) (members : List (String × Json)) :
    List (String × Json) :=
  updateMember "model" (fun _ => some (.string upstreamModel)) <|
  updateMember "stream" (fun stream => some (stream.getD (.bool false))) <|
  updateMember "temperature" (Option.map respell) members

def forwardedBody (upstreamModel : String) : Json → Json
  | .object members => .object (forwardedMembers upstreamModel members)
  | body => body

/-- An object without members that the gateway passes over, and so is each of its messages. -/
def Forwardable (body : Json) : Prop :=
  ∃ members, body = .object members ∧
    OnlyMembers ["model", "messages", "stream", "temperature", "max_tokens"] members ∧
    ∀ items, members.lookup "messages" = some (.array items) →
      ∀ item ∈ items, ∃ fields, item = .object fields ∧ OnlyMembers ["role", "content"] fields

/-! ## Messages -/

namespace WireChatMessage

theorem steady_reader : Steady reader :=
  steady_field fun _ => steady_field fun _ => steady_pure _

theorem lookup_of_ofValue {fields : List (String × Json)} {message : WireChatMessage}
    (h : ofValue (.object fields) = some message) :
    fields.lookup "role" = some (.string message.role) ∧
      fields.lookup "content" = some message.content := by
  have hfields := (fromValue_object steady_reader).mp h
  obtain ⟨role, hrole, hfields⟩ := readsFields_field.mp hfields
  obtain ⟨content, hcontent, hfields⟩ := readsFields_field.mp hfields
  rw [← readsFields_pure.mp hfields]
  obtain ⟨roleJson, hroleJson, hread⟩ := Field.required_ofMember.mp hrole
  obtain ⟨contentJson, hcontentJson, hsame⟩ := Field.required_ofMember.mp hcontent
  cases hsame
  rw [asStr_eq_some.mp hread] at hroleJson
  exact ⟨hroleJson, hcontentJson⟩

theorem decode_eq_ok {wire : WireChatMessage} {message : ChatMessage}
    (h : wire.decode = .ok message) :
    message.role = wire.role ∧ MessageContent.tryFromJson wire.content = .ok message.content := by
  unfold decode at h
  split at h
  · cases h
  · next content hcontent =>
    cases h
    exact ⟨rfl, hcontent⟩

end WireChatMessage

/-- What is sent for a message agrees with it exactly when it is an object without other
members. -/
theorem encodeMessage_agrees_iff {item : Json} {wire : WireChatMessage} {message : ChatMessage}
    (hread : WireChatMessage.ofValue item = some wire) (hdecode : wire.decode = .ok message) :
    Agree (encodeMessage message) item ↔
      ∃ fields, item = .object fields ∧ OnlyMembers ["role", "content"] fields := by
  constructor
  · intro hagree
    obtain ⟨fields, rfl⟩ := hagree.of_object
    refine ⟨fields, rfl, ?_⟩
    intro name hname
    have hmember := Json.agree_object.mp hagree name
    rw [List.mem_cons, List.mem_singleton, not_or] at hname
    rw [List.lookup_append, lookup_member_ne _ hname.1, lookup_member_ne _ hname.2] at hmember
    exact hmember.absent_of_none
  · rintro ⟨fields, rfl, honly⟩
    obtain ⟨hrole, hcontent⟩ := WireChatMessage.lookup_of_ofValue hread
    obtain ⟨hsameRole, htry⟩ := WireChatMessage.decode_eq_ok hdecode
    refine .object ?_
    intro name
    by_cases hname : name = "role"
    · subst hname
      rw [hrole, ← hsameRole, List.lookup_append, lookup_member]
      exact .refl _
    by_cases hname' : name = "content"
    · subst hname'
      rw [hcontent, List.lookup_append, lookup_member_ne _ hname, lookup_member]
      exact .value (MessageContent.agree_of_tryFromJson htry)
    · rw [List.lookup_append, lookup_member_ne _ hname, lookup_member_ne _ hname']
      exact .absent (Or.inl rfl) (honly name (by simp [hname, hname']))

theorem messages_agree_iff {items : List Json} {wires : List WireChatMessage}
    {messages : List ChatMessage}
    (hread : List.Forall₂ (fun item wire => WireChatMessage.ofValue item = some wire) items wires)
    (hdecode : List.Forall₂ (fun wire message => wire.decode = .ok message) wires messages) :
    Agree (.ofVec encodeMessage messages) (.array items) ↔
      ∀ item ∈ items, ∃ fields, item = .object fields ∧
        OnlyMembers ["role", "content"] fields := by
  rw [Json.ofVec, Json.agree_array]
  induction hread generalizing messages with
  | nil =>
    cases hdecode
    simp
  | @cons item wire items wires hitem _ ih =>
    cases hdecode with
    | @cons _ message _ messages hmessage hmessages =>
      rw [List.map_cons, List.forall₂_cons, List.forall_mem_cons, ih hmessages,
        encodeMessage_agrees_iff hitem hmessage]

/-! ## The body -/

namespace WireChatCompletionRequest

theorem steady_reader : Steady reader :=
  steady_field fun _ => steady_field fun _ => steady_field fun _ => steady_field fun _ =>
    steady_field fun _ => steady_pure _

/-- What an accepted object has under each name the reader knows. -/
structure ReadFrom (members : List (String × Json)) (request : WireChatCompletionRequest) :
    Prop where
  messages : ∃ items, members.lookup "messages" = some (.array items) ∧
    List.Forall₂ (fun item wire => WireChatMessage.ofValue item = some wire) items request.messages
  stream : members.lookup "stream" = some (.bool request.stream) ∨
    members.lookup "stream" = none ∧ request.stream = false
  temperature : (Absent (members.lookup "temperature") ∧ request.temperature = none) ∨
    ∃ number, members.lookup "temperature" = some (.number number) ∧
      request.temperature = some (.ofNumber number)
  maxTokens : (Absent (members.lookup "max_tokens") ∧ request.maxTokens = none) ∨
    ∃ tokens : UInt32, members.lookup "max_tokens" = some (.ofU32 tokens) ∧
      request.maxTokens = some tokens

theorem asBool_eq_some {json : Json} {value : Bool} (h : json.asBool = some value) :
    json = .bool value := by
  cases json with
  | bool flag =>
    cases h
    rfl
  | _ => cases h

theorem asF64_eq_some {json : Json} {value : F64} (h : json.asF64 = some value) :
    ∃ number, json = .number number ∧ value = .ofNumber number := by
  cases json with
  | number number =>
    cases h
    exact ⟨number, rfl, rfl⟩
  | _ => cases h

theorem asU32_eq_some {json : Json} {value : UInt32} (h : json.asU32 = some value) :
    json = .ofU32 value := by
  unfold Json.asU32 at h
  split at h
  · next number =>
    split at h
    · next hsize =>
      cases h
      have hround : number.toUInt32.toUInt64 = number := by
        apply UInt64.toNat.inj
        rw [UInt32.toNat_toUInt64, UInt64.toNat_toUInt32]
        exact Nat.mod_eq_of_lt hsize
      rw [Json.ofU32, hround]
    · cases h
  · cases h

theorem readFrom_of_ofValue {members : List (String × Json)} {request : WireChatCompletionRequest}
    (h : ofValue (.object members) = some request) : ReadFrom members request := by
  have hfields := (fromValue_object steady_reader).mp h
  obtain ⟨model, -, hfields⟩ := readsFields_field.mp hfields
  obtain ⟨messages, hmessages, hfields⟩ := readsFields_field.mp hfields
  obtain ⟨stream, hstream, hfields⟩ := readsFields_field.mp hfields
  obtain ⟨temperature, htemperature, hfields⟩ := readsFields_field.mp hfields
  obtain ⟨maxTokens, hmaxTokens, hfields⟩ := readsFields_field.mp hfields
  rw [← readsFields_pure.mp hfields]
  constructor
  · obtain ⟨json, hjson, hread⟩ := Field.required_ofMember.mp hmessages
    obtain ⟨items, rfl, hitems⟩ := forall₂_of_asVec hread
    exact ⟨items, hjson, hitems⟩
  · rcases Field.defaulted_ofMember.mp hstream with ⟨hnone, hfalse⟩ | ⟨json, hjson, hread⟩
    · exact Or.inr ⟨hnone, hfalse⟩
    · rw [asBool_eq_some hread] at hjson
      exact Or.inl hjson
  · rcases Field.optional_ofMember.mp htemperature with habsent | ⟨json, hjson, -, value, hread, hvalue⟩
    · exact Or.inl habsent
    · obtain ⟨number, rfl, rfl⟩ := asF64_eq_some hread
      exact Or.inr ⟨number, hjson, hvalue⟩
  · rcases Field.optional_ofMember.mp hmaxTokens with habsent | ⟨json, hjson, -, value, hread, hvalue⟩
    · exact Or.inl habsent
    · rw [asU32_eq_some hread] at hjson
      exact Or.inr ⟨value, hjson, hvalue⟩

end WireChatCompletionRequest

theorem lookup_forwardedMembers (upstreamModel name : String) (members : List (String × Json)) :
    (forwardedMembers upstreamModel members).lookup name =
      if name = "model" then some (.string upstreamModel)
      else if name = "stream" then some ((members.lookup "stream").getD (.bool false))
      else if name = "temperature" then (members.lookup "temperature").map respell
      else members.lookup name := by
  unfold forwardedMembers
  rw [Json.lookup_updateMember]
  split
  · rfl
  rw [Json.lookup_updateMember]
  split
  · rw [Json.lookup_updateMember, if_neg (by decide)]
  · rw [Json.lookup_updateMember]

theorem absent_respell {member : Option Json} (h : Absent member) :
    Absent (member.map respell) := by
  rcases h with rfl | rfl
  · exact Or.inl rfl
  · exact Or.inr rfl

/-- The names that are read are written as they were read, apart from the messages. -/
theorem sameMember_of_readFrom {members : List (String × Json)}
    {wire : WireChatCompletionRequest} (hread : wire.ReadFrom members)
    {request : ChatInferenceRequest} (hstream : request.stream = wire.stream)
    (htemperature : request.temperature = wire.temperature)
    (hmaxTokens : request.maxTokens = wire.maxTokens) (upstreamModel : String) {name : String}
    (hname : name ∈ ["model", "stream", "temperature", "max_tokens"]) :
    SameMember Agree ((encodedMembers request upstreamModel).lookup name)
      ((forwardedMembers upstreamModel members).lookup name) := by
  rw [lookup_forwardedMembers]
  simp only [List.mem_cons, List.not_mem_nil, or_false] at hname
  rcases hname with rfl | rfl | rfl | rfl
  · exact .of_eq (by simp [encodedMembers, List.lookup_append])
  · refine .of_eq ?_
    rcases hread.stream with hflag | ⟨hnone, hfalse⟩
    · simp [encodedMembers, List.lookup_append, hflag, hstream]
    · simp [encodedMembers, List.lookup_append, hnone, hstream, hfalse]
  · have hencoded : (encodedMembers request upstreamModel).lookup "temperature" =
        request.temperature.map .ofF64 := by
      simp [encodedMembers, List.lookup_append]
    rw [hencoded, htemperature, if_neg (by decide), if_neg (by decide), if_pos rfl]
    rcases hread.temperature with ⟨habsent, hnone⟩ | ⟨number, hnumber, hvalue⟩
    · rw [hnone]
      exact .absent (Or.inl rfl) (absent_respell habsent)
    · rw [hnumber, hvalue]
      exact .refl _
  · have hencoded : (encodedMembers request upstreamModel).lookup "max_tokens" =
        request.maxTokens.map .ofU32 := by
      simp [encodedMembers, List.lookup_append]
    rw [hencoded, hmaxTokens, if_neg (by decide), if_neg (by decide), if_neg (by decide)]
    rcases hread.maxTokens with ⟨habsent, hnone⟩ | ⟨tokens, htokens, hvalue⟩
    · rw [hnone]
      exact .absent (Or.inl rfl) habsent
    · rw [htokens, hvalue]
      exact .refl _

theorem lookup_encodedMembers_none {name : String}
    (hname : name ∉ ["model", "messages", "stream", "temperature", "max_tokens"])
    (request : ChatInferenceRequest) (upstreamModel : String) :
    (encodedMembers request upstreamModel).lookup name = none := by
  simp only [List.mem_cons, List.not_mem_nil, or_false, not_or] at hname
  obtain ⟨hmodel, hmessages, hstream, htemperature, hmaxTokens⟩ := hname
  unfold encodedMembers
  simp only [List.lookup_append]
  rw [lookup_member_ne _ hmodel, lookup_member_ne _ hmessages, lookup_member_ne _ hstream,
    lookup_optionalMember_ne _ _ htemperature, lookup_optionalMember_ne _ _ hmaxTokens]
  rfl

theorem lookup_forwardedMembers_other {name : String}
    (hname : name ∉ ["model", "stream", "temperature"]) (upstreamModel : String)
    (members : List (String × Json)) :
    (forwardedMembers upstreamModel members).lookup name = members.lookup name := by
  simp only [List.mem_cons, List.not_mem_nil, or_false, not_or] at hname
  rw [lookup_forwardedMembers, if_neg hname.1, if_neg hname.2.1, if_neg hname.2.2]

/-- An accepted body and the request it is decoded to. -/
theorem decodeRequest_eq_ok {body : Json} {input : ChatCompletionRequest}
    (h : decodeRequest body = .ok input) :
    ∃ wire, WireChatCompletionRequest.ofValue body = some wire ∧
      List.Forall₂ (fun wire message => wire.decode = .ok message) wire.messages input.messages ∧
      input.stream = wire.stream ∧ input.temperature = wire.temperature ∧
      input.maxTokens = wire.maxTokens := by
  unfold decodeRequest at h
  split at h
  · cases h
  · next wire hwire =>
    obtain ⟨messages, hmessages, h⟩ := ok_of_bind h
    cases h
    exact ⟨wire, hwire, forall₂_of_mapM hmessages, rfl, rfl, rfl⟩

/-- What is sent for an accepted object agrees with it exactly when it is forwardable. -/
theorem encoded_object_agrees_iff {members : List (String × Json)} {input : ChatCompletionRequest}
    (h : decodeRequest (.object members) = .ok input) (requestId upstreamModel : String) :
    Agree (encodeChatCompletion (input.toInferenceRequest requestId) upstreamModel)
      (.object (forwardedMembers upstreamModel members)) ↔ Forwardable (.object members) := by
  obtain ⟨wire, hwire, hdecode, hstream, htemperature, hmaxTokens⟩ := decodeRequest_eq_ok h
  have hread := WireChatCompletionRequest.readFrom_of_ofValue hwire
  obtain ⟨items, hitems, hwires⟩ := hread.messages
  have hmessages := messages_agree_iff hwires hdecode
  have hencoded : (encodedMembers (input.toInferenceRequest requestId) upstreamModel).lookup
      "messages" = some (.ofVec encodeMessage input.messages) := by
    simp [encodedMembers, List.lookup_append, ChatCompletionRequest.toInferenceRequest]
  have hforwarded : (forwardedMembers upstreamModel members).lookup "messages" =
      some (.array items) := by
    rw [lookup_forwardedMembers_other (by decide), hitems]
  -- member by member: only the messages and the members that are not known can disagree
  rw [encodeChatCompletion, Json.agree_object]
  constructor
  · intro hagree
    refine ⟨members, rfl, ?_, ?_⟩
    · intro name hname
      have hmember := hagree name
      rw [lookup_encodedMembers_none hname,
        lookup_forwardedMembers_other (fun hmem => hname (by simp at hmem ⊢; tauto))] at hmember
      exact hmember.absent_of_none
    · intro items' hitems'
      rw [hitems] at hitems'
      cases hitems'
      have hmember := hagree "messages"
      rw [hencoded, hforwarded] at hmember
      apply hmessages.mp
      cases hmember with
      | absent ha _ => rcases ha with ha | ha <;> cases ha
      | value hagree => exact hagree
  · rintro ⟨members', hmembers, honly, hall⟩
    cases hmembers
    intro name
    by_cases hname : name = "messages"
    · subst hname
      rw [hencoded, hforwarded]
      exact .value (hmessages.mpr (hall items hitems))
    by_cases hknown : name ∈ ["model", "stream", "temperature", "max_tokens"]
    · exact sameMember_of_readFrom hread hstream htemperature hmaxTokens upstreamModel hknown
    · have hother : name ∉ ["model", "messages", "stream", "temperature", "max_tokens"] := by
        simp at hknown ⊢
        tauto
      rw [lookup_encodedMembers_none hother, lookup_forwardedMembers_other (by
        simp at hknown ⊢
        tauto)]
      exact .absent (Or.inl rfl) (honly name hother)

/-- Every accepted body: the payload agrees with the body, the model replaced and the stream
flag defaulted, exactly when the body is an object without members that the gateway passes
over. -/
theorem encoded_agrees_iff {body : Json} {input : ChatCompletionRequest}
    (h : decodeRequest body = .ok input) (requestId upstreamModel : String) :
    Agree (encodeChatCompletion (input.toInferenceRequest requestId) upstreamModel)
      (forwardedBody upstreamModel body) ↔ Forwardable body := by
  cases body with
  | object members => exact encoded_object_agrees_iff h requestId upstreamModel
  | _ =>
    constructor
    · intro hagree
      obtain ⟨members, hmembers⟩ := Agree.of_object hagree
      cases hmembers
    · rintro ⟨members, hmembers, -⟩
      cases hmembers

/-- The body of a request with one message, and with other members. -/
def oneMessage (others : List (String × Json)) : Json :=
  .object <|
    [("model", .string "model"),
      ("messages", .array [.object [("role", .string "user"), ("content", .string "text")]])] ++
    others

/-- What a body of one message is decoded to, whatever other members it has. -/
def oneMessageRequest : ChatCompletionRequest where
  model := "model"
  messages := [{ role := "user", content := .text "text" }]
  stream := false
  temperature := none
  maxTokens := none

theorem oneMessage_agrees :
    Agree (encodeChatCompletion (oneMessageRequest.toInferenceRequest "request") "upstream")
      (forwardedBody "upstream" (oneMessage [])) := by
  have hdecode : decodeRequest (oneMessage []) = .ok oneMessageRequest := rfl
  refine (encoded_agrees_iff hdecode "request" "upstream").mpr ⟨_, rfl, ?_, ?_⟩
  · intro name hname
    left
    rw [List.lookup_eq_none_iff]
    simp at hname ⊢
    tauto
  · intro items hitems item hitem
    have hsame : [Json.object [("role", .string "user"), ("content", .string "text")]] = items :=
      Json.array.inj (Option.some.inj hitems)
    rw [← hsame, List.mem_singleton] at hitem
    refine ⟨_, hitem, ?_⟩
    intro name hname
    left
    rw [List.lookup_eq_none_iff]
    simp at hname ⊢
    tauto

/-- The stop sequences of a body are dropped without an error. -/
theorem stop_dropped :
    decodeRequest (oneMessage [("stop", .array [.string "end"])]) = .ok oneMessageRequest ∧
    ¬ Agree (encodeChatCompletion (oneMessageRequest.toInferenceRequest "request") "upstream")
      (forwardedBody "upstream" (oneMessage [("stop", .array [.string "end"])])) := by
  refine ⟨rfl, ?_⟩
  intro hagree
  have hmember := Json.agree_object.mp hagree "stop"
  cases hmember with
  | absent _ hstop =>
    rcases hstop with hstop | hstop
    · cases hstop
    · cases hstop

end SmartGateway
