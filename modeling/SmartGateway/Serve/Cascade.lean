import SmartGateway.Domain.ContentCodec
import SmartGateway.Inbound.Handler
import SmartGateway.Upstream.Outbound

/-! # Gateways in a row

A provider can be a gateway itself. The request the executor sends is then read by the handler of
the gateway behind, and its response by the executor. A request goes through any number of
gateways as it was decoded by the first of them, but for the model; and of the answers of the
gateway behind, only the refusal of the key blocks the account.
-/

namespace SmartGateway

open Inbound Upstream
open OrderedRows (ok_of_bind forall₂_of_mapM mapM_eq_ok)
open StructReader
open Program (Path)

/-! ## Reading what was sent -/

/-- A message as it is sent. -/
def ChatMessage.toWire (message : ChatMessage) : WireChatMessage :=
  { role := message.role, content := message.content.toValue }

namespace WireChatMessage

def toValue (message : WireChatMessage) : Json :=
  .object (member "role" (.string message.role) ++ member "content" message.content)

theorem reads (message : WireChatMessage) : Reads toValue ofValue message := by
  constructor
  · intro h
    cases h
  · rfl

theorem decode_toWire {message : ChatMessage} (h : message.content.WellFormed) :
    message.toWire.decode = .ok message := by
  have hcontent : MessageContent.tryFromJson message.toWire.content = .ok message.content :=
    MessageContent.tryFromJson_toValue h
  rw [decode, hcontent]
  rfl

end WireChatMessage

/-- What the handler reads from a payload. -/
theorem ofValue_encodeChatCompletion {request : ChatInferenceRequest}
    (hfinite : ∀ temperature ∈ request.temperature, temperature.IsFinite)
    (upstreamModel : String) :
    WireChatCompletionRequest.ofValue (encodeChatCompletion request upstreamModel) =
      some
        { model := upstreamModel
          messages := request.messages.map ChatMessage.toWire
          stream := request.stream
          temperature := request.temperature
          maxTokens := request.maxTokens } := by
  have hmodel : (encodedMembers request upstreamModel).lookup "model" =
      some (.string upstreamModel) := by
    simp [encodedMembers, List.lookup_append]
  have hmessages : (encodedMembers request upstreamModel).lookup "messages" =
      some (.ofVec WireChatMessage.toValue (request.messages.map ChatMessage.toWire)) := by
    have hmap : Json.ofVec encodeMessage request.messages =
        .ofVec WireChatMessage.toValue (request.messages.map ChatMessage.toWire) := by
      rw [Json.ofVec, Json.ofVec, List.map_map]
      rfl
    rw [← hmap]
    simp [encodedMembers, List.lookup_append]
  have hstream : Field.defaulted false Json.asBool
      (.ofMember ((encodedMembers request upstreamModel).lookup "stream")) =
        some request.stream := by
    have hlookup : (encodedMembers request upstreamModel).lookup "stream" =
        some (.bool request.stream) := by
      simp [encodedMembers, List.lookup_append]
    rw [hlookup]
    rfl
  have htemperature : (encodedMembers request upstreamModel).lookup "temperature" =
      request.temperature.map .ofF64 := by
    simp [encodedMembers, List.lookup_append]
  have hmaxTokens : (encodedMembers request upstreamModel).lookup "max_tokens" =
      request.maxTokens.map .ofU32 := by
    simp [encodedMembers, List.lookup_append]
  -- the reader's fields in its order, each with what is written for it
  refine (ReadsFields.reads ?_).2
  refine .required hmodel (reads_string upstreamModel) ?_
  refine .required hmessages (reads_vec fun message _ => message.reads) ?_
  refine .field hstream ?_
  refine .optional htemperature (fun value hvalue => reads_f64 (hfinite value hvalue)) ?_
  refine .optional hmaxTokens (fun value _ => reads_u32 value) ?_
  exact .pure _ _

/-- The request for another model. -/
def ChatCompletionRequest.withModel (input : ChatCompletionRequest) (model : String) :
    ChatCompletionRequest :=
  { input with model }

/-- A request that can be read again: its contents are well formed and its temperature is a
number. -/
structure ChatCompletionRequest.Readable (input : ChatCompletionRequest) : Prop where
  messages : ∀ message ∈ input.messages, message.content.WellFormed
  temperature : ∀ temperature ∈ input.temperature, temperature.IsFinite

theorem ChatCompletionRequest.Readable.withModel {input : ChatCompletionRequest}
    (h : input.Readable) (model : String) : (input.withModel model).Readable :=
  ⟨h.messages, h.temperature⟩

/-- What was decoded can be read again, unless its temperature is infinite, as no number of a
JSON document is. -/
theorem readable_of_decodeRequest {value : Json} {input : ChatCompletionRequest}
    (h : decodeRequest value = .ok input)
    (hfinite : ∀ temperature ∈ input.temperature, temperature.IsFinite) : input.Readable := by
  refine ⟨?_, hfinite⟩
  obtain ⟨wire, -, hmessages, -⟩ := decodeRequest_eq_ok h
  rcases List.forall₂_iff_get.mp hmessages with ⟨hlength, hget⟩
  intro message hmessage
  rcases List.getElem_of_mem hmessage with ⟨i, hi, rfl⟩
  have hdecode := hget i (by omega) hi
  exact MessageContent.wellFormed_of_tryFromJson (WireChatMessage.decode_eq_ok hdecode).2

/-- The payload of a request is decoded to the request, for the upstream model. -/
theorem decodeRequest_encodeChatCompletion {input : ChatCompletionRequest} (h : input.Readable)
    (requestId upstreamModel : String) :
    decodeRequest (encodeChatCompletion (input.toInferenceRequest requestId) upstreamModel) =
      .ok (input.withModel upstreamModel) := by
  have hmessages : (input.messages.map ChatMessage.toWire).mapM WireChatMessage.decode =
      .ok input.messages :=
    mapM_eq_ok fun message hmessage => WireChatMessage.decode_toWire (h.messages message hmessage)
  have hread := @ofValue_encodeChatCompletion (input.toInferenceRequest requestId) h.temperature
    upstreamModel
  rw [decodeRequest, hread]
  change ((input.messages.map ChatMessage.toWire).mapM WireChatMessage.decode).bind _ = _
  rw [hmessages]
  rfl

/-! ## Delivery -/

/-- The white space around the value of a header. -/
def optionalWhitespace (byte : UInt8) : Bool := byte = 32 || byte = 9

/-- The value of a header as the server reads it. -/
def trimHeader (value : Bytes) : Bytes :=
  ((value.dropWhile optionalWhitespace).reverse.dropWhile optionalWhitespace).reverse

/-- The limit of the `Json` extractor. -/
def maxBodyBytes : Nat := 2097152

def readBody (parse : String → Option Json) (body : Bytes) : Option Json :=
  if body.length ≤ maxBodyBytes then (String.fromUTF8? body.toByteArray).bind parse else none

/-- The request as it arrives at the gateway at `origin`, if it is for its chat completions. -/
def deliver (parse : String → Option Json) (print : Json → String) (origin : String)
    (sent : OutboundRequest) : Option HttpRequest :=
  if sent.url = origin ++ "/v1/chat/completions" then
    some
      { method := "POST"
        path := "/v1/chat/completions"
        headers :=
          [("authorization", trimHeader sent.authorization),
            ("content-type", Text.encode "application/json".toList)]
        payload := readBody parse (Text.encode (print sent.body).toList) }
  else none

/-- The key and the decoded body of a request that the handler passes on to `infer`. -/
def Inbound.HttpRequest.asked (http : HttpRequest) : Option (String × ChatCompletionRequest) :=
  if http.path = "/v1/chat/completions" ∧ http.method = "POST" then
    (bearer http.headers).bind fun key =>
      http.payload.bind fun value =>
        (decodeRequest value).toOption.map fun input => (key, input)
  else none

theorem Inbound.HttpRequest.asks_of_asked {http : HttpRequest} {key : String}
    {input : ChatCompletionRequest} (h : http.asked = some (key, input)) (requestId : String)
    (events : Nat) :
    Asks ⟨http, requestId, events⟩ key (input.toInferenceRequest requestId).toInferenceRequest := by
  unfold HttpRequest.asked at h
  split at h
  · next hroute =>
    obtain ⟨found, hkey, h⟩ := Option.bind_eq_some_iff.mp h
    obtain ⟨value, hpayload, h⟩ := Option.bind_eq_some_iff.mp h
    obtain ⟨decoded, hdecode, hpair⟩ := Option.map_eq_some_iff.mp h
    obtain ⟨rfl, rfl⟩ := Prod.mk.inj hpair
    refine ⟨hroute.1, hroute.2, hkey, value, decoded, hpayload, ?_, rfl⟩
    cases hresult : decodeRequest value with
    | error failure =>
      rw [hresult] at hdecode
      cases hdecode
    | ok result =>
      rw [hresult] at hdecode
      cases hdecode
      rfl
  · cases h

/-! ### The key -/

theorem trimHeader_of_ends {value : Bytes} {first last : UInt8} {middle : Bytes}
    (hvalue : value = first :: middle ++ [last]) (hfirst : optionalWhitespace first = false)
    (hlast : optionalWhitespace last = false) : trimHeader value = value := by
  have hstart : value.dropWhile optionalWhitespace = value := by
    rw [hvalue, List.cons_append, List.dropWhile_cons_of_neg (by rw [hfirst]; decide)]
  have hreverse : value.reverse = last :: (first :: middle).reverse := by
    rw [hvalue, List.reverse_append]
    rfl
  have hend : value.reverse.dropWhile optionalWhitespace = value.reverse := by
    rw [hreverse, List.dropWhile_cons_of_neg (by rw [hlast]; decide)]
  rw [trimHeader, hstart, hend, List.reverse_reverse]

theorem asciiBytes_ends {first last : Char} {middle : List Char} :
    asciiBytes (first :: middle ++ [last]) =
      UInt8.ofNat first.toNat :: asciiBytes middle ++ [UInt8.ofNat last.toNat] := by
  rw [asciiBytes, List.map_append, List.map_cons]
  rfl

/-- The header of a token has no white space at its ends. -/
theorem trimHeader_bearer {credential : String} (h : IsToken credential) :
    trimHeader (asciiBytes (bearerText credential)) = asciiBytes (bearerText credential) := by
  obtain ⟨before, last, hends⟩ : ∃ before last, credential.toList = before ++ [last] := by
    refine ⟨_, _, (List.dropLast_append_getLast ?_).symm⟩
    intro hnil
    exact h.filled (String.toList_inj.mp hnil)
  have hlast : Graphic last := h.graphic last (by rw [hends]; simp)
  have hstart : "Bearer ".toList = ['B', 'e', 'a', 'r', 'e', 'r', ' '] := by
    decide +kernel
  have htext : bearerText credential =
      'B' :: (['e', 'a', 'r', 'e', 'r', ' '] ++ before) ++ [last] := by
    unfold bearerText
    rw [hstart, hends]
    rfl
  rw [htext, asciiBytes_ends]
  refine trimHeader_of_ends rfl ?_ ?_
  · decide +kernel
  · unfold Graphic at hlast
    have hnat : (UInt8.ofNat last.toNat).toNat = last.toNat := toNat_ofNat_ascii (by omega)
    unfold optionalWhitespace
    simp only [Bool.or_eq_false_iff, decide_eq_false_iff_not]
    constructor
    · intro heq
      rw [heq] at hnat
      change 32 = last.toNat at hnat
      omega
    · intro heq
      rw [heq] at hnat
      change 9 = last.toNat at hnat
      omega

/-- Printable text is read from its bytes. -/
theorem toStr_asciiBytes {text : List Char} (h : ∀ c ∈ text, 32 ≤ c.toNat ∧ c.toNat ≤ 126) :
    toStr (asciiBytes text) = some text := by
  unfold toStr
  rw [if_pos, Option.some.injEq]
  · have hchars : (asciiBytes text).map (fun byte => Char.ofNat byte.toNat) = text.map id := by
      unfold asciiBytes
      rw [List.map_map]
      apply List.map_congr_left
      intro c hc
      have hc := h c hc
      rw [Function.comp_apply, toNat_ofNat_ascii (by omega), Char.ofNat_toNat]
      rfl
    rw [hchars, List.map_id]
  · rw [List.all_eq_true]
    intro byte hbyte
    obtain ⟨hlow, hhigh⟩ := mem_asciiBytes h hbyte
    simp [hlow, hhigh]

/-- A token is read from the header that carries it. -/
theorem bearer_token {credential : String} (h : IsToken credential)
    (others : List (String × Bytes)) :
    bearer (("authorization", trimHeader (asciiBytes (bearerText credential))) :: others) =
      some credential := by
  have hlookup : List.lookup "authorization"
      (("authorization", trimHeader (asciiBytes (bearerText credential))) :: others) =
        some (asciiBytes (bearerText credential)) := by
    rw [trimHeader_bearer h]
    simp
  have hstrip : Text.stripPrefix "Bearer ".toList (bearerText credential) =
      some credential.toList := Text.stripPrefix_append _ _
  unfold bearer
  rw [hlookup, Option.bind_some, toStr_asciiBytes (bearerText_ascii h), Option.bind_some, hstrip,
    Option.map_some, String.ofList_toList]

/-! ## Requests through gateways in a row -/

/-- One gateway on the way: the address of the gateway behind its route, which is a scheme and an
authority without a path, the route with the credential it was resolved to, and the identity it
draws for the request. -/
structure Hop where
  origin : String
  route : RouteCandidate
  credential : String
  requestId : String

/-- The request that arrives behind. -/
def Hop.sends (parse : String → Option Json) (print : Json → String) (hop : Hop)
    (input : ChatCompletionRequest) : Option HttpRequest :=
  (outboundRequest hop.route (input.toInferenceRequest hop.requestId) hop.credential).bind
    (deliver parse print hop.origin)

/-- What the first gateway makes of a decoded request is sent on by each of the gateways, as they
pass it on to `infer`: the request that arrives behind the last. -/
def sendThrough (parse : String → Option Json) (print : Json → String)
    (input : ChatCompletionRequest) : List Hop → Option HttpRequest
  | [] => none
  | [hop] => hop.sends parse print input
  | hop :: hops =>
    ((hop.sends parse print input).bind HttpRequest.asked).bind fun asked =>
      sendThrough parse print asked.2 hops

/-- What a route to a gateway needs: its base URL is the address with slashes behind it, the
credential is a token as the keys of a gateway are, and the text of the payload is short enough
for the `Json` extractor and read back. -/
structure Hop.Carries (parse : String → Option Json) (print : Json → String)
    (input : ChatCompletionRequest) (hop : Hop) : Prop where
  address : trimEndSlashes hop.route.baseUrl = hop.origin
  credential : IsToken hop.credential
  payload : readBody parse (Text.encode (print (encodeChatCompletion
      (input.toInferenceRequest hop.requestId) hop.route.upstreamModel)).toList) =
    some (encodeChatCompletion (input.toInferenceRequest hop.requestId) hop.route.upstreamModel)

section Row

variable {parse : String → Option Json} {print : Json → String} {input : ChatCompletionRequest}

/-- The gateway behind is asked by the credential of the route, for its upstream model. -/
theorem Hop.Carries.asked {hop : Hop} (h : hop.Carries parse print input)
    (hinput : input.Readable) :
    ∃ http, hop.sends parse print input = some http ∧
      http.payload = some (encodeChatCompletion (input.toInferenceRequest hop.requestId)
        hop.route.upstreamModel) ∧
      http.asked = some (hop.credential, input.withModel hop.route.upstreamModel) := by
  have hurl : chatCompletionsUrl hop.route = hop.origin ++ "/v1/chat/completions" := by
    rw [chatCompletionsUrl, h.address]
  have hsent : outboundRequest hop.route (input.toInferenceRequest hop.requestId)
      hop.credential = some
        { url := chatCompletionsUrl hop.route
          authorization := asciiBytes (bearerText hop.credential)
          body := encodeChatCompletion (input.toInferenceRequest hop.requestId)
            hop.route.upstreamModel } := by
    rw [outboundRequest, headerValue_bearer h.credential]
    rfl
  refine ⟨
    { method := "POST"
      path := "/v1/chat/completions"
      headers :=
        [("authorization", trimHeader (asciiBytes (bearerText hop.credential))),
          ("content-type", Text.encode "application/json".toList)]
      payload := readBody parse (Text.encode (print (encodeChatCompletion
        (input.toInferenceRequest hop.requestId) hop.route.upstreamModel)).toList) },
    ?_, h.payload, ?_⟩
  · rw [Hop.sends, hsent, Option.bind_some, deliver, if_pos hurl]
  · have hdecode := decodeRequest_encodeChatCompletion hinput hop.requestId hop.route.upstreamModel
    unfold HttpRequest.asked
    rw [if_pos ⟨rfl, rfl⟩, bearer_token h.credential, Option.bind_some, h.payload,
      Option.bind_some, hdecode]
    rfl

/-- The payload does not depend on the model and the identity of the request it is made of. -/
theorem Hop.Carries.withModel {hop : Hop} (h : hop.Carries parse print input) (model : String) :
    hop.Carries parse print (input.withModel model) :=
  ⟨h.address, h.credential, h.payload⟩

/-- A request that was decoded by the first of some gateways in a row, and that each of them
carries, is asked of the gateway behind the last as if that one had decoded it: by the credential
of the last route and for its model, with the messages, the stream flag, the temperature and the
token limit unchanged. -/
theorem asked_through {value : Json} (hdecode : decodeRequest value = .ok input)
    (hfinite : ∀ temperature ∈ input.temperature, temperature.IsFinite) (hops : List Hop)
    (last : Hop) (hcarries : ∀ hop ∈ hops ++ [last], hop.Carries parse print input) :
    ∃ http, sendThrough parse print input (hops ++ [last]) = some http ∧
      http.asked = some (last.credential, input.withModel last.route.upstreamModel) ∧
      ∀ requestId, http.payload = some (encodeChatCompletion (input.toInferenceRequest requestId)
        last.route.upstreamModel) := by
  have hinput := readable_of_decodeRequest hdecode hfinite
  clear hdecode hfinite
  -- Along the gateways; each of them passes a request on that differs in the model only.
  induction hops generalizing input with
  | nil =>
    obtain ⟨http, hsends, hpayload, hasked⟩ :=
      (hcarries last (List.mem_singleton_self last)).asked hinput
    exact ⟨http, hsends, hasked, fun requestId => hpayload⟩
  | cons hop hops ih =>
    obtain ⟨http, hsends, -, hasked⟩ := (hcarries hop List.mem_cons_self).asked hinput
    have hlater : ∀ later ∈ hops ++ [last],
        later.Carries parse print (input.withModel hop.route.upstreamModel) := by
      intro later hmem
      exact (hcarries later (List.mem_cons_of_mem hop hmem)).withModel _
    obtain ⟨arrived, hthrough, hlast, hpayload⟩ := ih hlater (hinput.withModel _)
    refine ⟨arrived, ?_, hlast, hpayload⟩
    obtain ⟨next, rest, hrest⟩ : ∃ next rest, hops ++ [last] = next :: rest := by
      cases hops with
      | nil => exact ⟨last, [], rfl⟩
      | cons next rest => exact ⟨next, rest ++ [last], rfl⟩
    rw [List.cons_append, hrest, sendThrough, hsends, Option.bind_some, hasked, Option.bind_some,
      ← hrest]
    · exact hthrough
    · rintro ⟨⟩

end Row

/-! ## The answers of the gateway behind -/

/-- What sending a request to a gateway returns, once the gateway has made the response; the text
of a JSON body is read back. -/
inductive Answered : Response → HttpResult → Prop where
  | json (status : Nat) (headers : List (String × String)) (value : Json)
      (source : List SourcePoll) :
    Answered ⟨status, headers, .json value⟩ (.response status (some value) source)
  | events (status : Nat) (headers : List (String × String)) (stream : PublicStream)
      (json : Option Json) (source : List SourcePoll) :
    Answered ⟨status, headers, .events stream⟩ (.response status json source)

/-- What the gateway in front makes of an answer, by the calls made for it behind. -/
inductive Understood (key : String) (past : History OpenAiSseDecoder) :
    Except ProviderFailure (InferenceExecution OpenAiSseDecoder) → Prop where
  | refused {failure : ProviderFailure}
      (h : past = [⟨.configuration (.authenticate key), .ok false⟩])
      (hcategory : failure.category = .authenticationFailed) : Understood key past (.error failure)
  | failed {failure : ProviderFailure}
      (h : (∃ text, past = [⟨.configuration (.authenticate key), .error text⟩]) ∨
        Accepted key past)
      (htransient : failure.category.isTransient = true) (hretry : failure.retryAtUnix ≠ none) :
    Understood key past (.error failure)
  | executed {execution : InferenceExecution OpenAiSseDecoder} (h : Accepted key past) :
    Understood key past (.ok execution)

section Answers

variable {http : HttpRequest} {key : String} {input : ChatCompletionRequest}
  {past : History OpenAiSseDecoder} {response : Response} {sent : HttpResult}

theorem chatCompletion_of_asked (h : http.asked = some (key, input)) (gateway : Gateway)
    (requestId : String) :
    chatCompletion gateway requestId http.headers http.payload =
      (gateway.infer key (input.toInferenceRequest requestId).toInferenceRequest).bind
        fun result => .pure (applicationErrorResponse result) := by
  obtain ⟨-, -, hkey, value, decoded, hpayload, hdecode, hsame⟩ :=
    HttpRequest.asks_of_asked h requestId 0
  unfold chatCompletion
  rw [hkey, hpayload]
  dsimp only at hdecode ⊢
  rw [hdecode]
  dsimp only
  rw [hsame]

/-- An error body is classified by its status and its code. -/
theorem execute_errorResponse {status : Nat} (hstatus : ¬(200 ≤ status ∧ status < 300))
    {code : String} (hcode : code.toLower = code) (message : String)
    (hsent : Answered (.error status code message) sent) (clock : Option Nat)
    (request : InferenceRequest) :
    ∃ failure, execute clock request sent = .error failure ∧
      failure.category = classifyCategory status code ∧ Timed clock failure := by
  cases hsent with
  | json _ _ value source =>
    refine ⟨_, by rw [execute, if_pos hstatus], ?_, timed_classify _ _ _⟩
    have herror : errorCode ((Option.getD (some (Json.object [("error",
        .object [("message", .string message), ("type", .string code), ("code", .string code)])]))
          invalidUpstreamError).get "error") = code.toLower := by
      rfl
    change classifyCategory status (errorCode _) = _
    rw [herror, hcode]

/-- A response with a success status executes, whatever its body is. -/
theorem exists_execution (clock : Option Nat) (request : InferenceRequest) {status : Nat}
    (hstatus : 200 ≤ status ∧ status < 300) (json : Option Json) (source : List SourcePoll) :
    ∃ execution, execute clock request (.response status json source) = .ok execution := by
  rw [execute, if_neg (not_not.mpr hstatus)]
  split
  · exact ⟨_, rfl⟩
  · exact ⟨_, rfl⟩

/-- A failure that is no refusal of the key. -/
theorem Understood.of_errorResponse {status : Nat} (hstatus : ¬(200 ≤ status ∧ status < 300))
    {code : String} (hcode : code.toLower = code) {message : String}
    (hsent : Answered (.error status code message) sent)
    (htransient : (classifyCategory status code).isTransient = true)
    (h : (∃ text, past = [⟨.configuration (.authenticate key), .error text⟩]) ∨ Accepted key past)
    (clock : Option Nat) (request : InferenceRequest) :
    Understood key past (execute clock request sent) := by
  obtain ⟨failure, hfailure, hcategory, htimed⟩ :=
    execute_errorResponse hstatus hcode message hsent clock request
  rw [hfailure]
  rw [← hcategory] at htransient
  exact .failed h htransient (htimed.retry_ne_none htransient)

/-- Whatever the gateway behind is answered, its response is understood. -/
theorem understood_of_answered (hasked : http.asked = some (key, input)) (gateway : Gateway)
    (requestId : String)
    (hpath : Path (chatCompletion gateway requestId http.headers http.payload) past
      (.pure response))
    (hsent : Answered response sent) (clock : Option Nat) (request : InferenceRequest) :
    Understood key past (execute clock request sent) := by
  rw [chatCompletion_of_asked hasked] at hpath
  obtain ⟨own, result, rest, rfl, hown, hrest⟩ := hpath.bind_pure
  obtain ⟨rfl, hresponse⟩ := Program.path_pure_iff.mp hrest
  obtain rfl : response = applicationErrorResponse result := Program.pure.inj hresponse
  have hearned := (gateway.permitted_infer key
    (input.toInferenceRequest requestId).toInferenceRequest).path hown
  rw [List.nil_append] at hearned
  rw [List.append_nil]
  -- The response of each result has a status and a code of its own.
  rcases result with (_ | text | _ | text) | value | stream
  · have hrefused : own = [⟨.configuration (.authenticate key), .ok false⟩] := hearned
    obtain ⟨failure, hfailure, hcategory, -⟩ := execute_errorResponse (by decide)
      (Text.toLower_eq_self (by decide)) "Invalid gateway key" hsent clock request
    rw [hfailure]
    exact .refused hrefused hcategory
  · refine .of_errorResponse (by decide) (Text.toLower_eq_self (by decide)) hsent (by decide) ?_
      clock request
    rcases hearned with hunanswered | haccepted
    · exact Or.inl ⟨text, hunanswered⟩
    · exact Or.inr haccepted
  · exact .of_errorResponse (by decide) (Text.toLower_eq_self (by decide)) hsent (by decide)
      (Or.inr hearned) clock request
  · exact .of_errorResponse (by decide) (Text.toLower_eq_self (by decide)) hsent (by decide)
      (Or.inr hearned) clock request
  · cases hsent with
    | json _ _ _ source =>
      have hstatus : 200 ≤ 200 ∧ 200 < 300 := by decide
      obtain ⟨execution, hexecution⟩ :=
        exists_execution clock request hstatus (some value) source
      rw [hexecution]
      exact .executed hearned
  · cases hsent with
    | events _ _ _ json source =>
      have hstatus : 200 ≤ 200 ∧ 200 < 300 := by decide
      obtain ⟨execution, hexecution⟩ := exists_execution clock request hstatus json source
      rw [hexecution]
      exact .executed hearned.1

/-- A gateway in front that carries a request blocks the account of the gateway behind exactly when
the key was refused there: the only call made for the request was that of `authenticate`, and it
was answered no. Any other failure behind, of its stores or of its providers, is retried in
front. -/
theorem account_blocked_iff_key_refused {parse : String → Option Json} {print : Json → String}
    {hop : Hop} (hcarries : hop.Carries parse print input) (hinput : input.Readable)
    (hsends : hop.sends parse print input = some http) (gateway : Gateway) (requestId : String)
    (hpath : Path (chatCompletion gateway requestId http.headers http.payload) past
      (.pure response))
    {client : OutboundRequest → HttpResult}
    (hclient : ∀ sent, deliver parse print hop.origin sent = some http →
      Answered response (client sent))
    {clock : Option Nat} {failure : ProviderFailure}
    (hfailure : executeRequest client clock hop.route (input.toInferenceRequest hop.requestId)
      hop.credential = .error failure) :
    (failure.category.blocksAccount = true ↔
      past = [⟨.configuration (.authenticate hop.credential), .ok false⟩]) ∧
    (failure.category.blocksAccount = false →
      failure.category.opensRoute = true ∧ failure.retryAtUnix ≠ none) := by
  obtain ⟨arrived, harrived, -, hasked⟩ := hcarries.asked hinput
  obtain rfl : http = arrived := Option.some.inj (hsends.symm.trans harrived)
  obtain ⟨sent, hsent, hdelivered⟩ := Option.bind_eq_some_iff.mp hsends
  unfold executeRequest at hfailure
  rw [hsent] at hfailure
  have hunderstood := understood_of_answered hasked gateway requestId hpath
    (hclient sent hdelivered) clock (input.toInferenceRequest hop.requestId).toInferenceRequest
  dsimp only at hfailure
  rw [hfailure] at hunderstood
  -- the answer says whether the key was refused, and the classifier reads that off it
  cases hunderstood with
  | refused hrefused hcategory =>
    rw [hcategory]
    exact ⟨⟨fun _ => hrefused, fun _ => rfl⟩, fun h => by cases h⟩
  | failed hmade htransient hretry =>
    have hkeeps : failure.category.blocksAccount = false := by
      revert htransient
      cases failure.category <;> decide
    refine ⟨?_, fun _ => ⟨ErrorCategory.opensRoute_of_isTransient htransient, hretry⟩⟩
    rw [hkeeps]
    constructor
    · intro h
      cases h
    · rintro rfl
      rcases hmade with ⟨text, hmade⟩ | ⟨later, hmade⟩
      · cases hmade
      · cases hmade

end Answers

/-! ## A gateway behind a gateway -/

namespace Behind

def payload : Json := encodeChatCompletion (oneMessageRequest.toInferenceRequest "request") "small"

/-- What `serde_json` writes for the payload: the members of an object in the order of their
names. -/
def payloadText : String :=
  "\x7b\"messages\":[\x7b\"content\":\"text\",\"role\":\"user\"\x7d],\"model\":\"small\"," ++
    "\"stream\":false\x7d"

def print (_ : Json) : String := payloadText

def parse (text : String) : Option Json := if text = payloadText then some payload else none

/-- A route to a gateway, with a slash behind its address. -/
def hop : Hop where
  origin := "https://gateway"
  route :=
    { routeId := "route"
      logicalModel := "model"
      providerAccountId := "account"
      provider := "gateway"
      credentialRef := .envKey
      baseUrl := "https://gateway/"
      upstreamModel := "small"
      priority := 0 }
  credential := "slg_key"
  requestId := "request"

theorem carries_hop : hop.Carries parse print oneMessageRequest := by
  have htext : String.fromUTF8? (Text.encode (print payload).toList).toByteArray =
      some payloadText := by
    rw [Text.fromUTF8_encode, String.ofList_toList]
    rfl
  refine ⟨by decide +kernel, ⟨by decide, ?_⟩, ?_⟩
  · have hgraphic : ("slg_key".toList.all fun c => 33 ≤ c.toNat && c.toNat ≤ 126) = true := by
      decide +kernel
    intro c hc
    have hc := List.all_eq_true.mp hgraphic c hc
    simpa [Graphic] using hc
  · change readBody parse (Text.encode (print payload).toList) = some payload
    have hread : parse payloadText = some payload := if_pos rfl
    rw [readBody, if_pos (by decide +kernel), htext, Option.bind_some, hread]

/-- A request with one message through two such gateways. -/
theorem one_message_through : ∃ http,
    sendThrough parse print oneMessageRequest ([hop] ++ [hop]) = some http ∧
      http.asked = some ("slg_key", oneMessageRequest.withModel "small") ∧
      ∀ requestId, http.payload =
        some (encodeChatCompletion (oneMessageRequest.toInferenceRequest requestId) "small") := by
  have hdecode : decodeRequest (oneMessage []) = .ok oneMessageRequest := rfl
  refine asked_through hdecode ?_ [hop] hop ?_
  · intro temperature htemperature
    cases htemperature
  · intro gateway hgateway
    have hsame : gateway = hop := by simpa using hgateway
    rw [hsame]
    exact carries_hop

/-- The error of a refused key. -/
def refusal : Json :=
  .object
    [("error",
      .object
        [("message", .string "Invalid gateway key"), ("type", .string "invalid_api_key"),
          ("code", .string "invalid_api_key")])]

theorem readable_oneMessage : oneMessageRequest.Readable := by
  have hdecode : decodeRequest (oneMessage []) = .ok oneMessageRequest := rfl
  refine readable_of_decodeRequest hdecode ?_
  intro temperature htemperature
  cases htemperature

/-- The key of the route is refused. -/
theorem key_refused_behind : ∃ failure : ProviderFailure,
    executeRequest (fun _ => .response 401 (some refusal) []) none hop.route
        (oneMessageRequest.toInferenceRequest "request") "slg_key" = .error failure ∧
      failure.category.blocksAccount = true := by
  obtain ⟨http, hsends, -, hasked⟩ := carries_hop.asked readable_oneMessage
  have hpath : Path (chatCompletion Served.gateway "request" http.headers http.payload)
      [⟨.configuration (.authenticate "slg_key"), .ok false⟩]
      (.pure (.error 401 "invalid_api_key" "Invalid gateway key")) := by
    rw [chatCompletion_of_asked hasked]
    exact .head _ (.refl _)
  have hanswered : Answered (.error 401 "invalid_api_key" "Invalid gateway key")
      (.response 401 (some refusal) []) := .json _ _ _ []
  have hfailure : executeRequest (fun _ => .response 401 (some refusal) []) none hop.route
      (oneMessageRequest.toInferenceRequest hop.requestId) hop.credential =
        .error (classify none 401 refusal) := by
    unfold executeRequest
    have hheader : headerValue ("Bearer " ++ hop.credential) =
        some (asciiBytes (bearerText hop.credential)) := headerValue_bearer carries_hop.credential
    rw [outboundRequest, hheader]
    rfl
  refine ⟨classify none 401 refusal, hfailure, ?_⟩
  exact (account_blocked_iff_key_refused carries_hop readable_oneMessage hsends Served.gateway
    "request" hpath (fun _ _ => hanswered) hfailure).1.mpr rfl

end Behind

end SmartGateway
