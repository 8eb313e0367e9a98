import SmartGateway.Inbound.ChatRequest
import SmartGateway.Storage.Configuration
import SmartGateway.Upstream.Executor

/-! # The request of the executor

What `execute` sends for a route: the URL under its base URL, the credential in a header, and the
payload. A credential that no header can carry is an error before anything is sent.
-/

namespace SmartGateway

namespace Upstream

def chatCompletionsUrl (route : RouteCandidate) : String :=
  trimEndSlashes route.baseUrl ++ "/v1/chat/completions"

/-- `HeaderValue::try_from`: any bytes but the control characters other than the tab. -/
def headerValue (text : String) : Option Bytes :=
  let bytes := Text.encode text.toList
  if bytes.all fun byte => byte = 9 || (32 ≤ byte && byte ≠ 127) then some bytes else none

/-- The `POST` that is sent; its body is `application/json`. -/
structure OutboundRequest where
  url : String
  authorization : Bytes
  body : Json

def outboundRequest (route : RouteCandidate) (request : ChatInferenceRequest)
    (credential : String) : Option OutboundRequest :=
  (headerValue ("Bearer " ++ credential)).map fun authorization =>
    { url := chatCompletionsUrl route
      authorization
      body := encodeChatCompletion request route.upstreamModel }

/-- `execute` with the sending of the request: `client` says what sending returns. -/
def executeRequest (client : OutboundRequest → HttpResult) (clock : Option Nat)
    (route : RouteCandidate) (request : ChatInferenceRequest) (credential : String) :
    Except ProviderFailure (InferenceExecution OpenAiSseDecoder) :=
  execute clock request.toInferenceRequest <|
    match outboundRequest route request credential with
    | none => .sendError
    | some sent => client sent

/-! ## Credentials in a header -/

/-- Printable ASCII without the space. -/
def Graphic (c : Char) : Prop := 33 ≤ c.toNat ∧ c.toNat ≤ 126

/-- A text of graphic characters. -/
structure IsToken (text : String) : Prop where
  filled : text ≠ ""
  graphic : ∀ c ∈ text.toList, Graphic c

theorem encodeChar_ascii {c : Char} (h : c.toNat < 128) :
    String.utf8EncodeChar c = [UInt8.ofNat c.toNat] := by
  unfold String.utf8EncodeChar
  dsimp only
  rw [if_pos (by change c.toNat ≤ 127; omega)]
  rfl

/-- The bytes of a text of ASCII characters. -/
def asciiBytes (text : List Char) : Bytes := text.map fun c => UInt8.ofNat c.toNat

theorem encode_ascii {text : List Char} (h : ∀ c ∈ text, c.toNat < 128) :
    Text.encode text = asciiBytes text := by
  induction text with
  | nil => rfl
  | cons c text ih =>
    have hcons : Text.encode (c :: text) = String.utf8EncodeChar c ++ Text.encode text :=
      List.flatMap_cons
    rw [hcons, encodeChar_ascii (h c List.mem_cons_self),
      ih fun d hd => h d (List.mem_cons_of_mem _ hd)]
    rfl

theorem toNat_ofNat_ascii {n : Nat} (h : n < 128) : (UInt8.ofNat n).toNat = n := by
  rw [UInt8.toNat_ofNat']
  omega

/-- The characters of the header of a token. -/
def bearerText (credential : String) : List Char := "Bearer ".toList ++ credential.toList

theorem bearerText_ascii {credential : String} (h : IsToken credential) :
    ∀ c ∈ bearerText credential, 32 ≤ c.toNat ∧ c.toNat ≤ 126 := by
  intro c hc
  rcases List.mem_append.mp hc with hc | hc
  · have hprefix : ("Bearer ".toList.all fun c => 32 ≤ c.toNat && c.toNat ≤ 126) = true := by
      decide
    have hc := List.all_eq_true.mp hprefix c hc
    simpa using hc
  · have hgraphic := h.graphic c hc
    unfold Graphic at hgraphic
    omega

/-- The bytes of printable text are printable. -/
theorem mem_asciiBytes {text : List Char} (h : ∀ c ∈ text, 32 ≤ c.toNat ∧ c.toNat ≤ 126)
    {byte : UInt8} (hbyte : byte ∈ asciiBytes text) : 32 ≤ byte ∧ byte < 127 := by
  rcases List.mem_map.mp hbyte with ⟨c, hc, rfl⟩
  have hc := h c hc
  rw [UInt8.le_iff_toNat_le, UInt8.lt_iff_toNat_lt, toNat_ofNat_ascii (by omega)]
  exact ⟨hc.1, Nat.lt_succ_of_le hc.2⟩

/-- The header of a token is its characters, one byte each. -/
theorem headerValue_bearer {credential : String} (h : IsToken credential) :
    headerValue ("Bearer " ++ credential) = some (asciiBytes (bearerText credential)) := by
  have hbytes : Text.encode ("Bearer " ++ credential).toList =
      asciiBytes (bearerText credential) := by
    rw [String.toList_append]
    apply encode_ascii
    intro c hc
    have hc := bearerText_ascii h c hc
    omega
  unfold headerValue
  dsimp only
  rw [hbytes, if_pos]
  rw [List.all_eq_true]
  intro byte hbyte
  obtain ⟨hlow, hhigh⟩ := mem_asciiBytes (bearerText_ascii h) hbyte
  have hdelete : byte ≠ 127 := by
    rintro rfl
    exact absurd hhigh (by decide)
  simp [hlow, hdelete]

end Upstream

end SmartGateway
