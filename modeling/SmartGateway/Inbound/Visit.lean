import SmartGateway.Application.Books
import SmartGateway.Inbound.Handler

/-! # Visits

A request whose client may go away at any time: between two events of a stream, as `Arrival` has
it, or while the end of the stream is recorded. The call that is under way is then made, nobody
waits for its answer, and the task that the drop spawns cancels the attempt.
-/

namespace SmartGateway

namespace Inbound

open Upstream
open Program (Always)

/-! ## Clients that go away -/

/-- `readStream` of a client that goes away after `awaited` of the calls that record the end of the
stream were answered, if there are more. -/
def readUntil (codec : ChunkCodec OpenAiChatCompletionChunk) (awaited : Option Nat) :
    Nat → PublicStream → UseCase OpenAiSseDecoder (List StreamEvent)
  | 0, stream => stream.drop.bind fun _ => .pure []
  | events + 1, stream =>
    (ask .unixTime).bind fun clock =>
      let (result, upstream) := stream.upstream.next codec clock
      match ManagedInferenceStream.receive { stream with upstream } result with
      | (some (.ready (some event)), stream) =>
        (readUntil codec awaited events stream).bind fun later => .pure (event :: later)
      | (some _, stream) => stream.drop.bind fun _ => .pure []
      | (none, stream) =>
        match stream.pendingTerminal with
        | some (event, program) =>
          match awaited with
          | none => program.bind fun _ => .pure [event]
          | some awaited =>
            (program.bind fun _ => .pure [event]).cutShort
              (stream.attempt.cancel.bind fun _ => .pure []) awaited
        | none => .pure []

/-- `Response.send` to such a client. -/
def Response.sendUntil (parse : String → Option Json) (print : Json → String) (events : Nat)
    (awaited : Option Nat) (response : Response) : UseCase OpenAiSseDecoder ClientResponse :=
  match response.body with
  | .json value =>
    .pure
      { status := response.status
        headers := response.headers
        body := [Text.encode (print value).toList] }
  | .events stream =>
    (readUntil (chunkCodec parse) awaited events stream).bind fun sent =>
      .pure
        { status := response.status
          headers := response.headers
          body := publicSseStream (fun value => some (print value)) sent }

/-- An arrival, and how many answers to the calls that record the end of its stream the client
stays for, if it does not stay to the end. -/
structure Visit extends Arrival where
  awaited : Option Nat

def Visit.serve (visit : Visit) (parse : String → Option Json) (print : Json → String)
    (gateway : Gateway) : UseCase OpenAiSseDecoder ClientResponse :=
  if visit.request.path = "/v1/chat/completions" ∧ visit.request.method = "POST" then
    (chatCompletion gateway visit.requestId visit.request.headers visit.request.payload).bind
      fun response => response.sendUntil parse print visit.events visit.awaited
  else visit.toArrival.serve parse print gateway

theorem readUntil_none (codec : ChunkCodec OpenAiChatCompletionChunk) (events : Nat)
    (stream : PublicStream) :
    readUntil codec none events stream = readStream codec events stream := by
  induction events generalizing stream with
  | zero => rfl
  | succ events ih =>
    have hlater : readUntil codec none events = readStream codec events := funext ih
    unfold readUntil readStream
    exact hlater ▸ rfl

/-- A client that stays to the end is served as an arrival. -/
theorem Visit.serve_eq {visit : Visit} (h : visit.awaited = none) (parse : String → Option Json)
    (print : Json → String) (gateway : Gateway) :
    visit.serve parse print gateway = visit.toArrival.serve parse print gateway := by
  unfold Visit.serve
  split
  · next hchat =>
    unfold Arrival.serve router
    rw [if_pos hchat.1, if_pos hchat.2, h]
    have hsend : ∀ response : Response, response.sendUntil parse print visit.events none =
        response.send parse print visit.events := by
      intro response
      have hread : readUntil (chunkCodec parse) none visit.events =
          readStream (chunkCodec parse) visit.events := funext (readUntil_none _ _)
      unfold Response.sendUntil Response.send
      exact hread ▸ rfl
    simp only [hsend]
  · rfl

/-! ## What a client has seen -/

/-- Events that are read of a stream one after the other, each at some time, up to its end at most.
A stream that ends without a terminal event has failed. -/
inductive ReadsAs (codec : ChunkCodec OpenAiChatCompletionChunk) :
    OpenAiSseDecoder → List StreamEvent → Prop where
  | stopped (upstream : OpenAiSseDecoder) : ReadsAs codec upstream []
  | frame {upstream upstream' : OpenAiSseDecoder} {chunk : OpenAiChatCompletionChunk}
    {later : List StreamEvent} (clock : Option Nat)
    (h : upstream.next codec clock = (.ready (some (.frame chunk)), upstream'))
    (hlater : ReadsAs codec upstream' later) : ReadsAs codec upstream (.frame chunk :: later)
  | completed {upstream upstream' : OpenAiSseDecoder} (clock : Option Nat)
    (h : upstream.next codec clock = (.ready (some .completed), upstream')) :
    ReadsAs codec upstream [.completed]
  | failed {upstream upstream' : OpenAiSseDecoder} {failure : ProviderFailure} (clock : Option Nat)
    (h : upstream.next codec clock = (.ready (some (.failed failure)), upstream')) :
    ReadsAs codec upstream [.failed failure]
  | ended {upstream upstream' : OpenAiSseDecoder} (clock : Option Nat)
    (h : upstream.next codec clock = (.ready none, upstream')) :
    ReadsAs codec upstream [.failed sanitizedPostCommitFailure]

/-- The events of a stream in a response, which has none if it is no stream. -/
def ClientResponse.Holds (print : Json → String) (response : ClientResponse)
    (sent : List StreamEvent) : Prop :=
  if ("content-type", "text/event-stream") ∈ response.headers then
    response.body = publicSseStream (fun value => some (print value)) sent
  else sent = []

/-- What the end of a stream is recorded with, as its client has seen it: the terminal event that
was sent last, or else that the client has gone away. One that goes away while the end is recorded
does not see it. -/
def Recounts (awaited : Option Nat) (sent : List StreamEvent) (record : AttemptRecord) : Prop :=
  match sent.getLast? with
  | some .completed => record.outcome = .succeeded
  | some (.failed failure) =>
    record.outcome = .partialFailed ∧ record.failureCategory = some failure.category.debug
  | _ => awaited = none → record.outcome = .cancelled

/-- A frame is no end. -/
theorem Recounts.frame {awaited : Option Nat} {later : List StreamEvent} {record : AttemptRecord}
    (h : Recounts awaited later record) (chunk : OpenAiChatCompletionChunk) :
    Recounts awaited (.frame chunk :: later) record := by
  cases later with
  | nil => exact h
  | cons event later =>
    unfold Recounts at h ⊢
    rw [List.getLast?_cons_cons]
    exact h

/-! ## The books of a visit -/

section Books

open History

variable {usageSpool : Bool} {requestId : String} {past : History OpenAiSseDecoder}
  {invoked : Invocation OpenAiSseDecoder} {stream : PublicStream}

/-- The stream is dropped before its end, and its client is sent nothing more. -/
theorem books_drop (codec : ChunkCodec OpenAiChatCompletionChunk) (awaited : Option Nat)
    {upstream : OpenAiSseDecoder}
    (h : Streams usageSpool requestId NoEnd past invoked stream.attempt)
    (hopen : stream.terminalEmitted = false) :
    Always (S := application OpenAiSseDecoder)
      (Works usageSpool requestId invoked stream.attempt.attemptId)
      (fun past' sent => Booked usageSpool requestId (Recounts awaited sent) past' ∧
        ReadsAs codec upstream sent) past (stream.drop.bind fun _ => .pure []) := by
  have hany : Streams usageSpool requestId (Recounts awaited []) past invoked stream.attempt :=
    h.mono fun _ hnone => False.elim hnone
  unfold ManagedInferenceStream.drop
  rw [if_neg (by simp [hopen])]
  refine (hany.cancel fun _ => rfl).bind ?_
  intro past' _ hbooked
  exact ⟨hbooked, .stopped upstream⟩

/-- The end of the stream is recorded with `program`, and then sent, unless the client goes away
meanwhile: the books are closed, and say what was sent. -/
theorem books_settle {codec : ChunkCodec OpenAiChatCompletionChunk} {awaited : Option Nat}
    {upstream : OpenAiSseDecoder}
    (h : Streams usageSpool requestId NoEnd past invoked stream.attempt)
    {event : StreamEvent} {program : UseCase OpenAiSseDecoder Unit}
    (hread : ReadsAs codec upstream [event]) :
    Always (S := application OpenAiSseDecoder)
      (Works usageSpool requestId invoked stream.attempt.attemptId)
      (fun past' _ => Booked usageSpool requestId (Recounts awaited [event]) past') past program →
    Always (S := application OpenAiSseDecoder)
      (Works usageSpool requestId invoked stream.attempt.attemptId)
      (fun past' sent => Booked usageSpool requestId (Recounts awaited sent) past' ∧
        ReadsAs codec upstream sent) past
      (match awaited with
        | none => program.bind fun _ => .pure [event]
        | some awaited =>
          (program.bind fun _ => .pure [event]).cutShort
            (stream.attempt.cancel.bind fun _ => .pure []) awaited) := by
  intro hprogram
  have hsends : Always (S := application OpenAiSseDecoder)
      (Works usageSpool requestId invoked stream.attempt.attemptId)
      (fun past' sent => Booked usageSpool requestId (Recounts awaited sent) past' ∧
        ReadsAs codec upstream sent) past (program.bind fun _ => .pure [event]) := by
    refine hprogram.bind ?_
    intro past' _ hbooked
    exact ⟨hbooked, hread⟩
  cases awaited with
  | none => exact hsends
  | some awaited =>
    refine h.cutShort hsends ?_ awaited
    intro past' hnow
    -- to a client that has gone away any end is hidden
    have hhidden : Streams usageSpool requestId (Recounts (some awaited) []) past' invoked
        stream.attempt := hnow.mono fun _ _ hnone => nomatch hnone
    refine (hhidden.cancel fun _ => rfl).bind ?_
    intro past'' _ hbooked
    exact ⟨hbooked, .stopped upstream⟩

/-- Reading a stream to any end closes its attempt, with what its client was sent last. The
induction is on the events that the client reads. -/
theorem books_readUntil (codec : ChunkCodec OpenAiChatCompletionChunk) (awaited : Option Nat)
    (events : Nat) (h : Streams usageSpool requestId NoEnd past invoked stream.attempt)
    (hopen : stream.terminalEmitted = false) :
    Always (S := application OpenAiSseDecoder)
      (Works usageSpool requestId invoked stream.attempt.attemptId)
      (fun past' sent => Booked usageSpool requestId (Recounts awaited sent) past' ∧
        ReadsAs codec stream.upstream sent) past
      (readUntil codec awaited events stream) := by
  induction events generalizing past stream with
  | zero => exact books_drop codec awaited h hopen
  | succ events ih =>
    refine ⟨⟨h.current.any, rfl, offersOwn_of_none rfl⟩, fun clock => ?_⟩
    have hlater : Later past (past ++ [⟨.unixTime, clock⟩]) := later_snoc past .unixTime rfl clock
    dsimp only [Program.bind]
    cases hpolled : stream.upstream.next codec clock with
    | mk result upstream =>
      have hread : Streams usageSpool requestId NoEnd (past ++ [⟨.unixTime, clock⟩]) invoked
          ({ stream with upstream } : PublicStream).attempt := h.later hlater
      have hnow {ends : AttemptRecord → Prop} :
          Streams usageSpool requestId ends (past ++ [⟨.unixTime, clock⟩]) invoked
            ({ stream with upstream } : PublicStream).attempt :=
        hread.mono fun _ hnone => False.elim hnone
      rcases result with _ | _ | (chunk | _ | failure)
      · exact books_drop codec awaited hread hopen
      · -- the source has ended without a terminal event
        exact books_settle hread (.ended clock hpolled) (hnow.fail _ ⟨rfl, rfl⟩)
      · refine (ih hread hopen).bind ?_
        rintro past' later ⟨hbooked, hreads⟩
        exact ⟨hbooked.mono fun _ hrecord => hrecord.frame chunk, .frame clock hpolled hreads⟩
      · exact books_settle hread (.completed clock hpolled) (hnow.succeed rfl)
      · exact books_settle hread (.failed clock hpolled) (hnow.fail _ ⟨rfl, rfl⟩)

variable {parse : String → Option Json} {print : Json → String} {gateway : Gateway}

/-- What a visit leaves: closed books, which say what its client was sent; that was read of the
stream with which the last execution has answered. -/
def Sends (parse : String → Option Json) (print : Json → String) (usageSpool : Bool)
    (requestId : String) (awaited : Option Nat) (past : History OpenAiSseDecoder)
    (response : ClientResponse) : Prop :=
  ∃ sent, response.Holds print sent ∧
    Booked usageSpool requestId (Recounts awaited sent) past ∧
      ∀ invoked ∈ (past.filterMap invocation).getLast?, ∀ upstream,
        invoked.result = .ok (.streaming upstream) → ReadsAs (chunkCodec parse) upstream sent

/-- A response that is no stream. -/
theorem sends_of_booked (h : Booked usageSpool requestId NoEnd past) (awaited : Option Nat)
    {response : ClientResponse}
    (hheaders : ("content-type", "text/event-stream") ∉ response.headers) :
    Sends parse print usageSpool requestId awaited past response := by
  refine ⟨[], ?_, h.mono fun _ hnone => False.elim hnone, fun _ _ upstream _ => .stopped upstream⟩
  rw [ClientResponse.Holds, if_neg hheaders]

theorem sends_json (h : Booked usageSpool requestId NoEnd past) (awaited : Option Nat)
    {response : ClientResponse}
    (hheaders : response.headers = [("content-type", "application/json")]) :
    Sends parse print usageSpool requestId awaited past response := by
  refine sends_of_booked h awaited ?_
  rw [hheaders]
  decide

theorem books_sendUntil (events : Nat) (awaited : Option Nat)
    {result : InferenceResult OpenAiSseDecoder OpenAiChatCompletionChunk}
    (h : Leaves usageSpool requestId past result) :
    Always (S := application OpenAiSseDecoder) (OffersOwn requestId)
      (Sends parse print usageSpool requestId awaited) past
      ((applicationErrorResponse result).sendUntil parse print events awaited) := by
  rcases result with (_ | text | _ | text) | response | stream
  · exact sends_json h awaited rfl
  · exact sends_json h awaited rfl
  · exact sends_json h awaited rfl
  · exact sends_json h awaited rfl
  · exact sends_json h awaited rfl
  · rcases h with ⟨hopen, invoked, hstreams, hbody⟩
    have hread := (books_readUntil (chunkCodec parse) awaited events hstreams hopen).unseen
      fun _ _ answer hworks => invocation_of_begins hworks.2.1 answer
    refine (hread.bind ?_).mono (fun _ _ hop => hop.2.2) fun _ _ hsends => hsends
    rintro past' sent ⟨⟨hbooked, hreads⟩, hsame⟩
    refine ⟨sent, rfl, hbooked, ?_⟩
    intro last hlast upstream hlastBody
    rcases hstreams.current.last with ⟨earlier, finals, hinvocation, -⟩
    rw [hsame, hinvocation, List.getLast?_concat] at hlast
    cases hlast
    cases hbody.symm.trans hlastBody
    exact hreads

/-- A chat request, whatever it is answered and however its client behaves. -/
theorem books_chatCompletion (parse : String → Option Json) (print : Json → String)
    (gateway : Gateway) (visit : Visit) :
    Always (S := application OpenAiSseDecoder) (OffersOwn visit.requestId)
      (Sends parse print gateway.usageSpool visit.requestId visit.awaited) []
      ((chatCompletion gateway visit.requestId visit.request.headers visit.request.payload).bind
        fun response => response.sendUntil parse print visit.events visit.awaited) := by
  have hnothing : Booked gateway.usageSpool visit.requestId NoEnd ([] : History OpenAiSseDecoder) :=
    booked_nil gateway.usageSpool visit.requestId
  unfold chatCompletion
  cases bearer visit.request.headers with
  | none => exact sends_json hnothing visit.awaited rfl
  | some key =>
    cases visit.request.payload with
    | none => exact sends_json hnothing visit.awaited rfl
    | some value =>
      dsimp only
      cases decodeRequest value with
      | error failure => exact sends_json hnothing visit.awaited rfl
      | ok input =>
        have hinfer : Always (S := application OpenAiSseDecoder) (OffersOwn visit.requestId)
            (Leaves gateway.usageSpool visit.requestId) []
            (gateway.infer key (input.toInferenceRequest visit.requestId).toInferenceRequest :
              UseCase OpenAiSseDecoder
                (InferenceResult OpenAiSseDecoder OpenAiChatCompletionChunk)) :=
          books_infer gateway key (input.toInferenceRequest visit.requestId).toInferenceRequest
        have hrespond : Always (S := application OpenAiSseDecoder) (OffersOwn visit.requestId)
            (fun past response => ∃ result,
              Leaves gateway.usageSpool visit.requestId past result ∧
                response = applicationErrorResponse result) []
            ((gateway.infer key
              (input.toInferenceRequest visit.requestId).toInferenceRequest).bind fun result =>
                .pure (applicationErrorResponse result)) :=
          hinfer.bind fun _ result hresult => ⟨result, hresult, rfl⟩
        refine hrespond.bind ?_
        rintro past _ ⟨result, hleaves, rfl⟩
        exact books_sendUntil visit.events visit.awaited hleaves

/-- Whatever it is answered and however its client behaves, a visit hands over records of its own
executions only, and leaves closed books that say what its client was sent. -/
theorem books_serve (parse : String → Option Json) (print : Json → String) (gateway : Gateway)
    (visit : Visit) :
    Always (S := application OpenAiSseDecoder) (OffersOwn visit.requestId)
      (Sends parse print gateway.usageSpool visit.requestId visit.awaited) []
      (visit.serve parse print gateway) := by
  have hnothing : Booked gateway.usageSpool visit.requestId NoEnd ([] : History OpenAiSseDecoder) :=
    booked_nil gateway.usageSpool visit.requestId
  unfold Visit.serve
  split
  · exact books_chatCompletion parse print gateway visit
  · next hchat =>
    -- the other answers of the router make no calls
    unfold Arrival.serve router
    split
    · next hpath =>
      rw [if_neg fun hmethod => hchat ⟨hpath, hmethod⟩]
      exact sends_of_booked hnothing visit.awaited (by decide)
    · split
      · split
        · exact sends_of_booked hnothing visit.awaited (by decide)
        · exact sends_of_booked hnothing visit.awaited (by decide)
      · exact sends_of_booked hnothing visit.awaited (by decide)

end Books

end Inbound

end SmartGateway
