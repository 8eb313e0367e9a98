import SmartGateway.Application.StreamProtocol
import SmartGateway.Inbound.Rendering

/-! # Relayed streams

What the client of a stream is sent is determined by the bytes of the upstream response, however
they are cut and whatever the stores answer meanwhile. A gateway that reads the stream of another
gateway as its upstream therefore sends it on as it is, and so does any number of gateways in a
row; each of them records the attempt by how the stream has ended.
-/

namespace SmartGateway

namespace Inbound

open Upstream
open Program (Path)

/-- A stream that was just committed. -/
def committedStream (attempt : StreamAttempt) (source : List SourcePoll) : PublicStream :=
  { upstream := .new source, attempt, pendingTerminal := none, terminalEmitted := false }

/-- What an attempt does once its client has read `last` as the last event: it records a terminal
event, and that the client went away otherwise. -/
def concluding (attempt : StreamAttempt) : Option StreamEvent → UseCase OpenAiSseDecoder Unit
  | some .completed => attempt.succeed
  | some (.failed failure) => attempt.fail failure
  | _ => attempt.cancel

/-- Some looks at the clock, and then the calls of a program. -/
def ReadsThenCalls (program : UseCase OpenAiSseDecoder Unit)
    (past : List (Event (application OpenAiSseDecoder))) : Prop :=
  ∃ looks own, past = looks ++ own ∧ (∀ event ∈ looks, event.op = .unixTime) ∧
    Path program own (.pure ())

theorem ReadsThenCalls.look {program : UseCase OpenAiSseDecoder Unit}
    {past : List (Event (application OpenAiSseDecoder))} (h : ReadsThenCalls program past)
    (clock : Option Nat) : ReadsThenCalls program (⟨.unixTime, clock⟩ :: past) := by
  rcases h with ⟨looks, own, rfl, hlooks, hown⟩
  refine ⟨⟨.unixTime, clock⟩ :: looks, own, rfl, ?_, hown⟩
  intro event hevent
  rcases List.mem_cons.mp hevent with rfl | hevent
  · rfl
  · exact hlooks event hevent

/-! ## What a client reads -/

section Reading

variable {codec : ChunkCodec OpenAiChatCompletionChunk} {stream : PublicStream}
  {past : List (Event (application OpenAiSseDecoder))} {sent : List StreamEvent}

/-- A client that reads nothing more leaves an attempt to cancel. -/
theorem calls_of_drop (stream : PublicStream) (hopen : stream.terminalEmitted = false)
    (h : Path (stream.drop.bind fun _ => .pure []) past (.pure sent)) :
    sent = [] ∧ ReadsThenCalls stream.attempt.cancel past := by
  obtain ⟨own, ⟨⟩, rest, rfl, hdrop, hrest⟩ := h.bind_pure
  obtain ⟨rfl, hsent⟩ := Program.path_pure_iff.mp hrest
  unfold ManagedInferenceStream.drop at hdrop
  rw [hopen, if_neg (by decide)] at hdrop
  refine ⟨Program.pure.inj hsent, [], own, ?_, ?_, hdrop⟩
  · rw [List.append_nil, List.nil_append]
  · simp

/-- The event that ends a stream is read alone, and its attempt is recorded by it. -/
theorem calls_of_last {attempt : StreamAttempt} (last : StreamEvent)
    (h : Path ((concluding attempt (some last)).bind fun _ => .pure [last]) past (.pure sent)) :
    sent = [last] ∧ ReadsThenCalls (concluding attempt sent.getLast?) past := by
  obtain ⟨own, ⟨⟩, rest, rfl, hown, hrest⟩ := h.bind_pure
  obtain ⟨rfl, hsent⟩ := Program.path_pure_iff.mp hrest
  obtain rfl : sent = [last] := Program.pure.inj hsent
  refine ⟨rfl, [], own, ?_, ?_, hown⟩
  · rw [List.append_nil, List.nil_append]
  · simp

/-- A client that reads `events` events of a stream is sent the first of those its upstream is
expected to return, and the attempt is recorded by the last of them. -/
theorem sent_readStream {events : Nat} (hopen : stream.terminalEmitted = false)
    (hlive : stream.upstream.terminal = false) (hfits : stream.upstream.Fits codec)
    (h : Path (readStream codec events stream) past (.pure sent)) :
    ∃ clock, sent = (stream.upstream.expected codec clock).take events ∧
      ReadsThenCalls (concluding stream.attempt sent.getLast?) past := by
  -- Along the events the client reads; the decoder has returned the ones before.
  induction events generalizing stream past sent with
  | zero =>
    obtain ⟨rfl, hcalls⟩ := calls_of_drop stream hopen h
    exact ⟨none, rfl, hcalls⟩
  | succ events ih =>
    cases h with
    | head clock h =>
      have hnext := OpenAiSseDecoder.polled_next clock hfits
      dsimp only [Program.bind] at h
      generalize stream.upstream.next codec clock = polled at h hnext
      obtain ⟨result, upstream⟩ := polled
      rcases hnext with ⟨hpending, hnone⟩ | ⟨returned, hreturned, hpolled⟩
      · -- The upstream brings nothing more: the client gives up.
        cases hpending
        obtain ⟨rfl, hcalls⟩ := calls_of_drop { stream with upstream } hopen h
        refine ⟨clock, ?_, hcalls.look clock⟩
        rw [hnone clock, List.take_nil]
      cases hreturned
      rcases returned with _ | (chunk | _ | failure)
      · -- Nothing more is returned only by a decoder that is not open.
        have hterminal : stream.upstream.terminal = true := hpolled.2
        rw [hlive] at hterminal
        cases hterminal
      · have hadvances : OpenAiSseDecoder.Advances codec stream.upstream [.frame chunk] upstream :=
          hpolled
        obtain ⟨read, later, rest, rfl, hread, hrest⟩ := Path.bind_pure h
        obtain ⟨rfl, hsent⟩ := Program.path_pure_iff.mp hrest
        obtain rfl : sent = .frame chunk :: later := Program.pure.inj hsent
        obtain ⟨instant, hlater, hcalls⟩ := @ih { stream with upstream } read later hopen
          hadvances.isOpen (hadvances.fits.mpr hfits) hread
        have hlast : concluding stream.attempt (.frame chunk :: later).getLast? =
            concluding stream.attempt later.getLast? := by
          cases later with
          | nil => rfl
          | cons second later => rw [List.getLast?_cons_cons]
        refine ⟨instant, ?_, ?_⟩
        · rw [hadvances.rest, hlater, List.singleton_append, List.take_succ_cons]
        · rw [hlast, List.append_nil]
          exact hcalls.look clock
      · have hends : OpenAiSseDecoder.Ends codec clock stream.upstream .completed upstream :=
          hpolled
        obtain ⟨rfl, hcalls⟩ := calls_of_last .completed h
        refine ⟨clock, ?_, hcalls.look clock⟩
        rw [hends.last, List.take_succ_cons, List.take_nil]
      · have hends : OpenAiSseDecoder.Ends codec clock stream.upstream (.failed failure)
            upstream := hpolled
        obtain ⟨rfl, hcalls⟩ := calls_of_last (.failed failure) h
        refine ⟨clock, ?_, hcalls.look clock⟩
        rw [hends.last, List.take_succ_cons, List.take_nil]

end Reading

/-! ## Gateways in a row -/

section Row

variable {parse : String → Option Json} {print : Json → String}

/-- The body of a stream of events. -/
def bodyOf (print : Json → String) (sent : List StreamEvent) : List Bytes :=
  publicSseStream (fun value => some (print value)) sent

/-- A gateway relays a stream: it reads `source` in chunks that fit, makes the calls of `past`
while it does, and its client, which stays until the stream ends, is sent `body`. -/
structure Relays (parse : String → Option Json) (print : Json → String)
    (source : List SourcePoll) (attempt : StreamAttempt)
    (past : List (Event (application OpenAiSseDecoder))) (body : List Bytes) : Prop where
  fits : FitsFrom (chunkCodec parse) .start source
  sent : ∃ events sent,
    Path (readStream (chunkCodec parse) events (committedStream attempt source)) past
      (.pure sent) ∧
    (∃ event ∈ sent, Terminal event) ∧ body = bodyOf print sent

/-- A body and what is left of it after it went through some gateways, each of which reads what
the one before it has sent, with the attempt of each and its calls. -/
inductive RelayedThrough (parse : String → Option Json) (print : Json → String)
    (first : List Bytes) :
    List (StreamAttempt × List (Event (application OpenAiSseDecoder))) → List Bytes → Prop where
  | direct : RelayedThrough parse print first [] first
  | hop {relays : List (StreamAttempt × List (Event (application OpenAiSseDecoder)))}
      {body body' : List Bytes} {source : List SourcePoll} {attempt : StreamAttempt}
      {past : List (Event (application OpenAiSseDecoder))}
      (h : RelayedThrough parse print first relays body)
      (hsource : received source = body.flatten)
      (hrelays : Relays parse print source attempt past body') :
      RelayedThrough parse print first (relays ++ [(attempt, past)]) body'

/-- What is expected of a decoder that reads a public stream. -/
theorem expected_of_stream (hparse : ReadsJson parse) {frames : List OpenAiChatCompletionChunk}
    {last : StreamEvent} (hlast : Terminal last)
    (hcarried : ∀ event ∈ streamOf frames last,
      Carried (fun value => some (print value)) parse event)
    {source : List SourcePoll}
    (hsource : received source = (bodyOf print (streamOf frames last)).flatten)
    (clock : Option Nat) :
    (OpenAiSseDecoder.new source).expected (chunkCodec parse) clock =
      streamOf frames (relayed clock last) := by
  have hframes : Upstream.frames (received source) =
      (streamOf frames last).map (eventFrame fun value => some (print value)) := by
    rw [hsource, Upstream.frames, bodyOf, cutFrom_stream hcarried]
  rw [OpenAiSseDecoder.expected_new, hframes, outcome_stream hparse hlast hcarried clock]
  rfl

/-- What a client is sent of a stream is all of it if it is sent an event that ends it. -/
theorem take_of_terminal {frames : List OpenAiChatCompletionChunk} {last : StreamEvent}
    {events : Nat} (h : ∃ event ∈ (streamOf frames last).take events, Terminal event) :
    (streamOf frames last).take events = streamOf frames last := by
  rcases h with ⟨event, hevent, hterminal⟩
  apply List.take_of_length_le
  unfold streamOf at hevent ⊢
  rw [List.length_append, List.length_map, List.length_singleton]
  -- A shorter part has frames only.
  by_contra hshort
  have hfew : events ≤ (frames.map .frame : List StreamEvent).length := by
    rw [List.length_map]
    omega
  rw [List.take_append_of_le_length hfew] at hevent
  rcases List.mem_map.mp (List.mem_of_mem_take hevent) with ⟨frame, -, rfl⟩
  exact hterminal

/-- A gateway writes what ends a stream as the gateway before it has written it. -/
theorem bodyOf_relayed (frames : List OpenAiChatCompletionChunk) (clock : Option Nat)
    (last : StreamEvent) :
    bodyOf print (streamOf frames (relayed clock last)) = bodyOf print (streamOf frames last) := by
  have hlast : publicSseItem (fun value => some (print value)) (relayed clock last) =
      publicSseItem (fun value => some (print value)) last := by
    cases last <;> rfl
  unfold bodyOf publicSseStream streamOf
  rw [List.map_append, List.map_append, List.map_singleton, List.map_singleton, hlast]

section Stream

variable {frames : List OpenAiChatCompletionChunk} {last : StreamEvent}

/-- One gateway sends a public stream on as it is, and records how it has ended. -/
theorem Relays.unchanged (hparse : ReadsJson parse) (hlast : Terminal last)
    (hcarried : ∀ event ∈ streamOf frames last,
      Carried (fun value => some (print value)) parse event)
    {source : List SourcePoll} {attempt : StreamAttempt}
    {past : List (Event (application OpenAiSseDecoder))} {body : List Bytes}
    (h : Relays parse print source attempt past body)
    (hsource : received source = (bodyOf print (streamOf frames last)).flatten) :
    body = bodyOf print (streamOf frames last) ∧
      ∃ clock, ReadsThenCalls (concluding attempt (some (relayed clock last))) past := by
  obtain ⟨events, sent, hpath, hterminal, rfl⟩ := h.sent
  have hfits : (committedStream attempt source).upstream.Fits (chunkCodec parse) :=
    (OpenAiSseDecoder.fits_new _ _).mpr h.fits
  obtain ⟨clock, rfl, hcalls⟩ := sent_readStream rfl rfl hfits hpath
  have hexpected := expected_of_stream hparse hlast hcarried hsource clock
  rw [committedStream, hexpected] at hterminal hcalls ⊢
  rw [take_of_terminal hterminal] at hcalls ⊢
  refine ⟨bodyOf_relayed frames clock last, clock, ?_⟩
  have hend : (streamOf frames (relayed clock last)).getLast? = some (relayed clock last) := by
    rw [streamOf, List.getLast?_append]
    rfl
  rw [hend] at hcalls
  exact hcalls

/-- A public stream goes through any number of gateways byte for byte and item for item, in
whatever pieces the size guards of each of them let in, and every one of them records the end it
had. -/
theorem stream_relayed_unchanged (hparse : ReadsJson parse) (hlast : Terminal last)
    (hcarried : ∀ event ∈ streamOf frames last,
      Carried (fun value => some (print value)) parse event)
    {relays : List (StreamAttempt × List (Event (application OpenAiSseDecoder)))}
    {body : List Bytes}
    (h : RelayedThrough parse print (bodyOf print (streamOf frames last)) relays body) :
    body = bodyOf print (streamOf frames last) ∧
      ∀ relay ∈ relays,
        ∃ clock, ReadsThenCalls (concluding relay.1 (some (relayed clock last))) relay.2 := by
  induction h with
  | direct => exact ⟨rfl, by simp⟩
  | hop _ hsource hrelays ih =>
    rcases ih with ⟨rfl, hbefore⟩
    obtain ⟨hbody, hconcluded⟩ := hrelays.unchanged hparse hlast hcarried hsource
    refine ⟨hbody, ?_⟩
    intro relay hrelay
    rcases List.mem_append.mp hrelay with hrelay | hrelay
    · exact hbefore relay hrelay
    · rw [List.mem_singleton.mp hrelay]
      exact hconcluded

end Stream

end Row

/-! ## The stream of a chunk with the markers of the protocol in it -/

def printMarker (_ : Json) : String := quotedMarkerText

/-- The stream in two pieces, with a poll between them that brings nothing. -/
def quotedSource : List SourcePoll :=
  [.ready (some (.ok (publicSseItem printQuoted (.frame quotedMarker)))), .pending,
    .ready (some (.ok (publicSseItem printQuoted .completed)))]

def quotedAttempt : StreamAttempt where
  usageSpool := false
  attemptId := .least
  requestId := "request"
  routeId := "route"
  providerAccountId := "account"

theorem carried_quotedStream : ∀ event ∈ streamOf [quotedMarker] .completed,
    Carried (fun value => some (printMarker value)) parseQuoted event := by
  intro event hevent
  rcases List.mem_cons.mp hevent with rfl | hevent
  · exact carried_quotedMarker
  · rw [List.mem_singleton.mp hevent]
    trivial

/-- Some gateway relays it. -/
theorem exists_relays_quoted : ∃ past body,
    Relays parseQuoted printMarker quotedSource quotedAttempt past body := by
  have hfits : FitsFrom (chunkCodec parseQuoted) .start quotedSource := by
    apply OpenAiSseDecoder.fitsFrom_of_length
    decide +kernel
  obtain ⟨past, sent, hpath⟩ := Program.exists_path_pure StreamLife.nonempty_answer
    (readStream (chunkCodec parseQuoted) 2 (committedStream quotedAttempt quotedSource))
  obtain ⟨clock, hsent, -⟩ := sent_readStream rfl rfl
    ((OpenAiSseDecoder.fits_new _ _).mpr hfits) hpath
  have hreceived : received quotedSource =
      (bodyOf printMarker (streamOf [quotedMarker] .completed)).flatten := rfl
  have hlast : Terminal (.completed : StreamEvent) := trivial
  have hexpected := expected_of_stream readsJson_parseQuoted hlast carried_quotedStream hreceived
    clock
  refine ⟨past, bodyOf printMarker sent, hfits, 2, sent, hpath, ⟨.completed, ?_, trivial⟩, rfl⟩
  rw [hsent, committedStream, hexpected]
  exact List.mem_cons_of_mem _ (List.mem_singleton_self _)

/-- A row of one gateway. -/
theorem quoted_stream_relayed : ∃ past,
    RelayedThrough parseQuoted printMarker
      (bodyOf printMarker (streamOf [quotedMarker] .completed)) [(quotedAttempt, past)]
      (bodyOf printMarker (streamOf [quotedMarker] .completed)) ∧
    ∀ relay ∈ [(quotedAttempt, past)],
      ∃ clock, ReadsThenCalls (concluding relay.1 (some (relayed clock .completed))) relay.2 := by
  obtain ⟨past, body, hrelays⟩ := exists_relays_quoted
  have hthrough : RelayedThrough parseQuoted printMarker
      (bodyOf printMarker (streamOf [quotedMarker] .completed)) ([] ++ [(quotedAttempt, past)])
      body := .hop .direct rfl hrelays
  have hlast : Terminal (.completed : StreamEvent) := trivial
  obtain ⟨rfl, hconcluded⟩ :=
    stream_relayed_unchanged readsJson_parseQuoted hlast carried_quotedStream hthrough
  exact ⟨past, hthrough, hconcluded⟩

end Inbound

end SmartGateway
