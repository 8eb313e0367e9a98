import SmartGateway.ChatCompletionChunk
import SmartGateway.Upstream.Chunking

/-! # The public stream

`public_sse_stream` writes the events of a committed attempt as server-sent events, one item an
event. A gateway that reads such a stream as its upstream gets the events back.
-/

namespace SmartGateway

namespace Inbound

open Upstream

abbrev StreamEvent := InferenceStreamEvent OpenAiChatCompletionChunk

/-- `{"error":{"message":…,"type":"upstream_error","code":"upstream_error"}}`. -/
def publicErrorText : String :=
  "\x7b\"error\":\x7b\"message\":\"The configured upstream provider could not complete the stream\",\"type\":\"upstream_error\",\"code\":\"upstream_error\"\x7d\x7d"

/-- The bytes written for an event; `print` is `serde_json::to_vec`. -/
def publicSseItem (print : Json → Option String) : StreamEvent → Bytes
  | .frame frame =>
    Text.encode "data: ".toList ++ Text.encode ((print frame.toValue).getD "\x7b\x7d").toList ++
      Text.encode "\n\n".toList
  | .completed => Text.encode "data: [DONE]\n\n".toList
  | .failed _ => Text.encode ("data: " ++ publicErrorText ++ "\n\n").toList

def publicSseStream (print : Json → Option String) (stream : List StreamEvent) : List Bytes :=
  stream.map (publicSseItem print)

/-- The chunks of `decode_chat_completion_stream`; `parse` is `serde_json::from_str`. -/
def chunkCodec (parse : String → Option Json) : ChunkCodec OpenAiChatCompletionChunk :=
  { parse, chunk := OpenAiChatCompletionChunk.ofValue }

/-! ## One item -/

/-- The item of some data. -/
def dataItem (data : List Char) : Bytes :=
  Text.encode ("data: ".toList ++ data ++ "\n\n".toList)

theorem cutFrom_dataItem {data : List Char} (h : '\n' ∉ data) :
    cutFrom .start (dataItem data) =
      ([{ content := Text.encode ("data: ".toList ++ data ++ ['\n'])
          blankLine := [newline] }], .start) := by
  have hline : '\n' ∉ "data: ".toList ++ data := by
    rw [List.mem_append, not_or]
    exact ⟨by decide, h⟩
  have hblank : ¬Cut.Blank (Text.encode ("data: ".toList ++ data)) := by
    rintro (hnil | hcr)
    · cases hnil
    · cases hcr
  have hends : dataItem data =
      Text.encode ("data: ".toList ++ data) ++ [newline, newline] :=
    Text.encode_append _ _
  rw [hends, cutFrom_oneLine (Text.newline_not_mem_encode hline) hblank, Text.encode_append _ ['\n']]
  rfl

/-- The frame of an item has one data line. -/
theorem dataLines_item {data : List Char} (hnewline : '\n' ∉ data) (hreturn : '\r' ∉ data) :
    dataLines ("data: ".toList ++ data ++ ['\n']) = [data] := by
  have hline : '\n' ∉ "data: ".toList ++ data := by
    rw [List.mem_append, not_or]
    exact ⟨by decide, hnewline⟩
  have hstrip : Text.stripCarriageReturn ("data: ".toList ++ data) = "data: ".toList ++ data := by
    apply Text.stripCarriageReturn_of_not_mem
    rw [List.mem_append, not_or]
    exact ⟨by decide, hreturn⟩
  have hlines : Text.lines ("data: ".toList ++ data ++ ['\n']) = ["data: ".toList ++ data] := by
    rw [Text.lines, Text.linesFrom_line [] hline, List.nil_append, hstrip]
    rfl
  have hhead : ("data: ".toList ++ data).head? ≠ some ':' := by simp
  have hvalue : Text.stripPrefix "data:".toList ("data: ".toList ++ data) =
      some ([' '] ++ data) := Text.stripPrefix_append "data:".toList ([' '] ++ data)
  rw [dataLines, hlines]
  simp only [List.filterMap_cons, List.filterMap_nil, hstrip, if_neg hhead, hvalue,
    Option.map_some, Text.stripPrefix_append, Option.getD_some]

theorem decodeFrame_dataItem {Chunk : Type} (codec : ChunkCodec Chunk) (clock : Option Nat)
    {data : List Char} (hnewline : '\n' ∉ data) (hreturn : '\r' ∉ data) :
    decodeFrame codec clock (Text.encode ("data: ".toList ++ data ++ ['\n'])) =
      decodeData codec clock data := by
  rw [decodeFrame, Text.fromUTF8_encode]
  simp only [String.toList_ofList, dataLines_item hnewline hreturn, List.intercalate_singleton]

/-- A text that begins with a brace is no marker of completion. -/
theorem trim_ne_done {text : List Char} (h : text.head? = some '\x7b') :
    Text.trim text ≠ "[DONE]".toList := by
  obtain ⟨rest, rfl⟩ : ∃ rest, text = '\x7b' :: rest := by
    cases text with
    | nil => cases h
    | cons first rest =>
      rw [List.head?_cons, Option.some.injEq] at h
      exact ⟨rest, by rw [h]⟩
  intro htrim
  have hprefix : Text.trim ('\x7b' :: rest) <+: '\x7b' :: rest := by
    have hsuffix := List.dropWhile_suffix Text.isWhitespace (l := ('\x7b' :: rest).reverse)
    have hstart : ('\x7b' :: rest).dropWhile Text.isWhitespace = '\x7b' :: rest := by
      rw [List.dropWhile_cons_of_neg]
      decide
    rw [Text.trim, hstart]
    rw [← List.reverse_prefix, List.reverse_reverse] at hsuffix
    exact hsuffix
  rw [htrim] at hprefix
  obtain ⟨later, hlater⟩ := hprefix
  cases hlater

/-! ## A whole stream -/

/-- What the code relies on in the printer and the parser, at a value: its text has no line
break, and the parser reads the value from it. -/
def PrintsBack (print : Json → Option String) (parse : String → Option Json) (value : Json) :
    Prop :=
  ∃ text, print value = some text ∧ '\n' ∉ text.toList ∧ '\r' ∉ text.toList ∧
    parse text = some value

/-- The error member of `publicErrorText`. -/
def publicErrorMember : Json :=
  .object
    [("message", .string "The configured upstream provider could not complete the stream"),
      ("type", .string "upstream_error"), ("code", .string "upstream_error")]

def publicError : Json := .object [("error", publicErrorMember)]

/-- A parser of JSON: `[DONE]` is none, and the error object is read from its text. -/
structure ReadsJson (parse : String → Option Json) : Prop where
  marker : ∀ text : String, Text.trim text.toList = "[DONE]".toList → parse text = none
  error : parse publicErrorText = some publicError

/-- What a reader of the public stream gets for an event. -/
def relayed (clock : Option Nat) : StreamEvent → StreamEvent
  | .failed _ => .failed (sanitizedFailure clock .providerUnavailable)
  | event => event

/-- An event that ends a stream. -/
def Terminal : StreamEvent → Prop
  | .frame _ => False
  | .completed | .failed _ => True

/-- Some frames, and the event that ends their stream. -/
def streamOf (frames : List OpenAiChatCompletionChunk) (last : StreamEvent) : List StreamEvent :=
  frames.map .frame ++ [last]

/-- A chunk that the public stream can carry. -/
def Carried (print : Json → Option String) (parse : String → Option Json) : StreamEvent → Prop
  | .frame frame => frame.IsFinite ∧ PrintsBack print parse frame.toValue
  | .completed | .failed _ => True

variable {print : Json → Option String} {parse : String → Option Json}

theorem decodeData_frame (hparse : ReadsJson parse) {frame : OpenAiChatCompletionChunk}
    (hfinite : frame.IsFinite) {text : String} (htext : parse text = some frame.toValue)
    (clock : Option Nat) :
    decodeData (chunkCodec parse) clock text.toList = .ok (some (.frame frame)) := by
  have hmarker : Text.trim text.toList ≠ "[DONE]".toList := by
    intro htrim
    rw [hparse.marker text htrim] at htext
    cases htext
  rcases frame.lookup_error with ⟨members, hmembers, herror⟩
  have hread : (chunkCodec parse).chunk frame.toValue = some frame := hfinite.reads.2
  have hobject : frame.toValue.asObject = some members := by rw [hmembers]; rfl
  rw [decodeData, if_neg hmarker, String.ofList_toList]
  simp only [chunkCodec] at hread ⊢
  simp only [htext, hobject, herror, hread]

theorem errorCode_publicError : errorCode (some publicErrorMember) = "upstream_error" := by
  have hcode : (publicErrorMember.get "code").bind Json.asStr = some "upstream_error" := rfl
  rw [errorCode, Option.bind_some, hcode, Option.getD_some]
  exact Text.toLower_eq_self (by decide)

/-- The code of a public error names none of the kinds an upstream error is told by. -/
theorem sanitizedCategory_publicError :
    sanitizedCategory "upstream_error" = .providerUnavailable := by
  decide

/-- A text that parses to the public error is read as the failure of an unavailable provider. -/
theorem decodeData_error (hparse : ReadsJson parse) {text : String}
    (htext : parse text = some publicError) (clock : Option Nat) :
    decodeData (chunkCodec parse) clock text.toList =
      .ok (some (.failed (sanitizedFailure clock .providerUnavailable))) := by
  have hmarker : Text.trim text.toList ≠ "[DONE]".toList := by
    intro htrim
    rw [hparse.marker text htrim] at htext
    cases htext
  rw [decodeData, if_neg hmarker, String.ofList_toList]
  simp only [chunkCodec, htext]
  have hlookup : List.lookup "error" [("error", publicErrorMember)] = some publicErrorMember := by
    simp
  simp only [publicError, Json.asObject, hlookup, sanitizedOpenaiError, errorCode_publicError,
    sanitizedCategory_publicError]

/-- The data of the item of an event. -/
def eventData (print : Json → Option String) : StreamEvent → List Char
  | .frame frame => ((print frame.toValue).getD "\x7b\x7d").toList
  | .completed => "[DONE]".toList
  | .failed _ => publicErrorText.toList

theorem eventData_frame (print : Json → Option String) (frame : OpenAiChatCompletionChunk) :
    eventData print (.frame frame) = ((print frame.toValue).getD "\x7b\x7d").toList := rfl

theorem eventData_completed (print : Json → Option String) :
    eventData print .completed = ['[', 'D', 'O', 'N', 'E', ']'] := rfl

theorem eventData_failed (print : Json → Option String) (failure : ProviderFailure) :
    eventData print (.failed failure) = publicErrorText.toList := rfl

theorem publicSseItem_eq (print : Json → Option String) (event : StreamEvent) :
    publicSseItem print event = dataItem (eventData print event) := by
  cases event with
  | frame frame =>
    rw [publicSseItem, ← Text.encode_append, ← Text.encode_append]
    rfl
  | completed => rfl
  | failed failure =>
    rw [dataItem, eventData_failed, ← String.toList_append, ← String.toList_append]
    rfl

theorem eventData_noBreak {event : StreamEvent} (h : Carried print parse event) :
    '\n' ∉ eventData print event ∧ '\r' ∉ eventData print event := by
  cases event with
  | frame frame =>
    rcases h with ⟨-, text, htext, hnewline, hreturn, -⟩
    rw [eventData_frame, htext, Option.getD_some]
    exact ⟨hnewline, hreturn⟩
  | completed =>
    rw [eventData_completed]
    decide
  | failed failure =>
    rw [eventData_failed]
    decide +kernel

theorem decodeData_eventData (hparse : ReadsJson parse) {event : StreamEvent}
    (h : Carried print parse event) (clock : Option Nat) :
    decodeData (chunkCodec parse) clock (eventData print event) =
      .ok (some (relayed clock event)) := by
  cases event with
  | frame frame =>
    rcases h with ⟨hfinite, text, htext, -, -, hread⟩
    rw [eventData_frame, htext, Option.getD_some]
    exact decodeData_frame hparse hfinite hread clock
  | completed => rfl
  | failed failure => exact decodeData_error hparse hparse.error clock

/-- The frame of an event. -/
def eventFrame (print : Json → Option String) (event : StreamEvent) : Frame :=
  { content := Text.encode ("data: ".toList ++ eventData print event ++ ['\n'])
    blankLine := [newline] }

theorem cutFrom_item {event : StreamEvent} (h : Carried print parse event) :
    cutFrom .start (publicSseItem print event) = ([eventFrame print event], .start) := by
  rw [publicSseItem_eq]
  exact cutFrom_dataItem (eventData_noBreak h).1

/-- The stream is cut where its items end. -/
theorem cutFrom_stream {events : List StreamEvent}
    (h : ∀ event ∈ events, Carried print parse event) :
    cutFrom .start (publicSseStream print events).flatten =
      (events.map (eventFrame print), .start) := by
  induction events with
  | nil => rfl
  | cons event events ih =>
    have hrest := ih fun event' hevent => h event' (List.mem_cons_of_mem _ hevent)
    have hitem := cutFrom_item (h event List.mem_cons_self)
    unfold publicSseStream at hrest ⊢
    unfold cutFrom at hrest hitem ⊢
    rw [List.map_cons, List.flatten_cons, feed_append, hitem, hrest]
    rfl

theorem outcome_stream (hparse : ReadsJson parse) {frames : List OpenAiChatCompletionChunk}
    {last : StreamEvent} (hlast : Terminal last)
    (h : ∀ event ∈ streamOf frames last, Carried print parse event)
    (clock : Option Nat) :
    outcome (chunkCodec parse) clock ((streamOf frames last).map (eventFrame print)) =
      (streamOf frames (relayed clock last), true) := by
  have hdecode : ∀ event ∈ streamOf frames last,
      decodeFrame (chunkCodec parse) clock (eventFrame print event).content =
        .ok (some (relayed clock event)) := by
    intro event hevent
    have hbreak := eventData_noBreak (h event hevent)
    rw [eventFrame, decodeFrame_dataItem _ _ hbreak.1 hbreak.2]
    exact decodeData_eventData hparse (h event hevent) clock
  clear h
  -- Along the frames; the event that ends the stream is the base case.
  induction frames with
  | nil =>
    have hend := hdecode last List.mem_cons_self
    change outcome (chunkCodec parse) clock [eventFrame print last] = ([relayed clock last], true)
    rw [outcome, hend]
    cases last with
    | frame frame => exact hlast.elim
    | completed => rfl
    | failed failure => rfl
  | cons frame frames ih =>
    have hfirst := hdecode (.frame frame) List.mem_cons_self
    have hrest := ih fun event hevent => hdecode event (List.mem_cons_of_mem _ hevent)
    change outcome (chunkCodec parse) clock
      (eventFrame print (.frame frame) :: (streamOf frames last).map (eventFrame print)) = _
    rw [outcome, hfirst, hrest]
    rfl

/-- Reading the public stream of some events gives the events, with the one failure a public
stream knows for any failure. -/
theorem public_stream_round_trip (hparse : ReadsJson parse)
    {frames : List OpenAiChatCompletionChunk} {last : StreamEvent} (hlast : Terminal last)
    (hcarried : ∀ event ∈ streamOf frames last, Carried print parse event)
    {source : List SourcePoll}
    (hsource : chunks source = publicSseStream print (streamOf frames last))
    (hsize : ∀ item ∈ chunks source, item.length ≤ maxSseFrameBytes) :
    ∃ polls, ∀ clocks, polls ≤ clocks.length → ∃ clock ∈ clocks,
      (OpenAiSseDecoder.run (chunkCodec parse) (.new source) clocks).1 =
        streamOf frames (relayed clock last) := by
  have hfits : (OpenAiSseDecoder.new source).Fits (chunkCodec parse) := by
    rw [OpenAiSseDecoder.fits_new]
    refine OpenAiSseDecoder.fitsFrom_of_items fun item hitem => ⟨?_, hsize item hitem⟩
    rw [hsource] at hitem
    rcases List.mem_map.mp hitem with ⟨event, hevent, rfl⟩
    rw [cutFrom_item (hcarried event hevent)]
  refine ⟨(OpenAiSseDecoder.new source).remaining + 1, fun clocks hclocks => ?_⟩
  rcases OpenAiSseDecoder.run_events rfl (OpenAiSseDecoder.neverFailsForSize_iff.mpr hfits)
    hclocks with ⟨clock, hclock, hevents⟩
  refine ⟨clock, hclock, ?_⟩
  have hframes : Upstream.frames (received source) =
      (streamOf frames last).map (eventFrame print) := by
    rw [received_eq, hsource, Upstream.frames, cutFrom_stream hcarried]
  rw [hevents, OpenAiSseDecoder.expected_new, hframes,
    outcome_stream hparse hlast hcarried clock]
  rfl

/-! ## A chunk with the markers of the protocol in it -/

/-- A chunk whose content has blank lines and the completion marker. -/
def quotedMarker : OpenAiChatCompletionChunk :=
  { id := none, object := none, created := none, model := none, serviceTier := none
    systemFingerprint := none
    choices :=
      [{ index := some 0
         delta :=
          { role := none, content := some "\n\ndata: [DONE]\r\n\r\n", refusal := none
            functionCall := none, toolCalls := none }
         logprobs := none
         finishReason := none }]
    usage := none }

def quotedMarkerText : String :=
  "\x7b\"choices\":[\x7b\"index\":0,\"delta\":\x7b\"content\":\"\\n\\ndata: [DONE]\\r\\n\\r\\n\"\x7d\x7d]\x7d"

/-- The printer at the value of `quotedMarker`. -/
def printQuoted (_ : Json) : Option String := some quotedMarkerText

/-- The parser at the two texts of a stream of `quotedMarker`. -/
def parseQuoted (text : String) : Option Json :=
  if text = quotedMarkerText then some quotedMarker.toValue
  else if text = publicErrorText then some publicError
  else none

theorem readsJson_parseQuoted : ReadsJson parseQuoted where
  marker text htrim := by
    have hquoted : text ≠ quotedMarkerText := by
      rintro rfl
      exact trim_ne_done (by decide +kernel) htrim
    have herror : text ≠ publicErrorText := by
      rintro rfl
      exact trim_ne_done (by decide +kernel) htrim
    rw [parseQuoted, if_neg hquoted, if_neg herror]
  error := by
    rw [parseQuoted, if_neg (by decide +kernel), if_pos rfl]

theorem carried_quotedMarker : Carried printQuoted parseQuoted (.frame quotedMarker) := by
  refine ⟨?_, quotedMarkerText, rfl, by decide +kernel, by decide +kernel, if_pos rfl⟩
  intro choice hchoice
  rw [List.mem_singleton.mp hchoice]
  nofun

theorem quoted_marker_round_trip :
    ∃ polls, ∀ clocks, polls ≤ clocks.length → ∃ clock ∈ clocks,
      (OpenAiSseDecoder.run (chunkCodec parseQuoted)
        (.new [.ready (some (.ok (publicSseItem printQuoted (.frame quotedMarker)))), .pending,
          .ready (some (.ok (publicSseItem printQuoted .completed)))]) clocks).1 =
        streamOf [quotedMarker] (relayed clock .completed) := by
  have hlast : Terminal .completed := trivial
  refine @public_stream_round_trip printQuoted parseQuoted readsJson_parseQuoted [quotedMarker] _
    hlast ?_ _ rfl ?_
  · intro event hevent
    rcases List.mem_cons.mp hevent with rfl | hevent
    · exact carried_quotedMarker
    · rw [List.mem_singleton.mp hevent]
      trivial
  · decide +kernel

end Inbound

end SmartGateway
