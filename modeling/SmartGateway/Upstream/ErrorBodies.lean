import SmartGateway.Upstream.Chunking
import SmartGateway.Upstream.Executor

/-! # The bodies of upstream errors

Of the body of an upstream error the code reads the lower-cased code, and nothing else: replies
that differ elsewhere give one failure. For an error inside a stream that holds as far as the
size guards let the decoder see its frame.
-/

namespace SmartGateway

namespace Upstream

/-! ## A reply with an error status -/

/-- The lower-cased code in the body of a reply; a body that is not read as JSON has none. -/
def bodyCode (body : Option Json) : String :=
  errorCode (body.bind fun body => body.get "error")

/-- What the executor puts for a body that is not JSON is told like a body without a code. -/
theorem classifyCategory_invalidUpstreamError (status : Nat) :
    classifyCategory status "invalid_upstream_error" = classifyCategory status "" := by
  have hinvalid : ∀ part ∈ ["insufficient_quota", "quota_exceeded", "credit", "model"],
      Text.contains "invalid_upstream_error" part = false ∧ Text.contains "" part = false := by
    decide
  simp only [List.forall_mem_cons] at hinvalid
  obtain ⟨⟨h₁, h₁'⟩, ⟨h₂, h₂'⟩, ⟨h₃, h₃'⟩, ⟨h₄, h₄'⟩, -⟩ := hinvalid
  simp only [classifyCategory, h₁, h₁', h₂, h₂', h₃, h₃', h₄, h₄']

theorem bodyCode_none : bodyCode none = "" := by
  rw [bodyCode, Option.bind_none, errorCode]
  exact Text.toLower_eq_self (by decide)

theorem errorCode_invalidUpstreamError :
    errorCode (invalidUpstreamError.get "error") = "invalid_upstream_error" := by
  have hcode : ((invalidUpstreamError.get "error").bind fun error => error.get "code").bind
      Json.asStr = some "invalid_upstream_error" := by
    rfl
  rw [errorCode, hcode, Option.getD_some]
  exact Text.toLower_eq_self (by decide)

/-- The failure of a reply depends on its status and the code in its body. -/
theorem classify_eq (clock : Option Nat) (status : Nat) (body : Option Json) :
    classify clock status (body.getD invalidUpstreamError) =
      { category := classifyCategory status (bodyCode body)
        message := clientMessage (classifyCategory status (bodyCode body))
        status := some status
        retryAtUnix := retryAtUnix clock (classifyCategory status (bodyCode body)) } := by
  cases body with
  | some body => rfl
  | none =>
    rw [Option.getD_none, bodyCode_none, ← classifyCategory_invalidUpstreamError, classify,
      errorCode_invalidUpstreamError]

/-! ## An error inside a stream -/

variable {Chunk : Type}

/-- The error object in the data of a frame. -/
def dataError (codec : ChunkCodec Chunk) (data : List Char) : Option Json :=
  if Text.trim data = "[DONE]".toList then none
  else
    ((codec.parse (String.ofList data)).bind Json.asObject).bind fun members =>
      members.lookup "error"

/-- The error object of a frame. -/
def frameError (codec : ChunkCodec Chunk) (frame : Bytes) : Option Json :=
  match String.fromUTF8? frame.toByteArray with
  | none => none
  | some text =>
    match dataLines text.toList with
    | [] => none
    | first :: rest => dataError codec (List.intercalate ['\n'] (first :: rest))

theorem decodeData_of_dataError {codec : ChunkCodec Chunk} {data : List Char} {error : Json}
    (h : dataError codec data = some error) (clock : Option Nat) :
    decodeData codec clock data = .ok (some (.failed (sanitizedOpenaiError clock error))) := by
  unfold dataError at h
  split at h
  · cases h
  · rename_i hdone
    obtain ⟨members, hmembers, herror⟩ := Option.bind_eq_some_iff.mp h
    obtain ⟨value, hvalue, hobject⟩ := Option.bind_eq_some_iff.mp hmembers
    rw [decodeData, if_neg hdone]
    simp only [hvalue, hobject, herror]

theorem decodeFrame_of_frameError {codec : ChunkCodec Chunk} {frame : Bytes} {error : Json}
    (h : frameError codec frame = some error) (clock : Option Nat) :
    decodeFrame codec clock frame = .ok (some (.failed (sanitizedOpenaiError clock error))) := by
  rw [frameError] at h
  rw [decodeFrame]
  cases htext : String.fromUTF8? frame.toByteArray with
  | none =>
    rw [htext] at h
    cases h
  | some text =>
    rw [htext] at h
    dsimp only at h ⊢
    cases hlines : dataLines text.toList with
    | nil =>
      rw [hlines] at h
      cases h
    | cons first rest =>
      rw [hlines] at h
      exact decodeData_of_dataError h clock

theorem decodeData_error {codec : ChunkCodec Chunk} {data : List Char} {clock : Option Nat}
    {category : ErrorCategory} (h : decodeData codec clock data = .error category)
    (instant : Option Nat) : decodeData codec instant data = .error .providerUnavailable := by
  unfold decodeData at h ⊢
  split at h
  · cases h
  next hdone =>
    rw [if_neg hdone]
    cases hvalue : codec.parse (String.ofList data) with
    | none => rfl
    | some value =>
      cases hmembers : value.asObject with
      | none => simp only [hmembers]
      | some members =>
        cases herror : members.lookup "error" with
        | some error => simp [hvalue, hmembers, herror] at h
        | none =>
          cases hchunk : codec.chunk value with
          | none => simp only [hmembers, herror, hchunk]
          | some chunk => simp [hvalue, hmembers, herror, hchunk] at h

/-- A frame that cannot be decoded fails in one way, at any instant. -/
theorem decodeFrame_error {codec : ChunkCodec Chunk} {frame : Bytes} {clock : Option Nat}
    {category : ErrorCategory} (h : decodeFrame codec clock frame = .error category)
    (instant : Option Nat) : decodeFrame codec instant frame = .error .providerUnavailable := by
  rw [decodeFrame] at h ⊢
  cases htext : String.fromUTF8? frame.toByteArray with
  | none => rfl
  | some text =>
    rw [htext] at h
    dsimp only at h ⊢
    cases hlines : dataLines text.toList with
    | nil =>
      rw [hlines] at h
      cases h
    | cons first rest =>
      rw [hlines] at h
      exact decodeData_error h instant

/-- A frame that fails its stream, by the lower-cased code of its error; one that cannot be
decoded has no code. -/
inductive FailsBy (codec : ChunkCodec Chunk) (frame : Bytes) : String → Prop where
  | error {error : Json} (h : frameError codec frame = some error) :
    FailsBy codec frame (errorCode (some error))
  | malformed {clock : Option Nat} {category : ErrorCategory}
    (h : decodeFrame codec clock frame = .error category) : FailsBy codec frame ""

theorem sanitizedCategory_empty : sanitizedCategory "" = .providerUnavailable := by
  decide

/-! ## Streams that fail with one code -/

/-- The events of the frames of a stream, with the failure of one that breaks off. -/
def ending (codec : ChunkCodec Chunk) (clock : Option Nat) (ends : Bool) (frames : List Frame) :
    List (InferenceStreamEvent Chunk) :=
  if (outcome codec clock frames).2 || !ends then (outcome codec clock frames).1
  else (outcome codec clock frames).1 ++ [truncated clock]

/-- Two ways to go on after one frame are the same if what comes after it is. -/
theorem ending_cons {codec : ChunkCodec Chunk} {clock : Option Nat} {ends ends' : Bool}
    {rest rest' : List Frame} (frame : Frame)
    (h : ending codec clock ends rest = ending codec clock ends' rest') :
    ending codec clock ends (frame :: rest) = ending codec clock ends' (frame :: rest') := by
  rcases hdecode : decodeFrame codec clock frame.content with category | _ | (chunk | _ | failure)
  · simp only [ending, outcome, hdecode, Bool.true_or]
  · simpa only [ending, outcome, hdecode] using h
  · -- a chunk stands before what comes after it
    have hchunk (ends : Bool) (rest : List Frame) :
        ending codec clock ends (frame :: rest) = .frame chunk :: ending codec clock ends rest := by
      simp only [ending, outcome, hdecode]
      split
      · rfl
      · rfl
    rw [hchunk, hchunk, h]
  · simp only [ending, outcome, hdecode, Bool.true_or]
  · simp only [ending, outcome, hdecode, Bool.true_or]

/-- After a frame that fails nothing is read. -/
theorem FailsBy.ending {codec : ChunkCodec Chunk} {frame : Frame} {code : String}
    (h : FailsBy codec frame.content code) (clock : Option Nat) (ends : Bool)
    (rest : List Frame) : ending codec clock ends (frame :: rest) =
      [.failed (sanitizedFailure clock (sanitizedCategory code))] := by
  cases h with
  | error herror =>
    rw [Upstream.ending, outcome, decodeFrame_of_frameError herror]
    rfl
  | malformed hmalformed =>
    rw [Upstream.ending, outcome, decodeFrame_error hmalformed clock, sanitizedCategory_empty]
    rfl

/-- The frames of two streams that are the same up to a failure of one code. Nothing is read after
a failure; streams without one end both, or both go on. A stream that ends without `[DONE]` fails
as one with a malformed frame does. -/
inductive SameFrames (codec : ChunkCodec Chunk) (ends ends' : Bool) :
    List Frame → List Frame → Prop where
  | nil (h : ends = ends') : SameFrames codec ends ends' [] []
  | cons (frame : Frame) {rest rest' : List Frame} (h : SameFrames codec ends ends' rest rest') :
    SameFrames codec ends ends' (frame :: rest) (frame :: rest')
  | failed {frame frame' : Frame} {rest rest' : List Frame} {code : String}
    (h : FailsBy codec frame.content code) (h' : FailsBy codec frame'.content code) :
    SameFrames codec ends ends' (frame :: rest) (frame' :: rest')
  | ended {frame : Frame} {rest : List Frame} (hends : ends = true)
    (h : FailsBy codec frame.content "") : SameFrames codec ends ends' [] (frame :: rest)
  | ended' {frame : Frame} {rest : List Frame} (h : FailsBy codec frame.content "")
    (hends : ends' = true) : SameFrames codec ends ends' (frame :: rest) []

theorem SameFrames.ending {codec : ChunkCodec Chunk} {ends ends' : Bool}
    {frames frames' : List Frame} (h : SameFrames codec ends ends' frames frames')
    (clock : Option Nat) :
    ending codec clock ends frames = ending codec clock ends' frames' := by
  induction h with
  | nil hends => rw [hends]
  | cons frame _ ih => exact ending_cons frame ih
  | failed hfails hfails' => rw [hfails.ending, hfails'.ending]
  | ended hends hfails =>
    rw [hfails.ending, sanitizedCategory_empty, hends]
    rfl
  | ended' hfails hends =>
    rw [hfails.ending, sanitizedCategory_empty, hends]
    rfl

/-- Two sources whose streams are the same up to a failure. -/
def SameStream (codec : ChunkCodec Chunk) (source source' : List SourcePoll) : Prop :=
  SameFrames codec (ended source) (ended source') (frames (received source))
    (frames (received source'))

/-- Decoders of such sources have the same events to return. -/
theorem SameStream.expected {codec : ChunkCodec Chunk} {source source' : List SourcePoll}
    (h : SameStream codec source source') (clock : Option Nat) :
    (OpenAiSseDecoder.new source).expected codec clock =
      (OpenAiSseDecoder.new source').expected codec clock := by
  rw [OpenAiSseDecoder.expected_new, OpenAiSseDecoder.expected_new]
  exact SameFrames.ending h clock

/-! ## The next event -/

namespace OpenAiSseDecoder

/-- Polls until the decoder returns something; `Pending` when its source brings nothing more. -/
def next (codec : ChunkCodec Chunk) (clock : Option Nat) (decoder : OpenAiSseDecoder) :
    Poll (Option (InferenceStreamEvent Chunk)) × OpenAiSseDecoder :=
  match pollNext codec clock decoder with
  | (.ready event, decoder') => (.ready event, decoder')
  | (.pending, decoder') =>
    if decoder'.source.length < decoder.source.length then next codec clock decoder'
    else (.pending, decoder')
termination_by decoder.source.length

variable {codec : ChunkCodec Chunk} {clock : Option Nat} {decoder decoder' : OpenAiSseDecoder}

/-- A poll that returns `Pending` has taken something from its source, or has nothing to read. -/
theorem pollNext_pending (h : pollNext codec clock decoder = (.pending, decoder')) :
    decoder'.source.length < decoder.source.length ∨ decoder'.Idle := by
  fun_induction pollNext codec clock decoder with
  | case2 decoder hterminal frameEnd consumed hframe frame taken hdecode ih => exact ih h
  | case7 decoder hterminal hframe hlength hsource =>
    cases h
    exact Or.inr ⟨hsource, hframe, Nat.not_lt.mp hlength⟩
  | case8 decoder hterminal hframe hlength source hsource =>
    cases h
    rw [hsource, List.length_cons]
    exact Or.inl (Nat.lt_succ_self _)
  | case10 decoder hterminal hframe hlength chunk source hsource hfits ih =>
    rcases ih h with hless | hidle
    · left
      rw [hsource, List.length_cons]
      exact Nat.lt_succ_of_lt hless
    · exact Or.inr hidle
  | _ => cases h

/-- A decoder that fits returns what is expected of it, or has nothing more to expect. -/
theorem polled_next (clock : Option Nat) (hfits : decoder.Fits codec) :
    ((next codec clock decoder).1 = .pending ∧ ∀ instant, expected codec instant decoder = []) ∨
      ∃ result, (next codec clock decoder).1 = .ready result ∧
        Polled codec clock decoder (.ready result) (next codec clock decoder).2 := by
  -- Along the polls; the expectations are those of the decoder before them.
  fun_induction next codec clock decoder with
  | case1 decoder result decoder' hpoll =>
    rcases polled codec clock decoder with ⟨hfails, -⟩ | ⟨-, hpolled⟩
    · exact absurd hfails (not_failsForSize hfits clock)
    · rw [hpoll] at hpolled
      exact Or.inr ⟨result, rfl, hpolled⟩
  | case2 decoder decoder' hpoll hless ih =>
    rcases polled codec clock decoder with ⟨hfails, -⟩ | ⟨-, hpolled⟩
    · exact absurd hfails (not_failsForSize hfits clock)
    rw [hpoll] at hpolled
    rcases hpolled with hadvances | ⟨hstill, -⟩
    · rcases ih (hadvances.fits.mpr hfits) with ⟨hpending, hnone⟩ | ⟨result, hresult, hlater⟩
      · left
        refine ⟨hpending, ?_⟩
        intro instant
        rw [hadvances.rest, hnone]
        rfl
      · exact Or.inr ⟨result, hresult, hlater.after hadvances⟩
    · have hstill : decoder' = decoder := hstill
      rw [hstill] at hless
      exact absurd hless (Nat.lt_irrefl _)
  | case3 decoder decoder' hpoll hless =>
    left
    refine ⟨rfl, ?_⟩
    intro instant
    rcases polled codec clock decoder with ⟨hfails, -⟩ | ⟨-, hpolled⟩
    · exact absurd hfails (not_failsForSize hfits clock)
    rw [hpoll] at hpolled
    rcases hpolled with hadvances | ⟨-, hidle⟩
    · rcases pollNext_pending hpoll with hshorter | hidle
      · exact absurd hshorter hless
      · rw [hadvances.rest, hidle.expected]
        rfl
    · exact hidle.expected instant

theorem advances_next (hfits : decoder.Fits codec) {chunk : Chunk}
    (h : (next codec clock decoder).1 = .ready (some (.frame chunk))) :
    Advances codec decoder [.frame chunk] (next codec clock decoder).2 := by
  rcases polled_next clock hfits with ⟨hpending, -⟩ | ⟨result, hresult, hpolled⟩
  · rw [h] at hpending
    cases hpending
  · rw [h, Poll.ready.injEq] at hresult
    rw [← hresult] at hpolled
    exact hpolled

/-- The result that some events still to come begin with. -/
def firstOf : List (InferenceStreamEvent Chunk) → Poll (Option (InferenceStreamEvent Chunk))
  | [] => .pending
  | event :: _ => .ready (some event)

theorem next_eq_firstOf (hopen : decoder.terminal = false) (hfits : decoder.Fits codec) :
    (next codec clock decoder).1 = firstOf (expected codec clock decoder) := by
  rcases polled_next clock hfits with ⟨hpending, hnone⟩ | ⟨result, hresult, hpolled⟩
  · rw [hpending, hnone]
    rfl
  · rw [hresult]
    rcases result with _ | (chunk | _ | failure)
    · have hclosed := hpolled.2
      rw [hopen] at hclosed
      cases hclosed
    · have hadvances : Advances codec decoder [.frame chunk] _ := hpolled
      rw [hadvances.rest]
      rfl
    · have hends : Ends codec clock decoder .completed _ := hpolled
      rw [hends.last]
      rfl
    · have hends : Ends codec clock decoder (.failed failure) _ := hpolled
      rw [hends.last]
      rfl

/-! ## Streams that are cut off -/

/-- A decoder that returns some chunks, and fails at a size guard after them. -/
inductive CutOff (codec : ChunkCodec Chunk) : List Chunk → OpenAiSseDecoder → Prop where
  | guard {decoder : OpenAiSseDecoder} (h : ∀ clock, FailsForSize codec clock decoder) :
    CutOff codec [] decoder
  | pending {decoder decoder' : OpenAiSseDecoder} {chunks : List Chunk}
    (h : ∀ clock, pollNext codec clock decoder = (.pending, decoder'))
    (hless : decoder'.source.length < decoder.source.length) (hlater : CutOff codec chunks decoder') :
    CutOff codec chunks decoder
  | chunk {decoder decoder' : OpenAiSseDecoder} {chunk : Chunk} {chunks : List Chunk}
    (h : ∀ clock, pollNext codec clock decoder = (.ready (some (.frame chunk)), decoder'))
    (hlater : CutOff codec chunks decoder') : CutOff codec (chunk :: chunks) decoder

theorem pollNext_of_failsForSize (h : FailsForSize codec clock decoder) :
    (pollNext codec clock decoder).1 =
      .ready (some (.failed (sanitizedFailure clock .providerUnavailable))) := by
  induction h with
  | guard h =>
    rw [pollNext_eq, h]
    rfl
  | later h _ ih =>
    rw [pollNext_eq, h]
    exact ih

/-- A result with the first of the chunks after which a stream is cut off, or with the failure. -/
def Begins (codec : ChunkCodec Chunk) (clock : Option Nat) :
    List Chunk → Poll (Option (InferenceStreamEvent Chunk)) × OpenAiSseDecoder → Prop
  | [], (result, _) =>
    result = .ready (some (.failed (sanitizedFailure clock .providerUnavailable)))
  | chunk :: chunks, (result, decoder') =>
    result = .ready (some (.frame chunk)) ∧ CutOff codec chunks decoder'

theorem CutOff.begins {chunks : List Chunk} (h : CutOff codec chunks decoder)
    (clock : Option Nat) : Begins codec clock chunks (next codec clock decoder) := by
  induction h with
  | guard hfails =>
    have hpoll := pollNext_of_failsForSize (hfails clock)
    rw [OpenAiSseDecoder.next]
    generalize pollNext codec clock _ = polled at hpoll ⊢
    obtain ⟨result, decoder'⟩ := polled
    obtain rfl : result = _ := hpoll
    exact rfl
  | pending hpoll hless _ ih =>
    rw [OpenAiSseDecoder.next, hpoll]
    dsimp only
    rw [if_pos hless]
    exact ih
  | chunk hpoll hlater _ =>
    rw [OpenAiSseDecoder.next, hpoll]
    exact ⟨rfl, hlater⟩

/-! ## Decoders that cannot be told apart -/

/-- One decoder, two that no size guard stops and that have the same events to return, or two
that are cut off after the same chunks. -/
inductive Alike (codec : ChunkCodec Chunk) : OpenAiSseDecoder → OpenAiSseDecoder → Prop where
  | same (decoder : OpenAiSseDecoder) : Alike codec decoder decoder
  | expecting {decoder decoder' : OpenAiSseDecoder} (hopen : decoder.terminal = false)
    (hopen' : decoder'.terminal = false) (hfits : decoder.Fits codec)
    (hfits' : decoder'.Fits codec)
    (hexpected : ∀ clock, expected codec clock decoder = expected codec clock decoder') :
    Alike codec decoder decoder'
  | cutOff {decoder decoder' : OpenAiSseDecoder} {chunks : List Chunk}
    (h : CutOff codec chunks decoder) (h' : CutOff codec chunks decoder') :
    Alike codec decoder decoder'

theorem Alike.next (h : Alike codec decoder decoder') (clock : Option Nat) :
    (next codec clock decoder).1 = (next codec clock decoder').1 ∧
      ∀ chunk, (next codec clock decoder).1 = .ready (some (.frame chunk)) →
        Alike codec (next codec clock decoder).2 (next codec clock decoder').2 := by
  cases h with
  | same => exact ⟨rfl, fun _ _ => .same _⟩
  | expecting hopen hopen' hfits hfits' hexpected =>
    have hsame : (OpenAiSseDecoder.next codec clock decoder).1 =
        (OpenAiSseDecoder.next codec clock decoder').1 := by
      rw [next_eq_firstOf hopen hfits, next_eq_firstOf hopen' hfits', hexpected]
    refine ⟨hsame, ?_⟩
    -- the chunk comes off what both expect
    intro chunk hchunk
    have hfirst := advances_next hfits hchunk
    have hsecond := advances_next hfits' (hsame ▸ hchunk)
    refine .expecting hfirst.isOpen hsecond.isOpen (hfirst.fits.mpr hfits)
      (hsecond.fits.mpr hfits') ?_
    intro instant
    have hrest := hexpected instant
    rw [hfirst.rest, hsecond.rest] at hrest
    exact List.append_cancel_left hrest
  | cutOff h h' =>
    rename_i chunks
    have hfirst := h.begins clock
    have hsecond := h'.begins clock
    cases chunks with
    | nil =>
      refine ⟨hfirst.trans hsecond.symm, ?_⟩
      intro chunk hchunk
      have hfailed := hfirst.symm.trans hchunk
      cases hfailed
    | cons chunk chunks =>
      exact ⟨hfirst.1.trans hsecond.1.symm, fun _ _ => .cutOff hfirst.2 hsecond.2⟩

end OpenAiSseDecoder

/-! ## Replies that differ in text -/

/-- Sources that are read as one stream: the same source, two whose streams are the same up to an
error and that no size guard cuts off, or two that are cut off after the same chunks. -/
inductive SameRead (codec : ChunkCodec Chunk) : List SourcePoll → List SourcePoll → Prop where
  | same (source : List SourcePoll) : SameRead codec source source
  | read {source source' : List SourcePoll} (hstream : SameStream codec source source')
    (hsize : OpenAiSseDecoder.NeverFailsForSize codec (.new source))
    (hsize' : OpenAiSseDecoder.NeverFailsForSize codec (.new source')) :
    SameRead codec source source'
  | cutOff {source source' : List SourcePoll} {chunks : List Chunk}
    (h : OpenAiSseDecoder.CutOff codec chunks (.new source))
    (h' : OpenAiSseDecoder.CutOff codec chunks (.new source')) : SameRead codec source source'

theorem SameRead.alike {codec : ChunkCodec Chunk} {source source' : List SourcePoll}
    (h : SameRead codec source source') :
    OpenAiSseDecoder.Alike codec (.new source) (.new source') := by
  cases h with
  | same => exact .same _
  | read hstream hsize hsize' =>
    exact .expecting rfl rfl (OpenAiSseDecoder.neverFailsForSize_iff.mp hsize)
      (OpenAiSseDecoder.neverFailsForSize_iff.mp hsize') hstream.expected
  | cutOff h h' => exact .cutOff h h'

/-- Two answers to one request: no reply, error replies of one status with one code in their
bodies, the same body of a success, or streams that differ as `streams` allows. -/
inductive SameReply (streams : List SourcePoll → List SourcePoll → Prop)
    (request : InferenceRequest) : HttpResult → HttpResult → Prop where
  | sendError : SameReply streams request .sendError .sendError
  | failed {status : Nat} (hstatus : ¬(200 ≤ status ∧ status < 300)) {body body' : Option Json}
    (hcode : bodyCode body = bodyCode body') (source source' : List SourcePoll) :
    SameReply streams request (.response status body source) (.response status body' source')
  | complete (hrequest : request.stream = false) (status : Nat) (body : Option Json)
    (source source' : List SourcePoll) :
    SameReply streams request (.response status body source) (.response status body source')
  | streaming (hrequest : request.stream = true) {status : Nat}
    (hstatus : 200 ≤ status ∧ status < 300) (body body' : Option Json)
    {source source' : List SourcePoll} (hsource : streams source source') :
    SameReply streams request (.response status body source) (.response status body' source')

/-- Executions that go on alike. -/
inductive AlikeExecution (codec : ChunkCodec Chunk) :
    Except ProviderFailure (InferenceExecution OpenAiSseDecoder) →
      Except ProviderFailure (InferenceExecution OpenAiSseDecoder) → Prop where
  | failed (failure : ProviderFailure) : AlikeExecution codec (.error failure) (.error failure)
  | complete (response : Json) (evidence : Option ProviderAuthoritativeEvidence) :
    AlikeExecution codec (.ok (.complete response evidence)) (.ok (.complete response evidence))
  | streaming {decoder decoder' : OpenAiSseDecoder}
    (h : OpenAiSseDecoder.Alike codec decoder decoder') :
    AlikeExecution codec (.ok (.streaming decoder)) (.ok (.streaming decoder'))

/-- What the executor makes of replies that differ in text. -/
theorem SameReply.execute {codec : ChunkCodec Chunk} {request : InferenceRequest}
    {sent sent' : HttpResult} (h : SameReply (SameRead codec) request sent sent')
    (clock : Option Nat) :
    AlikeExecution codec (execute clock request sent) (execute clock request sent') := by
  cases h with
  | sendError => exact .failed _
  | failed hstatus hcode source source' =>
    rw [Upstream.execute, Upstream.execute, if_pos hstatus, if_pos hstatus, classify_eq,
      classify_eq, hcode]
    exact .failed _
  | complete hrequest status body source source' =>
    rw [Upstream.execute, Upstream.execute, hrequest]
    split
    · exact .failed _
    · exact .complete _ _
  | streaming hrequest hstatus body body' hsource =>
    rw [Upstream.execute, Upstream.execute, if_neg (not_not.mpr hstatus),
      if_neg (not_not.mpr hstatus), if_pos hrequest, if_pos hrequest]
    exact .streaming hsource.alike

end Upstream

end SmartGateway
