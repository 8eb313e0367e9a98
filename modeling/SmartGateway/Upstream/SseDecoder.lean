import SmartGateway.Inference
import SmartGateway.Upstream.Failures

/-! # The stream decoder

`OpenAiSseDecoder` cuts the bytes of an upstream response into frames at blank lines and decodes
each frame. Its source is the list of what its polls will return; a source at the end of the
list has nothing new yet.
-/

namespace SmartGateway

namespace Upstream

abbrev Bytes := List UInt8

/-- Maximum bytes retained while waiting for one complete SSE frame. -/
def maxSseFrameBytes : Nat := 256 * 1024

/-- Reading a text as JSON, and a JSON value as a chunk. -/
structure ChunkCodec (Chunk : Type) where
  parse : String → Option Json
  chunk : Json → Option Chunk

/-! ## Frames -/

def newline : UInt8 := 10

def carriageReturn : UInt8 := 13

/-- The loop of `completeFrame` over the bytes from `index` on. -/
def completeFrameFrom (buffer : Bytes) (lineStart index : Nat) : Bytes → Option (Nat × Nat)
  | [] => none
  | byte :: rest =>
    if byte ≠ newline then completeFrameFrom buffer lineStart (index + 1) rest
    else
      let line := (buffer.take index).drop lineStart
      let line := if line.getLast? = some carriageReturn then line.dropLast else line
      if line.isEmpty then some (lineStart, index + 1)
      else completeFrameFrom buffer (index + 1) (index + 1) rest

/-- The end of the first frame and the number of bytes up to the end of its blank line. -/
def completeFrame (buffer : Bytes) : Option (Nat × Nat) :=
  completeFrameFrom buffer 0 0 buffer

theorem completeFrameFrom_consumed {buffer : Bytes} {lineStart index : Nat} {rest : Bytes}
    {frameEnd consumed : Nat}
    (h : completeFrameFrom buffer lineStart index rest = some (frameEnd, consumed)) :
    index < consumed ∧ consumed ≤ index + rest.length := by
  induction rest generalizing lineStart index with
  | nil => cases h
  | cons byte rest ih =>
    rw [completeFrameFrom] at h
    rw [List.length_cons]
    split at h
    · have := ih h
      omega
    · dsimp only at h
      generalize hline : List.isEmpty _ = blank at h
      cases blank with
      | true =>
        simp only [if_pos, Option.some.injEq, Prod.mk.injEq] at h
        omega
      | false =>
        have := ih h
        omega

/-- A complete frame takes at least the byte that ends its blank line. -/
theorem completeFrame_consumed {buffer : Bytes} {frameEnd consumed : Nat}
    (h : completeFrame buffer = some (frameEnd, consumed)) :
    0 < consumed ∧ consumed ≤ buffer.length := by
  have hconsumed := completeFrameFrom_consumed h
  omega

/-- The values of the `data:` lines. -/
def dataLines (text : List Char) : List (List Char) :=
  (Text.lines text).filterMap fun rawLine =>
    let line := Text.stripCarriageReturn rawLine
    if line.head? = some ':' then none
    else (Text.stripPrefix "data:".toList line).map fun value =>
      (Text.stripPrefix [' '] value).getD value

/-- The event the data of a frame stands for. -/
def decodeData {Chunk : Type} (codec : ChunkCodec Chunk) (clock : Option Nat)
    (data : List Char) : Except ErrorCategory (Option (InferenceStreamEvent Chunk)) :=
  if Text.trim data = "[DONE]".toList then .ok (some .completed)
  else
    match codec.parse (String.ofList data) with
    | none => .error .providerUnavailable
    | some value =>
      match value.asObject with
      | none => .error .providerUnavailable
      | some members =>
        match members.lookup "error" with
        | some error => .ok (some (.failed (sanitizedOpenaiError clock error)))
        | none =>
          match codec.chunk value with
          | none => .error .providerUnavailable
          | some chunk => .ok (some (.frame chunk))

def decodeFrame {Chunk : Type} (codec : ChunkCodec Chunk) (clock : Option Nat) (frame : Bytes) :
    Except ErrorCategory (Option (InferenceStreamEvent Chunk)) :=
  match String.fromUTF8? frame.toByteArray with
  | none => .error .providerUnavailable
  | some text =>
    match dataLines text.toList with
    | [] => .ok none
    | first :: rest => decodeData codec clock (List.intercalate ['\n'] (first :: rest))

/-! ## The decoder -/

/-- What a poll of the byte stream returns: a chunk, a transport error, or the end. -/
abbrev SourcePoll := Poll (Option (Except Unit Bytes))

structure OpenAiSseDecoder where
  source : List SourcePoll
  buffer : Bytes
  terminal : Bool

namespace OpenAiSseDecoder

variable {Chunk : Type}

def new (source : List SourcePoll) : OpenAiSseDecoder :=
  { source, buffer := [], terminal := false }

def fail (decoder : OpenAiSseDecoder) (clock : Option Nat) (category : ErrorCategory) :
    Poll (Option (InferenceStreamEvent Chunk)) × OpenAiSseDecoder :=
  (.ready (some (.failed (sanitizedFailure clock category))),
    { decoder with buffer := [], terminal := true })

/-- `poll_next` at an instant of the clock. -/
def pollNext (codec : ChunkCodec Chunk) (clock : Option Nat) (decoder : OpenAiSseDecoder) :
    Poll (Option (InferenceStreamEvent Chunk)) × OpenAiSseDecoder :=
  if decoder.terminal then (.ready none, decoder)
  else
    match _hframe : completeFrame decoder.buffer with
    | some (frameEnd, consumed) =>
      let frame := decoder.buffer.take frameEnd
      let decoder' := { decoder with buffer := decoder.buffer.drop consumed }
      match decodeFrame codec clock frame with
      | .ok none => pollNext codec clock decoder'
      | .ok (some (.frame chunk)) => (.ready (some (.frame chunk)), decoder')
      | .ok (some event) => (.ready (some event), { decoder' with buffer := [], terminal := true })
      | .error category => decoder'.fail clock category
    | none =>
      if decoder.buffer.length > maxSseFrameBytes then decoder.fail clock .providerUnavailable
      else
        match _hsource : decoder.source with
        | [] => (.pending, decoder)
        | .pending :: source => (.pending, { decoder with source })
        | .ready (some (.ok chunk)) :: source =>
          if chunk.length > maxSseFrameBytes - decoder.buffer.length then
            { decoder with source }.fail clock .providerUnavailable
          else pollNext codec clock { decoder with source, buffer := decoder.buffer ++ chunk }
        | .ready _ :: source => { decoder with source }.fail clock .providerUnavailable
termination_by (decoder.source.length, decoder.buffer.length)
decreasing_by
  · have hconsumed := completeFrame_consumed _hframe
    apply Prod.Lex.right
    rw [List.length_drop]
    omega
  · apply Prod.Lex.left
    rw [_hsource, List.length_cons]
    omega

/-! ## What a poll returns -/

theorem decodeData_failed {codec : ChunkCodec Chunk} {clock : Option Nat} {data : List Char}
    {failure : ProviderFailure} (h : decodeData codec clock data = .ok (some (.failed failure))) :
    ∃ category, failure = sanitizedFailure clock category := by
  unfold decodeData at h
  split at h
  · cases h
  · split at h
    · cases h
    · split at h
      · cases h
      · split at h
        · cases h
          exact ⟨_, rfl⟩
        · split at h <;> cases h

theorem decodeFrame_failed {codec : ChunkCodec Chunk} {clock : Option Nat} {frame : Bytes}
    {failure : ProviderFailure}
    (h : decodeFrame codec clock frame = .ok (some (.failed failure))) :
    ∃ category, failure = sanitizedFailure clock category := by
  unfold decodeFrame at h
  split at h
  · cases h
  · split at h
    · cases h
    · exact decodeData_failed h

/-- What a poll can return, by whether a terminal event was returned before: nothing only after
one, and a failure only as the sanitized one of its category. -/
def Emits (clock : Option Nat) (terminal : Bool) :
    Poll (Option (InferenceStreamEvent Chunk)) × OpenAiSseDecoder → Prop
  | (.pending, after) => after.terminal = false
  | (.ready none, _) => terminal = true
  | (.ready (some (.frame _)), after) => after.terminal = false
  | (.ready (some .completed), after) => after.terminal = true
  | (.ready (some (.failed failure)), after) =>
    after.terminal = true ∧ ∃ category, failure = sanitizedFailure clock category

theorem emits_fail (clock : Option Nat) (terminal : Bool) (decoder : OpenAiSseDecoder)
    (category : ErrorCategory) :
    Emits clock terminal (decoder.fail clock category :
      Poll (Option (InferenceStreamEvent Chunk)) × OpenAiSseDecoder) :=
  ⟨rfl, category, rfl⟩

theorem emits_pollNext (codec : ChunkCodec Chunk) (clock : Option Nat)
    (decoder : OpenAiSseDecoder) :
    Emits clock decoder.terminal (pollNext codec clock decoder) := by
  fun_induction pollNext codec clock decoder with
  | case1 decoder hterminal => exact hterminal
  | case2 decoder hterminal frameEnd consumed hframe frame decoder' hdecode ih => exact ih
  | case3 decoder hterminal frameEnd consumed hframe frame decoder' chunk hdecode =>
    exact Bool.eq_false_iff.mpr hterminal
  | case4 decoder hterminal frameEnd consumed hframe frame decoder' event hevent hdecode =>
    cases event with
    | frame chunk => exact absurd rfl (hevent chunk)
    | completed => rfl
    | failed failure => exact ⟨rfl, decodeFrame_failed hdecode⟩
  | case5 => exact emits_fail _ _ _ _
  | case6 => exact emits_fail _ _ _ _
  | case7 decoder hterminal => exact Bool.eq_false_iff.mpr hterminal
  | case8 decoder hterminal => exact Bool.eq_false_iff.mpr hterminal
  | case9 => exact emits_fail _ _ _ _
  | case10 decoder hterminal hframe hlength chunk source hsource hfits ih => exact ih
  | case11 => exact emits_fail _ _ _ _

end OpenAiSseDecoder

end Upstream

end SmartGateway
