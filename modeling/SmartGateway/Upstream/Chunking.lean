import SmartGateway.Upstream.Frames

/-! # Chunks and frames

How a response is cut into chunks decides only when the decoder has its frames, and whether the
size guard lets a chunk in: the guard compares a chunk with the room beside the buffer before
any frame of the chunk is cut off.
-/

namespace SmartGateway

namespace Upstream

variable {Chunk : Type}

/-! ## What a source carries -/

/-- The bytes a source delivers before its end. -/
def received : List SourcePoll → Bytes
  | [] => []
  | .pending :: source => received source
  | .ready (some (.ok chunk)) :: source => chunk ++ received source
  | .ready _ :: _ => []

/-- The chunks a source delivers before its end. -/
def chunks : List SourcePoll → List Bytes
  | [] => []
  | .pending :: source => chunks source
  | .ready (some (.ok chunk)) :: source => chunk :: chunks source
  | .ready _ :: _ => []

/-- Whether a source ends, in order or with a transport error. -/
def ended : List SourcePoll → Bool
  | [] => false
  | .pending :: source => ended source
  | .ready (some (.ok _)) :: source => ended source
  | .ready _ :: _ => true

@[simp] theorem received_pending (source : List SourcePoll) :
    received (.pending :: source) = received source := rfl

@[simp] theorem received_chunk (chunk : Bytes) (source : List SourcePoll) :
    received (.ready (some (.ok chunk)) :: source) = chunk ++ received source := rfl

@[simp] theorem ended_pending (source : List SourcePoll) :
    ended (.pending :: source) = ended source := rfl

@[simp] theorem ended_chunk (chunk : Bytes) (source : List SourcePoll) :
    ended (.ready (some (.ok chunk)) :: source) = ended source := rfl

theorem received_eq (source : List SourcePoll) : received source = (chunks source).flatten := by
  fun_induction chunks source with
  | case1 => rfl
  | case2 source ih => exact ih
  | case3 chunk source ih => rw [received_chunk, ih, List.flatten_cons]
  | case4 value source hvalue =>
    rcases value with _ | (_ | chunk)
    · rfl
    · rfl
    · exact absurd rfl (hvalue chunk)

/-- Every chunk read before the stream is over fits beside the bytes that no blank line has
ended yet. -/
def FitsFrom (codec : ChunkCodec Chunk) : Cut → List SourcePoll → Prop
  | _, [] => True
  | cut, .pending :: source => FitsFrom codec cut source
  | cut, .ready (some (.ok chunk)) :: source =>
    cut.tail.length + chunk.length ≤ maxSseFrameBytes ∧
      ((outcome codec none (cutFrom cut chunk).1).2 = false →
        FitsFrom codec (cutFrom cut chunk).2 source)
  | _, .ready _ :: _ => True

namespace OpenAiSseDecoder

/-! ## One iteration of the loop -/

/-- How an iteration of the loop of `pollNext` ends; `oversized` at one of its size guards. -/
inductive Iteration (Chunk : Type) where
  | returns (result : Poll (Option (InferenceStreamEvent Chunk))) (decoder : OpenAiSseDecoder)
  | continues (decoder : OpenAiSseDecoder)
  | oversized (decoder : OpenAiSseDecoder)

def failed (decoder : OpenAiSseDecoder) (clock : Option Nat) (category : ErrorCategory) :
    Iteration Chunk :=
  let (result, decoder') := decoder.fail clock category
  .returns result decoder'

/-- The body of the loop. -/
def iteration (codec : ChunkCodec Chunk) (clock : Option Nat) (decoder : OpenAiSseDecoder) :
    Iteration Chunk :=
  if decoder.terminal then .returns (.ready none) decoder
  else
    match completeFrame decoder.buffer with
    | some (frameEnd, consumed) =>
      let decoder' := { decoder with buffer := decoder.buffer.drop consumed }
      match decodeFrame codec clock (decoder.buffer.take frameEnd) with
      | .ok none => .continues decoder'
      | .ok (some (.frame chunk)) => .returns (.ready (some (.frame chunk))) decoder'
      | .ok (some event) =>
        .returns (.ready (some event)) { decoder' with buffer := [], terminal := true }
      | .error category => decoder'.failed clock category
    | none =>
      if decoder.buffer.length > maxSseFrameBytes then .oversized decoder
      else
        match decoder.source with
        | [] => .returns .pending decoder
        | .pending :: source => .returns .pending { decoder with source }
        | .ready (some (.ok chunk)) :: source =>
          if chunk.length > maxSseFrameBytes - decoder.buffer.length then
            .oversized { decoder with source }
          else .continues { decoder with source, buffer := decoder.buffer ++ chunk }
        | .ready _ :: source => { decoder with source }.failed clock .providerUnavailable

/-- The poll from the end of an iteration on. -/
def Iteration.resume (codec : ChunkCodec Chunk) (clock : Option Nat) :
    Iteration Chunk → Poll (Option (InferenceStreamEvent Chunk)) × OpenAiSseDecoder
  | .returns result decoder => (result, decoder)
  | .continues decoder => pollNext codec clock decoder
  | .oversized decoder => decoder.fail clock .providerUnavailable

/-- The poll is the loop of its iterations. -/
theorem pollNext_eq (codec : ChunkCodec Chunk) (clock : Option Nat)
    (decoder : OpenAiSseDecoder) :
    pollNext codec clock decoder = (iteration codec clock decoder).resume codec clock := by
  fun_cases pollNext codec clock decoder <;>
    simp_all +zetaDelta [iteration, Iteration.resume, failed, Nat.not_lt_of_le]

/-! ## What is still to come -/

/-- The events a decoder has still to return, if no size guard stops it. -/
def expected (codec : ChunkCodec Chunk) (clock : Option Nat) (decoder : OpenAiSseDecoder) :
    List (InferenceStreamEvent Chunk) :=
  if decoder.terminal then []
  else
    let (events, stopped) :=
      outcome codec clock (frames (decoder.buffer ++ received decoder.source))
    if stopped || !ended decoder.source then events else events ++ [truncated clock]

/-- The size guards let everything in that a decoder has still to read. -/
def Fits (codec : ChunkCodec Chunk) (decoder : OpenAiSseDecoder) : Prop :=
  decoder.terminal = false → (outcome codec none (frames decoder.buffer)).2 = false →
    (cutFrom .start decoder.buffer).2.tail.length ≤ maxSseFrameBytes ∧
      FitsFrom codec (cutFrom .start decoder.buffer).2 decoder.source

/-- A decoder that has no frame and nothing to read. -/
def Idle (decoder : OpenAiSseDecoder) : Prop :=
  decoder.source = [] ∧ completeFrame decoder.buffer = none ∧
    decoder.buffer.length ≤ maxSseFrameBytes

/-- An upper bound of the iterations to come. -/
def remaining (decoder : OpenAiSseDecoder) : Nat :=
  decoder.source.length + decoder.buffer.length + (received decoder.source).length

/-- A decoder comes closer to its end: it has returned `events` of those it was expected to
return, and is still open. -/
structure Advances (codec : ChunkCodec Chunk) (decoder : OpenAiSseDecoder)
    (events : List (InferenceStreamEvent Chunk)) (decoder' : OpenAiSseDecoder) : Prop where
  isOpen : decoder'.terminal = false
  rest : ∀ clock, expected codec clock decoder = events ++ expected codec clock decoder'
  fits : decoder'.Fits codec ↔ decoder.Fits codec
  closer : decoder'.remaining < decoder.remaining

theorem Advances.trans {codec : ChunkCodec Chunk} {decoder decoder' decoder'' : OpenAiSseDecoder}
    {events events' : List (InferenceStreamEvent Chunk)}
    (h : Advances codec decoder events decoder')
    (h' : Advances codec decoder' events' decoder'') :
    Advances codec decoder (events ++ events') decoder'' where
  isOpen := h'.isOpen
  rest clock := by rw [h.rest, h'.rest, List.append_assoc]
  fits := h'.fits.trans h.fits
  closer := h'.closer.trans h.closer

/-- A decoder takes its last event. -/
structure Ends (codec : ChunkCodec Chunk) (clock : Option Nat) (decoder : OpenAiSseDecoder)
    (event : InferenceStreamEvent Chunk) (decoder' : OpenAiSseDecoder) : Prop where
  closed : decoder'.terminal = true
  last : expected codec clock decoder = [event]
  fits : decoder.Fits codec

/-- What the result of a poll says of the events to come. -/
def Polled (codec : ChunkCodec Chunk) (clock : Option Nat) (decoder : OpenAiSseDecoder) :
    Poll (Option (InferenceStreamEvent Chunk)) → OpenAiSseDecoder → Prop
  | .pending, decoder' =>
    Advances codec decoder [] decoder' ∨ (decoder' = decoder ∧ decoder.Idle)
  | .ready none, decoder' => decoder' = decoder ∧ decoder.terminal = true
  | .ready (some (.frame chunk)), decoder' => Advances codec decoder [.frame chunk] decoder'
  | .ready (some event), decoder' => Ends codec clock decoder event decoder'

/-- What an iteration does. -/
def Iterated (codec : ChunkCodec Chunk) (clock : Option Nat) (decoder : OpenAiSseDecoder) :
    Iteration Chunk → Prop
  | .returns result decoder' => Polled codec clock decoder result decoder'
  | .continues decoder' => Advances codec decoder [] decoder'
  | .oversized _ => decoder.terminal = false ∧ ¬decoder.Fits codec

theorem Advances.of_take {codec : ChunkCodec Chunk} {decoder : OpenAiSseDecoder}
    {events : List (InferenceStreamEvent Chunk)} {frameEnd consumed : Nat}
    (hopen : decoder.terminal = false)
    (hframe : completeFrame decoder.buffer = some (frameEnd, consumed))
    (htake : ∀ clock blankLine rest, outcome codec clock
      ({ content := decoder.buffer.take frameEnd, blankLine } :: rest) =
        (events ++ (outcome codec clock rest).1, (outcome codec clock rest).2)) :
    Advances codec decoder events
      { decoder with buffer := decoder.buffer.drop consumed } where
  isOpen := hopen
  rest clock := by
    rcases frames_of_completeFrame_append hframe (received decoder.source) with
      ⟨blankLine, hframes⟩
    simp only [expected, hopen, hframes, htake, Bool.false_eq_true, if_false]
    split <;> simp
  fits := by
    rcases frames_of_completeFrame hframe with ⟨⟨blankLine, hframes⟩, hcut⟩
    simp only [Fits, hframes, htake, hcut]
  closer := by
    have hconsumed := completeFrame_consumed hframe
    simp only [remaining, List.length_drop]
    omega

theorem Ends.of_take {codec : ChunkCodec Chunk} {clock : Option Nat}
    {decoder decoder' : OpenAiSseDecoder} {event : InferenceStreamEvent Chunk}
    {frameEnd consumed : Nat} (hopen : decoder.terminal = false)
    (hframe : completeFrame decoder.buffer = some (frameEnd, consumed))
    (htake : ∀ blankLine rest, outcome codec clock
      ({ content := decoder.buffer.take frameEnd, blankLine } :: rest) = ([event], true))
    (hclosed : decoder'.terminal = true) : Ends codec clock decoder event decoder' where
  closed := hclosed
  last := by
    rcases frames_of_completeFrame_append hframe (received decoder.source) with
      ⟨blankLine, hframes⟩
    simp [expected, hopen, hframes, htake]
  fits := by
    rcases frames_of_completeFrame hframe with ⟨⟨blankLine, hframes⟩, hcut⟩
    intro _ hstopped
    -- the frame stops the stream at every clock
    rw [(outcome_untimed codec none clock _).2, hframes, htake] at hstopped
    cases hstopped

theorem Advances.of_pending {codec : ChunkCodec Chunk} {decoder : OpenAiSseDecoder}
    {source : List SourcePoll} (hopen : decoder.terminal = false)
    (hsource : decoder.source = .pending :: source) :
    Advances codec decoder [] { decoder with source } where
  isOpen := hopen
  rest clock := by simp [expected, hopen, hsource]
  fits := by simp [Fits, hsource, FitsFrom]
  closer := by
    simp only [remaining, hsource, List.length_cons, received_pending]
    omega

/-- A buffer without a frame is all unterminated. -/
theorem cut_of_completeFrame_none {buffer : Bytes} (h : completeFrame buffer = none)
    (rest : Bytes) :
    (cutFrom .start buffer).2.tail.length = buffer.length ∧
      frames (buffer ++ rest) = (cutFrom (cutFrom .start buffer).2 rest).1 ∧
      (cutFrom .start (buffer ++ rest)).2 = (cutFrom (cutFrom .start buffer).2 rest).2 := by
  rcases frames_of_completeFrame_none h with ⟨hframes, htail⟩
  refine ⟨by rw [htail], ?_, ?_⟩
  · rw [frames_append, hframes, List.nil_append]
  · rw [cutFrom, feed_append]

theorem Advances.of_chunk {codec : ChunkCodec Chunk} {decoder : OpenAiSseDecoder}
    {chunk : Bytes} {source : List SourcePoll} (hopen : decoder.terminal = false)
    (hframe : completeFrame decoder.buffer = none)
    (hsource : decoder.source = .ready (some (.ok chunk)) :: source)
    (hfits : decoder.buffer.length + chunk.length ≤ maxSseFrameBytes) :
    Advances codec decoder [] { decoder with source, buffer := decoder.buffer ++ chunk } where
  isOpen := hopen
  rest clock := by simp [expected, hopen, hsource]
  fits := by
    rcases cut_of_completeFrame_none hframe chunk with ⟨hlength, hframes, hcut⟩
    have hnone := (frames_of_completeFrame_none hframe).1
    have htail := Cut.tail_length_le (cutFrom .start decoder.buffer).2 chunk
    simp only [Fits, hopen, hsource, hframes, hcut, hnone, FitsFrom, hlength, outcome,
      forall_true_left]
    constructor
    · intro h
      exact ⟨by omega, hfits, fun hstopped => (h hstopped).2⟩
    · rintro ⟨-, -, h⟩ hstopped
      exact ⟨by omega, h hstopped⟩
  closer := by
    simp only [remaining, hsource, List.length_cons, received_chunk, List.length_append]
    omega

/-- One iteration: what it returns comes off what was expected, and it is oversized only
where the guards do not let everything in. -/
theorem iterated (codec : ChunkCodec Chunk) (clock : Option Nat) (decoder : OpenAiSseDecoder) :
    Iterated codec clock decoder (iteration codec clock decoder) := by
  unfold iteration
  split
  · rename_i hterminal
    exact ⟨rfl, hterminal⟩
  rename_i hterminal
  have hopen : decoder.terminal = false := Bool.eq_false_iff.mpr hterminal
  split
  · -- a frame is complete
    rename_i frameEnd consumed hframe
    dsimp only
    split
    · rename_i hdecode
      refine Advances.of_take hopen hframe fun clock' blankLine rest => ?_
      simp [outcome, decodeFrame_none hdecode clock']
    · rename_i chunk hdecode
      refine Advances.of_take hopen hframe fun clock' blankLine rest => ?_
      simp [outcome, decodeFrame_chunk hdecode clock']
    · rename_i event hevent hdecode
      have hends : Ends codec clock decoder event
          { decoder with buffer := [], terminal := true } := by
        refine Ends.of_take hopen hframe (fun blankLine rest => ?_) rfl
        simp only [outcome, hdecode]
      cases event with
      | frame chunk => exact absurd rfl (hevent chunk)
      | completed => exact hends
      | failed failure => exact hends
    · rename_i category hdecode
      refine Ends.of_take hopen hframe (fun blankLine rest => ?_) rfl
      simp [outcome, hdecode]
  · -- the decoder reads on
    rename_i hframe
    rcases frames_of_completeFrame_none hframe with ⟨hnone, htail⟩
    split
    · -- the first guard: what is kept of an incomplete frame is too long already
      rename_i hlength
      refine ⟨hopen, fun hfits => ?_⟩
      have := (hfits hopen (by rw [hnone]; rfl)).1
      rw [htail] at this
      omega
    rename_i hlength
    have hroom : decoder.buffer.length ≤ maxSseFrameBytes := Nat.not_lt.mp hlength
    split
    · rename_i hsource
      exact Or.inr ⟨rfl, hsource, hframe, hroom⟩
    · rename_i source hsource
      exact Or.inl (Advances.of_pending hopen hsource)
    · rename_i chunk source hsource
      split
      · -- the second guard: the chunk does not fit in behind it
        rename_i hchunk
        refine ⟨hopen, fun hfits => ?_⟩
        have hnext := (hfits hopen (by rw [hnone]; rfl)).2
        rw [hsource, FitsFrom, htail] at hnext
        omega
      · rename_i hchunk
        exact Advances.of_chunk hopen hframe hsource (by omega)
    · -- an end or an error of the source cuts off what is left
      rename_i value source hvalue hsource
      have hends : received decoder.source = [] ∧ ended decoder.source = true ∧
          FitsFrom codec (cutFrom .start decoder.buffer).2 decoder.source := by
        rw [hsource]
        rcases value with _ | (_ | chunk)
        · exact ⟨rfl, rfl, trivial⟩
        · exact ⟨rfl, rfl, trivial⟩
        · exact absurd rfl (hvalue chunk)
      rcases hends with ⟨hreceived, hended, hfits⟩
      exact {
        closed := rfl
        last := by simp [expected, hopen, hreceived, hended, hnone, outcome, truncated]
        fits := fun _ _ => ⟨by rw [htail]; exact hroom, hfits⟩ }

/-! ## One poll -/

/-- A poll that ends at a size guard. -/
inductive FailsForSize (codec : ChunkCodec Chunk) (clock : Option Nat) :
    OpenAiSseDecoder → Prop where
  | guard {decoder decoder' : OpenAiSseDecoder}
      (h : iteration codec clock decoder = .oversized decoder') :
    FailsForSize codec clock decoder
  | later {decoder decoder' : OpenAiSseDecoder}
      (h : iteration codec clock decoder = .continues decoder')
      (hlater : FailsForSize codec clock decoder') :
    FailsForSize codec clock decoder

theorem Polled.after {codec : ChunkCodec Chunk} {clock : Option Nat}
    {decoder decoder' decoder'' : OpenAiSseDecoder}
    {result : Poll (Option (InferenceStreamEvent Chunk))}
    (h : Advances codec decoder [] decoder')
    (hpolled : Polled codec clock decoder' result decoder'') :
    Polled codec clock decoder result decoder'' := by
  have hends : ∀ event, Ends codec clock decoder' event decoder'' →
      Ends codec clock decoder event decoder'' := fun event hends =>
    { closed := hends.closed
      last := by rw [h.rest, hends.last]; rfl
      fits := h.fits.mp hends.fits }
  rcases result with _ | (_ | (chunk | _ | failure))
  · left
    rcases hpolled with hpolled | ⟨rfl, -⟩
    · exact h.trans hpolled
    · exact h
  · -- nothing more is returned only by a decoder that is not open
    have hterminal := hpolled.2
    rw [h.isOpen] at hterminal
    cases hterminal
  · exact h.trans hpolled
  · exact hends _ hpolled
  · exact hends _ hpolled

/-- A poll ends at a size guard where something does not fit, or returns what was expected. -/
theorem polled (codec : ChunkCodec Chunk) (clock : Option Nat) (decoder : OpenAiSseDecoder) :
    (FailsForSize codec clock decoder ∧ ¬decoder.Fits codec) ∨
      (¬FailsForSize codec clock decoder ∧
        Polled codec clock decoder (pollNext codec clock decoder).1
          (pollNext codec clock decoder).2) := by
  -- Along what the source still holds: an iteration that goes on has used some of it.
  induction hremaining : decoder.remaining using Nat.strong_induction_on generalizing decoder with
  | _ bound ih =>
    have hiterated := iterated codec clock decoder
    rw [pollNext_eq]
    rcases hiteration : iteration codec clock decoder with
      ⟨result, decoder'⟩ | decoder' | decoder' <;> rw [hiteration] at hiterated
    · right
      refine ⟨fun hfails => ?_, hiterated⟩
      cases hfails with
      | guard h => rw [hiteration] at h; cases h
      | later h => rw [hiteration] at h; cases h
    · have hadvances : Advances codec decoder [] decoder' := hiterated
      rcases ih decoder'.remaining (by rw [← hremaining]; exact hadvances.closer) decoder' rfl with
        ⟨hfails, hfits⟩ | ⟨hfails, hpolled⟩
      · exact Or.inl ⟨.later hiteration hfails, fun h => hfits (hadvances.fits.mpr h)⟩
      · right
        refine ⟨fun h => ?_, hpolled.after hadvances⟩
        cases h with
        | guard h => rw [hiteration] at h; cases h
        | later h hlater =>
          rw [hiteration] at h
          cases h
          exact hfails hlater
    · exact Or.inl ⟨.guard hiteration, hiterated.2⟩

theorem not_failsForSize {codec : ChunkCodec Chunk} {decoder : OpenAiSseDecoder}
    (h : decoder.Fits codec) (clock : Option Nat) :
    ¬FailsForSize codec clock decoder := by
  rcases polled codec clock decoder with ⟨-, hfits⟩ | ⟨hfails, -⟩
  · exact absurd h hfits
  · exact hfails

/-! ## Any number of polls -/

def emitted {α : Type} : Poll (Option α) → Option α
  | .ready result => result
  | .pending => none

/-- One poll, with the event it returns. -/
def poll (codec : ChunkCodec Chunk) (decoder : OpenAiSseDecoder) (clock : Option Nat) :
    Option (InferenceStreamEvent Chunk) × OpenAiSseDecoder :=
  (emitted (pollNext codec clock decoder).1, (pollNext codec clock decoder).2)

/-- The events of the polls at some instants, and the decoder after them. -/
abbrev run (codec : ChunkCodec Chunk) (decoder : OpenAiSseDecoder)
    (clocks : List (Option Nat)) : List (InferenceStreamEvent Chunk) × OpenAiSseDecoder :=
  feed (poll codec) decoder clocks

/-- A poll that no guard ends comes closer to the end, returns the last event, or has nothing
to do. -/
theorem poll_cases {codec : ChunkCodec Chunk} {clock : Option Nat} {decoder : OpenAiSseDecoder}
    (h : ¬FailsForSize codec clock decoder) :
    Advances codec decoder (poll codec decoder clock).1.toList (poll codec decoder clock).2 ∨
      (∃ event, (poll codec decoder clock).1 = some event ∧
        Ends codec clock decoder event (poll codec decoder clock).2) ∨
      (poll codec decoder clock = (none, decoder) ∧
        (decoder.terminal = true ∨ decoder.Idle)) := by
  rcases polled codec clock decoder with ⟨hfails, -⟩ | ⟨-, hpolled⟩
  · exact absurd hfails h
  unfold poll
  generalize pollNext codec clock decoder = polled at hpolled ⊢
  rcases polled with ⟨_ | (_ | (chunk | _ | failure)), decoder'⟩
  · rcases hpolled with hadvances | ⟨rfl, hidle⟩
    · exact Or.inl hadvances
    · exact Or.inr (Or.inr ⟨rfl, Or.inr hidle⟩)
  · rcases hpolled with ⟨rfl, hterminal⟩
    exact Or.inr (Or.inr ⟨rfl, Or.inl hterminal⟩)
  · exact Or.inl hpolled
  · exact Or.inr (Or.inl ⟨_, rfl, hpolled⟩)
  · exact Or.inr (Or.inl ⟨_, rfl, hpolled⟩)

/-- No poll, at any time, ends at a size guard. -/
def NeverFailsForSize (codec : ChunkCodec Chunk) (decoder : OpenAiSseDecoder) : Prop :=
  ∀ clocks clock, ¬FailsForSize codec clock (run codec decoder clocks).2

theorem NeverFailsForSize.now {codec : ChunkCodec Chunk} {decoder : OpenAiSseDecoder}
    (h : NeverFailsForSize codec decoder) (clock : Option Nat) :
    ¬FailsForSize codec clock decoder :=
  h [] clock

theorem NeverFailsForSize.poll {codec : ChunkCodec Chunk} {decoder : OpenAiSseDecoder}
    (h : NeverFailsForSize codec decoder) (clock : Option Nat) :
    NeverFailsForSize codec (poll codec decoder clock).2 :=
  fun clocks clock' => h (clock :: clocks) clock'

/-- A decoder whose polls return nothing and change nothing. -/
theorem run_of_still {codec : ChunkCodec Chunk} {decoder : OpenAiSseDecoder}
    (h : ∀ clock, poll codec decoder clock = (none, decoder)) (clocks : List (Option Nat)) :
    run codec decoder clocks = ([], decoder) := by
  induction clocks with
  | nil => rfl
  | cons clock clocks ih =>
    rw [run, feed_cons, h]
    exact ih

theorem poll_terminal {codec : ChunkCodec Chunk} {decoder : OpenAiSseDecoder}
    (h : decoder.terminal = true) (clock : Option Nat) :
    poll codec decoder clock = (none, decoder) := by
  simp [poll, pollNext_eq, iteration, h, Iteration.resume, emitted]

theorem poll_idle {codec : ChunkCodec Chunk} {decoder : OpenAiSseDecoder} (h : decoder.Idle)
    (clock : Option Nat) : poll codec decoder clock = (none, decoder) := by
  by_cases hterminal : decoder.terminal = true
  · exact poll_terminal hterminal clock
  · rcases h with ⟨hsource, hframe, hlength⟩
    simp [poll, pollNext_eq, iteration, hterminal, hframe, hsource, Nat.not_lt_of_le hlength,
      Iteration.resume, emitted]

theorem Idle.expected {codec : ChunkCodec Chunk} {decoder : OpenAiSseDecoder} (h : decoder.Idle)
    (clock : Option Nat) : expected codec clock decoder = [] := by
  rcases h with ⟨hsource, hframe, -⟩
  simp [OpenAiSseDecoder.expected, hsource, received, ended,
    (frames_of_completeFrame_none hframe).1, outcome]

theorem Idle.fits {codec : ChunkCodec Chunk} {decoder : OpenAiSseDecoder} (h : decoder.Idle) :
    decoder.Fits codec := by
  rcases h with ⟨hsource, hframe, hlength⟩
  intro _ _
  rw [hsource, (frames_of_completeFrame_none hframe).2]
  exact ⟨hlength, trivial⟩

/-- The polls at some instants: the decoder is open and has returned a part of what was
expected, or it has returned everything. -/
def Ran (codec : ChunkCodec Chunk) (decoder : OpenAiSseDecoder) (clocks : List (Option Nat))
    (ran : List (InferenceStreamEvent Chunk) × OpenAiSseDecoder) : Prop :=
  (ran.2.terminal = false ∧ (ran.2.Fits codec ↔ decoder.Fits codec) ∧
      ∀ clock, expected codec clock decoder = ran.1 ++ expected codec clock ran.2) ∨
    (ran.2.terminal = true ∧ decoder.Fits codec ∧
      ∃ clock ∈ clocks, ran.1 = expected codec clock decoder)

theorem Ran.after {codec : ChunkCodec Chunk} {decoder decoder' : OpenAiSseDecoder}
    {events : List (InferenceStreamEvent Chunk)} {clock : Option Nat}
    {clocks : List (Option Nat)} {ran : List (InferenceStreamEvent Chunk) × OpenAiSseDecoder}
    (h : Advances codec decoder events decoder') (hran : Ran codec decoder' clocks ran) :
    Ran codec decoder (clock :: clocks) (events ++ ran.1, ran.2) := by
  rcases hran with ⟨hopen, hfits, hrest⟩ | ⟨hclosed, hfits, clock', hclock', hall⟩
  · refine Or.inl ⟨hopen, hfits.trans h.fits, fun clock' => ?_⟩
    rw [h.rest, hrest, List.append_assoc]
  · refine Or.inr ⟨hclosed, h.fits.mp hfits, clock', List.mem_cons_of_mem _ hclock', ?_⟩
    rw [h.rest, hall]

theorem ran {codec : ChunkCodec Chunk} {decoder : OpenAiSseDecoder}
    (hopen : decoder.terminal = false) (hnever : NeverFailsForSize codec decoder)
    (clocks : List (Option Nat)) : Ran codec decoder clocks (run codec decoder clocks) := by
  induction clocks generalizing decoder with
  | nil => exact Or.inl ⟨hopen, Iff.rfl, fun _ => rfl⟩
  | cons clock clocks ih =>
    rw [run, feed_cons]
    rcases poll_cases (hnever.now clock) with hadvances | ⟨event, hevent, hends⟩ | ⟨hstill, hdone⟩
    · exact Ran.after hadvances (ih hadvances.isOpen (hnever.poll clock))
    · have hrest : feed (poll codec) (poll codec decoder clock).2 clocks =
          ([], (poll codec decoder clock).2) :=
        run_of_still (poll_terminal hends.closed) clocks
      refine Or.inr ⟨?_, hends.fits, clock, List.mem_cons_self, ?_⟩
      · rw [hrest]
        exact hends.closed
      · rw [hrest, hevent]
        exact hends.last.symm
    · rcases hdone with hterminal | hidle
      · rw [hopen] at hterminal
        cases hterminal
      · -- a decoder with nothing to read stays as it is
        have hrest : feed (poll codec) decoder clocks = ([], decoder) :=
          run_of_still (poll_idle hidle) clocks
        rw [hstill, hrest]
        exact Or.inl ⟨hopen, Iff.rfl, fun _ => rfl⟩

/-- After enough polls a decoder is at its end, or has nothing more to read. -/
theorem settled {codec : ChunkCodec Chunk} {decoder : OpenAiSseDecoder}
    (hnever : NeverFailsForSize codec decoder) {clocks : List (Option Nat)}
    (hlength : decoder.remaining < clocks.length) :
    (run codec decoder clocks).2.terminal = true ∨ (run codec decoder clocks).2.Idle := by
  induction clocks generalizing decoder with
  | nil => cases hlength
  | cons clock clocks ih =>
    change (run codec (poll codec decoder clock).2 clocks).2.terminal = true ∨
      (run codec (poll codec decoder clock).2 clocks).2.Idle
    rcases poll_cases (hnever.now clock) with hadvances | ⟨event, -, hends⟩ | ⟨hstill, hdone⟩
    · have hcloser := hadvances.closer
      rw [List.length_cons] at hlength
      exact ih (hnever.poll clock) (by omega)
    · rw [run_of_still (poll_terminal hends.closed)]
      exact Or.inl hends.closed
    · rw [hstill]
      rcases hdone with hterminal | hidle
      · rw [run_of_still (poll_terminal hterminal)]
        exact Or.inl hterminal
      · rw [run_of_still (poll_idle hidle)]
        exact Or.inr hidle

/-- Enough polls return everything that was expected, at the instant of one of them. -/
theorem run_events {codec : ChunkCodec Chunk} {decoder : OpenAiSseDecoder}
    (hopen : decoder.terminal = false) (hnever : NeverFailsForSize codec decoder)
    {clocks : List (Option Nat)} (hlength : decoder.remaining < clocks.length) :
    ∃ clock ∈ clocks, (run codec decoder clocks).1 = expected codec clock decoder := by
  rcases ran hopen hnever clocks with ⟨hstill, -, hrest⟩ | ⟨-, -, hall⟩
  · rcases settled hnever hlength with hterminal | hidle
    · rw [hstill] at hterminal
      cases hterminal
    · -- nothing is expected of an idle decoder at any instant
      rcases clocks with _ | ⟨clock, clocks⟩
      · cases hlength
      · refine ⟨clock, List.mem_cons_self, ?_⟩
        rw [hrest clock, hidle.expected, List.append_nil]
  · exact hall

/-- The size guards are never met exactly where everything fits. -/
theorem neverFailsForSize_iff {codec : ChunkCodec Chunk} {decoder : OpenAiSseDecoder} :
    NeverFailsForSize codec decoder ↔ decoder.Fits codec := by
  constructor
  · intro hnever
    rcases hterminal : decoder.terminal
    · have hlength : decoder.remaining <
          (List.replicate (decoder.remaining + 1) (none : Option Nat)).length := by simp
      rcases ran hterminal hnever _ with ⟨hopen, hfits, -⟩ | ⟨-, hfits, -⟩
      · rcases settled hnever hlength with hclosed | hidle
        · rw [hopen] at hclosed
          cases hclosed
        · exact hfits.mp hidle.fits
      · exact hfits
    · intro hopen
      rw [hterminal] at hopen
      cases hopen
  · intro hfits clocks clock
    -- the fit is kept by every poll
    induction clocks generalizing decoder with
    | nil => exact not_failsForSize hfits clock
    | cons first clocks ih =>
      have hnext : (poll codec decoder first).2.Fits codec := by
        rcases poll_cases (not_failsForSize hfits first) with
          hadvances | ⟨event, -, hends⟩ | ⟨hstill, -⟩
        · exact hadvances.fits.mpr hfits
        · intro hopen
          rw [hends.closed] at hopen
          cases hopen
        · rw [hstill]
          exact hfits
      exact ih hnext

/-! ## Whole responses -/

theorem expected_new (codec : ChunkCodec Chunk) (clock : Option Nat)
    (source : List SourcePoll) :
    expected codec clock (new source) =
      if (outcome codec clock (frames (received source))).2 || !ended source then
        (outcome codec clock (frames (received source))).1
      else (outcome codec clock (frames (received source))).1 ++ [truncated clock] := rfl

theorem expected_ended (codec : ChunkCodec Chunk) (clock : Option Nat)
    {source : List SourcePoll} (hended : ended source = true) :
    expected codec clock (new source) = reference codec clock (received source) := by
  simp [expected_new, reference, hended]

theorem fits_new (codec : ChunkCodec Chunk) (source : List SourcePoll) :
    (new source).Fits codec ↔ FitsFrom codec .start source := by
  constructor
  · intro h
    exact (h rfl rfl).2
  · intro h _ _
    exact ⟨Nat.zero_le _, h⟩

/-- What is no longer than a frame may be fits in any chunks. -/
theorem fitsFrom_of_length {codec : ChunkCodec Chunk} {cut : Cut} {source : List SourcePoll}
    (h : cut.tail.length + (received source).length ≤ maxSseFrameBytes) :
    FitsFrom codec cut source := by
  fun_induction FitsFrom codec cut source with
  | case1 => trivial
  | case2 cut source ih => exact ih h
  | case3 cut chunk source ih =>
    have htail := Cut.tail_length_le cut chunk
    rw [received_chunk, List.length_append] at h
    exact ⟨by omega, fun _ => ih (by omega)⟩
  | case4 => trivial

/-- Chunks that each end with a frame fit one by one. -/
theorem fitsFrom_of_items {codec : ChunkCodec Chunk} {source : List SourcePoll}
    (h : ∀ item ∈ chunks source,
      (cutFrom .start item).2 = .start ∧ item.length ≤ maxSseFrameBytes) :
    FitsFrom codec .start source := by
  induction source with
  | nil => trivial
  | cons poll source ih =>
    rcases poll with _ | (_ | (_ | chunk))
    · exact ih h
    · trivial
    · trivial
    · rcases h chunk List.mem_cons_self with ⟨hcut, hlength⟩
      refine ⟨?_, fun _ => ?_⟩
      · rw [Cut.tail_start, List.length_nil, Nat.zero_add]
        exact hlength
      · rw [hcut]
        exact ih fun item hitem => h item (List.mem_cons_of_mem _ hitem)

/-- Whatever the chunks a response comes in, the decoder returns its frames' events. -/
theorem decoded_events_eq_reference (codec : ChunkCodec Chunk) {bytes : Bytes}
    {source : List SourcePoll} (hreceived : received source = bytes)
    (hended : ended source = true) (hlength : bytes.length ≤ maxSseFrameBytes) :
    ∃ polls, ∀ clocks, polls ≤ clocks.length → ∃ clock ∈ clocks,
      (run codec (new source) clocks).1 = reference codec clock bytes := by
  have hfits : (new source).Fits codec := by
    rw [fits_new]
    apply fitsFrom_of_length
    rw [hreceived, Cut.tail_start, List.length_nil, Nat.zero_add]
    exact hlength
  refine ⟨(new source).remaining + 1, fun clocks hclocks => ?_⟩
  rcases run_events rfl (neverFailsForSize_iff.mpr hfits) hclocks with ⟨clock, hclock, hevents⟩
  refine ⟨clock, hclock, ?_⟩
  rw [hevents, expected_ended codec clock hended, hreceived]

/-- A completion marker cut inside its field name and inside a line end. -/
theorem decoded_completion :
    ∃ polls, ∀ clocks, polls ≤ clocks.length → ∃ clock ∈ clocks,
      (run { parse := fun _ => none, chunk := fun _ => (none : Option Unit) }
        (new [.ready (some (.ok [100, 97])), .pending,
          .ready (some (.ok [116, 97, 58, 32, 91, 68, 79, 78, 69, 93, 13])),
          .ready (some (.ok [])), .ready (some (.ok [10, 13, 10])), .ready none]) clocks).1 =
      reference { parse := fun _ => none, chunk := fun _ => none } clock
        [100, 97, 116, 97, 58, 32, 91, 68, 79, 78, 69, 93, 13, 10, 13, 10] :=
  decoded_events_eq_reference _ rfl rfl (by decide)

/-! ## The size of a frame -/

/-- Every frame with its blank line, and the bytes after the last one, keep the size limit. -/
def Legal (bytes : Bytes) : Prop :=
  (∀ frame ∈ frames bytes, frame.size ≤ maxSseFrameBytes) ∧
    (cutFrom .start bytes).2.tail.length ≤ maxSseFrameBytes

/-- What a source delivers, one byte at a time. -/
def bytewise (source : List SourcePoll) : List SourcePoll :=
  (received source).map (fun byte => .ready (some (.ok [byte]))) ++
    if ended source then [.ready none] else []

/-- What a transport has delivered after its first `polls` polls. -/
def delivered (transport : Nat → SourcePoll) (polls : Nat) : List SourcePoll :=
  (List.range polls).map transport

/-- Two sources give the same events, up to the instants their failures suggest for a retry. -/
def SameEvents (codec : ChunkCodec Chunk) (source source' : List SourcePoll) : Prop :=
  ∃ polls, ∀ clocks clocks', polls ≤ clocks.length → polls ≤ clocks'.length →
    (run codec (new source) clocks).1.map untimed =
      (run codec (new source') clocks').1.map untimed

theorem received_bytewise (source : List SourcePoll) :
    received (bytewise source) = received source := by
  unfold bytewise
  induction received source with
  | nil => split <;> rfl
  | cons byte bytes ih => rw [List.map_cons, List.cons_append, received_chunk, ih]; rfl

theorem ended_bytewise (source : List SourcePoll) : ended (bytewise source) = ended source := by
  unfold bytewise
  induction received source with
  | nil => split <;> simp_all [ended]
  | cons byte bytes ih => rw [List.map_cons, List.cons_append, ended_chunk, ih]

theorem expected_untimed (codec : ChunkCodec Chunk) (clock clock' : Option Nat)
    {source source' : List SourcePoll} (hreceived : received source = received source')
    (hended : ended source = ended source') :
    (expected codec clock (new source)).map untimed =
      (expected codec clock' (new source')).map untimed := by
  rcases outcome_untimed codec clock clock' (frames (received source')) with ⟨hevents, hstopped⟩
  rw [expected_new, expected_new, hreceived, hended, hstopped]
  split
  · exact hevents
  · rw [List.map_append, List.map_append, hevents]
    rfl

theorem sameEvents_of_fits {codec : ChunkCodec Chunk} {source source' : List SourcePoll}
    (hreceived : received source = received source') (hended : ended source = ended source')
    (hfits : FitsFrom codec .start source) (hfits' : FitsFrom codec .start source') :
    SameEvents codec source source' := by
  rw [← fits_new, ← neverFailsForSize_iff] at hfits hfits'
  refine ⟨(new source).remaining + (new source').remaining + 1, fun clocks clocks' h h' => ?_⟩
  rcases run_events rfl hfits (show (new source).remaining < clocks.length by omega) with
    ⟨clock, -, hevents⟩
  rcases run_events rfl hfits' (show (new source').remaining < clocks'.length by omega) with
    ⟨clock', -, hevents'⟩
  rw [hevents, hevents']
  exact expected_untimed codec clock clock' hreceived hended

/-- One byte at a time always fits. -/
theorem fitsFrom_bytes (codec : ChunkCodec Chunk) {cut : Cut} {bytes : Bytes}
    {rest : List SourcePoll} (hrest : received rest = [])
    (hframes : ∀ frame ∈ (cutFrom cut bytes).1, frame.size ≤ maxSseFrameBytes)
    (htail : (cutFrom cut bytes).2.tail.length ≤ maxSseFrameBytes) :
    FitsFrom codec cut (bytes.map (fun byte => .ready (some (.ok [byte]))) ++ rest) := by
  induction bytes generalizing cut with
  | nil =>
    apply fitsFrom_of_length
    rw [List.map_nil, List.nil_append, hrest]
    exact htail
  | cons byte bytes ih =>
    rw [cutFrom, feed_cons] at hframes htail
    have hnext := Cut.tail_le (fun frame h => hframes frame (List.mem_append_right _ h)) htail
    have hkept := cut.kept_step byte
    refine ⟨?_, fun _ => ih (fun frame h => hframes frame (List.mem_append_right _ h)) htail⟩
    rcases hstep : cut.step byte with ⟨_ | frame, cut'⟩
    · rw [hstep] at hnext hkept
      rw [List.length_singleton, ← hkept]
      exact hnext
    · rw [hstep] at hframes hkept
      rw [List.length_singleton, ← hkept]
      exact hframes frame List.mem_cons_self

theorem fitsFrom_bytewise (codec : ChunkCodec Chunk) {source : List SourcePoll}
    (hlegal : Legal (received source)) : FitsFrom codec .start (bytewise source) := by
  unfold bytewise
  split
  · exact fitsFrom_bytes codec rfl hlegal.1 hlegal.2
  · exact fitsFrom_bytes codec rfl hlegal.1 hlegal.2

/-- A legal stream, finite or not: no poll fails for size, and the events are those of the
stream that arrives one byte at a time, exactly when every chunk read before the end fits
beside the bytes that no blank line has ended before it. -/
theorem size_limit_per_frame_iff (codec : ChunkCodec Chunk) (transport : Nat → SourcePoll)
    (hlegal : ∀ polls, Legal (received (delivered transport polls))) :
    (∀ polls, NeverFailsForSize codec (new (delivered transport polls)) ∧
        SameEvents codec (delivered transport polls) (bytewise (delivered transport polls))) ↔
      ∀ polls, FitsFrom codec .start (delivered transport polls) := by
  constructor
  · intro h polls
    rw [← fits_new]
    exact neverFailsForSize_iff.mp (h polls).1
  · intro hfits polls
    constructor
    · rw [neverFailsForSize_iff, fits_new]
      exact hfits polls
    · exact sameEvents_of_fits (received_bytewise _).symm (ended_bytewise _).symm (hfits polls)
        (fitsFrom_bytewise codec (hlegal polls))

/-- A transport that delivers everything in one chunk. -/
def once (chunk : Bytes) : Nat → SourcePoll
  | 0 => .ready (some (.ok chunk))
  | _ + 1 => .ready none

theorem received_once (chunk : Bytes) (polls : Nat) :
    received (delivered (once chunk) polls) = [] ∨
      received (delivered (once chunk) polls) = chunk := by
  rcases polls with _ | _ | polls
  · exact Or.inl rfl
  · exact Or.inr (List.append_nil chunk)
  · right
    rw [delivered, List.range_succ_eq_map, List.range_succ_eq_map]
    exact List.append_nil chunk

theorem legal_once {chunk : Bytes} (h : Legal chunk) (polls : Nat) :
    Legal (received (delivered (once chunk) polls)) := by
  rcases received_once chunk polls with hnil | hchunk
  · rw [hnil]
    exact ⟨fun _ hmem => (List.not_mem_nil hmem).elim, Nat.zero_le _⟩
  · rw [hchunk]
    exact h

theorem one_chunk_fits_iff :
    (∀ polls, NeverFailsForSize
        { parse := fun _ => none, chunk := fun _ => (none : Option Unit) }
        (new (delivered (once [58, 10, 10]) polls)) ∧
      SameEvents { parse := fun _ => none, chunk := fun _ => (none : Option Unit) }
        (delivered (once [58, 10, 10]) polls) (bytewise (delivered (once [58, 10, 10]) polls))) ↔
      ∀ polls, FitsFrom { parse := fun _ => none, chunk := fun _ => (none : Option Unit) } .start
        (delivered (once [58, 10, 10]) polls) :=
  size_limit_per_frame_iff _ _ (legal_once (by unfold Legal; decide))

/-- Frames of one comment line, as servers send them to keep a connection open. -/
def keepAlives (count : Nat) : Bytes := (List.replicate count [58, 10, 10]).flatten

theorem length_keepAlives (count : Nat) : (keepAlives count).length = count * 3 := by
  simp [keepAlives]

theorem cutFrom_keepAlives (count : Nat) :
    cutFrom .start (keepAlives count) =
      (List.replicate count { content := [58, 10], blankLine := [10] }, .start) := by
  induction count with
  | zero => rfl
  | succ count ih =>
    rw [keepAlives, List.replicate_succ, List.flatten_cons, cutFrom, feed_append]
    change _ = (_ :: _, _)
    rw [show feed Cut.step .start [58, 10, 10] =
      ([{ content := [58, 10], blankLine := [10] }], .start) from rfl]
    exact congrArg (fun cut => (_ :: cut.1, cut.2)) ih

theorem legal_keepAlives (count : Nat) : Legal (keepAlives count) := by
  unfold Legal frames
  rw [cutFrom_keepAlives]
  constructor
  · intro frame hframe
    rw [List.eq_of_mem_replicate hframe]
    decide
  · exact Nat.zero_le _

/-- Frames of three bytes, more than the limit of them in one chunk. -/
theorem coalesced_frames_fail_for_size :
    (∀ polls, Legal (received (delivered (once (keepAlives 87382)) polls))) ∧
      ¬∀ polls, NeverFailsForSize
          { parse := fun _ => none, chunk := fun _ => (none : Option Unit) }
          (new (delivered (once (keepAlives 87382)) polls)) ∧
        SameEvents { parse := fun _ => none, chunk := fun _ => (none : Option Unit) }
          (delivered (once (keepAlives 87382)) polls)
          (bytewise (delivered (once (keepAlives 87382)) polls)) := by
  refine ⟨legal_once (legal_keepAlives _), fun h => ?_⟩
  have hfits := neverFailsForSize_iff.mp (h 1).1
  rw [fits_new] at hfits
  have hchunk := hfits.1
  rw [length_keepAlives, maxSseFrameBytes] at hchunk
  omega

end OpenAiSseDecoder

end Upstream

end SmartGateway
