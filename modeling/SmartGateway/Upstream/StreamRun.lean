import SmartGateway.Application.StreamAttempt
import SmartGateway.Lib.Transition
import SmartGateway.Upstream.Executor

/-! # Runs of a committed stream

A managed stream over the decoder, as a transition system: bytes arrive, the stream polls its
upstream while nothing terminal is pending, and the program that records the outcome makes its
calls one at a time.
-/

namespace SmartGateway

namespace Upstream

variable {Chunk : Type}

/-- The managed stream of an upstream response. -/
abbrev CommittedStream (Chunk : Type) := ManagedInferenceStream OpenAiSseDecoder Chunk

inductive StreamStep where
  | arrives (poll : SourcePoll)
  | polls (clock : Option Nat)
  | settles

/-- The stream after it has polled its upstream once. -/
def CommittedStream.poll (codec : ChunkCodec Chunk) (clock : Option Nat)
    (stream : CommittedStream Chunk) : CommittedStream Chunk :=
  let (result, upstream) := stream.upstream.pollNext codec clock
  (ManagedInferenceStream.receive { stream with upstream } result).2

/-- What one step does to a stream. -/
inductive CommittedStream.Step (codec : ChunkCodec Chunk) :
    CommittedStream Chunk → StreamStep → CommittedStream Chunk → Prop where
  | arrives (stream : CommittedStream Chunk) (poll : SourcePoll) :
    Step codec stream (.arrives poll)
      { stream with upstream :=
        { stream.upstream with source := stream.upstream.source ++ [poll] } }
  | polls {stream : CommittedStream Chunk} (clock : Option Nat)
    (hopen : stream.terminalEmitted = false) (hidle : stream.pendingTerminal = none) :
    Step codec stream (.polls clock) (stream.poll codec clock)
  | calls {stream : CommittedStream Chunk} {event : InferenceStreamEvent Chunk}
    {op : ApplicationOp} {next : op.Answer OpenAiSseDecoder → UseCase OpenAiSseDecoder Unit}
    (hpending : stream.pendingTerminal = some (event, .call op next))
    (answer : op.Answer OpenAiSseDecoder) :
    Step codec stream .settles { stream with pendingTerminal := some (event, next answer) }
  | emits {stream : CommittedStream Chunk} {event : InferenceStreamEvent Chunk}
    (hpending : stream.pendingTerminal = some (event, .pure ())) :
    Step codec stream .settles { stream with pendingTerminal := none, terminalEmitted := true }

/-- The runs of a stream from its commitment on. -/
def committed (codec : ChunkCodec Chunk) : Transition (CommittedStream Chunk) StreamStep where
  Init stream := ∃ attempt source, stream =
    { upstream := .new source, attempt, pendingTerminal := none, terminalEmitted := false }
  Step := CommittedStream.Step codec

/-- While nothing terminal is pending or emitted, the decoder has not returned anything
terminal. -/
def CommittedStream.Undecided (stream : CommittedStream Chunk) : Prop :=
  stream.pendingTerminal = none → stream.terminalEmitted = false →
    stream.upstream.terminal = false

theorem undecided_of_reachable {codec : ChunkCodec Chunk} {stream : CommittedStream Chunk}
    (h : (committed codec).Reachable stream) : stream.Undecided := by
  refine h.invariant (I := CommittedStream.Undecided) ?_ ?_
  · rintro _ ⟨attempt, source, rfl⟩ _ _
    rfl
  · intro s step s' hs hstep
    cases hstep with
    | arrives poll => exact hs
    | polls clock hopen hidle =>
      have hemits := OpenAiSseDecoder.emits_pollNext codec clock s.upstream
      intro hpending _
      unfold CommittedStream.poll at hpending ⊢
      generalize s.upstream.pollNext codec clock = polled at hemits hpending ⊢
      obtain ⟨result, upstream⟩ := polled
      rcases result with _ | (_ | (chunk | _ | failure))
      · exact hemits
      · cases hpending
      · exact hemits
      · cases hpending
      · cases hpending
    | calls hpending answer =>
      intro hnone
      cases hnone
    | emits hpending =>
      intro _ hemitted
      cases hemitted

/-- A failure the stream reports starts `fail` with it, and has the retry time of its category:
the default for an upstream that ends without a terminal event is not reached. -/
theorem started_failure {codec : ChunkCodec Chunk} {clock : Option Nat}
    {stream stream' : CommittedStream Chunk} {failure : ProviderFailure}
    {program : UseCase OpenAiSseDecoder Unit} (hreachable : (committed codec).Reachable stream)
    (hstep : (committed codec).Step stream (.polls clock) stream')
    (hstarted : stream'.pendingTerminal = some (.failed failure, program)) :
    program = stream.attempt.fail failure ∧ Timed clock failure := by
  have hundecided := undecided_of_reachable hreachable
  cases hstep with
  | polls clock hopen hidle =>
    have hemits := OpenAiSseDecoder.emits_pollNext codec clock stream.upstream
    unfold CommittedStream.poll at hstarted
    generalize stream.upstream.pollNext codec clock = polled at hemits hstarted
    obtain ⟨result, upstream⟩ := polled
    rcases result with _ | (_ | (chunk | _ | reported))
    · change stream.pendingTerminal = _ at hstarted
      rw [hidle] at hstarted
      cases hstarted
    · -- the decoder returns nothing only after a terminal event
      have hterminal : stream.upstream.terminal = true := hemits
      rw [hundecided hidle hopen] at hterminal
      cases hterminal
    · change stream.pendingTerminal = _ at hstarted
      rw [hidle] at hstarted
      cases hstarted
    · cases hstarted
    -- Every failure of the decoder is a sanitized one, and carries the clock of its poll.
    · obtain ⟨-, category, hfailure⟩ := hemits
      cases hstarted
      exact ⟨rfl, by rw [hfailure]; exact timed_sanitizedFailure _ _⟩

end Upstream

end SmartGateway
