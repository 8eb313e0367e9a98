import SmartGateway.Application.StreamAttempt
import SmartGateway.Lib.Transition

/-! # The life of a managed stream

The iterations of `poll_next`, the calls of the future that records the outcome, the drop, and
the calls of the task it spawns, as a transition system. The upstream returns anything, and every
call is answered by anything, at any time.
-/

namespace SmartGateway

variable {Body Chunk : Type}

/-- What happens to a stream. -/
inductive StreamStep (Body Chunk : Type) where
  /-- The upstream is polled; a frame or `Pending` is returned as it is. -/
  | takes (result : Poll (Option (InferenceStreamEvent Chunk)))
  /-- A poll finds the terminal future waiting, and returns `Pending`. -/
  | waits
  /-- A call of the terminal future is answered. -/
  | answered (call : Event (application Body))
  /-- The terminal future is done, and its event is returned. -/
  | emits (event : InferenceStreamEvent Chunk)
  /-- A poll after the terminal event returns `None`. -/
  | ends
  | drops
  /-- The call that was in flight when the stream was dropped takes effect. -/
  | lands (call : Event (application Body))
  /-- The call that was in flight when the stream was dropped is lost with it. -/
  | loses
  /-- A call of the spawned task is answered. -/
  | cancels (call : Event (application Body))

/-- A stream with what is left of the task its drop has spawned. A dropped stream stays as it
was, and is not polled again. -/
structure StreamLife (Body Chunk : Type) where
  stream : ManagedInferenceStream Body Chunk
  dropped : Bool
  inFlight : Option ApplicationOp
  cancellation : Option (UseCase Body Unit)
  history : List (StreamStep Body Chunk)

namespace StreamLife

/-- The call a program waits for. -/
def awaited : UseCase Body Unit → Option ApplicationOp
  | .call op _ => some op
  | .pure _ => none

/-- The call of the terminal future that is in flight. -/
def pendingOp (s : StreamLife Body Chunk) : Option ApplicationOp :=
  s.stream.pendingTerminal.bind fun pending => awaited pending.2

/-- No poll is under way: a terminal future that is there waits for a call. -/
def BetweenPolls (s : StreamLife Body Chunk) : Prop :=
  s.stream.pendingTerminal.isSome → s.pendingOp ≠ none

/-- What one step does. -/
inductive Step : StreamLife Body Chunk → StreamStep Body Chunk → StreamLife Body Chunk → Prop where
  | takes {s : StreamLife Body Chunk} (hlive : s.dropped = false)
      (hopen : s.stream.terminalEmitted = false) (hidle : s.stream.pendingTerminal = none)
      (upstream : Body) (result : Poll (Option (InferenceStreamEvent Chunk))) :
    Step s (.takes result)
      { s with
        stream := (ManagedInferenceStream.receive { s.stream with upstream } result).2
        history := s.history ++ [.takes result] }
  | waits {s : StreamLife Body Chunk} (hlive : s.dropped = false)
      (hwaiting : s.pendingOp ≠ none) :
    Step s .waits { s with history := s.history ++ [.waits] }
  | answered {s : StreamLife Body Chunk} {event : InferenceStreamEvent Chunk}
      {op : ApplicationOp} {next : op.Answer Body → UseCase Body Unit}
      (hlive : s.dropped = false)
      (hpending : s.stream.pendingTerminal = some (event, .call op next))
      (answer : op.Answer Body) :
    Step s (.answered ⟨op, answer⟩)
      { s with
        stream := { s.stream with pendingTerminal := some (event, next answer) }
        history := s.history ++ [.answered ⟨op, answer⟩] }
  | emits {s : StreamLife Body Chunk} {event : InferenceStreamEvent Chunk}
      (hlive : s.dropped = false)
      (hpending : s.stream.pendingTerminal = some (event, .pure ())) :
    Step s (.emits event)
      { s with
        stream := { s.stream with pendingTerminal := none, terminalEmitted := true }
        history := s.history ++ [.emits event] }
  | ends {s : StreamLife Body Chunk} (hlive : s.dropped = false)
      (hemitted : s.stream.terminalEmitted = true) :
    Step s .ends { s with history := s.history ++ [.ends] }
  | drops {s : StreamLife Body Chunk} (hlive : s.dropped = false) (hbetween : s.BetweenPolls) :
    Step s .drops
      { s with
        dropped := true
        inFlight := s.pendingOp
        cancellation :=
          if s.stream.terminalEmitted then none else some s.stream.attempt.cancel
        history := s.history ++ [.drops] }
  | lands {s : StreamLife Body Chunk} {op : ApplicationOp} (hflight : s.inFlight = some op)
      (answer : op.Answer Body) :
    Step s (.lands ⟨op, answer⟩)
      { s with inFlight := none, history := s.history ++ [.lands ⟨op, answer⟩] }
  | loses {s : StreamLife Body Chunk} {op : ApplicationOp} (hflight : s.inFlight = some op) :
    Step s .loses { s with inFlight := none, history := s.history ++ [.loses] }
  | cancels {s : StreamLife Body Chunk} {op : ApplicationOp}
      {next : op.Answer Body → UseCase Body Unit}
      (hspawned : s.cancellation = some (.call op next)) (answer : op.Answer Body) :
    Step s (.cancels ⟨op, answer⟩)
      { s with
        cancellation := some (next answer)
        history := s.history ++ [.cancels ⟨op, answer⟩] }

end StreamLife

/-- The lives of streams, from their commitment on. -/
def managed (Body Chunk : Type) : Transition (StreamLife Body Chunk) (StreamStep Body Chunk) where
  Init s := ∃ upstream attempt, s =
    { stream := { upstream, attempt, pendingTerminal := none, terminalEmitted := false }
      dropped := false
      inFlight := none
      cancellation := none
      history := [] }
  Step := StreamLife.Step

/-! ## What a history shows -/

namespace StreamStep

/-- What the upstream returned. -/
def polled : StreamStep Body Chunk → Option (Poll (Option (InferenceStreamEvent Chunk)))
  | .takes result => some result
  | _ => none

/-- What `poll_next` returned, when it was ready. -/
def returned : StreamStep Body Chunk → Option (Option (InferenceStreamEvent Chunk))
  | .takes (.ready (some (.frame chunk))) => some (some (.frame chunk))
  | .emits event => some (some event)
  | .ends => some none
  | _ => none

/-- A call that was made on behalf of the attempt, by the stream or by the task its drop has
spawned. -/
def called : StreamStep Body Chunk → Option (Event (application Body))
  | .answered call | .lands call | .cancels call => some call
  | _ => none

/-- A call that took effect after the stream that had made it was dropped. -/
def landed : StreamStep Body Chunk → Option (Event (application Body))
  | .lands call => some call
  | _ => none

/-- A call of the task a drop has spawned. -/
def cancelling : StreamStep Body Chunk → Option (Event (application Body))
  | .cancels call => some call
  | _ => none

/-- What can still happen to a stream that was dropped. -/
def Late : StreamStep Body Chunk → Prop
  | .lands _ | .loses | .cancels _ => True
  | _ => False

end StreamStep

namespace StreamLife

def polls (s : StreamLife Body Chunk) : List (Poll (Option (InferenceStreamEvent Chunk))) :=
  s.history.filterMap StreamStep.polled

def returned (s : StreamLife Body Chunk) : List (Option (InferenceStreamEvent Chunk)) :=
  s.history.filterMap StreamStep.returned

def calls (s : StreamLife Body Chunk) : List (Event (application Body)) :=
  s.history.filterMap StreamStep.called

end StreamLife

/-! ## The upstream -/

namespace ManagedInferenceStream

/-- The frame a poll of the upstream has brought. -/
def frame : Poll (Option (InferenceStreamEvent Chunk)) → Option Chunk
  | .ready (some (.frame chunk)) => some chunk
  | _ => none

/-- The terminal event a stream yields for what its upstream returned: the upstream's own, or
one made up for an upstream that has ended without one. -/
def terminal : Poll (Option (InferenceStreamEvent Chunk)) → Option (InferenceStreamEvent Chunk)
  | .ready (some .completed) => some .completed
  | .ready (some (.failed failure)) => some (.failed failure)
  | .ready none => some (.failed sanitizedPostCommitFailure)
  | _ => none

/-- The program that records a terminal event. -/
def settlement (attempt : StreamAttempt) : InferenceStreamEvent Chunk → UseCase Body Unit
  | .completed => attempt.succeed
  | .failed failure => attempt.fail failure
  | .frame _ => .pure ()

variable {stream : ManagedInferenceStream Body Chunk}
  {result : Poll (Option (InferenceStreamEvent Chunk))} {event : InferenceStreamEvent Chunk}

/-- Until its upstream concludes, a stream stays as it is. -/
theorem receive_of_terminal_eq_none (h : terminal result = none) :
    (stream.receive result).2 = stream := by
  rcases result with _ | _ | chunk | _ | failure
  · rfl
  · cases h
  · rfl
  · cases h
  · cases h

/-- What concludes the upstream starts the program that records it. -/
theorem receive_of_terminal_eq_some (h : terminal result = some event) :
    (stream.receive result).2 =
      { stream with pendingTerminal := some (event, settlement stream.attempt event) } := by
  rcases result with _ | _ | chunk | _ | failure
  · cases h
  · cases h
    rfl
  · cases h
  · cases h
    rfl
  · cases h
    rfl

end ManagedInferenceStream

end SmartGateway
