import SmartGateway.Application.StreamProtocol

/-! # Client disconnects

What becomes of the terminal event of an upstream when the stream that has taken it is dropped.
The drop spawns a cancellation whenever the event was not yet returned, so the cancellation
competes with the program that records the event, and that program is gone, with the call it was
waiting for. The event survives every drop but those that come before the repository has accepted
its record and answered the mark it demands.
-/

namespace SmartGateway

open ManagedInferenceStream

namespace StreamLife

variable {Body Chunk : Type}

/-! ## Evidence -/

/-- The terminal event an upstream itself has reported. -/
def reported : Poll (Option (InferenceStreamEvent Chunk)) → Option (InferenceStreamEvent Chunk)
  | .ready (some .completed) => some .completed
  | .ready (some (.failed failure)) => some (.failed failure)
  | _ => none

/-- The record of an attempt whose upstream has reported a terminal event. -/
def evidence (attempt : StreamAttempt) : InferenceStreamEvent Chunk → AttemptRecord
  | .failed failure => attempt.record .partialFailed (some failure.category.debug)
  | _ => attempt.record .succeeded none

/-- The health marks a failure demands. -/
def demanded (attempt : StreamAttempt) :
    InferenceStreamEvent Chunk → List RepositoryOp
  | .failed failure =>
    if failure.category.blocksAccount then
      [.markAccountFailure attempt.providerAccountId failure]
    else [.markRouteFailure attempt.routeId failure]
  | _ => []

/-- The stream-terminal outcome a call has brought to the repository. -/
def recordedBy : Event (application Body) → Option AttemptOutcome
  | ⟨.configuration (.recordAttempt record), .ok _⟩ =>
    if record.outcome.isStreamTerminal then some record.outcome else none
  | _ => none

/-- The stream-terminal outcome a call has brought to the spool. -/
def spooledBy : Event (application Body) → Option AttemptOutcome
  | ⟨.appendAttempt record, .ok _⟩ =>
    if record.outcome.isStreamTerminal then some record.outcome else none
  | _ => none

/-- The terminal event the stream has taken from its upstream. -/
def observed (s : StreamLife Body Chunk) : Option (InferenceStreamEvent Chunk) :=
  s.polls.findSome? reported

/-- The outcome the repository has accepted; it keeps the first one. -/
def accepted (s : StreamLife Body Chunk) : Option AttemptOutcome :=
  s.calls.findSome? recordedBy

/-- The terminal outcome that is on record: the one the repository has accepted, or else the
first one the spool will bring to it. -/
def recorded (s : StreamLife Body Chunk) : Option AttemptOutcome :=
  s.accepted.or (s.calls.findSome? spooledBy)

/-- The call has reached the repository, which has answered it. One that is only in flight does
not count: the drop of the stream may destroy it. -/
def Issued (s : StreamLife Body Chunk) (op : RepositoryOp) : Prop :=
  ∃ call ∈ s.calls, call.op = .configuration op

/-- The terminal event that was taken, if one was, is what is on record, if anything is; and by
the time the stream is over its record and the marks it demands were issued. -/
def EvidenceKept (s : StreamLife Body Chunk) : Prop :=
  ∀ event, s.observed = some event →
    (∀ outcome, s.recorded = some outcome → outcome = (evidence s.stream.attempt event).outcome) ∧
    (s.dropped = true ∨ s.stream.terminalEmitted = true →
      s.Issued (.recordAttempt (evidence s.stream.attempt event)) ∧
      ∀ op ∈ demanded s.stream.attempt event, s.Issued op)

/-- A stream that may be dropped: it has taken no terminal event, or has returned it, or the
record of the event was accepted and the marks it demands were issued. -/
def SafeToDrop (s : StreamLife Body Chunk) : Prop :=
  ∀ event, s.observed = some event → s.stream.terminalEmitted = true ∨
    s.accepted ≠ none ∧ ∀ op ∈ demanded s.stream.attempt event, s.Issued op

/-- No other record is submitted anywhere. -/
def Only (record : AttemptRecord) (calls : List (Event (application Body))) : Prop :=
  ∀ call ∈ calls, ∀ other,
    call.op = .configuration (.recordAttempt other) ∨ call.op = .appendAttempt other →
      other = record

section Calls

variable {attempt : StreamAttempt} {record : AttemptRecord} {outcome : AttemptOutcome}
  {call : Event (application Body)} {calls calls' : List (Event (application Body))}
  {event : InferenceStreamEvent Chunk}

theorem of_recordedBy_eq_some (h : recordedBy call = some outcome) :
    ∃ record, call.op = .configuration (.recordAttempt record) ∧ outcome = record.outcome := by
  unfold recordedBy at h
  split at h
  · next record _ =>
    split at h
    · exact ⟨record, rfl, (Option.some.inj h).symm⟩
    · cases h
  · cases h

theorem of_spooledBy_eq_some (h : spooledBy call = some outcome) :
    ∃ record, call.op = .appendAttempt record ∧ outcome = record.outcome := by
  unfold spooledBy at h
  split at h
  · next record _ =>
    split at h
    · exact ⟨record, rfl, (Option.some.inj h).symm⟩
    · cases h
  · cases h

theorem Only.append (h : Only record calls) (h' : Only record calls') :
    Only record (calls ++ calls') := by
  intro call hcall
  rcases List.mem_append.mp hcall with hcall | hcall
  · exact h call hcall
  · exact h' call hcall

/-- A demanded mark is not a record. -/
theorem demanded_ne_recordAttempt {op : RepositoryOp} (h : op ∈ demanded attempt event) :
    (.configuration (.recordAttempt record) : ApplicationOp) ≠ .configuration op := by
  rintro ⟨⟩
  rcases event with chunk | _ | failure
  · cases h
  · cases h
  · rw [demanded] at h
    split at h
    · cases List.mem_singleton.mp h
    · cases List.mem_singleton.mp h

/-- What is on record comes from one of the calls. -/
theorem Only.recorded {s : StreamLife Body Chunk} (h : Only record s.calls)
    (hrecorded : s.recorded = some outcome) : outcome = record.outcome := by
  rw [StreamLife.recorded, Option.or_eq_some_iff] at hrecorded
  rcases hrecorded with haccepted | ⟨-, hspooled⟩
  · obtain ⟨call, hcall, hby⟩ := List.exists_of_findSome?_eq_some haccepted
    obtain ⟨other, hop, rfl⟩ := of_recordedBy_eq_some hby
    rw [h call hcall other (.inl hop)]
  · obtain ⟨call, hcall, hby⟩ := List.exists_of_findSome?_eq_some hspooled
    obtain ⟨other, hop, rfl⟩ := of_spooledBy_eq_some hby
    rw [h call hcall other (.inr hop)]

/-- When the repository has accepted a record, it is the one that was submitted. -/
theorem Only.accepted {s : StreamLife Body Chunk} (h : Only record s.calls)
    (haccepted : s.accepted ≠ none) :
    s.accepted = some record.outcome ∧ s.Issued (.recordAttempt record) := by
  obtain ⟨outcome, houtcome⟩ := Option.ne_none_iff_exists'.mp haccepted
  obtain ⟨call, hcall, hby⟩ := List.exists_of_findSome?_eq_some houtcome
  obtain ⟨other, hop, rfl⟩ := of_recordedBy_eq_some hby
  have hother : other = record := h call hcall other (.inl hop)
  rw [hother] at houtcome hop
  exact ⟨houtcome, call, hcall, hop⟩

end Calls

/-! ## Drops -/

section Drops

variable {s s' : StreamLife Body Chunk} {event : InferenceStreamEvent Chunk}
  {seen : StreamStep Body Chunk}

theorem terminal_of_reported {result : Poll (Option (InferenceStreamEvent Chunk))}
    (h : reported result = some event) : terminal result = some event := by
  rcases result with _ | _ | chunk | _ | failure
  · cases h
  · cases h
  · cases h
  · exact h
  · exact h

/-- Only an upstream that has concluded has reported a terminal event. -/
theorem Forwards.observed_eq_none (h : Forwards s.polls s.history) : s.observed = none := by
  rw [StreamLife.observed, List.findSome?_eq_none_iff]
  intro result hresult
  rw [Option.eq_none_iff_forall_ne_some]
  intro event hevent
  exact absurd ((h.1 result hresult).symm.trans (terminal_of_reported hevent)) nofun

/-- What a safe drop leaves behind: the event is on record, and everything it demands was
issued. -/
def Survives (s : StreamLife Body Chunk) : Prop :=
  ∀ event, s.observed = some event → s.stream.terminalEmitted = false →
    s.accepted = some (evidence s.stream.attempt event).outcome ∧
      s.Issued (.recordAttempt (evidence s.stream.attempt event)) ∧
      ∀ op ∈ demanded s.stream.attempt event, s.Issued op

/-- Steps that leave the stream alone keep what is accepted and what was issued. -/
theorem Survives.frame (h : Survives s) (hstream : s'.stream = s.stream)
    (hhistory : s'.history = s.history ++ [seen]) (hpolled : seen.polled = none) :
    Survives s' := by
  intro event hobserved hopen
  have hsame : s'.observed = s.observed := by
    simp [StreamLife.observed, StreamLife.polls, hhistory, hpolled]
  have hissued : ∀ op, s.Issued op → s'.Issued op := by
    rintro op ⟨call, hcall, hop⟩
    refine ⟨call, ?_, hop⟩
    rw [calls_snoc hhistory]
    exact List.mem_append_left _ hcall
  rw [hsame] at hobserved
  rw [hstream] at hopen ⊢
  obtain ⟨hright, hrecord, hmarks⟩ := h event hobserved hopen
  refine ⟨?_, hissued _ hrecord, fun op hop => hissued op (hmarks op hop)⟩
  rw [StreamLife.accepted, calls_snoc hhistory, List.findSome?_append]
  exact Option.or_eq_some_iff.mpr (.inl hright)

/-- A terminal event that was taken and not returned waits for a call. -/
theorem Phase.awaits (h : Phase s) (hobserved : s.observed = some event)
    (hopen : s.stream.terminalEmitted = false) (hbetween : s.BetweenPolls) :
    ∃ op, s.pendingOp = some op := by
  cases h with
  | streaming hidle hopen' hflight hforwards =>
    exact absurd (hobserved.symm.trans hforwards.observed_eq_none) nofun
  | settling hpending =>
    refine Option.ne_none_iff_exists'.mp (hbetween ?_)
    rw [hpending]
    rfl
  | concluded hidle hemitted => exact absurd (hopen.symm.trans hemitted) nofun

/-- After a drop the call in flight may be lost with the stream, and the cancellation be accepted;
then nothing more is done for the attempt. -/
theorem cancelled_alone {op : ApplicationOp} (hstep : StreamLife.Step s .drops s')
    (hopen : s.stream.terminalEmitted = false) (hop : s.pendingOp = some op) :
    ∃ alone call lost, StreamLife.Step s' .loses alone ∧
      StreamLife.Step alone (.cancels call) lost ∧ recordedBy call = some .cancelled ∧
      call.op = .configuration (.recordAttempt (s.stream.attempt.record .cancelled none)) ∧
      lost.history = s.history ++ [.drops] ++ [.loses] ++ [.cancels call] ∧
      lost.stream = s.stream ∧ lost.dropped = true ∧ lost.inFlight = none ∧
      lost.cancellation = some (.pure ()) := by
  let call : Event (application Body) :=
    ⟨.configuration (.recordAttempt (s.stream.attempt.record .cancelled none)), .ok ()⟩
  obtain ⟨alone, hloses, hspawned, hhistory, hstream, hgone, hflight⟩ : ∃ alone,
      StreamLife.Step s' .loses alone ∧ alone.cancellation = some s.stream.attempt.cancel ∧
        alone.history = s.history ++ [.drops] ++ [.loses] ∧ alone.stream = s.stream ∧
        alone.dropped = true ∧ alone.inFlight = none := by
    cases hstep with
    | drops hlive hbetween => exact ⟨_, .loses hop, by simp [hopen], rfl, rfl, rfl, rfl⟩
  obtain ⟨lost, hcancels, hlost, hstream', hgone', hflight', hdone⟩ : ∃ lost,
      StreamLife.Step alone (.cancels call) lost ∧
        lost.history = alone.history ++ [.cancels call] ∧ lost.stream = alone.stream ∧
        lost.dropped = alone.dropped ∧ lost.inFlight = alone.inFlight ∧
        lost.cancellation = some (.pure ()) :=
    ⟨_, .cancels hspawned (.ok ()), rfl, rfl, rfl, rfl, rfl⟩
  refine ⟨alone, call, lost, hloses, hcancels, rfl, rfl, ?_, hstream'.trans hstream,
    hgone'.trans hgone, hflight'.trans hflight, hdone⟩
  rw [hlost, hhistory]

/-- After a drop at any other time the attempt may end up cancelled, or without a mark it
demands. -/
theorem Phase.lost (h : Phase s) (hstep : StreamLife.Step s .drops s') (hrisky : ¬ SafeToDrop s) :
    ∃ alone call lost, StreamLife.Step s' .loses alone ∧
      StreamLife.Step alone (.cancels call) lost ∧ lost.inFlight = none ∧
      lost.cancellation = some (.pure ()) ∧
      (s.accepted = none → lost.recorded = some .cancelled) ∧ ¬ EvidenceKept lost := by
  simp only [SafeToDrop, not_forall, not_or, Bool.not_eq_true] at hrisky
  obtain ⟨event, hobserved, hopen, hunsafe⟩ := hrisky
  have hbetween : s.BetweenPolls := by
    cases hstep with
    | drops hlive hbetween => exact hbetween
  obtain ⟨op, hop⟩ := h.awaits hobserved hopen hbetween
  obtain ⟨alone, call, lost, hloses, hcancels, hby, hcall, hhistory, hstream, hgone, hflight,
    hdone⟩ := cancelled_alone hstep hopen hop
  have hcalls : lost.calls = s.calls ++ [call] := by
    simp [StreamLife.calls, hhistory, List.filterMap_cons, StreamStep.called]
  have hobserved' : lost.observed = some event := by
    rw [← hobserved]
    simp [StreamLife.observed, StreamLife.polls, hhistory, List.filterMap_cons, StreamStep.polled]
  have hrecorded : s.accepted = none → lost.recorded = some .cancelled := by
    intro hnone
    rw [StreamLife.accepted] at hnone
    rw [StreamLife.recorded, StreamLife.accepted, hcalls]
    simp [List.findSome?_append, hnone, hby]
  refine ⟨alone, call, lost, hloses, hcancels, hflight, hdone, hrecorded, fun hkept => ?_⟩
  obtain ⟨hright, hissued⟩ := hkept event hobserved'
  refine hunsafe ⟨fun hnone => ?_, fun mark hmark => ?_⟩
  · -- What was observed asks for another outcome than the one recorded.
    have hwrong := hright .cancelled (hrecorded hnone)
    rcases event with chunk | _ | failure <;> simp [evidence, StreamAttempt.record] at hwrong
  · -- A mark that was not issued before the drop never is.
    rw [hstream] at hissued
    obtain ⟨made, hmade, hop⟩ := (hissued (.inl hgone)).2 mark hmark
    rw [hcalls] at hmade
    rcases List.mem_append.mp hmade with hearlier | hlast
    · exact ⟨made, hearlier, hop⟩
    · rw [List.mem_singleton.mp hlast, hcall] at hop
      exact absurd hop (demanded_ne_recordAttempt hmark)

end Drops

end StreamLife

end SmartGateway
