import SmartGateway.Application.ManagedStream

/-! # The protocol of a managed stream

What a stream shows its client and what it asks of its repository, in every reachable life: the
frames as they came, one terminal event once everything about the attempt was recorded, and a
cancellation when the client has gone before the upstream concluded.
-/

namespace SmartGateway

open ManagedInferenceStream

namespace StreamLife

variable {Body Chunk : Type}

/-! ## What is asked about an attempt -/

/-- The calls that submit a record, and whether it was accepted: the repository is asked once,
and the spool, if there is one, when the repository refuses. -/
inductive Submitted (attempt : StreamAttempt) (record : AttemptRecord) :
    Bool → List (Event (application Body)) → Prop where
  | recorded :
    Submitted attempt record true [⟨.configuration (.recordAttempt record), .ok ()⟩]
  | spooled (error : String) (hspool : attempt.usageSpool = true) :
    Submitted attempt record true
      [⟨.configuration (.recordAttempt record), .error error⟩, ⟨.appendAttempt record, .ok ()⟩]
  | refused (error error' : String) (hspool : attempt.usageSpool = true) :
    Submitted attempt record false
      [⟨.configuration (.recordAttempt record), .error error⟩,
        ⟨.appendAttempt record, .error error'⟩]
  | unspooled (error : String) (hspool : attempt.usageSpool = false) :
    Submitted attempt record false [⟨.configuration (.recordAttempt record), .error error⟩]

/-- A call that is made once if it is demanded, and not at all otherwise; any answer will do. -/
inductive Marked (op : RepositoryOp) : Bool → List (Event (application Body)) → Prop where
  | made (answer : Except String op.Output) : Marked op true [⟨.configuration op, answer⟩]
  | skipped : Marked op false []

/-- The calls a terminal event demands: its record, and the health marks after it. -/
inductive Settled (attempt : StreamAttempt) :
    InferenceStreamEvent Chunk → List (Event (application Body)) → Prop where
  /-- The route has succeeded if the record was accepted. -/
  | completed {accepted : Bool} {record route : List (Event (application Body))}
    (hrecord : Submitted attempt (attempt.record .succeeded none) accepted record)
    (hroute : Marked (.markRouteSuccess attempt.routeId) accepted route) :
    Settled attempt .completed (record ++ route)
  /-- The category of the failure says which mark is due, whatever became of the record. -/
  | failed {failure : ProviderFailure} {accepted : Bool}
    {record account route : List (Event (application Body))}
    (hrecord : Submitted attempt
      (attempt.record .partialFailed (some failure.category.debug)) accepted record)
    (haccount : Marked (.markAccountFailure attempt.providerAccountId failure)
      failure.category.blocksAccount account)
    (hroute : Marked (.markRouteFailure attempt.routeId failure)
      failure.category.opensRoute route) :
    Settled attempt (.failed failure) (record ++ (account ++ route))

section Attempt

variable {attempt : StreamAttempt} {calls : List (Event (application Body))}

theorem submitted_of_path {record : AttemptRecord} {result : Except Unit Unit}
    (h : Program.Path (attempt.persist record) calls (.pure result)) :
    Submitted attempt record result.isOk calls := by
  obtain ⟨asked, answer, spooled, rfl, hasked, hspooled⟩ := h.bind_pure
  obtain rfl := hasked.perform_pure
  rcases answer with error | _
  · -- Only after a refusal does the spool matter.
    dsimp only at hspooled
    split at hspooled
    next hspool =>
      obtain ⟨appended, answer', ended, rfl, happended, hended⟩ := hspooled.bind_pure
      obtain rfl := happended.perform_pure
      rcases answer' with error' | _
      · obtain ⟨rfl, hresult⟩ := Program.path_pure_iff.mp hended
        cases hresult
        exact .refused error error' hspool
      · obtain ⟨rfl, hresult⟩ := Program.path_pure_iff.mp hended
        cases hresult
        exact .spooled error hspool
    next hspool =>
      obtain ⟨rfl, hresult⟩ := Program.path_pure_iff.mp hspooled
      cases hresult
      exact .unspooled error (by simpa using hspool)
  · obtain ⟨rfl, hresult⟩ := Program.path_pure_iff.mp hspooled
    cases hresult
    exact .recorded

theorem marked_of_path {condition : Bool} {op : RepositoryOp}
    (h : Program.Path (StreamAttempt.callIf condition op) calls (.pure ())) :
    Marked op condition calls := by
  rcases condition with _ | _
  · obtain ⟨rfl, -⟩ := Program.path_pure_iff.mp h
    exact .skipped
  · obtain ⟨asked, answer, ended, rfl, hasked, hended⟩ := h.bind_pure
    obtain rfl := hasked.perform_pure
    obtain ⟨rfl, -⟩ := Program.path_pure_iff.mp hended
    exact .made answer

/-- The program a terminal event starts makes the calls the event demands. -/
theorem settled_of_path {event : InferenceStreamEvent Chunk}
    {result : Poll (Option (InferenceStreamEvent Chunk))} (hevent : terminal result = some event)
    (h : Program.Path (settlement attempt event) calls (.pure ())) :
    Settled attempt event calls := by
  rcases event with chunk | _ | failure
  · -- A frame is not a terminal event.
    rcases result with _ | _ | _ | _ | _ <;> cases hevent
  · obtain ⟨record, accepted, route, rfl, hrecord, hroute⟩ := h.bind_pure
    have hsubmitted := submitted_of_path hrecord
    rcases accepted with _ | _
    · obtain ⟨rfl, -⟩ := Program.path_pure_iff.mp hroute
      exact .completed hsubmitted .skipped
    · have hmarked : Marked (.markRouteSuccess attempt.routeId) true route := marked_of_path hroute
      exact .completed hsubmitted hmarked
  · obtain ⟨record, accepted, marks, rfl, hrecord, hmarks⟩ := h.bind_pure
    obtain ⟨account, _, route, rfl, haccount, hroute⟩ := hmarks.bind_pure
    exact .failed (submitted_of_path hrecord) (marked_of_path haccount) (marked_of_path hroute)

/-- The program of a drop submits one record, and does nothing else. -/
theorem cancelled_of_path (h : Program.Path attempt.cancel calls (.pure ())) :
    ∃ accepted, Submitted attempt (attempt.record .cancelled none) accepted calls := by
  obtain ⟨record, accepted, ended, rfl, hrecord, hended⟩ := h.bind_pure
  obtain ⟨rfl, -⟩ := Program.path_pure_iff.mp hended
  rw [List.append_nil]
  exact ⟨accepted.isOk, submitted_of_path hrecord⟩

/-- Every call of the application can be answered. -/
theorem nonempty_answer (op : ApplicationOp) : Nonempty (op.Answer Body) := by
  cases op with
  | newAttemptId => exact ⟨AttemptId.least⟩
  | unixTime => exact ⟨none⟩
  | configuration op => exact ⟨.error ""⟩
  | resolve reference => exact ⟨.error ""⟩
  | execute route request credential =>
    exact ⟨.error sanitizedPostCommitFailure⟩
  | appendAttempt attempt => exact ⟨.ok ()⟩
  | recordQuotaSnapshot snapshot => exact ⟨.ok ()⟩
  | recordBillingRecord record => exact ⟨.ok ()⟩

/-- The calls made so far are a beginning of all calls of a program. -/
theorem exists_rest {program rest : UseCase Body Unit}
    (h : Program.Path program calls rest) :
    ∃ later, Program.Path program (calls ++ later) (.pure ()) ∧ (rest = .pure () → later = []) := by
  rcases rest with _ | ⟨op, next⟩
  · exact ⟨[], by rwa [List.append_nil], fun _ => rfl⟩
  · obtain ⟨later, _, hlater⟩ := Program.exists_path_pure nonempty_answer (.call op next)
    exact ⟨later, h.trans hlater, nofun⟩

end Attempt

/-! ## The protocol -/

/-- The frames of polls, as a stream returns them. -/
def frames (handed : List (Poll (Option (InferenceStreamEvent Chunk)))) :
    List (Option (InferenceStreamEvent Chunk)) :=
  handed.filterMap fun result => (frame result).map fun chunk => some (.frame chunk)

/-- None of the polls has concluded the upstream, and what was returned are their frames. -/
def Forwards (handed : List (Poll (Option (InferenceStreamEvent Chunk))))
    (history : List (StreamStep Body Chunk)) : Prop :=
  (∀ result ∈ handed, terminal result = none) ∧
    history.filterMap StreamStep.returned = frames handed

/-- The last poll has concluded the upstream with a terminal event, which is yet to be
returned. -/
def Concludes (event : InferenceStreamEvent Chunk) (history : List (StreamStep Body Chunk)) :
    Prop :=
  ∃ handed last, history.filterMap StreamStep.polled = handed ++ [last] ∧
    terminal last = some event ∧ Forwards handed history

/-- The calls of the spawned task: one cancelled record is submitted, which is all it does. -/
def Cancelling (s : StreamLife Body Chunk) (calls : List (Event (application Body))) : Prop :=
  ∃ rest later accepted, s.cancellation = some rest ∧
    Submitted s.stream.attempt (s.stream.attempt.record .cancelled none) accepted
      (calls ++ later) ∧ (rest = .pure () → later = [])

/-- A stream that was dropped while the calls its terminal event demands were being made: of
these only the call in flight may still be made, and beside it a cancelled record is
submitted. -/
structure Abandoned (s : StreamLife Body Chunk) (event : InferenceStreamEvent Chunk)
    (before after : List (StreamStep Body Chunk)) : Prop where
  history : s.history = before ++ .drops :: after
  late : ∀ step ∈ after, step.Late
  settled : ∃ later, Settled s.stream.attempt event
    (before.filterMap StreamStep.called ++ after.filterMap StreamStep.landed ++ later)
  landed : (after.filterMap StreamStep.landed).length ≤ 1
  cancelling : Cancelling s (after.filterMap StreamStep.cancelling)

/-- What a life shows of a stream that keeps to the protocol. -/
inductive Orderly (s : StreamLife Body Chunk) : Prop where
  /-- The upstream has not concluded. Nothing is asked unless the stream is dropped; then one
  cancelled record is submitted. -/
  | streaming (hforwards : Forwards s.polls s.history) (hlive : s.dropped = false → s.calls = [])
    (hdropped : s.dropped = true → Cancelling s s.calls)
  /-- The calls the terminal event demands are being made; once they all are, it is
  returned. -/
  | settling {event : InferenceStreamEvent Chunk} (hconcludes : Concludes event s.history)
    (hlive : s.dropped = false → ∃ later, Settled s.stream.attempt event (s.calls ++ later) ∧
      (s.pendingOp = none → later = [] ∧ ∃ s', StreamLife.Step s (.emits event) s'))
    (hdropped : s.dropped = true → ∃ before after, Abandoned s event before after)
  /-- The terminal event was returned, after all the calls it demands and once. Polls after it
  return `None`, and a drop does nothing. -/
  | concluded {event : InferenceStreamEvent Chunk} {before after : List (StreamStep Body Chunk)}
    (hhistory : s.history = before ++ .emits event :: after)
    (hconcludes : Concludes event before)
    (hcalls : Settled s.stream.attempt event (before.filterMap StreamStep.called))
    (hafter : ∀ step ∈ after, step = .ends ∨ step = .drops)

/-- What goes on after a drop in the midst of a settlement: the call in flight is the next one
of the settlement, and the spawned task runs on its own. -/
structure Adrift (s : StreamLife Body Chunk) (event : InferenceStreamEvent Chunk)
    (before after : List (StreamStep Body Chunk)) : Prop where
  history : s.history = before ++ .drops :: after
  late : ∀ step ∈ after, step.Late
  settlement : ∃ rest, Program.Path (settlement s.stream.attempt event)
      (before.filterMap StreamStep.called ++ after.filterMap StreamStep.landed) rest ∧
    ∀ op, s.inFlight = some op → awaited rest = some op ∧ after.filterMap StreamStep.landed = []
  landed : (after.filterMap StreamStep.landed).length ≤ 1
  cancellation : ∃ rest, s.cancellation = some rest ∧
    Program.Path s.stream.attempt.cancel (after.filterMap StreamStep.cancelling) rest

/-- How far a stream has come, with what is left of the programs it has started. -/
inductive Phase (s : StreamLife Body Chunk) : Prop where
  | streaming (hidle : s.stream.pendingTerminal = none)
    (hopen : s.stream.terminalEmitted = false) (hflight : s.inFlight = none)
    (hforwards : Forwards s.polls s.history)
    (hlive : s.dropped = false → s.cancellation = none ∧ s.calls = [])
    (hdropped : s.dropped = true → ∃ rest, s.cancellation = some rest ∧
      Program.Path s.stream.attempt.cancel s.calls rest)
  | settling {event : InferenceStreamEvent Chunk} {rest : UseCase Body Unit}
    (hpending : s.stream.pendingTerminal = some (event, rest))
    (hopen : s.stream.terminalEmitted = false)
    (hconcludes : Concludes event s.history)
    (hlive : s.dropped = false → s.inFlight = none ∧ s.cancellation = none ∧
      Program.Path (settlement s.stream.attempt event) s.calls rest)
    (hdropped : s.dropped = true → ∃ before after, Adrift s event before after)
  | concluded {event : InferenceStreamEvent Chunk} {before after : List (StreamStep Body Chunk)}
    (hidle : s.stream.pendingTerminal = none) (hemitted : s.stream.terminalEmitted = true)
    (hquiet : s.inFlight = none ∧ s.cancellation = none)
    (hhistory : s.history = before ++ .emits event :: after)
    (hconcludes : Concludes event before)
    (hcalls : Program.Path (settlement s.stream.attempt event)
      (before.filterMap StreamStep.called) (.pure ()))
    (hafter : ∀ step ∈ after, step = .ends ∨ step = .drops)

section Run

variable {s s' : StreamLife Body Chunk} {event : InferenceStreamEvent Chunk}
  {history : List (StreamStep Body Chunk)} {seen : StreamStep Body Chunk}

/-- What is left of a cancellation can be run to its end. -/
theorem cancelling_of_path {calls : List (Event (application Body))}
    (h : ∃ rest, s.cancellation = some rest ∧
      Program.Path s.stream.attempt.cancel calls rest) : Cancelling s calls := by
  obtain ⟨rest, hrest, hpath⟩ := h
  obtain ⟨later, hlater, hdone⟩ := exists_rest hpath
  obtain ⟨accepted, hsubmitted⟩ := cancelled_of_path hlater
  exact ⟨rest, later, accepted, hrest, hsubmitted, hdone⟩

/-- A step that neither polls the upstream nor returns anything leaves the forwarding alone. -/
theorem Concludes.snoc (h : Concludes event history) (hpolled : seen.polled = none)
    (hreturned : seen.returned = none) : Concludes event (history ++ [seen]) := by
  obtain ⟨handed, last, hpolls, hlast, hopen, hframes⟩ := h
  refine ⟨handed, last, ?_, hlast, hopen, ?_⟩
  · simpa [hpolled] using hpolls
  · simpa [hreturned] using hframes

/-- A poll that does not conclude the upstream returns its frame, if it has brought one. -/
theorem Forwards.takes {result : Poll (Option (InferenceStreamEvent Chunk))}
    (h : Forwards (history.filterMap StreamStep.polled) history)
    (hresult : terminal result = none) :
    Forwards ((history ++ [StreamStep.takes result]).filterMap StreamStep.polled)
      (history ++ [StreamStep.takes result]) := by
  obtain ⟨hopen, hframes⟩ := h
  have hone : ([.takes result] : List (StreamStep Body Chunk)).filterMap StreamStep.returned =
      frames [result] := by
    rcases result with _ | _ | chunk | _ | failure
    · rfl
    · cases hresult
    · rfl
    · cases hresult
    · cases hresult
  constructor
  · simpa [StreamStep.polled, or_imp, forall_and, hresult] using hopen
  · rw [List.filterMap_append, hframes, hone]
    simp [frames, StreamStep.polled]

/-- The poll that concludes the upstream returns nothing yet. -/
theorem Forwards.concludes {result : Poll (Option (InferenceStreamEvent Chunk))}
    (h : Forwards (history.filterMap StreamStep.polled) history)
    (hresult : terminal result = some event) :
    Concludes event (history ++ [StreamStep.takes result]) := by
  refine ⟨history.filterMap StreamStep.polled, result, ?_, hresult, h.1, ?_⟩
  · simp [StreamStep.polled]
  · rw [List.filterMap_append, h.2]
    rcases result with _ | _ | chunk | _ | failure
    · cases hresult
    · simp [StreamStep.returned]
    · cases hresult
    · simp [StreamStep.returned]
    · simp [StreamStep.returned]

/-- A step that shows nothing leaves the forwarding alone. -/
theorem Forwards.snoc (h : Forwards (history.filterMap StreamStep.polled) history)
    (hpolled : seen.polled = none) (hreturned : seen.returned = none) :
    Forwards ((history ++ [seen]).filterMap StreamStep.polled) (history ++ [seen]) := by
  simpa [Forwards, hpolled, hreturned] using h

/-- Every call made shows in the calls of a life. -/
theorem calls_snoc (h : s'.history = s.history ++ [seen]) :
    s'.calls = s.calls ++ seen.called.toList := by
  rw [StreamLife.calls, h, List.filterMap_append]
  rfl

/-- One more step after the drop. -/
theorem Adrift.snoc {before after : List (StreamStep Body Chunk)} (h : Adrift s event before after)
    (seen : StreamStep Body Chunk) (hlate : seen.Late) :
    s.history ++ [seen] = before ++ .drops :: (after ++ [seen]) ∧
      ∀ step ∈ after ++ [seen], step.Late := by
  constructor
  · rw [h.history, List.append_assoc, List.cons_append]
  · intro step hstep
    rcases List.mem_append.mp hstep with hold | hnew
    · exact h.late step hold
    · rwa [List.mem_singleton.mp hnew]

/-- A stream that is dropped is adrift: no call of the spawned task was made yet. -/
theorem adrift_drops {rest : UseCase Body Unit}
    (hpending : s.stream.pendingTerminal = some (event, rest))
    (hopen : s.stream.terminalEmitted = false)
    (hpath : Program.Path (settlement s.stream.attempt event) s.calls rest)
    (hstep : StreamLife.Step s .drops s') : Adrift s' event s.history [] := by
  cases hstep with
  | drops hnot hbetween =>
    refine ⟨rfl, fun step hstep => absurd hstep List.not_mem_nil, ⟨rest, ?_, ?_⟩, Nat.zero_le _,
      s.stream.attempt.cancel, by simp [hopen], .refl _⟩
    · simpa [StreamLife.calls] using hpath
    · intro op hop
      rw [StreamLife.pendingOp, hpending] at hop
      exact ⟨hop, rfl⟩

/-- What still happens to a stream that was dropped: the call in flight lands or is lost, and the
spawned task goes on. -/
inductive LateStep (s : StreamLife Body Chunk) :
    StreamStep Body Chunk → StreamLife Body Chunk → Prop where
  | lands {op : ApplicationOp} (hflight : s.inFlight = some op) (answer : op.Answer Body) :
    LateStep s (.lands ⟨op, answer⟩)
      { s with inFlight := none, history := s.history ++ [.lands ⟨op, answer⟩] }
  | loses {op : ApplicationOp} (hflight : s.inFlight = some op) :
    LateStep s .loses { s with inFlight := none, history := s.history ++ [.loses] }
  | cancels {op : ApplicationOp} {next : op.Answer Body → UseCase Body Unit}
    (hspawned : s.cancellation = some (.call op next)) (answer : op.Answer Body) :
    LateStep s (.cancels ⟨op, answer⟩)
      { s with
        cancellation := some (next answer)
        history := s.history ++ [.cancels ⟨op, answer⟩] }

theorem Step.late (hstep : StreamLife.Step s seen s') (hgone : s.dropped = true) :
    LateStep s seen s' := by
  cases hstep with
  | takes hlive => exact absurd (hlive.symm.trans hgone) nofun
  | waits hlive => exact absurd (hlive.symm.trans hgone) nofun
  | answered hlive => exact absurd (hlive.symm.trans hgone) nofun
  | emits hlive => exact absurd (hlive.symm.trans hgone) nofun
  | ends hlive => exact absurd (hlive.symm.trans hgone) nofun
  | drops hlive => exact absurd (hlive.symm.trans hgone) nofun
  | lands hflight answer => exact .lands hflight answer
  | loses hflight => exact .loses hflight
  | cancels hspawned answer => exact .cancels hspawned answer

/-- Only the call in flight and the calls of the spawned task are still made. -/
theorem Adrift.step {before after : List (StreamStep Body Chunk)} (h : Adrift s event before after)
    (hgone : s.dropped = true) (hstep : StreamLife.Step s seen s') :
    Adrift s' event before (after ++ [seen]) := by
  obtain ⟨rest, hpath, hnext⟩ := h.settlement
  cases hstep.late hgone with
  -- The call that lands is the next one of the settlement, and nothing has landed before it.
  | @lands op hflight answer =>
    obtain ⟨hhistory, hlate⟩ := h.snoc (.lands ⟨op, answer⟩) trivial
    obtain ⟨hawaited, hnone⟩ := hnext op hflight
    rcases rest with _ | ⟨op', next⟩
    · cases hawaited
    · cases hawaited
      refine ⟨hhistory, hlate, ⟨next answer, ?_, ?_⟩, ?_, ?_⟩
      · simpa [hnone, StreamStep.landed] using hpath.snoc answer
      · intro op' hop
        cases hop
      · simp [hnone, StreamStep.landed]
      · simpa [List.filterMap_cons, StreamStep.cancelling] using h.cancellation
  | @loses op hflight =>
    obtain ⟨hhistory, hlate⟩ := h.snoc .loses trivial
    refine ⟨hhistory, hlate, ⟨rest, ?_, ?_⟩, ?_, ?_⟩
    · simpa [List.filterMap_cons, StreamStep.landed] using hpath
    · intro op' hop
      cases hop
    · simpa [List.filterMap_cons, StreamStep.landed] using h.landed
    · simpa [List.filterMap_cons, StreamStep.cancelling] using h.cancellation
  | @cancels op next hspawned answer =>
    obtain ⟨hhistory, hlate⟩ := h.snoc (.cancels ⟨op, answer⟩) trivial
    obtain ⟨task, htask, hdone⟩ := h.cancellation
    obtain rfl : task = .call op next := Option.some.inj (htask.symm.trans hspawned)
    refine ⟨hhistory, hlate, ⟨rest, ?_, ?_⟩, ?_, next answer, rfl, ?_⟩
    · simpa [List.filterMap_cons, StreamStep.landed] using hpath
    · simpa [List.filterMap_cons, StreamStep.landed] using hnext
    · simpa [List.filterMap_cons, StreamStep.landed] using h.landed
    · simpa [List.filterMap_cons, StreamStep.cancelling] using hdone.snoc answer

/-- What is adrift was abandoned. -/
theorem Adrift.abandoned {before after : List (StreamStep Body Chunk)}
    {result : Poll (Option (InferenceStreamEvent Chunk))} (h : Adrift s event before after)
    (hevent : terminal result = some event) : Abandoned s event before after := by
  obtain ⟨rest, hpath, -⟩ := h.settlement
  obtain ⟨later, hlater, -⟩ := exists_rest hpath
  exact ⟨h.history, h.late, ⟨later, settled_of_path hevent hlater⟩, h.landed,
    cancelling_of_path h.cancellation⟩

/-- Until the upstream concludes, a step polls it, drops the stream, or goes on with the
cancellation. -/
theorem Phase.streaming_step (hidle : s.stream.pendingTerminal = none)
    (hopen : s.stream.terminalEmitted = false) (hflight : s.inFlight = none)
    (hforwards : Forwards s.polls s.history)
    (hlive : s.dropped = false → s.cancellation = none ∧ s.calls = [])
    (hdropped : s.dropped = true → ∃ rest, s.cancellation = some rest ∧
      Program.Path s.stream.attempt.cancel s.calls rest)
    (hstep : StreamLife.Step s seen s') : Phase s' := by
  cases hstep with
  | takes hnot hopen' hidle' upstream result =>
    obtain ⟨hquiet, hnone⟩ := hlive hnot
    have hcalls : (s.history ++ [StreamStep.takes result]).filterMap StreamStep.called = [] := by
      simpa [StreamLife.calls, StreamStep.called] using hnone
    rcases hresult : terminal result with _ | event
    · rw [receive_of_terminal_eq_none hresult]
      refine .streaming hidle hopen hflight (hforwards.takes hresult) ?_ ?_
      · exact fun _ => ⟨hquiet, hcalls⟩
      · exact fun hgone => absurd (hnot.symm.trans hgone) nofun
    · -- The program that records the event has not made a call.
      rw [receive_of_terminal_eq_some hresult]
      refine .settling rfl hopen (hforwards.concludes hresult)
        (fun _ => ⟨hflight, hquiet, ?_⟩) fun hgone => absurd (hnot.symm.trans hgone) nofun
      rw [StreamLife.calls, hcalls]
      exact .refl _
  -- Nothing is pending, so no step of the terminal future is possible.
  | waits hnot hwaiting =>
    exact absurd (by rw [StreamLife.pendingOp, hidle]; rfl) hwaiting
  | answered hnot hpending answer => exact absurd (hidle.symm.trans hpending) nofun
  | emits hnot hpending => exact absurd (hidle.symm.trans hpending) nofun
  | ends hnot hemitted => exact absurd (hopen.symm.trans hemitted) nofun
  -- The drop spawns the cancellation, which has made no call yet.
  | drops hnot hbetween =>
    refine .streaming hidle hopen ?_ (hforwards.snoc rfl rfl) nofun fun _ => ?_
    · simp [StreamLife.pendingOp, hidle]
    · refine ⟨s.stream.attempt.cancel, by simp [hopen], ?_⟩
      have hcalls : s.calls = [] := (hlive hnot).2
      rw [calls_snoc (s := s) rfl, hcalls]
      exact .refl _
  | lands hflying answer => exact absurd (hflight.symm.trans hflying) nofun
  | loses hflying => exact absurd (hflight.symm.trans hflying) nofun
  -- Only a dropped stream has a cancellation to go on with.
  | @cancels op next hspawned answer =>
    refine .streaming hidle hopen hflight (hforwards.snoc rfl rfl) ?_ ?_
    · intro hnot
      exact absurd ((hlive hnot).1.symm.trans hspawned) nofun
    · intro hgone
      obtain ⟨rest, hrest, hpath⟩ := hdropped hgone
      obtain rfl : rest = .call op next := Option.some.inj (hrest.symm.trans hspawned)
      exact ⟨next answer, rfl, by rw [calls_snoc (s := s) rfl]; exact hpath.snoc answer⟩

/-- Once the upstream has concluded, a step goes on with the program that records the event,
returns the event when that is done, or drops the stream. -/
theorem Phase.settling_step {rest : UseCase Body Unit}
    (hpending : s.stream.pendingTerminal = some (event, rest))
    (hopen : s.stream.terminalEmitted = false) (hconcludes : Concludes event s.history)
    (hlive : s.dropped = false → s.inFlight = none ∧ s.cancellation = none ∧
      Program.Path (settlement s.stream.attempt event) s.calls rest)
    (hdropped : s.dropped = true → ∃ before after, Adrift s event before after)
    (hstep : StreamLife.Step s seen s') : Phase s' := by
  rcases hgone : s.dropped with _ | _
  · obtain ⟨hflight, hquiet, hpath⟩ := hlive hgone
    cases hstep with
    | takes hnot hopen' hidle upstream result => exact absurd (hidle.symm.trans hpending) nofun
    | waits hnot hwaiting =>
      refine .settling hpending hopen (hconcludes.snoc rfl rfl) (fun _ => ?_)
        fun hgone' => absurd (hgone.symm.trans hgone') nofun
      refine ⟨hflight, hquiet, ?_⟩
      rw [calls_snoc (s := s) rfl]
      simpa [StreamStep.called] using hpath
    -- The answered call is the next one on the path of the settlement.
    | @answered _ op next hnot hpending' answer =>
      obtain ⟨rfl, rfl⟩ := Prod.mk.inj (Option.some.inj (hpending.symm.trans hpending'))
      refine .settling rfl hopen (hconcludes.snoc rfl rfl) (fun _ => ?_)
        fun hgone' => absurd (hgone.symm.trans hgone') nofun
      refine ⟨hflight, hquiet, ?_⟩
      rw [calls_snoc (s := s) rfl]
      exact hpath.snoc answer
    -- The settlement has returned, so its calls are the whole path.
    | emits hnot hpending' =>
      obtain ⟨rfl, rfl⟩ := Prod.mk.inj (Option.some.inj (hpending.symm.trans hpending'))
      exact .concluded rfl rfl ⟨hflight, hquiet⟩ rfl hconcludes hpath
        fun step hstep => absurd hstep List.not_mem_nil
    | ends hnot hemitted => exact absurd (hopen.symm.trans hemitted) nofun
    | drops hnot hbetween =>
      exact .settling hpending hopen (hconcludes.snoc rfl rfl) nofun fun _ =>
        ⟨_, _, adrift_drops hpending hopen hpath (.drops hnot hbetween)⟩
    | lands hflying answer => exact absurd (hflight.symm.trans hflying) nofun
    | loses hflying => exact absurd (hflight.symm.trans hflying) nofun
    | cancels hspawned answer => exact absurd (hquiet.symm.trans hspawned) nofun
  · obtain ⟨before, after, hadrift⟩ := hdropped hgone
    have hlater := hadrift.step hgone hstep
    -- A dropped stream stays as it was.
    obtain ⟨hstream, hdropped', hconcludes'⟩ : s'.stream = s.stream ∧ s'.dropped = s.dropped ∧
        Concludes event s'.history := by
      cases hstep.late hgone with
      | lands hflight answer => exact ⟨rfl, rfl, hconcludes.snoc rfl rfl⟩
      | loses hflight => exact ⟨rfl, rfl, hconcludes.snoc rfl rfl⟩
      | cancels hspawned answer => exact ⟨rfl, rfl, hconcludes.snoc rfl rfl⟩
    refine .settling (hstream ▸ hpending) (hstream ▸ hopen) hconcludes' ?_ fun _ => ⟨_, _, hlater⟩
    intro hnot
    exact absurd (hgone.symm.trans (hdropped'.symm.trans hnot)) nofun

/-- After the terminal event only polls that return `None` and the drop are left. -/
theorem Phase.concluded_step {before after : List (StreamStep Body Chunk)}
    (hidle : s.stream.pendingTerminal = none) (hemitted : s.stream.terminalEmitted = true)
    (hquiet : s.inFlight = none ∧ s.cancellation = none)
    (hhistory : s.history = before ++ .emits event :: after)
    (hconcludes : Concludes event before)
    (hcalls : Program.Path (settlement s.stream.attempt event)
      (before.filterMap StreamStep.called) (.pure ()))
    (hafter : ∀ step ∈ after, step = .ends ∨ step = .drops)
    (hstep : StreamLife.Step s seen s') : Phase s' := by
  -- What can still happen is that the consumer ends or drops the stream.
  have hlater : ∀ last : StreamStep Body Chunk, last = .ends ∨ last = .drops →
      s.history ++ [last] = before ++ .emits event :: (after ++ [last]) ∧
        ∀ step ∈ after ++ [last], step = .ends ∨ step = .drops := by
    intro last hlast
    refine ⟨by rw [hhistory, List.append_assoc, List.cons_append], ?_⟩
    intro step hstep
    rcases List.mem_append.mp hstep with hold | hnew
    · exact hafter step hold
    · rwa [List.mem_singleton.mp hnew]
  cases hstep with
  | takes hnot hopen hidle' upstream result => exact absurd (hopen.symm.trans hemitted) nofun
  | waits hnot hwaiting =>
    exact absurd (by rw [StreamLife.pendingOp, hidle]; rfl) hwaiting
  | answered hnot hpending answer => exact absurd (hidle.symm.trans hpending) nofun
  | emits hnot hpending => exact absurd (hidle.symm.trans hpending) nofun
  | ends hnot hemitted' =>
    obtain ⟨hwhole, hsteps⟩ := hlater .ends (.inl rfl)
    exact .concluded hidle hemitted hquiet hwhole hconcludes hcalls hsteps
  | drops hnot hbetween =>
    obtain ⟨hwhole, hsteps⟩ := hlater .drops (.inr rfl)
    refine .concluded hidle hemitted ⟨?_, by simp [hemitted]⟩ hwhole hconcludes hcalls hsteps
    simp [StreamLife.pendingOp, hidle]
  | lands hflying answer => exact absurd (hquiet.1.symm.trans hflying) nofun
  | loses hflying => exact absurd (hquiet.1.symm.trans hflying) nofun
  | cancels hspawned answer => exact absurd (hquiet.2.symm.trans hspawned) nofun

theorem Phase.step (h : Phase s) (hstep : StreamLife.Step s seen s') : Phase s' := by
  cases h with
  | streaming hidle hopen hflight hforwards hlive hdropped =>
    exact streaming_step hidle hopen hflight hforwards hlive hdropped hstep
  | settling hpending hopen hconcludes hlive hdropped =>
    exact settling_step hpending hopen hconcludes hlive hdropped hstep
  | concluded hidle hemitted hquiet hhistory hconcludes hcalls hafter =>
    exact concluded_step hidle hemitted hquiet hhistory hconcludes hcalls hafter hstep

theorem phase_of_reachable (h : (managed Body Chunk).Reachable s) : Phase s := by
  refine h.invariant ?_ fun s seen s' hphase hstep => hphase.step hstep
  rintro s ⟨upstream, attempt, rfl⟩
  exact .streaming rfl rfl rfl ⟨nofun, rfl⟩ (fun _ => ⟨rfl, rfl⟩) nofun

/-- What a phase shows. -/
theorem Phase.orderly (h : Phase s) : Orderly s := by
  cases h with
  | streaming hidle hopen hflight hforwards hlive hdropped =>
    exact .streaming hforwards (fun hnot => (hlive hnot).2) fun hgone =>
      cancelling_of_path (hdropped hgone)
  | @settling event rest hpending hopen hconcludes hlive hdropped =>
    obtain ⟨handed, last, hpolls, hlast, hforwards⟩ := hconcludes
    refine .settling ⟨handed, last, hpolls, hlast, hforwards⟩ (fun hnot => ?_) fun hgone => ?_
    · obtain ⟨later, hlater, hdone⟩ := exists_rest (hlive hnot).2.2
      refine ⟨later, settled_of_path hlast hlater, ?_⟩
      intro hnone
      -- Without a call to wait for, the program is done and the event can be returned.
      rcases rest with _ | ⟨op, next⟩
      · exact ⟨hdone rfl, _, .emits hnot hpending⟩
      · rw [StreamLife.pendingOp, hpending] at hnone
        exact absurd hnone nofun
    · obtain ⟨before, after, hadrift⟩ := hdropped hgone
      exact ⟨before, after, hadrift.abandoned hlast⟩
  | concluded hidle hemitted hquiet hhistory hconcludes hcalls hafter =>
    obtain ⟨handed, last, hpolls, hlast, hforwards⟩ := hconcludes
    exact .concluded hhistory ⟨handed, last, hpolls, hlast, hforwards⟩
      (settled_of_path hlast hcalls) hafter

end Run

/-- Every reachable life of a stream keeps to the protocol. -/
theorem managed_orderly {s : StreamLife Body Chunk} (h : (managed Body Chunk).Reachable s) :
    Orderly s :=
  (phase_of_reachable h).orderly

/-- The attempt of the runs below. -/
def unspooledAttempt : StreamAttempt :=
  { usageSpool := false
    attemptId := .least
    requestId := "request"
    routeId := "route"
    providerAccountId := "account" }

/-- A stream of `unspooledAttempt` before its first poll. -/
def opened : StreamLife Unit Unit :=
  { stream :=
      { upstream := (), attempt := unspooledAttempt, pendingTerminal := none, terminalEmitted := false }
    dropped := false
    inFlight := none
    cancellation := none
    history := [] }

theorem reachable_opened : (managed Unit Unit).Reachable opened :=
  .init ⟨(), unspooledAttempt, rfl⟩

/-- A stream that brings a frame, completes, and is recorded. -/
theorem completed_stream_orderly : ∃ s : StreamLife Unit Unit,
    s.history =
      [.takes (.ready (some (.frame ()))), .takes (.ready (some .completed)),
        .answered ⟨.configuration (.recordAttempt (unspooledAttempt.record .succeeded none)),
          .ok ()⟩,
        .answered ⟨.configuration (.markRouteSuccess "route"), .ok ()⟩, .emits .completed, .ends] ∧
      Orderly s := by
  have hframe := reachable_opened.step (.takes rfl rfl rfl () (.ready (some (.frame ()))))
  have hcompleted := hframe.step (.takes rfl rfl rfl () (.ready (some .completed)))
  have hrecorded := hcompleted.step (.answered rfl rfl (by exact .ok ()))
  have hmarked := hrecorded.step (.answered rfl rfl (by exact .ok ()))
  have hemitted := hmarked.step (.emits rfl rfl)
  have hended := hemitted.step (.ends rfl rfl)
  exact ⟨_, rfl, managed_orderly hended⟩

/-- A stream whose upstream has ended is dropped while its route is being marked: the mark is
made although the upstream has reported neither completion nor failure. -/
theorem ended_stream_marked : ∃ s : StreamLife Unit Unit, (managed Unit Unit).Reachable s ∧
    s.dropped = true ∧ s.polls = [.ready none] ∧
    s.calls =
      [⟨.configuration (.recordAttempt (unspooledAttempt.record .partialFailed
          (some "ProviderUnavailable"))), .ok ()⟩,
        ⟨.configuration (.markRouteFailure "route" sanitizedPostCommitFailure), .ok ()⟩,
        ⟨.configuration (.recordAttempt (unspooledAttempt.record .cancelled none)),
          .ok ()⟩] := by
  have hended := reachable_opened.step (.takes rfl rfl rfl () (.ready none))
  have hrecorded := hended.step (.answered rfl rfl (by exact .ok ()))
  have hdropped := hrecorded.step (.drops rfl fun _ => Option.some_ne_none _)
  have hlanded := hdropped.step (.lands rfl (by exact .ok ()))
  have hcancelled := hlanded.step (.cancels rfl (by exact .ok ()))
  exact ⟨_, hcancelled, rfl, rfl, rfl⟩

end StreamLife

end SmartGateway
