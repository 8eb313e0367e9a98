import SmartGateway.Application.FollowUp
import SmartGateway.Application.SnapshotTraffic

/-! # The duties of a probe

What is left of a request that was handed a probe makes the mark that decides it, or blocks its
account, before it ends, as long as the credential is there and the records are accepted
(`OwesMark`); so does the stream the request is answered with. Requests ask for candidates once,
and streams never do (`Phase.Sound`).
-/

namespace SmartGateway

variable {Body Chunk : Type}

/-! ## What the request with the probe owes -/

/-- A mark that blocks its account. -/
def RepositoryOp.Blocks : RepositoryOp → Prop
  | .markAccountFailure _ failure => failure.category.blocksAccount = true
  | _ => False

/-- A call that decides a route, or blocks an account. -/
def Decided (routeId : String) (call : Event (application Body)) : Prop :=
  ∃ op, call.op = .configuration op ∧ (op.Decides routeId ∨ op.Blocks)

/-- The answers that let an attempt get to its mark. -/
structure Favourable (gateway : Gateway) (call : Event (application Body)) : Prop where
  /-- The credential is there. -/
  resolved : ∀ reference (answer : Except String String),
    call = ⟨.resolve reference, answer⟩ → answer.isOk = true
  /-- A record is accepted by the repository or the spool; a stream that has failed makes its
  mark without. -/
  recorded : ∀ record (answer : Except String Unit),
    call = ⟨.configuration (.recordAttempt record), answer⟩ → record.outcome ≠ .partialFailed →
      answer.isOk = true ∨ gateway.usageSpool = true
  spooled : ∀ record (answer : Except String Unit),
    call = ⟨.appendAttempt record, answer⟩ → record.outcome ≠ .partialFailed →
      answer.isOk = true

/-- A stream that has not been polled. -/
def ManagedInferenceStream.Fresh (stream : ManagedInferenceStream Body Chunk) : Prop :=
  stream.pendingTerminal = none ∧ stream.terminalEmitted = false

/-- The result is a stream of an attempt on the route. -/
def HandsOn (gateway : Gateway) (routeId : String) (result : InferenceResult Body Chunk) : Prop :=
  ∃ stream, result = .ok (.streaming stream) ∧ stream.Fresh ∧
    stream.attempt.routeId = routeId ∧ stream.attempt.usageSpool = gateway.usageSpool

/-- What is left of a request or a stream makes the mark, or hands the attempt on. -/
abbrev OwesMark {α : Type} (gateway : Gateway) (routeId : String) (Q : α → Prop)
    (p : UseCase Body α) : Prop :=
  p.Owes (Favourable gateway) (Decided routeId) Q

section Owes

variable {gateway : Gateway} {request : InferenceRequest} {route : RouteCandidate}

theorem owes_persisting {α : Type} {wanted : Event (application Body) → Prop}
    {record : AttemptRecord} (hrecord : record.outcome ≠ .partialFailed)
    (taken refused unspooled : α) :
    (persisting gateway.usageSpool record taken refused unspooled : UseCase Body α).Owes
      (Favourable gateway) wanted (· = taken) := by
  refine Program.owes_perform fun answer hanswer => Or.inr ?_
  split
  · exact rfl
  · next hrefused =>
    have hspool : gateway.usageSpool = true :=
      (hanswer.recorded record answer rfl hrecord).resolve_left hrefused
    rw [if_pos hspool]
    refine Program.owes_perform fun spooled hspooled => Or.inr ?_
    rw [if_pos (hspooled.spooled record spooled rfl hrecord)]
    exact rfl

theorem owes_persistAttempt {wanted : Event (application Body) → Prop} {record : AttemptRecord}
    (hrecord : record.outcome ≠ .partialFailed) :
    (gateway.persistAttempt record : UseCase Body _).Owes (Favourable gateway) wanted
      (· = .ok ()) := by
  rw [Gateway.persistAttempt_eq]
  exact owes_persisting hrecord _ _ _

theorem owes_persist {wanted : Event (application Body) → Prop} {attempt : StreamAttempt}
    {record : AttemptRecord} (hspool : attempt.usageSpool = gateway.usageSpool)
    (hrecord : record.outcome ≠ .partialFailed) :
    (attempt.persist record : UseCase Body _).Owes (Favourable gateway) wanted (· = .ok ()) := by
  rw [StreamAttempt.persist_eq, hspool]
  exact owes_persisting hrecord _ _ _

/-- A failure blocks the account or opens the route, so one of its two marks decides. -/
theorem owes_handlePreCommitFailure (failure : ProviderFailure) :
    OwesMark gateway route.routeId (fun _ => False)
      (gateway.handlePreCommitFailure request route failure : UseCase Body _) := by
  refine Program.owes_perform fun attemptId _ => Or.inr ?_
  refine (owes_persistAttempt ?_).bind ?_
  · exact AttemptOutcome.noConfusion
  · rintro _ rfl
    dsimp only
    cases hblocks : failure.category.blocksAccount with
    | true => exact Program.owes_perform fun _ _ => Or.inl ⟨_, rfl, Or.inr hblocks⟩
    | false =>
      have hopens : failure.category.opensRoute = true :=
        ErrorCategory.opensRoute_eq_true_iff.mpr hblocks
      rw [hopens]
      exact Program.owes_perform fun _ _ => Or.inl ⟨_, rfl, Or.inl ⟨rfl, hopens⟩⟩

theorem owes_handleExecution (execution : InferenceExecution Body) :
    OwesMark gateway route.routeId (HandsOn gateway route.routeId)
      (gateway.handleExecution request route execution :
        UseCase Body (InferenceResult Body Chunk)) := by
  refine Program.owes_perform fun attemptId _ => Or.inr ?_
  cases execution with
  | complete response evidence =>
    refine (owes_persistAttempt ?_).bind ?_
    · exact AttemptOutcome.noConfusion
    · rintro _ rfl
      exact Program.owes_perform fun _ _ => Or.inl ⟨_, rfl, Or.inl rfl⟩
  | streaming body =>
    refine (owes_persist rfl ?_).bind ?_
    · exact AttemptOutcome.noConfusion
    · rintro _ rfl
      exact ⟨_, rfl, ⟨rfl, rfl⟩, rfl, rfl⟩

/-- A request that was handed a probe makes the mark, or is answered with a stream. -/
theorem owes_tryCandidates (last : Option String) :
    OwesMark gateway route.routeId (HandsOn gateway route.routeId)
      (gateway.tryCandidates request [route] last :
        UseCase Body (InferenceResult Body Chunk)) := by
  refine Program.owes_perform fun credential hcredential => Or.inr ?_
  cases credential with
  | error error => exact absurd (hcredential.resolved _ _ rfl) Bool.false_ne_true
  | ok credential =>
    refine Program.owes_perform fun executed _ => Or.inr ?_
    cases executed with
    | ok execution => exact owes_handleExecution execution
    | error failure =>
      refine (owes_handlePreCommitFailure failure).bind ?_
      intro result hfalse
      exact absurd hfalse id

/-- The program that a terminal event starts makes the mark. -/
theorem owes_settlement {attempt : StreamAttempt} {event : InferenceStreamEvent Chunk}
    {result : Poll (Option (InferenceStreamEvent Chunk))}
    (hspool : attempt.usageSpool = gateway.usageSpool)
    (hevent : ManagedInferenceStream.terminal result = some event) :
    OwesMark gateway attempt.routeId (fun _ => False)
      (ManagedInferenceStream.settlement attempt event : UseCase Body Unit) := by
  rcases event with chunk | _ | failure
  · -- A frame is not a terminal event.
    rcases result with _ | _ | _ | _ | _ <;> cases hevent
  · refine (owes_persist hspool ?_).bind ?_
    · exact AttemptOutcome.noConfusion
    · rintro _ rfl
      exact Program.owes_perform fun _ _ => Or.inl ⟨_, rfl, Or.inl rfl⟩
  · -- The marks of a failure do not depend on its record.
    refine (Program.owes_true _).bind fun _ _ => ?_
    cases hblocks : failure.category.blocksAccount with
    | true => exact Program.owes_perform fun _ _ => Or.inl ⟨_, rfl, Or.inr hblocks⟩
    | false =>
      have hopens : failure.category.opensRoute = true :=
        ErrorCategory.opensRoute_eq_true_iff.mpr hblocks
      rw [hopens]
      exact Program.owes_perform fun _ _ => Or.inl ⟨_, rfl, Or.inl ⟨rfl, hopens⟩⟩

end Owes

/-! ## Where plans are asked for -/

/-- The program asks for no candidates. -/
def KeepsPlan {α : Type} (p : UseCase Body α) : Prop :=
  p.Calls fun op : ApplicationOp => ∀ logicalModel, op ≠ .configuration (.candidates logicalModel)

/-- The result is no stream that was polled. -/
def ReturnsFresh (result : InferenceResult Body Chunk) : Prop :=
  ∀ stream, result = .ok (.streaming stream) → stream.Fresh

/-- However it is answered, the program ends with a result that meets `Q`. -/
abbrev Returns {α : Type} (Q : α → Prop) (p : UseCase Body α) : Prop :=
  p.Owes (fun _ => True) (fun _ => False) Q

section Plans

theorem FollowsUp.keepsPlan {α : Type} {p : UseCase Body α} (hp : FollowsUp p) : KeepsPlan p := by
  refine Program.Calls.mono hp ?_
  rintro op hop logicalModel rfl
  exact Bool.false_ne_true hop

variable (gateway : Gateway) (request : InferenceRequest)

/-- The part of `infer` after a successful authentication. -/
def Gateway.planAndTry : UseCase Body (InferenceResult Body Chunk) :=
  (ask (.configuration (.candidates request.model))).bind fun
    | .error error =>
      .pure (.error (if routeUnavailable error then .upstreamUnavailable
        else .configuration error))
    | .ok candidates => gateway.tryCandidates request candidates none

theorem keepsPlan_tryCandidates (routes : List RouteCandidate) (last : Option String) :
    KeepsPlan (gateway.tryCandidates request routes last :
      UseCase Body (InferenceResult Body Chunk)) := by
  induction routes generalizing last with
  | nil => trivial
  | cons route routes ih =>
    refine ⟨fun _ => nofun, fun credential => ?_⟩
    cases credential with
    | error error => exact ih (some error)
    | ok credential =>
      refine ⟨fun _ => nofun, fun executed => ?_⟩
      cases executed with
      | ok execution => exact (gateway.followsUp_handleExecution request route execution).keepsPlan
      | error failure =>
        refine Program.Calls.andThen ?_ fun _ => ih (some failure.message)
        exact (gateway.followsUp_handlePreCommitFailure request route failure).keepsPlan

theorem returnsFresh_error (error : ApplicationError) :
    ReturnsFresh (.error error : InferenceResult Body Chunk) := by
  intro stream h
  cases h

theorem returnsFresh_handleExecution (route : RouteCandidate)
    (execution : InferenceExecution Body) :
    Returns ReturnsFresh (gateway.handleExecution request route execution :
      UseCase Body (InferenceResult Body Chunk)) := by
  refine Program.owes_perform fun attemptId _ => Or.inr ?_
  cases execution with
  | complete response evidence =>
    refine (Program.owes_true _).bind fun persisted _ => ?_
    cases persisted with
    | error error => exact returnsFresh_error error
    | ok _ =>
      refine Program.owes_perform fun marked _ => Or.inr ?_
      cases marked with
      | error error => exact returnsFresh_error _
      | ok _ =>
        have hcomplete : ReturnsFresh (.ok (.complete response) : InferenceResult Body Chunk) := by
          intro stream h
          cases h
        cases evidence with
        | none => exact hcomplete
        | some evidence => exact (Program.owes_true _).bind fun _ _ => hcomplete
  | streaming body =>
    refine (Program.owes_true _).bind fun persisted _ => ?_
    cases persisted with
    | error error => exact returnsFresh_error _
    | ok _ =>
      intro stream h
      cases h
      exact ⟨rfl, rfl⟩

theorem returnsFresh_tryCandidates (routes : List RouteCandidate) (last : Option String) :
    Returns ReturnsFresh (gateway.tryCandidates request routes last :
      UseCase Body (InferenceResult Body Chunk)) := by
  induction routes generalizing last with
  | nil => exact returnsFresh_error _
  | cons route routes ih =>
    refine Program.owes_perform fun credential _ => Or.inr ?_
    cases credential with
    | error error => exact ih (some error)
    | ok credential =>
      refine Program.owes_perform fun executed _ => Or.inr ?_
      cases executed with
      | ok execution => exact returnsFresh_handleExecution gateway request route execution
      | error failure =>
        refine (Program.owes_true _).bind fun handled _ => ?_
        cases handled with
        | error error => exact returnsFresh_error error
        | ok _ => exact ih (some failure.message)

theorem returnsFresh_planAndTry :
    Returns ReturnsFresh (gateway.planAndTry request : UseCase Body (InferenceResult Body Chunk)) := by
  refine Program.owes_perform fun planned _ => Or.inr ?_
  cases planned with
  | error error => exact returnsFresh_error _
  | ok routes => exact returnsFresh_tryCandidates gateway request routes none

theorem returnsFresh_infer (rawKey : String) :
    Returns ReturnsFresh (gateway.infer rawKey request :
      UseCase Body (InferenceResult Body Chunk)) := by
  refine Program.owes_perform fun authenticated _ => Or.inr ?_
  rcases authenticated with error | _ | _
  · exact returnsFresh_error _
  · exact returnsFresh_error _
  · exact returnsFresh_planAndTry gateway request

end Plans

/-- What is left of a request asks for candidates only where `infer` does. -/
def AsksOnce (gateway : Gateway) (rest : UseCase Body (InferenceResult Body Chunk)) : Prop :=
  (∃ rawKey request, rest = gateway.infer rawKey request) ∨
    (∃ request, rest = gateway.planAndTry request) ∨ KeepsPlan rest

/-- A request asks for candidates only where `infer` does, and a stream never does. -/
def Phase.Sound (gateway : Gateway) : Phase Body Chunk → Prop
  | .inferring rest => AsksOnce gateway rest ∧ Returns ReturnsFresh rest
  | .streaming life =>
    (∀ event rest, life.stream.pendingTerminal = some (event, rest) → KeepsPlan rest) ∧
      ∀ rest, life.cancellation = some rest → KeepsPlan rest

section Sound

variable {gateway : Gateway}

/-- The next call of a request asks for no candidates, or it has them tried. -/
theorem AsksOnce.call {op : ApplicationOp}
    {next : op.Answer Body → UseCase Body (InferenceResult Body Chunk)}
    (h : AsksOnce gateway (.call op next)) (answer : op.Answer Body) :
    AsksOnce gateway (next answer) := by
  rcases h with ⟨rawKey, request, hrest⟩ | ⟨request, hrest⟩ | hkeeps
  · cases hrest
    rcases answer with error | _ | _
    · exact Or.inr (Or.inr trivial)
    · exact Or.inr (Or.inr trivial)
    · exact Or.inr (Or.inl ⟨request, rfl⟩)
  · cases hrest
    cases answer with
    | error error => exact Or.inr (Or.inr trivial)
    | ok routes => exact Or.inr (Or.inr (keepsPlan_tryCandidates gateway request routes none))
  · exact Or.inr (Or.inr (hkeeps.2 answer))

/-- A request that has a single candidate for an answer tries it. -/
theorem AsksOnce.candidates {logicalModel : String} {probe : RouteCandidate}
    {next : Except String (List RouteCandidate) → UseCase Body (InferenceResult Body Chunk)}
    (h : AsksOnce gateway (.call (.configuration (.candidates logicalModel)) next)) :
    OwesMark gateway probe.routeId (HandsOn gateway probe.routeId) (next (.ok [probe])) := by
  rcases h with ⟨rawKey, request, hrest⟩ | ⟨request, hrest⟩ | hkeeps
  · cases hrest
  · cases hrest
    exact owes_tryCandidates none
  · exact absurd rfl (hkeeps.1 logicalModel)

/-- The program that a terminal event starts asks for no candidates. -/
theorem keepsPlan_settlement (attempt : StreamAttempt) (event : InferenceStreamEvent Chunk) :
    KeepsPlan (ManagedInferenceStream.settlement attempt event : UseCase Body Unit) := by
  rcases event with chunk | _ | failure
  · trivial
  · exact attempt.followsUp_succeed.keepsPlan
  · exact (attempt.followsUp_fail failure).keepsPlan

theorem sound_life {stream : ManagedInferenceStream Body Chunk} (hfresh : stream.Fresh) :
    (Phase.streaming stream.life).Sound gateway := by
  constructor
  · intro event rest hpending
    have hnone : stream.pendingTerminal = some (event, rest) := hpending
    rw [hfresh.1] at hnone
    cases hnone
  · intro rest hcancellation
    cases hcancellation

theorem Phase.Sound.step {life life' : StreamLife Body Chunk} {step : StreamStep Body Chunk}
    (h : (Phase.streaming life).Sound gateway) (hstep : StreamLife.Step life step life') :
    (Phase.streaming life').Sound gateway := by
  obtain ⟨hpending, hcancellation⟩ := h
  cases hstep with
  -- A terminal result starts the settlement; another one is passed on.
  | takes hlive hopen hidle upstream result =>
    refine ⟨?_, hcancellation⟩
    intro event rest hnext
    cases hterminal : ManagedInferenceStream.terminal result with
    | none =>
      rw [ManagedInferenceStream.receive_of_terminal_eq_none hterminal] at hnext
      exact hpending event rest hnext
    | some event' =>
      rw [ManagedInferenceStream.receive_of_terminal_eq_some hterminal] at hnext
      cases hnext
      exact keepsPlan_settlement _ _
  | waits hlive hwaiting => exact ⟨hpending, hcancellation⟩
  | answered hlive hcall answer =>
    refine ⟨?_, hcancellation⟩
    intro event rest hnext
    cases hnext
    exact (hpending _ _ hcall).2 answer
  | emits hlive hcall =>
    refine ⟨?_, hcancellation⟩
    intro event rest hnext
    cases hnext
  | ends hlive hemitted => exact ⟨hpending, hcancellation⟩
  -- A drop may spawn the cancellation, whose calls mark routes and accounts only.
  | drops hlive hbetween =>
    refine ⟨hpending, ?_⟩
    intro rest hspawned
    dsimp only at hspawned
    split at hspawned
    · cases hspawned
    · cases hspawned
      exact (StreamAttempt.followsUp_cancel _).keepsPlan
  | lands hflight answer => exact ⟨hpending, hcancellation⟩
  | loses hflight => exact ⟨hpending, hcancellation⟩
  | cancels hspawned answer =>
    refine ⟨hpending, ?_⟩
    intro rest hnext
    cases hnext
    exact (hcancellation _ hspawned).2 answer

/-- A sound stream makes no call for candidates. -/
theorem Phase.Sound.asked {life life' : StreamLife Body Chunk} {step : StreamStep Body Chunk}
    {call : Event (application Body)} (h : (Phase.streaming life).Sound gateway)
    (hstep : StreamLife.Step life step life') (hcall : step.asked = some call)
    (logicalModel : String) : call.op ≠ .configuration (.candidates logicalModel) := by
  cases hstep with
  | answered hlive hpending answer =>
    cases hcall
    exact (h.1 _ _ hpending).1 logicalModel
  | cancels hspawned answer =>
    cases hcall
    exact (h.2 _ hspawned).1 logicalModel
  | _ => cases hcall

end Sound

/-! ## What is left of a request with the probe -/

/-- The request is still to make the mark. -/
def Phase.Owing (gateway : Gateway) (routeId : String) : Phase Body Chunk → Prop
  | .inferring rest => OwesMark gateway routeId (HandsOn gateway routeId) rest
  | .streaming life =>
    (life.dropped = false ∧ life.stream.terminalEmitted = false) ∧
      (life.stream.attempt.routeId = routeId ∧
        life.stream.attempt.usageSpool = gateway.usageSpool) ∧
      ∀ event rest, life.stream.pendingTerminal = some (event, rest) →
        OwesMark gateway routeId (fun _ => False) rest

section Owing

variable {gateway : Gateway} {routeId : String}

/-- A request that owes a mark is in flight. -/
theorem Phase.Owing.not_over {phase : Phase Body Chunk} (h : phase.Owing gateway routeId) :
    ¬ phase.Over := by
  cases phase with
  | inferring rest => exact id
  | streaming life =>
    rintro (hdropped | hemitted)
    · exact Bool.false_ne_true (h.1.1.symm.trans hdropped)
    · exact Bool.false_ne_true (h.1.2.symm.trans hemitted)

theorem owing_life {stream : ManagedInferenceStream Body Chunk}
    (h : HandsOn gateway routeId (.ok (.streaming stream))) :
    (Phase.streaming stream.life).Owing gateway routeId := by
  obtain ⟨stream', hstream, hfresh, hroute, hspool⟩ := h
  cases hstream
  refine ⟨⟨rfl, hfresh.2⟩, ⟨hroute, hspool⟩, ?_⟩
  intro event rest hpending
  have hnone : stream.pendingTerminal = some (event, rest) := hpending
  rw [hfresh.1] at hnone
  cases hnone

/-- A stream that owes a mark goes on owing it, unless it is dropped or makes the mark. -/
theorem Phase.Owing.step {life life' : StreamLife Body Chunk} {step : StreamStep Body Chunk}
    (h : (Phase.streaming life).Owing gateway routeId) (hstep : StreamLife.Step life step life')
    (hkept : step ≠ .drops)
    (hfavourable : ∀ call, step = .answered call → Favourable gateway call) :
    (∃ call, step = .answered call ∧ Decided routeId call) ∨
      (Phase.streaming life').Owing gateway routeId := by
  obtain ⟨⟨hlive, hopen⟩, ⟨hroute, hspool⟩, howes⟩ := h
  cases hstep with
  -- Until the terminal result nothing is settled; the settlement then owes the mark.
  | takes _ _ hidle upstream result =>
    refine Or.inr ?_
    cases hterminal : ManagedInferenceStream.terminal result with
    | none =>
      rw [ManagedInferenceStream.receive_of_terminal_eq_none hterminal]
      exact ⟨⟨hlive, hopen⟩, ⟨hroute, hspool⟩, howes⟩
    | some event =>
      rw [ManagedInferenceStream.receive_of_terminal_eq_some hterminal]
      refine ⟨⟨hlive, hopen⟩, ⟨hroute, hspool⟩, ?_⟩
      intro event' rest hnext
      cases hnext
      rw [← hroute]
      exact owes_settlement hspool hterminal
  | waits _ hwaiting => exact Or.inr ⟨⟨hlive, hopen⟩, ⟨hroute, hspool⟩, howes⟩
  -- The call is the mark itself, or the rest of the settlement still owes it.
  | answered _ hpending answer =>
    rcases howes _ _ hpending answer (hfavourable _ rfl) with hdecided | hnext
    · exact Or.inl ⟨_, rfl, hdecided⟩
    · refine Or.inr ⟨⟨hlive, hopen⟩, ⟨hroute, hspool⟩, ?_⟩
      intro event rest hrest
      cases hrest
      exact hnext
  -- The terminal event would come after a settlement without a mark.
  | emits _ hpending => exact absurd (howes _ _ hpending) id
  | ends _ hemitted => exact absurd (hopen.symm.trans hemitted) Bool.false_ne_true
  | drops _ _ => exact absurd rfl hkept
  | lands _ answer => exact Or.inr ⟨⟨hlive, hopen⟩, ⟨hroute, hspool⟩, howes⟩
  | loses _ => exact Or.inr ⟨⟨hlive, hopen⟩, ⟨hroute, hspool⟩, howes⟩
  | cancels _ answer => exact Or.inr ⟨⟨hlive, hopen⟩, ⟨hroute, hspool⟩, howes⟩

end Owing

end SmartGateway
