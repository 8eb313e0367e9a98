import SmartGateway.Application.AttemptAudit
import SmartGateway.Application.BlockedAccounts
import SmartGateway.Storage.ControlPlane
import SmartGateway.Upstream.ErrorBodies
import SmartGateway.Upstream.Executor

/-! # Replies that are errors in a stream only

The same body can be an error to `decode_frame` and a success to `execute`: a reply with a
success status that is not streamed is complete whatever its body says. This module follows
such a reply through the gateway, which records the attempt as succeeded, marks the route and
returns the body.
-/

namespace SmartGateway

namespace Upstream

/-! ## What the two paths make of a body -/

/-- The top-level error of a body. -/
def bodyError (body : Option Json) : Option Json := body.bind fun value => value.get "error"

/-- A body that a frame fails with: no JSON object, or one with a top-level error. -/
def ReportsFailure (body : Option Json) : Prop :=
  body.bind Json.asObject = none ∨ bodyError body ≠ none

/-- The category it fails with. -/
def replyCategory (body : Option Json) : ErrorCategory :=
  match bodyError body with
  | some error => sanitizedCategory (errorCode (some error))
  | none => .providerUnavailable

/-- The data of a frame are reported as a failure of the category, by an error of the decoder or
by the event of a failure. -/
def DataFails {Chunk : Type} (codec : ChunkCodec Chunk) (clock : Option Nat) (data : List Char)
    (category : ErrorCategory) : Prop :=
  decodeData codec clock data = .error category ∨
    decodeData codec clock data = .ok (some (.failed (sanitizedFailure clock category)))

theorem dataFails_of_reportsFailure {Chunk : Type} {codec : ChunkCodec Chunk} {data : List Char}
    (hdata : Text.trim data ≠ "[DONE]".toList)
    (h : ReportsFailure (codec.parse (String.ofList data))) (clock : Option Nat) :
    DataFails codec clock data (replyCategory (codec.parse (String.ofList data))) := by
  unfold DataFails decodeData
  rw [if_neg hdata]
  unfold ReportsFailure replyCategory at *
  cases hparse : codec.parse (String.ofList data) with
  | none => exact Or.inl rfl
  | some value =>
    rw [hparse] at h
    dsimp only [bodyError, Option.bind_some] at h ⊢
    cases hobject : value.asObject with
    | none =>
      left
      rw [Json.get, hobject]
      rfl
    | some members =>
      right
      rw [Json.get, hobject, Option.bind_some] at h ⊢
      cases herror : members.lookup "error" with
      | none =>
        rw [herror] at h
        rcases h with h | h
        · cases h
        · exact absurd rfl h
      | some error =>
        dsimp only
        rw [herror]
        rfl

/-- A reply that is not streamed is complete on any success status. -/
theorem execute_complete {request : InferenceRequest} (hrequest : request.stream = false)
    {status : Nat} (hstatus : 200 ≤ status ∧ status < 300) (clock : Option Nat)
    (body : Option Json) (source : List SourcePoll) :
    execute clock request (.response status body source) =
      .ok (.complete (body.getD invalidJsonResponse)
        (openaiUsageEvidence (body.getD invalidJsonResponse))) := by
  rw [execute, if_neg (not_not.mpr hstatus), if_neg (by rw [hrequest]; simp)]

end Upstream

/-! ## What follows a complete execution -/

/-- No other candidate is turned to, and what is recorded has the outcome. -/
def ApplicationOp.concludes (outcome : AttemptOutcome) : ApplicationOp → Bool
  | .configuration (.recordAttempt attempt) | .appendAttempt attempt => attempt.outcome = outcome
  | op => op.followsUp

/-- A call of the accounting repository or of the clock. -/
def ApplicationOp.accounts : ApplicationOp → Bool
  | .recordQuotaSnapshot _ | .recordBillingRecord _ | .unixTime => true
  | _ => false

theorem ApplicationOp.concludes_of_accounts {op : ApplicationOp} (h : op.accounts = true)
    (outcome : AttemptOutcome) : op.concludes outcome = true := by
  cases op with
  | configuration op => cases h
  | appendAttempt attempt => cases h
  | resolve reference => cases h
  | execute route request credential => cases h
  | _ => rfl

theorem ApplicationOp.settles_of_concludes {op : ApplicationOp} {outcome : AttemptOutcome}
    (h : op.concludes outcome = true) : op.settles = true := by
  cases op with
  | resolve reference => cases h
  | execute route request credential => cases h
  | _ => rfl

namespace Gateway

section Calls

variable {Body : Type} (gateway : Gateway)

theorem calls_recordQuotaSnapshots (snapshots : List ProviderQuotaSnapshot) :
    Program.Calls (fun op : ApplicationOp => op.accounts = true)
      (recordQuotaSnapshots snapshots : UseCase Body Unit) := by
  induction snapshots with
  | nil => exact trivial
  | cons snapshot snapshots ih => exact ⟨rfl, fun _ => ih⟩

theorem calls_persistAuthoritativeEvidence (accountId : String) (attemptId : AttemptId)
    (evidence : ProviderAuthoritativeEvidence) :
    Program.Calls (fun op : ApplicationOp => op.accounts = true)
      (gateway.persistAuthoritativeEvidence accountId attemptId evidence : UseCase Body Unit) := by
  unfold persistAuthoritativeEvidence
  split
  · exact trivial
  · split
    · exact trivial
    · apply (calls_recordQuotaSnapshots evidence.quotaSnapshots).bind
      intro _
      cases evidence.billing with
      | none => exact trivial
      | some billing => exact ⟨rfl, fun _ => ⟨rfl, fun _ => trivial⟩⟩

theorem calls_persistAttempt (record : AttemptRecord) :
    Program.Calls (fun op : ApplicationOp => op.concludes record.outcome = true)
      (gateway.persistAttempt record : UseCase Body (Except ApplicationError Unit)) := by
  refine ⟨decide_eq_true rfl, fun answer => ?_⟩
  cases answer with
  | ok _ => exact trivial
  | error error =>
    change Program.Calls _ (if gateway.usageSpool = true then _ else _)
    split
    · refine ⟨decide_eq_true rfl, fun answer => ?_⟩
      cases answer with
      | ok _ => exact trivial
      | error error => exact trivial
    · exact trivial

/-- A complete execution concludes as a success, whatever the response is. -/
theorem calls_handleExecution {Chunk : Type} (request : InferenceRequest) (route : RouteCandidate)
    (response : Json) (evidence : Option ProviderAuthoritativeEvidence) :
    Program.Calls (fun op : ApplicationOp => op.concludes .succeeded = true)
      (gateway.handleExecution request route (.complete response evidence) :
        UseCase Body (InferenceResult Body Chunk)) := by
  refine ⟨rfl, fun attemptId => ?_⟩
  apply (gateway.calls_persistAttempt (History.executedRecord request route
    (.complete response evidence : InferenceExecution Body) attemptId)).andThen
  intro _
  refine ⟨rfl, fun marked => ?_⟩
  dsimp only [Program.bind]
  cases configure marked with
  | error error => exact trivial
  | ok _ =>
    cases evidence with
    | none => exact trivial
    | some evidence =>
      apply Program.Calls.bind
      · exact (gateway.calls_persistAuthoritativeEvidence _ _ evidence).mono fun op hop =>
          op.concludes_of_accounts hop .succeeded
      · intro _
        exact trivial

end Calls

/-! ## A run that gets such a reply -/

section Run

variable {Body Chunk : Type} {gateway : Gateway} {request : InferenceRequest}
  {behaviour : Behaviour Body} {plan : List RouteCandidate} {route : RouteCandidate}
  {j asked : Nat} {last : Option String}

/-- The record of the attempt at candidate `j` as a success. -/
def succeededRecord (request : InferenceRequest) (behaviour : Behaviour Body) (j : Nat)
    (route : RouteCandidate) : AttemptRecord where
  attemptId := behaviour (j + 1) .newAttemptId
  requestId := request.requestId
  routeId := route.routeId
  outcome := .succeeded
  failureCategory := none

/-- What a run does with candidate `j` after its execution: `after` are the calls that follow,
and `result` is what `infer` returns. -/
structure TakenForSuccess (gateway : Gateway) (request : InferenceRequest)
    (behaviour : Behaviour Body) (j : Nat) (route : RouteCandidate) (response : Json)
    (after : List (Nat × Event (application Body))) (result : InferenceResult Body Chunk) :
    Prop where
  /-- The attempt is recorded as succeeded, and nothing else is recorded. -/
  recorded : ∃ answer, (j + 1, ⟨.configuration (.recordAttempt
    (succeededRecord request behaviour j route)), answer⟩) ∈ after
  no_failure : ∀ x ∈ after, ∀ attempt,
    x.2.op = .configuration (.recordAttempt attempt) ∨ x.2.op = .appendAttempt attempt →
      attempt.outcome = .succeeded
  /-- No other candidate is turned to. -/
  no_other : ∀ x ∈ after, x.2.op.settles = true
  /-- Once the record is taken, the route is marked successful. -/
  marked : behaviour.Persists gateway j (succeededRecord request behaviour j route) →
    ∃ answer, (j + 1, ⟨.configuration (.markRouteSuccess route.routeId), answer⟩) ∈ after
  /-- And once the mark is taken too, the client gets the response. -/
  returned : behaviour.Persists gateway j (succeededRecord request behaviour j route) →
    behaviour.Takes true j (.markRouteSuccess route.routeId) → result = .ok (.complete response)

/-- A record is offered to the repository first. -/
theorem recordAttempt_mem_log (gateway : Gateway) (behaviour : Behaviour Body)
    (record : AttemptRecord) (asked : Nat) :
    ∃ answer, (asked, ⟨.configuration (.recordAttempt record), answer⟩) ∈
      (gateway.persistAttempt record).log behaviour.handle asked := by
  have hanswer : behaviour.handle (.configuration (.recordAttempt record)) asked =
      (behaviour asked (.configuration (.recordAttempt record)), asked) := rfl
  unfold persistAttempt
  rw [Program.log_perform_bind _ hanswer]
  exact ⟨_, List.mem_cons_self⟩

/-- What is left of a complete execution once its record is taken. -/
def markSucceeded (gateway : Gateway) (behaviour : Behaviour Body) (Chunk : Type) (j : Nat)
    (route : RouteCandidate) (response : Json) (evidence : Option ProviderAuthoritativeEvidence) :
    UseCase Body (InferenceResult Body Chunk) :=
  (ask (.configuration (.markRouteSuccess route.routeId))).bind fun marked =>
    match configure marked with
    | .error error => .pure (.error error)
    | .ok _ =>
      match evidence with
      | none => .pure (.ok (.complete response))
      | some evidence =>
        (gateway.persistAuthoritativeEvidence route.providerAccountId
          (behaviour (j + 1) .newAttemptId) evidence).bind fun _ => .pure (.ok (.complete response))

section Complete

variable (gateway request behaviour route j) (response : Json)
  (evidence : Option ProviderAuthoritativeEvidence)

theorem handle_markRouteSuccess :
    behaviour.handle (.configuration (.markRouteSuccess route.routeId)) (j + 1) =
      (behaviour (j + 1) (.configuration (.markRouteSuccess route.routeId)), j + 1) := rfl

/-- The route is marked first. -/
theorem mark_mem_log_markSucceeded :
    (j + 1, ⟨.configuration (.markRouteSuccess route.routeId),
        behaviour (j + 1) (.configuration (.markRouteSuccess route.routeId))⟩) ∈
      (gateway.markSucceeded behaviour Chunk j route response evidence).log
        behaviour.handle (j + 1) := by
  unfold markSucceeded
  rw [Program.log_perform_bind _ (handle_markRouteSuccess behaviour route j)]
  exact List.mem_cons_self

/-- And then the response is returned, whatever becomes of the evidence. -/
theorem run_markSucceeded (h : behaviour.Takes true j (.markRouteSuccess route.routeId)) :
    ((gateway.markSucceeded behaviour Chunk j route response evidence).run
      behaviour.handle (j + 1)).1 = .ok (.complete response) := by
  have hmarked := h rfl
  unfold markSucceeded
  rw [Program.run_perform_bind _ (handle_markRouteSuccess behaviour route j)]
  cases hanswer : behaviour (j + 1) (.configuration (.markRouteSuccess route.routeId)) with
  | error error =>
    rw [hanswer] at hmarked
    cases hmarked
  | ok _ =>
    cases evidence with
    | none => rfl
    | some evidence =>
      have hbind := Program.run_bind (S := application Body) behaviour.handle
        (gateway.persistAuthoritativeEvidence route.providerAccountId
          (behaviour (j + 1) .newAttemptId) evidence)
        (fun _ => .pure (.ok (.complete response) : InferenceResult Body Chunk)) (j + 1)
      exact congrArg Prod.fst hbind

/-- A complete execution is taken for a success, whatever its response is. -/
theorem takenForSuccess_handleExecution :
    TakenForSuccess gateway request behaviour j route response
      ((gateway.handleExecution request route (.complete response evidence) :
        UseCase Body (InferenceResult Body Chunk)).log behaviour.handle (j + 1))
      ((gateway.handleExecution request route (.complete response evidence) :
        UseCase Body (InferenceResult Body Chunk)).run behaviour.handle (j + 1)).1 := by
  have hconcludes : Program.Calls _ (gateway.handleExecution request route
      (.complete response evidence) : UseCase Body (InferenceResult Body Chunk)) :=
    gateway.calls_handleExecution request route response evidence
  have hcalls := (hconcludes.preserves (I := fun _ => True) behaviour.handle
    (fun _ _ _ _ => trivial) (s := j + 1) trivial).2
  set record := succeededRecord request behaviour j route
  set rest := gateway.markSucceeded behaviour Chunk j route response evidence
  have hsettling : Settling (gateway.persistAttempt record :
      UseCase Body (Except ApplicationError Unit)) := (gateway.followsUp_persistAttempt _).settling
  have hpersists := run_persistAttempt behaviour gateway record j
  -- the attempt gets its identity, and the rest depends on whether its record is taken
  have hlog : (gateway.handleExecution request route (.complete response evidence) :
        UseCase Body (InferenceResult Body Chunk)).log behaviour.handle (j + 1) =
      (j + 1, ⟨.newAttemptId, behaviour (j + 1) .newAttemptId⟩) ::
        ((gateway.persistAttempt record).andThen fun _ => rest).log behaviour.handle (j + 1) := rfl
  have hrun : (gateway.handleExecution request route (.complete response evidence) :
        UseCase Body (InferenceResult Body Chunk)).run behaviour.handle (j + 1) =
      ((gateway.persistAttempt record).andThen fun _ => rest).run behaviour.handle (j + 1) := rfl
  constructor
  · obtain ⟨answer, hmem⟩ := recordAttempt_mem_log gateway behaviour record (j + 1)
    refine ⟨answer, ?_⟩
    rw [hlog, log_andThen_settling behaviour hsettling]
    exact List.mem_cons_of_mem _ (List.mem_append_left _ hmem)
  · intro x hx attempt hop
    have hconcludes := (hcalls x hx).2
    rcases hop with hop | hop
    · rw [hop] at hconcludes
      exact of_decide_eq_true hconcludes
    · rw [hop] at hconcludes
      exact of_decide_eq_true hconcludes
  · intro x hx
    exact ApplicationOp.settles_of_concludes (hcalls x hx).2
  · intro h
    refine ⟨behaviour (j + 1) (.configuration (.markRouteSuccess route.routeId)), ?_⟩
    rw [hlog, log_andThen_settling behaviour hsettling, hpersists.mpr h]
    apply List.mem_cons_of_mem
    apply List.mem_append_right
    exact mark_mem_log_markSucceeded gateway behaviour route j response evidence
  · intro h hmarked
    rw [hrun, run_andThen_settling behaviour hsettling, hpersists.mpr h]
    exact run_markSucceeded gateway behaviour route j response evidence hmarked

end Complete

/-- A run in which candidate `j` gets a complete execution. -/
theorem exists_takenForSuccess {rawKey credential : String} {response : Json}
    {evidence : Option ProviderAuthoritativeEvidence}
    (hroute : (planOf rawKey request behaviour)[j]? = some route)
    (hreached : ReachedFrom gateway request behaviour 0 (planOf rawKey request behaviour) j)
    (hresolves : behaviour.Resolves j route credential)
    (hexecute : behaviour (j + 1) (.execute route request credential) =
      .ok (.complete response evidence)) :
    ∃ before after,
      gateway.inferLog rawKey request behaviour Chunk = before ++
        (j + 1, ⟨.execute route request credential, .ok (.complete response evidence)⟩) :: after ∧
      TakenForSuccess gateway request behaviour j route response after
        ((gateway.infer rawKey request : UseCase Body (InferenceResult Body Chunk)).run
          behaviour.handle 0).1 := by
  have hj : j ≤ (planOf rawKey request behaviour).length :=
    Nat.le_of_lt (List.getElem?_eq_some_iff.mp hroute).1
  have hplan : planOf rawKey request behaviour ≠ [] := by
    intro hnil
    rw [hnil] at hroute
    cases hroute
  obtain ⟨opening, hinfer, -⟩ := gateway.inferLog_eq rawKey request behaviour Chunk
  obtain ⟨before, last, hlog⟩ := loopLog_reached Chunk none hreached hj
  obtain ⟨last', hresult⟩ : ∃ last', loopResult gateway request behaviour Chunk _ none 0 = _ :=
    loopResult_reached none hreached hj
  -- both the log and the result go on from this candidate
  rw [drop_of_getElem? hroute, Nat.zero_add] at hlog hresult
  rw [loopLog_executed hresolves hexecute] at hlog
  rw [loopResult_executed hresolves hexecute] at hresult
  refine ⟨opening ++ before ++ [(j, ⟨.resolve route.credentialRef, .ok credential⟩)],
    (gateway.handleExecution request route (.complete response evidence) :
      UseCase Body (InferenceResult Body Chunk)).log behaviour.handle (j + 1), ?_, ?_⟩
  · rw [hinfer, hlog]
    simp only [List.append_assoc, List.singleton_append]
  · rw [run_infer hplan, hresult]
    exact takenForSuccess_handleExecution gateway request behaviour route j response evidence

end Run

end Gateway

/-- A reply on a success status whose body is no JSON object, or has a top-level error, fails a
stream. Where the request is not streamed it never fails `execute`, and in every run of `infer`
that gets it the attempt is recorded as succeeded, the route is marked successful, no other
candidate is tried, and the client is handed the body. -/
theorem Upstream.error_reply_taken_for_success {request : InferenceRequest}
    (hrequest : request.stream = false) {status : Nat} (hstatus : 200 ≤ status ∧ status < 300)
    {body : Option Json} (hbody : ReportsFailure body) (clock : Option Nat)
    (source : List SourcePoll) (Chunk : Type) :
    (∀ (codec : ChunkCodec Chunk) (data : List Char), Text.trim data ≠ "[DONE]".toList →
      codec.parse (String.ofList data) = body → DataFails codec clock data (replyCategory body)) ∧
    (¬ ∃ failure, execute clock request (.response status body source) = .error failure) ∧
    ∀ (gateway : Gateway) (rawKey : String) (behaviour : Behaviour OpenAiSseDecoder) (j : Nat)
      (route : RouteCandidate) (credential : String),
      (Gateway.planOf rawKey request behaviour)[j]? = some route →
      Gateway.ReachedFrom gateway request behaviour 0
        (Gateway.planOf rawKey request behaviour) j →
      behaviour.Resolves j route credential →
      behaviour (j + 1) (.execute route request credential) =
        execute clock request (.response status body source) →
      ∃ before answer after,
        gateway.inferLog rawKey request behaviour Chunk = before ++
          (j + 1, ⟨.execute route request credential, answer⟩) :: after ∧
        Gateway.TakenForSuccess gateway request behaviour j route (body.getD invalidJsonResponse)
          after ((gateway.infer rawKey request : UseCase OpenAiSseDecoder
            (InferenceResult OpenAiSseDecoder Chunk)).run behaviour.handle 0).1 := by
  have hcomplete := execute_complete hrequest hstatus clock body source
  refine ⟨?_, ?_, ?_⟩
  · rintro codec data hdata rfl
    exact dataFails_of_reportsFailure hdata hbody clock
  · rintro ⟨failure, hfailure⟩
    rw [hcomplete] at hfailure
    cases hfailure
  · intro gateway rawKey behaviour j route credential hroute hreached hresolves hexecute
    rw [hcomplete] at hexecute
    obtain ⟨before, after, hlog, htaken⟩ :=
      Gateway.exists_takenForSuccess hroute hreached hresolves hexecute
    exact ⟨before, _, after, hlog, htaken⟩

/-! ## A rate limit on a success status -/

namespace Upstream

/-- `{"error": {"code": "rate_limit_exceeded"}}`. -/
def rateLimitedReply : Json :=
  .object [("error", .object [("code", .string "rate_limit_exceeded")])]

/-- A request that is not streamed. -/
def plainRequest : InferenceRequest := ⟨"request", "model", false⟩

/-- Every provider answers with the reply, and everything else works. There are two routes. -/
def limited : Behaviour OpenAiSseDecoder := fun _ op =>
  match op with
  | .configuration (.authenticate _) => .ok true
  | .configuration (.candidates _) =>
    .ok [ControlPlane.onlyRoute, { ControlPlane.onlyRoute with routeId := "other" }]
  | .configuration (.recordAttempt _) => .ok ()
  | .configuration (.markRouteSuccess _) => .ok ()
  | .configuration (.markRouteFailure _ _) => .ok ()
  | .configuration (.markAccountFailure _ _) => .ok ()
  | .resolve _ => .ok "credential"
  | .execute _ request _ => execute none request (.response 200 (some rateLimitedReply) [])
  | .newAttemptId => .least
  | .appendAttempt _ => .ok ()
  | .recordQuotaSnapshot _ => .ok ()
  | .recordBillingRecord _ => .ok ()
  | .unixTime => none

theorem reportsFailure_rateLimitedReply : ReportsFailure (some rateLimitedReply) := by
  right
  intro h
  cases h

/-- The first route answers that it is limited. The stream decoder takes that for a rate limit,
`execute` for a success, and the client gets the error although a second route is left. -/
theorem rate_limit_returned :
    ReportsFailure (some rateLimitedReply) ∧
    replyCategory (some rateLimitedReply) = .rateLimited ∧
    execute none plainRequest (.response 200 (some rateLimitedReply) []) =
      .ok (.complete rateLimitedReply none) ∧
    ((Gateway.infer ⟨false, false⟩ "key" plainRequest : UseCase OpenAiSseDecoder
      (InferenceResult OpenAiSseDecoder Unit)).run limited.handle 0).1 =
        .ok (.complete rateLimitedReply) := by
  refine ⟨reportsFailure_rateLimitedReply, ?_, rfl, rfl⟩
  decide +kernel

theorem error_reply_taken_for_success_limited :
    ∃ before answer after,
      Gateway.inferLog ⟨false, false⟩ "key" plainRequest limited Unit = before ++
        (1, ⟨.execute ControlPlane.onlyRoute plainRequest "credential", answer⟩) :: after ∧
      Gateway.TakenForSuccess ⟨false, false⟩ plainRequest limited 0 ControlPlane.onlyRoute
        rateLimitedReply after ((Gateway.infer ⟨false, false⟩ "key" plainRequest :
          UseCase OpenAiSseDecoder (InferenceResult OpenAiSseDecoder Unit)).run
            limited.handle 0).1 := by
  have hstatus : 200 ≤ 200 ∧ 200 < 300 := by decide
  refine (error_reply_taken_for_success rfl hstatus reportsFailure_rateLimitedReply none []
    Unit).2.2 ⟨false, false⟩ "key" limited 0 ControlPlane.onlyRoute "credential" rfl ?_ rfl rfl
  intro k hk
  cases hk

end Upstream

end SmartGateway
