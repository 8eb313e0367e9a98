import SmartGateway.Application.AccountingEvidence

/-! # What a request may do

A request authenticates first. Once its key is accepted it may ask for candidates, resolve the
credentials of those, and execute them with what was resolved; all it writes then concerns a
route it has executed.
-/

namespace SmartGateway

open Program (Always)

variable {Body Chunk : Type}

/-! ## Bookkeeping of a route -/

/-- A call that keeps books of an attempt of the request on the route. -/
def ApplicationOp.Concerns (requestId : String) (route : RouteCandidate) : ApplicationOp → Prop
  | .configuration (.recordAttempt attempt) | .appendAttempt attempt =>
    attempt.requestId = requestId ∧ attempt.routeId = route.routeId
  | .configuration (.markRouteSuccess routeId)
  | .configuration (.markRouteFailure routeId _) => routeId = route.routeId
  | .configuration (.markAccountFailure accountId _) => accountId = route.providerAccountId
  | .recordQuotaSnapshot snapshot => snapshot.providerAccountId = route.providerAccountId
  | .recordBillingRecord record => record.providerAccountId = route.providerAccountId
  | .newAttemptId | .unixTime => True
  | .configuration (.authenticate _) | .configuration (.candidates _)
  | .resolve _ | .execute _ _ _ => False

/-- A program that only keeps books of attempts on the route. -/
def KeepsBooks {α : Type} (requestId : String) (route : RouteCandidate) (p : UseCase Body α) :
    Prop :=
  p.Calls fun op : ApplicationOp => op.Concerns requestId route

variable {requestId : String} {route : RouteCandidate}

theorem keepsBooks_persisting {α : Type} (usageSpool : Bool) {record : AttemptRecord}
    (taken refused unspooled : α)
    (h : record.requestId = requestId ∧ record.routeId = route.routeId) :
    KeepsBooks requestId route
      (persisting usageSpool record taken refused unspooled : UseCase Body α) := by
  refine ⟨h, fun answer => ?_⟩
  dsimp only [Program.bind]
  split
  · exact trivial
  split
  · refine ⟨h, fun spooled => ?_⟩
    dsimp only [Program.bind]
    split
    · exact trivial
    · exact trivial
  · exact trivial

namespace StreamAttempt

/-- The attempt is one of the request on the route. -/
structure Belongs (attempt : StreamAttempt) (requestId : String) (route : RouteCandidate) :
    Prop where
  ofRequest : attempt.requestId = requestId
  ofRoute : attempt.routeId = route.routeId
  ofAccount : attempt.providerAccountId = route.providerAccountId

variable {attempt : StreamAttempt}

theorem Belongs.persist (h : attempt.Belongs requestId route) (outcome : AttemptOutcome)
    (failureCategory : Option String) : KeepsBooks requestId route
      (attempt.persist (attempt.record outcome failureCategory) : UseCase Body _) := by
  rw [persist_eq]
  exact keepsBooks_persisting _ _ _ _ ⟨h.ofRequest, h.ofRoute⟩

theorem keepsBooks_callIf (condition : Bool) {op : RepositoryOp}
    (h : (ApplicationOp.configuration op).Concerns requestId route) :
    KeepsBooks requestId route (callIf condition op : UseCase Body Unit) := by
  unfold callIf
  split
  · exact ⟨h, fun _ => trivial⟩
  · exact trivial

theorem Belongs.succeed (h : attempt.Belongs requestId route) :
    KeepsBooks requestId route (attempt.succeed : UseCase Body Unit) := by
  refine (h.persist .succeeded none).bind fun persisted => ?_
  rcases persisted with error | value
  · exact trivial
  · exact ⟨h.ofRoute, fun _ => trivial⟩

theorem Belongs.fail (h : attempt.Belongs requestId route) (failure : ProviderFailure) :
    KeepsBooks requestId route (attempt.fail failure : UseCase Body Unit) := by
  have haccount : (ApplicationOp.configuration
      (.markAccountFailure attempt.providerAccountId failure)).Concerns requestId route :=
    h.ofAccount
  have hroute : (ApplicationOp.configuration
      (.markRouteFailure attempt.routeId failure)).Concerns requestId route := h.ofRoute
  apply (h.persist .partialFailed _).bind
  intro _
  apply (keepsBooks_callIf _ haccount).bind
  intro _
  exact keepsBooks_callIf _ hroute

theorem Belongs.cancel (h : attempt.Belongs requestId route) :
    KeepsBooks requestId route (attempt.cancel : UseCase Body Unit) :=
  (h.persist .cancelled none).bind fun _ => trivial

end StreamAttempt

namespace Gateway

variable {request : InferenceRequest}

theorem keepsBooks_persistAttempt (gateway : Gateway) {record : AttemptRecord}
    (h : record.requestId = requestId ∧ record.routeId = route.routeId) :
    KeepsBooks requestId route (gateway.persistAttempt record : UseCase Body _) := by
  rw [persistAttempt_eq]
  exact keepsBooks_persisting _ _ _ _ h

theorem keepsBooks_requireIf (condition : Bool) {op : RepositoryOp}
    (h : (ApplicationOp.configuration op).Concerns requestId route) :
    KeepsBooks requestId route (requireIf condition op : UseCase Body _) := by
  unfold requireIf
  split
  · refine ⟨h, fun answer => ?_⟩
    dsimp only [Program.bind]
    cases configure answer <;> exact trivial
  · exact trivial

theorem keepsBooks_handlePreCommitFailure (gateway : Gateway) (request : InferenceRequest)
    (route : RouteCandidate) (failure : ProviderFailure) :
    KeepsBooks request.requestId route
      (gateway.handlePreCommitFailure request route failure : UseCase Body _) := by
  have haccount : (ApplicationOp.configuration
      (.markAccountFailure route.providerAccountId failure)).Concerns request.requestId route := rfl
  have hroute : (ApplicationOp.configuration
      (.markRouteFailure route.routeId failure)).Concerns request.requestId route := rfl
  refine ⟨trivial, fun attemptId => ?_⟩
  apply (gateway.keepsBooks_persistAttempt ⟨rfl, rfl⟩).andThen
  intro _
  apply (keepsBooks_requireIf _ haccount).andThen
  intro _
  exact keepsBooks_requireIf _ hroute

theorem keepsBooks_recordQuotaSnapshots {snapshots : List ProviderQuotaSnapshot}
    (h : ∀ snapshot ∈ snapshots, snapshot.providerAccountId = route.providerAccountId) :
    KeepsBooks requestId route (recordQuotaSnapshots snapshots : UseCase Body Unit) := by
  induction snapshots with
  | nil => exact trivial
  | cons snapshot snapshots ih =>
    refine ⟨h snapshot List.mem_cons_self, fun _ => ih fun other hother => ?_⟩
    exact h other (List.mem_cons_of_mem _ hother)

/-- Evidence of another account is not recorded. -/
theorem keepsBooks_persistAuthoritativeEvidence (gateway : Gateway) (attemptId : AttemptId)
    (evidence : ProviderAuthoritativeEvidence) :
    KeepsBooks requestId route
      (gateway.persistAuthoritativeEvidence route.providerAccountId attemptId evidence :
        UseCase Body Unit) := by
  unfold persistAuthoritativeEvidence
  split
  · exact trivial
  split
  · exact trivial
  next hvalid =>
  have hok : (evidence.validateForAccount route.providerAccountId).isOk = true := by
    simpa using (not_or.mp fun h => hvalid ((Bool.or_eq_true _ _).mpr h)).2
  have hsnapshots : ∀ snapshot ∈ evidence.quotaSnapshots,
      snapshot.providerAccountId = route.providerAccountId := by
    cases hresult : evidence.validateForAccount route.providerAccountId with
    | error error =>
      rw [hresult] at hok
      cases hok
    | ok _ =>
      have hvalidFor := ProviderAuthoritativeEvidence.validateForAccount_eq_ok.mp hresult
      exact fun snapshot hsnapshot => (hvalidFor.1 snapshot hsnapshot).2
  refine (keepsBooks_recordQuotaSnapshots hsnapshots).bind fun _ => ?_
  cases evidence.billing with
  | none => exact trivial
  | some billing => exact ⟨trivial, fun _ => ⟨rfl, fun _ => trivial⟩⟩

theorem keepsBooks_handleExecution (gateway : Gateway) (request : InferenceRequest)
    (route : RouteCandidate) (execution : InferenceExecution Body) :
    KeepsBooks request.requestId route
      (gateway.handleExecution request route execution :
        UseCase Body (InferenceResult Body Chunk)) := by
  refine ⟨trivial, fun attemptId => ?_⟩
  cases execution with
  | complete response evidence =>
    refine (gateway.keepsBooks_persistAttempt ⟨rfl, rfl⟩).andThen fun _ => ⟨rfl, fun marked => ?_⟩
    dsimp only [Program.bind]
    cases configure marked with
    | error error => exact trivial
    | ok value =>
      cases evidence with
      | none => exact trivial
      | some evidence =>
        exact (gateway.keepsBooks_persistAuthoritativeEvidence _ _).bind fun _ => trivial
  | streaming body =>
    have hbelongs : StreamAttempt.Belongs
        { usageSpool := gateway.usageSpool, attemptId, requestId := request.requestId,
          routeId := route.routeId, providerAccountId := route.providerAccountId }
        request.requestId route := ⟨rfl, rfl, rfl⟩
    refine (hbelongs.persist .committed none).bind fun persisted => ?_
    cases persisted <;> exact trivial

end Gateway

/-! ## Permission -/

variable {key : String} {request : InferenceRequest} {past : History Body}

/-- The key was presented by the first call and accepted. -/
def Accepted (key : String) (past : History Body) : Prop :=
  ∃ later, past = ⟨.configuration (.authenticate key), .ok true⟩ :: later

/-- The route is one of the candidates the request was answered. -/
def Offered (request : InferenceRequest) (past : History Body) (route : RouteCandidate) : Prop :=
  ∃ candidates, (⟨.configuration (.candidates request.model), .ok candidates⟩ :
    Event (application Body)) ∈ past ∧ route ∈ candidates

/-- The request was sent to the route, with a credential its reference was resolved to. -/
def Executed (request : InferenceRequest) (past : History Body) (route : RouteCandidate) : Prop :=
  ∃ credential answer, (⟨.execute route request credential, answer⟩ :
    Event (application Body)) ∈ past

/-- The calls a request may make after those of the history. -/
def Permitted (key : String) (request : InferenceRequest) (past : History Body) :
    ApplicationOp → Prop
  | .configuration (.authenticate rawKey) => rawKey = key ∧ past = []
  | .configuration (.candidates model) =>
    model = request.model ∧ past = [⟨.configuration (.authenticate key), .ok true⟩]
  | .resolve reference =>
    Accepted key past ∧ ∃ route, Offered request past route ∧ reference = route.credentialRef
  | .execute route asked credential =>
    asked = request ∧ Accepted key past ∧ Offered request past route ∧
      (⟨.resolve route.credentialRef, .ok credential⟩ : Event (application Body)) ∈ past
  | op => Accepted key past ∧ ∃ route, Offered request past route ∧
      Executed request past route ∧ op.Concerns request.requestId route

/-- What a request is answered, by what it has done. -/
def Earned (key : String) (request : InferenceRequest) (past : History Body) :
    InferenceResult Body Chunk → Prop
  | .error .unauthorized => past = [⟨.configuration (.authenticate key), .ok false⟩]
  | .error (.configuration text) =>
    past = [⟨.configuration (.authenticate key), .error text⟩] ∨ Accepted key past
  | .ok (.streaming stream) => Accepted key past ∧ ∃ route, Offered request past route ∧
      Executed request past route ∧ stream.attempt.Belongs request.requestId route
  | _ => Accepted key past

theorem Accepted.append (h : Accepted key past) (later : History Body) :
    Accepted key (past ++ later) := by
  obtain ⟨own, rfl⟩ := h
  exact ⟨own ++ later, rfl⟩

theorem Offered.append (h : Offered request past route) (later : History Body) :
    Offered request (past ++ later) route := by
  obtain ⟨candidates, hanswer, hroute⟩ := h
  exact ⟨candidates, List.mem_append_left later hanswer, hroute⟩

theorem Executed.append (h : Executed request past route) (later : History Body) :
    Executed request (past ++ later) route := by
  obtain ⟨credential, answer, hexecuted⟩ := h
  exact ⟨credential, answer, List.mem_append_left later hexecuted⟩

/-- What a request may do on the books of a route once it has executed it. -/
structure Admitted (key : String) (request : InferenceRequest) (past : History Body)
    (route : RouteCandidate) : Prop where
  accepted : Accepted key past
  offered : Offered request past route
  executed : Executed request past route

theorem Admitted.append (h : Admitted key request past route) (later : History Body) :
    Admitted key request (past ++ later) route :=
  ⟨h.accepted.append later, h.offered.append later, h.executed.append later⟩

theorem Admitted.permitted (h : Admitted key request past route) {op : ApplicationOp}
    (hop : op.Concerns request.requestId route) : Permitted key request past op := by
  have hadmitted : Accepted key past ∧ ∃ route, Offered request past route ∧
      Executed request past route ∧ op.Concerns request.requestId route :=
    ⟨h.accepted, route, h.offered, h.executed, hop⟩
  cases op with
  | configuration op =>
    cases op with
    | authenticate rawKey => exact hop.elim
    | candidates model => exact hop.elim
    | _ => exact hadmitted
  | resolve reference => exact hop.elim
  | execute route' request' credential => exact hop.elim
  | _ => exact hadmitted

/-- A program that keeps books of an executed route is permitted. -/
theorem KeepsBooks.always {α : Type} {p : UseCase Body α}
    (hp : KeepsBooks request.requestId route p) (h : Admitted key request past route) :
    Always (S := application Body) (Permitted key request)
      (fun past' _ => ∃ own, past' = past ++ own) past p := by
  induction p generalizing past with
  | pure a => exact ⟨[], (List.append_nil past).symm⟩
  | call op next ih =>
    refine ⟨h.permitted hp.1, fun answer => ?_⟩
    refine (ih answer (hp.2 answer) (h.append _)).mono (fun _ _ hpermitted => hpermitted) ?_
    rintro past' _ ⟨own, rfl⟩
    exact ⟨⟨op, answer⟩ :: own, List.append_assoc _ _ _⟩

namespace Gateway

variable (gateway : Gateway)

/-- What an execution of the route comes to: no verdict about the key, and a stream of it. -/
def Concludes (request : InferenceRequest) (route : RouteCandidate) :
    InferenceResult Body Chunk → Prop
  | .error error => ∃ text, error = .configuration text
  | .ok (.complete _) => True
  | .ok (.streaming stream) => stream.attempt.Belongs request.requestId route

/-- Bookkeeping fails with a configuration error only. -/
def ConfigurationOnly (result : Except ApplicationError Unit) : Prop :=
  ∀ error, result = .error error → ∃ text, error = .configuration text

theorem configurationOnly_ok : ConfigurationOnly (.ok ()) := by
  intro error h
  cases h

theorem configurationOnly_error (text : String) :
    ConfigurationOnly (.error (.configuration text)) := by
  intro error h
  cases h
  exact ⟨text, rfl⟩

theorem persistAttempt_result (record : AttemptRecord) (past : History Body) :
    Always (S := application Body) (fun _ _ => True) (fun _ result => ConfigurationOnly result) past
      (gateway.persistAttempt record) := by
  rw [persistAttempt_eq]
  refine ⟨trivial, fun answer => ?_⟩
  dsimp only [Program.bind]
  split
  · exact configurationOnly_ok
  split
  · refine ⟨trivial, fun spooled => ?_⟩
    dsimp only [Program.bind]
    split
    · exact configurationOnly_ok
    · exact configurationOnly_error _
  · exact configurationOnly_error _

theorem requireIf_result (condition : Bool) (op : RepositoryOp) (past : History Body) :
    Always (S := application Body) (fun _ _ => True) (fun _ result => ConfigurationOnly result) past
      (requireIf condition op) := by
  unfold requireIf
  split
  · refine ⟨trivial, fun answer => ?_⟩
    dsimp only [Program.bind]
    cases answer with
    | error error => exact configurationOnly_error error
    | ok value => exact configurationOnly_ok
  · exact configurationOnly_ok

theorem handlePreCommitFailure_result (request : InferenceRequest) (route : RouteCandidate)
    (failure : ProviderFailure) (past : History Body) :
    Always (S := application Body) (fun _ _ => True) (fun _ result => ConfigurationOnly result) past
      (gateway.handlePreCommitFailure request route failure) := by
  refine ⟨trivial, fun attemptId => ?_⟩
  refine (gateway.persistAttempt_result _ _).andThen ?_ ?_
  · intro past' _ _
    refine (requireIf_result _ _ past').andThen ?_ ?_
    · intro past'' _ _
      exact requireIf_result _ _ past''
    · intro _ error hresult
      exact hresult
  · intro _ error hresult
    exact hresult

theorem concludes_handleExecution (execution : InferenceExecution Body) (past : History Body) :
    Always (S := application Body) (fun _ _ => True) (fun _ result => Concludes request route result)
      past (gateway.handleExecution request route execution :
        UseCase Body (InferenceResult Body Chunk)) := by
  refine ⟨trivial, fun attemptId => ?_⟩
  cases execution with
  | complete response evidence =>
    refine (gateway.persistAttempt_result _ _).andThen ?_ ?_
    · intro past' _ _
      refine ⟨trivial, fun marked => ?_⟩
      dsimp only [Program.bind]
      cases marked with
      | error error => exact ⟨error, rfl⟩
      | ok value =>
        cases evidence with
        | none => exact trivial
        | some evidence => exact (Program.always_true _ _).bind fun _ _ _ => trivial
    · intro past' error hresult
      exact hresult error rfl
  | streaming body =>
    have hpersist (attempt : StreamAttempt) (record : AttemptRecord) (past : History Body) :=
      Program.always_true (attempt.persist record : UseCase Body _) past
    refine (hpersist _ _ _).bind ?_
    intro past' persisted _
    cases persisted with
    | error error => exact ⟨_, rfl⟩
    | ok value => exact ⟨rfl, rfl, rfl⟩

theorem permitted_handleExecution (h : Admitted key request past route)
    (execution : InferenceExecution Body) :
    Always (S := application Body) (Permitted key request) (Earned key request) past
      (gateway.handleExecution request route execution :
        UseCase Body (InferenceResult Body Chunk)) := by
  have hcalls : KeepsBooks request.requestId route
      (gateway.handleExecution request route execution :
        UseCase Body (InferenceResult Body Chunk)) :=
    gateway.keepsBooks_handleExecution request route execution
  refine ((hcalls.always h).and (gateway.concludes_handleExecution execution past)).mono ?_ ?_
  · intro past' op hop
    exact hop.1
  · rintro past' result ⟨⟨own, rfl⟩, hresult⟩
    have hadmitted := h.append own
    rcases result with error | response | stream
    · obtain ⟨text, rfl⟩ := hresult
      exact Or.inr hadmitted.accepted
    · exact hadmitted.accepted
    · exact ⟨hadmitted.accepted, route, hadmitted.offered, hadmitted.executed, hresult⟩

/-- The loop over the candidates keeps to them. The induction is on those that are left. -/
theorem permitted_tryCandidates {candidates : List RouteCandidate} (lastFailure : Option String)
    (haccepted : Accepted key past)
    (hoffered : ∀ route ∈ candidates, Offered request past route) :
    Always (S := application Body) (Permitted key request) (Earned key request) past
      (gateway.tryCandidates request candidates lastFailure :
        UseCase Body (InferenceResult Body Chunk)) := by
  induction candidates generalizing past lastFailure with
  | nil => exact haccepted
  | cons route candidates ih =>
    have hroute : Offered request past route := hoffered route List.mem_cons_self
    have hrest : ∀ later : History Body, ∀ other ∈ candidates,
        Offered request (past ++ later) other := fun later other hother =>
      (hoffered other (List.mem_cons_of_mem _ hother)).append later
    refine ⟨⟨haccepted, route, hroute, rfl⟩, fun secret => ?_⟩
    cases secret with
    | error error => exact ih (some error) (haccepted.append _) (hrest _)
    | ok credential =>
      have hresolved := List.mem_append_right past
        (List.mem_singleton_self (⟨.resolve route.credentialRef, .ok credential⟩ :
          Event (application Body)))
      refine ⟨⟨rfl, haccepted.append _, hroute.append _, hresolved⟩, fun execution => ?_⟩
      have hadmitted : Admitted key request
          (past ++ [⟨.resolve route.credentialRef, .ok credential⟩] ++
            [⟨.execute route request credential, execution⟩]) route := by
        refine ⟨(haccepted.append _).append _, (hroute.append _).append _, credential, execution, ?_⟩
        exact List.mem_append_right _ (List.mem_singleton_self _)
      cases execution with
      | ok execution => exact gateway.permitted_handleExecution hadmitted execution
      | error failure =>
        have hcalls :=
          (gateway.keepsBooks_handlePreCommitFailure request route failure).always hadmitted
        have hresults := gateway.handlePreCommitFailure_result request route failure
          (past ++ [⟨.resolve route.credentialRef, .ok credential⟩] ++
            [⟨.execute route request credential, .error failure⟩])
        -- a failure that cannot be recorded ends the request
        refine ((hcalls.and hresults).mono (fun _ _ hop => hop.1) fun _ _ hresult => hresult).andThen ?_ ?_
        · rintro past' _ ⟨⟨own, rfl⟩, -⟩
          have hlater := hadmitted.append own
          simp only [List.append_assoc] at hlater ⊢
          exact ih (some failure.message) hlater.accepted (hrest _)
        · rintro past' error ⟨⟨own, rfl⟩, hresult⟩
          obtain ⟨text, rfl⟩ := hresult error rfl
          exact Or.inr (hadmitted.append own).accepted

/-- Whatever it is answered, a request does what it may only. -/
theorem permitted_infer (key : String) (request : InferenceRequest) :
    Always (S := application Body) (Permitted key request) (Earned key request) []
      (gateway.infer key request : UseCase Body (InferenceResult Body Chunk)) := by
  refine ⟨⟨rfl, rfl⟩, fun authenticated => ?_⟩
  rcases authenticated with error | accepted | accepted
  · exact Or.inl rfl
  · exact rfl
  · have haccepted : Accepted key
        ([⟨.configuration (.authenticate key), .ok true⟩] : History Body) := ⟨[], rfl⟩
    refine ⟨⟨rfl, rfl⟩, fun answer => ?_⟩
    cases answer with
    | error error =>
      dsimp only [Program.bind]
      split
      · exact haccepted.append _
      · exact Or.inr (haccepted.append _)
    | ok candidates =>
      refine gateway.permitted_tryCandidates none (haccepted.append _) ?_
      intro route hroute
      exact ⟨candidates, List.mem_append_right _ (List.mem_singleton_self _), hroute⟩

end Gateway

end SmartGateway
