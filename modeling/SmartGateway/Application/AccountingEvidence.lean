import SmartGateway.Application.ErrorReplies
import SmartGateway.Lib.TwoRuns

/-! # Accounting evidence

What a provider reports about capacity and billing goes to the accounting repository and
nowhere else: runs of `infer` that differ in the evidence, in whether there is an accounting
repository and in what it answers make the same other calls and return the same. What is handed
to it belongs to the account of the route that was executed, and evidence with a part that is
invalid or of another account is not handed over at all.
-/

namespace SmartGateway

open Program

variable {Body Chunk : Type}

/-! ## What two runs may differ in -/

/-- Two results of an execution that differ at most in the evidence of a complete one. -/
inductive SameExecution : Except ProviderFailure (InferenceExecution Body) →
    Except ProviderFailure (InferenceExecution Body) → Prop where
  | same (result : Except ProviderFailure (InferenceExecution Body)) : SameExecution result result
  | complete (response : Json) (evidence evidence' : Option ProviderAuthoritativeEvidence) :
    SameExecution (.ok (.complete response evidence)) (.ok (.complete response evidence'))

/-- How the answers to a call may differ. -/
def SameButEvidence : (op : ApplicationOp) → op.Answer Body → op.Answer Body → Prop
  | .execute _ _ _, answer, answer' => SameExecution answer answer'
  | _, answer, answer' => answer = answer'

/-- What surrounds two runs, with related states: every call is answered alike but for evidence,
except that the accounting repository and the clock it is stamped with answer as they like and
touch nothing that is related. -/
abbrev DifferInAccounting {σ τ : Type} (Sim : σ → τ → Prop)
    (first : (op : ApplicationOp) → σ → op.Answer Body × σ)
    (second : (op : ApplicationOp) → τ → op.Answer Body × τ) : Prop :=
  Simulates (S := application Body) ApplicationOp.accounts SameButEvidence Sim first second

/-- Two programs that make the same calls but for the accounting, and return the same. -/
abbrev InertAccounting {α : Type} (p q : UseCase Body α) : Prop :=
  AlikeBut (S := application Body) ApplicationOp.accounts SameButEvidence (fun a b => a = b) p q

/-! ## Calls that are no accounting -/

section Calls

/-- A call that is no accounting and turns to no other candidate. -/
def ApplicationOp.books (op : ApplicationOp) : Bool := op.settles && !op.accounts

/-- A program whose calls are all of that kind. -/
def Books {α : Type} (p : UseCase Body α) : Prop :=
  p.Calls fun op : ApplicationOp => op.books = true

theorem books_persisting {α : Type} (usageSpool : Bool) (record : AttemptRecord)
    (taken refused unspooled : α) :
    Books (persisting usageSpool record taken refused unspooled : UseCase Body α) := by
  refine ⟨rfl, fun answer => ?_⟩
  dsimp only [Program.bind]
  split
  · exact trivial
  · split
    · refine ⟨rfl, fun spooled => ?_⟩
      dsimp only [Program.bind]
      split
      · exact trivial
      · exact trivial
    · exact trivial

theorem books_persistAttempt (gateway : Gateway) (record : AttemptRecord) :
    Books (gateway.persistAttempt record : UseCase Body _) := by
  rw [Gateway.persistAttempt_eq]
  exact books_persisting _ _ _ _ _

theorem books_persist (attempt : StreamAttempt) (record : AttemptRecord) :
    Books (attempt.persist record : UseCase Body _) := by
  rw [StreamAttempt.persist_eq]
  exact books_persisting _ _ _ _ _

theorem books_requireIf (condition : Bool) (op : RepositoryOp) :
    Books (Gateway.requireIf condition op : UseCase Body _) := by
  unfold Gateway.requireIf
  split
  · refine ⟨rfl, fun answer => ?_⟩
    dsimp only [Program.bind]
    cases Gateway.configure answer with
    | ok _ => exact trivial
    | error error => exact trivial
  · exact trivial

theorem books_handlePreCommitFailure (gateway : Gateway) (request : InferenceRequest)
    (route : RouteCandidate) (failure : ProviderFailure) :
    Books (gateway.handlePreCommitFailure request route failure : UseCase Body _) := by
  refine ⟨rfl, fun attemptId => ?_⟩
  apply (books_persistAttempt gateway _).andThen
  intro _
  apply (books_requireIf _ _).andThen
  intro _
  exact books_requireIf _ _

/-- A program without accounting is alike to itself. -/
theorem alikeBut_of_books {α : Type} {p : UseCase Body α} (hp : Books p) :
    InertAccounting p p := by
  apply AlikeBut.refl
  refine Calls.mono hp ?_
  intro op hop
  rw [ApplicationOp.books, Bool.and_eq_true, Bool.not_eq_true'] at hop
  refine ⟨hop.2, ?_⟩
  intro answer answer' hsame
  cases op with
  | execute route request credential => cases hop.1
  | _ => exact hsame

end Calls

/-! ## Evidence is inert -/

section Inert

variable (gateway : Gateway) (accounting : Bool) (request : InferenceRequest)

/-- What is left of a complete execution once its record and its mark were taken. -/
def handEvidence (response : Json) (accountId : String) (attemptId : AttemptId) :
    Option ProviderAuthoritativeEvidence → UseCase Body (InferenceResult Body Chunk)
  | none => .pure (.ok (.complete response))
  | some evidence =>
    (gateway.persistAuthoritativeEvidence accountId attemptId evidence).bind fun _ =>
      .pure (.ok (.complete response))

variable (Body Chunk) in
theorem alikeBut_handEvidence (response : Json) (accountId : String) (attemptId : AttemptId)
    (evidence evidence' : Option ProviderAuthoritativeEvidence) :
    InertAccounting
      (handEvidence gateway response accountId attemptId evidence :
        UseCase Body (InferenceResult Body Chunk))
      (handEvidence { gateway with accounting } response accountId attemptId evidence') := by
  have hright : InertAccounting
      (.pure (.ok (.complete response)) : UseCase Body (InferenceResult Body Chunk))
      (handEvidence { gateway with accounting } response accountId attemptId evidence') := by
    cases evidence' with
    | none => exact .pure rfl
    | some evidence =>
      apply AlikeBut.skip_right (Gateway.calls_persistAuthoritativeEvidence _ _ _ evidence)
      intro _
      exact .pure rfl
  cases evidence with
  | none => exact hright
  | some evidence =>
    apply AlikeBut.skip_left (Gateway.calls_persistAuthoritativeEvidence _ _ _ evidence)
    intro _
    exact hright

theorem alikeBut_handleExecution (route : RouteCandidate)
    {execution execution' : InferenceExecution Body}
    (h : SameExecution (.ok execution) (.ok execution')) :
    InertAccounting
      (gateway.handleExecution request route execution : UseCase Body (InferenceResult Body Chunk))
      (({ gateway with accounting }).handleExecution request route execution') := by
  -- complete executions differ in the evidence alone, and streams not at all
  have hcomplete : ∀ response evidence evidence', InertAccounting
      (gateway.handleExecution request route (.complete response evidence) :
        UseCase Body (InferenceResult Body Chunk))
      (({ gateway with accounting }).handleExecution request route
        (.complete response evidence')) := by
    intro response evidence evidence'
    refine .perform rfl ?_
    rintro attemptId _ rfl
    refine (alikeBut_of_books (books_persistAttempt gateway _)).andThen ?_ fun _ => rfl
    intro _
    refine .perform rfl ?_
    rintro marked _ rfl
    cases Gateway.configure marked with
    | error error => exact .pure rfl
    | ok _ =>
      have hevidence := alikeBut_handEvidence Body Chunk gateway accounting response
        route.providerAccountId attemptId evidence evidence'
      cases evidence <;> cases evidence' <;> exact hevidence
  cases h with
  | complete response evidence evidence' => exact hcomplete response evidence evidence'
  | same =>
    cases execution with
    | complete response evidence => exact hcomplete response evidence evidence
    | streaming body =>
      refine .perform rfl ?_
      rintro attemptId _ rfl
      refine (alikeBut_of_books (books_persist _ _)).bind ?_
      rintro persisted _ rfl
      cases persisted with
      | error error => exact .pure rfl
      | ok _ => exact .pure rfl

/-- The loop over the candidates. The induction is on the candidates that are left. -/
theorem alikeBut_tryCandidates (candidates : List RouteCandidate) (lastFailure : Option String) :
    InertAccounting
      (gateway.tryCandidates request candidates lastFailure :
        UseCase Body (InferenceResult Body Chunk))
      (({ gateway with accounting }).tryCandidates request candidates lastFailure) := by
  induction candidates generalizing lastFailure with
  | nil => exact .pure rfl
  | cons route candidates ih =>
    refine .perform rfl ?_
    rintro secret _ rfl
    cases secret with
    | error error => exact ih (some error)
    | ok credential =>
      refine .perform rfl ?_
      intro execution execution' hsame
      have hsame : SameExecution execution execution' := hsame
      rcases execution with failure | execution
      · cases hsame
        refine (alikeBut_of_books (books_handlePreCommitFailure gateway request route
          failure)).andThen ?_ fun _ => rfl
        intro _
        exact ih (some failure.message)
      · rcases execution' with failure | execution'
        · cases hsame
        · exact alikeBut_handleExecution gateway accounting request route hsame

theorem alikeBut_infer (rawKey : String) :
    InertAccounting
      (gateway.infer rawKey request : UseCase Body (InferenceResult Body Chunk))
      (({ gateway with accounting }).infer rawKey request) := by
  refine .perform rfl ?_
  rintro authenticated _ rfl
  rcases authenticated with error | _ | _
  · exact .pure rfl
  · exact .pure rfl
  · refine .perform rfl ?_
    rintro candidates _ rfl
    cases candidates with
    | error error => exact .pure rfl
    | ok candidates => exact alikeBut_tryCandidates gateway accounting request candidates none

end Inert

/-! ## What is handed over -/

/-- Every part of the evidence is valid, and every snapshot belongs to the account. -/
def ProviderAuthoritativeEvidence.ValidFor (evidence : ProviderAuthoritativeEvidence)
    (accountId : String) : Prop :=
  (∀ snapshot ∈ evidence.quotaSnapshots,
    snapshot.validate = .ok () ∧ snapshot.providerAccountId = accountId) ∧
  ∀ billing ∈ evidence.billing, billing.validate = .ok ()

theorem ProviderAuthoritativeEvidence.validateForAccount_eq_ok
    {evidence : ProviderAuthoritativeEvidence} {accountId : String} :
    evidence.validateForAccount accountId = .ok () ↔ evidence.ValidFor accountId := by
  unfold validateForAccount ValidFor
  constructor
  · intro h
    obtain ⟨⟨⟩, hsnapshots, hbilling⟩ := OrderedRows.ok_of_bind h
    constructor
    · intro snapshot hsnapshot
      obtain ⟨⟨⟩, hvalid, haccount⟩ :=
        OrderedRows.ok_of_bind (forM_eq_ok.mp hsnapshots snapshot hsnapshot)
      by_cases hsame : snapshot.providerAccountId = accountId
      · exact ⟨hvalid, hsame⟩
      · rw [if_pos hsame] at haccount
        cases haccount
    · intro billing hmem
      rw [Option.mem_def.mp hmem] at hbilling
      exact hbilling
  · rintro ⟨hsnapshots, hbilling⟩
    have hall : (evidence.quotaSnapshots.forM fun snapshot => do
        snapshot.validate
        if snapshot.providerAccountId ≠ accountId then
          throw AuthoritativeDataError.mismatchedProviderAccount) = .ok () := by
      rw [forM_eq_ok]
      intro snapshot hsnapshot
      obtain ⟨hvalid, hsame⟩ := hsnapshots snapshot hsnapshot
      rw [hvalid]
      show (if snapshot.providerAccountId ≠ accountId then _ else _) = _
      rw [if_neg (not_not.mpr hsame)]
      rfl
    rw [hall]
    cases hbill : evidence.billing with
    | none => rfl
    | some billing => exact hbilling billing hbill

/-- A record for the accounting repository. -/
def ApplicationOp.accountingRecord : ApplicationOp → Bool
  | .recordQuotaSnapshot _ | .recordBillingRecord _ => true
  | _ => false

/-- A route was executed completely, with evidence, in an attempt that was then recorded as
succeeded. All executions before failed, and there was none since. -/
def Completed (request : InferenceRequest) (past : History Body) (route : RouteCandidate)
    (attemptId : AttemptId) (evidence : ProviderAuthoritativeEvidence) : Prop :=
  ∃ before credential response after,
    past = before ++ ⟨.execute route request credential, .ok (.complete response (some evidence))⟩ ::
      ⟨.newAttemptId, attemptId⟩ :: after ∧
    History.AllFailed before ∧ (∀ e ∈ after, e.op.settles = true) ∧
    ∃ answer, (⟨.configuration (.recordAttempt
      { attemptId
        requestId := request.requestId
        routeId := route.routeId
        outcome := .succeeded
        failureCategory := none }), answer⟩ : Event (application Body)) ∈ after

/-- What an accounting record belongs to: valid evidence of the execution, the account of the
route that was executed, and the attempt. -/
def Scoped (request : InferenceRequest) (past : History Body) : ApplicationOp → Prop
  | .recordQuotaSnapshot snapshot => ∃ route attemptId evidence,
    Completed request past route attemptId evidence ∧
      evidence.ValidFor route.providerAccountId ∧ snapshot ∈ evidence.quotaSnapshots ∧
      snapshot.providerAccountId = route.providerAccountId
  | .recordBillingRecord record => ∃ route attemptId evidence billing,
    Completed request past route attemptId evidence ∧
      evidence.ValidFor route.providerAccountId ∧ evidence.billing = some billing ∧
      record.providerAccountId = route.providerAccountId ∧ record.attemptId = attemptId ∧
      record.recordId = attemptId.text ∧ record.providerRequestId = billing.providerRequestId ∧
      record.billedUnits = billing.billedUnits ∧ record.charge = billing.charge ∧
      record.source = billing.source
  | .execute _ _ _ => History.AllFailed past
  | _ => True

/-- The accounting records of a run, by its calls with their answers. -/
structure ScopedRun (request : InferenceRequest) (run : History Body) : Prop where
  /-- Each record belongs to the account that was executed, each billing record to the attempt. -/
  belongs : ∀ past event later, run = past ++ event :: later → Scoped request past event.op
  /-- Of evidence with a part that is invalid or of another account, nothing is recorded. -/
  refused : ∀ route asked credential response evidence,
    (⟨.execute route asked credential, .ok (.complete response (some evidence))⟩ :
      Event (application Body)) ∈ run →
    ¬ evidence.ValidFor route.providerAccountId → ∀ event ∈ run, event.op.accountingRecord = false

section Scoped

variable {request : InferenceRequest} {past : History Body} {route : RouteCandidate}
  {attemptId : AttemptId} {evidence : ProviderAuthoritativeEvidence}

theorem Completed.snoc (h : Completed request past route attemptId evidence)
    {event : Event (application Body)} (hevent : event.op.settles = true) :
    Completed request (past ++ [event]) route attemptId evidence := by
  obtain ⟨before, credential, response, after, rfl, hfailed, hsettle, answer, hrecorded⟩ := h
  refine ⟨before, credential, response, after ++ [event], ?_, hfailed, ?_, answer,
    List.mem_append_left _ hrecorded⟩
  · simp
  · intro e he
    rcases List.mem_append.mp he with he | he
    · exact hsettle e he
    · rw [List.mem_singleton.mp he]
      exact hevent

/-- Calls that are no accounting need no condition. -/
theorem scoped_of_books {op : ApplicationOp} (h : op.books = true) (past : History Body) :
    Scoped request past op := by
  cases op with
  | execute route asked credential => cases h
  | recordQuotaSnapshot snapshot => cases h
  | recordBillingRecord record => cases h
  | _ => trivial

theorem settles_of_books {op : ApplicationOp} (h : op.books = true) : op.settles = true := by
  rw [ApplicationOp.books, Bool.and_eq_true] at h
  exact h.1

theorem invocation_of_settles {event : Event (application Body)} (h : event.op.settles = true) :
    History.invocation event = none := by
  obtain ⟨op, answer⟩ := event
  cases op with
  | execute route asked credential => cases h
  | _ => rfl

/-- What is no execution leaves the executions as they were. -/
theorem allFailed_append {own : History Body} (h : History.AllFailed past)
    (hown : ∀ e ∈ own, History.invocation e = none) : History.AllFailed (past ++ own) := by
  intro invoked hinvoked
  rw [List.filterMap_append, List.filterMap_eq_nil_iff.mpr hown, List.append_nil] at hinvoked
  exact h invoked hinvoked

theorem allFailed_snoc_failure (h : History.AllFailed past) (route : RouteCandidate)
    (credential : String) (failure : ProviderFailure) :
    History.AllFailed (past ++ [⟨.execute route request credential, .error failure⟩]) := by
  intro invoked hinvoked
  rw [List.filterMap_append] at hinvoked
  rcases List.mem_append.mp hinvoked with hinvoked | hinvoked
  · exact h invoked hinvoked
  · obtain ⟨event, hevent, hshows⟩ := List.mem_filterMap.mp hinvoked
    rw [List.mem_singleton] at hevent
    subst hevent
    cases hshows
    exact ⟨failure, rfl⟩

/-- A successful execution is no failed one. -/
theorem not_mem_of_allFailed {asked : InferenceRequest} {credential : String}
    {execution : InferenceExecution Body} (h : History.AllFailed past) :
    (⟨.execute route asked credential, .ok execution⟩ : Event (application Body)) ∉ past := by
  intro hmem
  obtain ⟨failure, hresult⟩ := h ⟨route, credential, .ok execution⟩
    (List.mem_filterMap.mpr ⟨_, hmem, rfl⟩)
  cases hresult

/-! ## Every call of a run -/

/-- The snapshots of valid evidence. The induction is on those that are left. -/
theorem always_quotaSnapshots {snapshots : List ProviderQuotaSnapshot}
    (h : Completed request past route attemptId evidence)
    (hvalid : evidence.ValidFor route.providerAccountId)
    (hsnapshots : ∀ snapshot ∈ snapshots, snapshot ∈ evidence.quotaSnapshots) :
    Always (S := application Body) (Scoped request)
      (fun past' _ => Completed request past' route attemptId evidence) past
      (Gateway.recordQuotaSnapshots snapshots) := by
  induction snapshots generalizing past with
  | nil => exact h
  | cons snapshot snapshots ih =>
    have hmem := hsnapshots snapshot List.mem_cons_self
    refine ⟨⟨route, attemptId, evidence, h, hvalid, hmem, (hvalid.1 snapshot hmem).2⟩, ?_⟩
    intro answer
    apply ih (h.snoc rfl)
    intro other hother
    exact hsnapshots other (List.mem_cons_of_mem _ hother)

theorem always_evidence (gateway : Gateway)
    (h : Completed request past route attemptId evidence) :
    Always (S := application Body) (Scoped request) (fun _ _ => True) past
      (gateway.persistAuthoritativeEvidence route.providerAccountId attemptId evidence) := by
  unfold Gateway.persistAuthoritativeEvidence
  split
  · trivial
  · split
    · trivial
    · next hpasses =>
      rw [Bool.not_eq_true, Bool.or_eq_false_iff, Bool.not_eq_false'] at hpasses
      have hvalid : evidence.ValidFor route.providerAccountId := by
        rw [← ProviderAuthoritativeEvidence.validateForAccount_eq_ok]
        cases hresult : evidence.validateForAccount route.providerAccountId with
        | ok _ => rfl
        | error error =>
          rw [hresult] at hpasses
          cases hpasses.2
      refine (always_quotaSnapshots h hvalid fun _ hmem => hmem).bind ?_
      intro past' _ h
      cases hbilling : evidence.billing with
      | none => trivial
      | some billing =>
        refine ⟨trivial, fun seconds => ⟨?_, fun _ => trivial⟩⟩
        exact ⟨route, attemptId, evidence, billing, h.snoc rfl, hvalid, hbilling, rfl, rfl, rfl, rfl,
          rfl, rfl, rfl⟩

/-- A record is offered to the repository first, and what follows only books. -/
theorem always_recorded (gateway : Gateway) (record : AttemptRecord) (past : History Body) :
    Always (S := application Body) (Scoped request)
      (fun past' _ => ∃ own, past' = past ++ own ∧ (∀ e ∈ own, e.op.settles = true) ∧
        ∃ answer, (⟨.configuration (.recordAttempt record), answer⟩ : Event (application Body)) ∈ own)
      past (gateway.persistAttempt record) := by
  refine ⟨trivial, fun answer => ?_⟩
  have hrest := (books_persistAttempt gateway record).2 answer
  refine (hrest.always (fun past op hop => scoped_of_books hop past) _).mono (fun _ _ h => h) ?_
  rintro past' _ ⟨own, rfl, hown⟩
  refine ⟨⟨.configuration (.recordAttempt record), answer⟩ :: own, ?_, ?_, answer,
    List.mem_cons_self⟩
  · rw [List.append_assoc, List.singleton_append]
  · intro e he
    rcases List.mem_cons.mp he with rfl | he
    · rfl
    · exact settles_of_books (hown e he)

theorem always_handleExecution (gateway : Gateway) {credential : String}
    {execution : InferenceExecution Body} (h : History.AllFailed past) :
    Always (S := application Body) (Scoped request) (fun _ _ => True)
      (past ++ [⟨.execute route request credential, .ok execution⟩])
      (gateway.handleExecution request route execution :
        UseCase Body (InferenceResult Body Chunk)) := by
  refine ⟨trivial, fun attemptId => ?_⟩
  cases execution with
  | streaming body =>
    -- a stream brings no evidence
    refine ((books_persist _ _).always (fun past op hop => scoped_of_books hop past) _).bind ?_
    intro past' persisted _
    cases persisted with
    | error error => trivial
    | ok _ => trivial
  | complete response evidence =>
    refine (always_recorded gateway _ _).andThen ?_ (fun _ _ _ => trivial)
    rintro past' _ ⟨own, rfl, hown, answer, hrecorded⟩
    refine ⟨trivial, fun marked => ?_⟩
    dsimp only [Program.bind]
    cases Gateway.configure marked with
    | error error => trivial
    | ok _ =>
      cases evidence with
      | none => trivial
      | some evidence =>
        -- the evidence is that of a response whose attempt is on record
        have hcompleted : Completed request
            (past ++ [⟨.execute route request credential, .ok (.complete response (some evidence))⟩]
              ++ [⟨.newAttemptId, attemptId⟩] ++ own) route attemptId evidence := by
          refine ⟨past, credential, response, own, ?_, h, hown, answer, hrecorded⟩
          simp
        refine (always_evidence gateway (hcompleted.snoc rfl)).bind ?_
        intro _ _ _
        trivial

/-- The loop over the candidates. The induction is on the candidates that are left, each of
which is executed when those before it failed. -/
theorem always_tryCandidates (gateway : Gateway) (candidates : List RouteCandidate)
    (lastFailure : Option String) (h : History.AllFailed past) :
    Always (S := application Body) (Scoped request) (fun _ _ => True) past
      (gateway.tryCandidates request candidates lastFailure :
        UseCase Body (InferenceResult Body Chunk)) := by
  induction candidates generalizing past lastFailure with
  | nil => trivial
  | cons route candidates ih =>
    refine ⟨trivial, fun secret => ?_⟩
    have hresolved : History.AllFailed (past ++ [⟨.resolve route.credentialRef, secret⟩]) := by
      apply allFailed_append h
      intro e he
      rw [List.mem_singleton.mp he]
      rfl
    cases secret with
    | error error => exact ih (some error) hresolved
    | ok credential =>
      refine ⟨hresolved, fun execution => ?_⟩
      cases execution with
      | ok execution => exact always_handleExecution gateway hresolved
      | error failure =>
        have hfailed : History.AllFailed (past ++ [⟨.resolve route.credentialRef, .ok credential⟩]
            ++ [⟨.execute route request credential, .error failure⟩]) :=
          allFailed_snoc_failure hresolved route credential failure
        refine ((books_handlePreCommitFailure gateway request route failure).always
          (fun past op hop => scoped_of_books hop past) _).andThen ?_ (fun _ _ _ => trivial)
        rintro past' _ ⟨own, rfl, hown⟩
        apply ih
        apply allFailed_append hfailed
        intro e he
        exact invocation_of_settles (settles_of_books (hown e he))

theorem always_infer (gateway : Gateway) (rawKey : String) :
    Always (S := application Body) (Scoped request) (fun _ _ => True) []
      (gateway.infer rawKey request : UseCase Body (InferenceResult Body Chunk)) := by
  refine ⟨trivial, fun authenticated => ?_⟩
  rcases authenticated with error | _ | _
  · trivial
  · trivial
  · refine ⟨trivial, fun candidates => ?_⟩
    cases candidates with
    | error error => trivial
    | ok candidates =>
      apply always_tryCandidates
      intro invoked hinvoked
      cases hinvoked

/-- An accounting record comes after an execution with valid evidence. -/
theorem Scoped.completed {op : ApplicationOp} (h : Scoped request past op)
    (hrecord : op.accountingRecord = true) : ∃ route attemptId evidence,
      Completed request past route attemptId evidence ∧
        evidence.ValidFor route.providerAccountId := by
  cases op with
  | recordQuotaSnapshot snapshot =>
    rcases h with ⟨route, attemptId, evidence, hcompleted, hvalid, -⟩
    exact ⟨route, attemptId, evidence, hcompleted, hvalid⟩
  | recordBillingRecord record =>
    rcases h with ⟨route, attemptId, evidence, -, hcompleted, hvalid, -⟩
    exact ⟨route, attemptId, evidence, hcompleted, hvalid⟩
  | _ => cases hrecord

/-- No other execution of the history was complete. -/
theorem Completed.only (h : Completed request past route attemptId evidence)
    {route' : RouteCandidate} {asked : InferenceRequest} {credential : String} {response : Json}
    {evidence' : ProviderAuthoritativeEvidence}
    (hmem : (⟨.execute route' asked credential, .ok (.complete response (some evidence'))⟩ :
      Event (application Body)) ∈ past) : route' = route ∧ evidence' = evidence := by
  rcases h with ⟨before, credential', response', after, rfl, hfailed, hsettle, -⟩
  rcases List.mem_append.mp hmem with hbefore | hhere
  · exact absurd hbefore (not_mem_of_allFailed hfailed)
  · rcases List.mem_cons.mp hhere with hsame | hafter
    · cases hsame
      exact ⟨rfl, rfl⟩
    · rcases List.mem_cons.mp hafter with hsame | hafter
      · cases hsame
      · have hsettles := hsettle _ hafter
        cases hsettles

theorem Completed.not_allFailed (h : Completed request past route attemptId evidence)
    (later : History Body) : ¬ History.AllFailed (past ++ later) := by
  rcases h with ⟨before, credential, response, after, rfl, -⟩
  intro hfailed
  have hmem : (⟨.execute route request credential, .ok (.complete response (some evidence))⟩ :
      Event (application Body)) ∈ before ++
        ⟨.execute route request credential, .ok (.complete response (some evidence))⟩ ::
          ⟨.newAttemptId, attemptId⟩ :: after ++ later := by simp
  exact not_mem_of_allFailed hfailed hmem

/-- A run with an accounting record has one complete execution, the one of valid evidence. -/
theorem validFor_of_recorded {run past later : History Body} {event : Event (application Body)}
    (hbelongs : ∀ past event later, run = past ++ event :: later → Scoped request past event.op)
    (hsplit : run = past ++ event :: later) (hrecord : event.op.accountingRecord = true)
    {asked : InferenceRequest} {credential : String} {response : Json}
    (hexecuted : (⟨.execute route asked credential, .ok (.complete response (some evidence))⟩ :
      Event (application Body)) ∈ run) : evidence.ValidFor route.providerAccountId := by
  rcases (hbelongs past event later hsplit).completed hrecord with
    ⟨route', attemptId, evidence', hcompleted, hvalid⟩
  rw [hsplit] at hexecuted
  rcases List.mem_append.mp hexecuted with hpast | hlater
  · rcases hcompleted.only hpast with ⟨rfl, rfl⟩
    exact hvalid
  · rcases List.mem_cons.mp hlater with hsame | hlater
    · rw [← hsame] at hrecord
      cases hrecord
    · -- a later execution would come after a successful one
      rcases List.append_of_mem hlater with ⟨between, rest, rfl⟩
      have hfailed := hbelongs (past ++ event :: between) _ rest (by
        rw [hsplit, List.append_assoc, List.cons_append])
      exact absurd hfailed (hcompleted.not_allFailed _)

theorem scopedRun_of_path {gateway : Gateway} {rawKey : String} {run : History Body}
    {rest : UseCase Body (InferenceResult Body Chunk)}
    (hpath : Path (S := application Body) (gateway.infer rawKey request) run rest) :
    ScopedRun request run := by
  have hbelongs : ∀ past event later, run = past ++ event :: later →
      Scoped request past event.op := by
    intro past event later hsplit
    have hbefore := (always_infer gateway rawKey).before hpath hsplit
    rwa [List.nil_append] at hbefore
  refine ⟨hbelongs, ?_⟩
  intro route asked credential response evidence hexecuted hinvalid event hevent
  by_contra hrecord
  rw [Bool.not_eq_false] at hrecord
  obtain ⟨past, later, hsplit⟩ := List.append_of_mem hevent
  exact hinvalid (validFor_of_recorded hbelongs hsplit hrecord hexecuted)

end Scoped

/-- Runs of `infer` that differ in the evidence of executions, in whether there is an accounting
repository and in what it answers return the same and make the same calls to everything else;
and in every run what is handed to the accounting repository belongs to the account that was
executed, all parts of its evidence being valid. -/
theorem accounting_inert_and_scoped {σ τ : Type} {Sim : σ → τ → Prop}
    {first : (op : ApplicationOp) → σ → op.Answer Body × σ}
    {second : (op : ApplicationOp) → τ → op.Answer Body × τ}
    (hdiffer : DifferInAccounting Sim first second) {s : σ} {t : τ} (hst : Sim s t)
    (gateway : Gateway) (accounting : Bool) (rawKey : String) (request : InferenceRequest) :
    ((gateway.infer rawKey request : UseCase Body (InferenceResult Body Chunk)).run first s).1 =
        ((({ gateway with accounting }).infer rawKey request :
          UseCase Body (InferenceResult Body Chunk)).run second t).1 ∧
      observed ApplicationOp.accounts
          ((gateway.infer rawKey request : UseCase Body (InferenceResult Body Chunk)).trace first s) =
        observed ApplicationOp.accounts ((({ gateway with accounting }).infer rawKey request :
          UseCase Body (InferenceResult Body Chunk)).trace second t) ∧
      ∀ (run : History Body) (rest : UseCase Body (InferenceResult Body Chunk)),
        Path (gateway.infer rawKey request) run rest → ScopedRun request run := by
  have halike : InertAccounting
      (gateway.infer rawKey request : UseCase Body (InferenceResult Body Chunk))
      (({ gateway with accounting }).infer rawKey request) :=
    alikeBut_infer gateway accounting request rawKey
  obtain ⟨hresult, -, hcalls⟩ := halike.run hdiffer hst
  refine ⟨hresult, hcalls, ?_⟩
  intro run rest hpath
  exact scopedRun_of_path hpath

/-! ## Evidence of one provider -/

/-- Requests used, as the provider of `onlyRoute` reports it. -/
def requestsUsed : ProviderAuthoritativeEvidence where
  quotaSnapshots :=
    [{ snapshotId := "snapshot"
       providerAccountId := ControlPlane.onlyRoute.providerAccountId
       constraintId := "requests"
       unit := { kind := .requests, currencyCode := none, customName := none }
       allowance := none
       consumed := some { unscaled := 1, scale := 0 }
       remaining := none
       resetAtUnix := none
       observedAtUnix := 0
       freshUntilUnix := 0
       source := { sourceId := "response", evidenceVersion := none } }]
  billing := none

/-- Everything works but for accounting, which answers `written`; the provider's response has
the evidence. -/
def answering (evidence : Option ProviderAuthoritativeEvidence) (written : Except String Unit) :
    (op : ApplicationOp) → Unit → op.Answer Unit × Unit := fun op s =>
  match op with
  | .configuration (.authenticate _) => (.ok true, s)
  | .configuration (.candidates _) => (.ok [ControlPlane.onlyRoute], s)
  | .configuration (.recordAttempt _) => (.ok (), s)
  | .configuration (.markRouteSuccess _) => (.ok (), s)
  | .configuration (.markRouteFailure _ _) => (.ok (), s)
  | .configuration (.markAccountFailure _ _) => (.ok (), s)
  | .resolve _ => (.ok "credential", s)
  | .execute _ _ _ => (.ok (.complete .null evidence), s)
  | .newAttemptId => (.least, s)
  | .appendAttempt _ => (.ok (), s)
  | .recordQuotaSnapshot _ => (written, s)
  | .recordBillingRecord _ => (written, s)
  | .unixTime => (none, s)

theorem differInAccounting_answering (evidence evidence' : Option ProviderAuthoritativeEvidence)
    (written written' : Except String Unit) :
    DifferInAccounting (fun _ _ => True) (answering evidence written)
      (answering evidence' written') where
  answers := by
    intro op s t _ _
    cases op with
    | configuration op => cases op <;> rfl
    | execute route request credential => exact .complete .null evidence evidence'
    | recordQuotaSnapshot snapshot => cases ‹_›
    | recordBillingRecord record => cases ‹_›
    | _ => rfl
  after _ _ _ _ _ := trivial
  left _ _ _ _ _ := trivial
  right _ _ _ _ _ := trivial

/-- The snapshot is recorded where there is an accounting repository, and nothing else differs
from a run without evidence and without one. -/
theorem requests_used_recorded :
    (((Gateway.infer ⟨false, true⟩ "key" ⟨"request", "model", false⟩ :
        UseCase Unit (InferenceResult Unit Unit)).trace (answering (some requestsUsed)
          (.error "unavailable")) ()).map fun event => event.op.accountingRecord) =
        [false, false, false, false, false, false, false, true] ∧
      ((Gateway.infer ⟨false, true⟩ "key" ⟨"request", "model", false⟩ :
        UseCase Unit (InferenceResult Unit Unit)).run (answering (some requestsUsed)
          (.error "unavailable")) ()).1 =
        ((Gateway.infer ⟨false, false⟩ "key" ⟨"request", "model", false⟩ :
          UseCase Unit (InferenceResult Unit Unit)).run (answering none (.ok ())) ()).1 ∧
      ScopedRun ⟨"request", "model", false⟩
        ((Gateway.infer ⟨false, true⟩ "key" ⟨"request", "model", false⟩ :
          UseCase Unit (InferenceResult Unit Unit)).trace (answering (some requestsUsed)
            (.error "unavailable")) ()) := by
  have hdiffer :=
    differInAccounting_answering (some requestsUsed) none (.error "unavailable") (.ok ())
  have h := @accounting_inert_and_scoped Unit Unit Unit Unit _ _ _ hdiffer () () trivial
    ⟨false, true⟩ false "key" ⟨"request", "model", false⟩
  refine ⟨?_, h.1, h.2.2 _ _ (path_trace _ _ _)⟩
  decide +kernel

end SmartGateway
