import Mathlib.Data.List.Forall2
import SmartGateway.Application.Gateway

/-! # The audit of a run

What the calls of `infer` show about its attempts, whatever the environment answers: which
candidates were handed to the executor, and which record each invocation has.
-/

namespace SmartGateway

/-- The calls made so far, with their answers. -/
abbrev History (Body : Type) := List (Event (application Body))

/-- A call of the executor that was answered. -/
structure Invocation (Body : Type) where
  route : RouteCandidate
  credential : String
  result : Except ProviderFailure (InferenceExecution Body)

/-- The marks of route and account health. -/
def RepositoryOp.isMark : RepositoryOp → Bool
  | .markRouteSuccess _ | .markRouteFailure _ _ | .markAccountFailure _ _ => true
  | _ => false

namespace History

variable {Body : Type}

/-! ## What a call shows -/

def resolution : Event (application Body) → Option (CredentialReference × Except String String)
  | ⟨.resolve reference, answer⟩ => some (reference, answer)
  | _ => none

def invocation : Event (application Body) → Option (Invocation Body)
  | ⟨.execute route _ credential, result⟩ => some { route, credential, result }
  | _ => none

/-- The record that the repository or the spool took. -/
def accepted : Event (application Body) → Option AttemptRecord
  | ⟨.configuration (.recordAttempt record), .ok _⟩ => some record
  | ⟨.appendAttempt record, .ok _⟩ => some record
  | _ => none

/-- The identity that was generated. -/
def generated : Event (application Body) → Option AttemptId
  | ⟨.newAttemptId, attemptId⟩ => some attemptId
  | _ => none

/-- A record or a mark that failed: the spool did not take a record, or the repository did not
and there is no spool, or the repository did not take a mark. -/
def Refusal (usageSpool : Bool) : Event (application Body) → Prop
  | ⟨.configuration (.recordAttempt _), .error _⟩ => usageSpool = false
  | ⟨.appendAttempt _, .error _⟩ => True
  | ⟨.configuration (.markRouteSuccess _), .error _⟩ => True
  | ⟨.configuration (.markRouteFailure _ _), .error _⟩ => True
  | ⟨.configuration (.markAccountFailure _ _), .error _⟩ => True
  | _ => False

/-! ## The law -/

/-- A candidate whose credential resolved, with the credential. -/
def resolved : RouteCandidate × Except String String → Option (RouteCandidate × String)
  | (route, .ok credential) => some (route, credential)
  | (_, .error _) => none

/-- The first candidates of a plan were asked for in order, with `answers`; those with a
credential were handed to the executor, in the same order, and no others. -/
def Tried (plan : List RouteCandidate) (answers : List (Except String String))
    (past : History Body) : Prop :=
  past.filterMap resolution =
      (plan.zip answers).map (fun tried => (tried.1.credentialRef, tried.2)) ∧
    (past.filterMap invocation).map (fun invoked => (invoked.route, invoked.credential)) =
      (plan.zip answers).filterMap resolved

/-- The outcome an invocation is recorded with before the response is handed out. -/
def outcomeOf : Except ProviderFailure (InferenceExecution Body) → AttemptOutcome
  | .error _ => .failed
  | .ok (.complete _ _) => .succeeded
  | .ok (.streaming _) => .committed

/-- A record of an invocation. -/
def Accounts (request : InferenceRequest) (invoked : Invocation Body) (record : AttemptRecord) :
    Prop :=
  record.requestId = request.requestId ∧ record.routeId = invoked.route.routeId ∧
    record.outcome = outcomeOf invoked.result

/-- Every invocation has exactly one record that was taken, with an identity generated for
it. -/
def Audited (request : InferenceRequest) (past : History Body) : Prop :=
  List.Forall₂ (Accounts request) (past.filterMap invocation) (past.filterMap accepted) ∧
    (past.filterMap accepted).map (fun record => record.attemptId) = past.filterMap generated

/-- No record and no mark failed. -/
def Clean (usageSpool : Bool) (past : History Body) : Prop :=
  ∀ event ∈ past, ¬Refusal usageSpool event

/-- Every invocation failed. -/
def AllFailed (past : History Body) : Prop :=
  ∀ invoked ∈ past.filterMap invocation, ∃ failure, invoked.result = .error failure

/-- An invocation may happen: it is the one of the next candidate, whose credential just
resolved, and everything before it failed and is accounted for. -/
def Ready (gateway : Gateway) (request : InferenceRequest) (plan : List RouteCandidate)
    (past : History Body) (op : ApplicationOp) : Prop :=
  ∀ route asked credential, op = .execute route asked credential → asked = request ∧
    ∃ answers before, past = before ++ [⟨.resolve route.credentialRef, .ok credential⟩] ∧
      plan[answers.length]? = some route ∧ Tried plan answers before ∧
      Audited request before ∧ AllFailed before ∧ Clean gateway.usageSpool before

/-- A response is the one of an execution. -/
def Responds {Chunk : Type} :
    InferenceExecution Body → InferenceResponse Body Chunk → Prop
  | .complete response _, .complete answered => answered = response
  | .streaming body, .streaming stream => stream.upstream = body
  | _, _ => False

/-- How a run ends: with the response of its only successful invocation, or without one, after
a record or a mark that failed or after every candidate. -/
def Concluded {Chunk : Type} (gateway : Gateway) (request : InferenceRequest)
    (plan : List RouteCandidate) (past : History Body) : InferenceResult Body Chunk → Prop
  | .ok response =>
    Audited request past ∧ Clean gateway.usageSpool past ∧
      (∃ answers, answers.length ≤ plan.length ∧ Tried plan answers past) ∧
      ∃ earlier last execution, past.filterMap invocation = earlier ++ [last] ∧
        (∀ invoked ∈ earlier, ∃ failure, invoked.result = .error failure) ∧
        last.result = .ok execution ∧ Responds execution response
  | .error _ =>
    (∃ event ∈ past, Refusal gateway.usageSpool event) ∨
      (Audited request past ∧ AllFailed past ∧
        ∃ answers, answers.length = plan.length ∧ Tried plan answers past)

/-! ## What a part of a run adds -/

/-- Some calls that neither resolve nor invoke were made, and none of them failed; they took
`records`, and generated `ids`. -/
structure Adds (usageSpool : Bool) (past past' : History Body) (records : List AttemptRecord)
    (ids : List AttemptId) : Prop where
  resolutions : past'.filterMap resolution = past.filterMap resolution
  invocations : past'.filterMap invocation = past.filterMap invocation
  accepted : past'.filterMap accepted = past.filterMap accepted ++ records
  generated : past'.filterMap generated = past.filterMap generated ++ ids
  clean : Clean usageSpool past → Clean usageSpool past'

section Adds

variable {usageSpool : Bool} {past past' past'' : History Body} {records records' : List AttemptRecord}
  {ids ids' : List AttemptId}

theorem Adds.refl (usageSpool : Bool) (past : History Body) : Adds usageSpool past past [] [] where
  resolutions := rfl
  invocations := rfl
  accepted := (List.append_nil _).symm
  generated := (List.append_nil _).symm
  clean := id

theorem Adds.trans (h : Adds usageSpool past past' records ids)
    (h' : Adds usageSpool past' past'' records' ids') :
    Adds usageSpool past past'' (records ++ records') (ids ++ ids') where
  resolutions := h'.resolutions.trans h.resolutions
  invocations := h'.invocations.trans h.invocations
  accepted := by rw [h'.accepted, h.accepted, List.append_assoc]
  generated := by rw [h'.generated, h.generated, List.append_assoc]
  clean hpast := h'.clean (h.clean hpast)

/-- One more call. -/
theorem Adds.call (event : Event (application Body)) (hresolution : resolution event = none)
    (hinvocation : invocation event = none) (hclean : ¬Refusal usageSpool event) :
    Adds usageSpool past (past ++ [event]) (History.accepted event).toList
      (History.generated event).toList where
  resolutions := by rw [Event.filterMap_snoc, hresolution, Option.toList_none, List.append_nil]
  invocations := by rw [Event.filterMap_snoc, hinvocation, Option.toList_none, List.append_nil]
  accepted := Event.filterMap_snoc _ past event
  generated := Event.filterMap_snoc _ past event
  clean hpast := by
    intro event' hmem
    rcases List.mem_append.mp hmem with hmem | hmem
    · exact hpast event' hmem
    · rw [List.mem_singleton.mp hmem]
      exact hclean

end Adds

/-- What a fallible part of a run does: if it succeeds a record is taken, with an identity
generated for it; else something failed. -/
def Records {ε α : Type} (usageSpool : Bool) (past : History Body)
    (record : AttemptId → AttemptRecord) (past' : History Body) : Except ε α → Prop
  | .ok _ => ∃ attemptId, Adds usageSpool past past' [record attemptId] [attemptId]
  | .error _ => ∃ event ∈ past', Refusal usageSpool event

/-- A fallible part of a run that generates no identity. -/
def Takes {ε α : Type} (usageSpool : Bool) (past : History Body) (records : List AttemptRecord)
    (past' : History Body) : Except ε α → Prop
  | .ok _ => Adds usageSpool past past' records []
  | .error _ => ∃ event ∈ past', Refusal usageSpool event

section Parts

variable {gateway : Gateway} {request : InferenceRequest} {plan : List RouteCandidate}
  {past : History Body}

/-- The rule of a call. -/
theorem always_ask {α : Type} {P : History Body → ApplicationOp → Prop}
    {Q : History Body → α → Prop} {op : ApplicationOp} {next : op.Answer Body → UseCase Body α}
    (hop : P past op)
    (hnext : ∀ answer, Program.Always P Q (past ++ [⟨op, answer⟩]) (next answer)) :
    Program.Always P Q past ((ask op).bind next) :=
  ⟨hop, hnext⟩

theorem always_persisting {α : Type} (record : AttemptRecord) (taken refused unspooled : α) :
    Program.Always (Ready gateway request plan)
      (fun past' result =>
        (result = taken ∧ Adds gateway.usageSpool past past' [record] []) ∨
          ((result = refused ∨ result = unspooled) ∧
            ∃ event ∈ past', Refusal gateway.usageSpool event))
      past (persisting gateway.usageSpool record taken refused unspooled) := by
  refine always_ask nofun fun answer => ?_
  rcases answer with error | value
  · simp only [Except.isOk, Except.toBool, Bool.false_eq_true, if_false]
    by_cases hspool : gateway.usageSpool = true
    · rw [if_pos hspool]
      have hfirst : Adds gateway.usageSpool past
          (past ++ [⟨.configuration (.recordAttempt record), .error error⟩]) [] [] := by
        refine Adds.call _ rfl rfl ?_
        change ¬gateway.usageSpool = false
        rw [hspool]
        exact nofun
      refine always_ask nofun fun spooled => ?_
      rcases spooled with error' | value
      · exact Or.inr ⟨Or.inl rfl, _, List.mem_append_right _ List.mem_cons_self, trivial⟩
      · exact Or.inl ⟨rfl, hfirst.trans (Adds.call _ rfl rfl id)⟩
    · rw [if_neg hspool]
      refine Or.inr ⟨Or.inr rfl, _, List.mem_append_right _ List.mem_cons_self, ?_⟩
      exact Bool.eq_false_iff.mpr hspool
  · exact Or.inl ⟨rfl, Adds.call _ rfl rfl id⟩

/-- A mark either adds nothing to the records, or has failed. -/
theorem marks_call {op : RepositoryOp} (hop : op.isMark = true)
    (answer : Except String op.Output) :
    Takes gateway.usageSpool past [] (past ++ [⟨.configuration op, answer⟩])
      (Gateway.configure answer) := by
  rcases answer with error | value
  · refine ⟨_, List.mem_append_right _ List.mem_cons_self, ?_⟩
    cases op with
    | markRouteSuccess routeId => trivial
    | markRouteFailure routeId failure => trivial
    | markAccountFailure accountId failure => trivial
    | _ => cases hop
  · cases op with
    | markRouteSuccess routeId => exact Adds.call _ rfl rfl id
    | markRouteFailure routeId failure => exact Adds.call _ rfl rfl id
    | markAccountFailure accountId failure => exact Adds.call _ rfl rfl id
    | _ => cases hop

theorem always_requireIf (condition : Bool) {op : RepositoryOp} (hop : op.isMark = true) :
    Program.Always (Ready gateway request plan) (Takes gateway.usageSpool past []) past
      (Gateway.requireIf condition op : UseCase Body _) := by
  unfold Gateway.requireIf
  split
  · refine always_ask nofun fun answer => ?_
    have hmarks : Takes gateway.usageSpool past [] (past ++ [⟨.configuration op, answer⟩])
        (Gateway.configure answer) := marks_call hop answer
    rcases hanswer : Gateway.configure answer with error | value <;> rw [hanswer] at hmarks
    · exact hmarks
    · exact hmarks
  · exact Adds.refl _ _

theorem always_persistAttempt (past : History Body) (record : AttemptRecord) :
    Program.Always (Ready gateway request plan) (Takes gateway.usageSpool past [record]) past
      (gateway.persistAttempt record) := by
  rw [Gateway.persistAttempt_eq]
  refine (always_persisting record _ _ _).mono (fun _ _ h => h) fun past' result hresult => ?_
  rcases hresult with ⟨rfl, hadds⟩ | ⟨rfl | rfl, hrefused⟩
  · exact hadds
  · exact hrefused
  · exact hrefused

theorem adds_newAttemptId (usageSpool : Bool) (past : History Body) (attemptId : AttemptId) :
    Adds usageSpool past (past ++ [⟨.newAttemptId, attemptId⟩]) [] [attemptId] :=
  Adds.call _ rfl rfl id

theorem always_handlePreCommitFailure (past : History Body) (route : RouteCandidate)
    (failure : ProviderFailure) :
    Program.Always (Ready gateway request plan)
      (Records gateway.usageSpool past (Gateway.failedRecord request route failure)) past
      (gateway.handlePreCommitFailure request route failure) := by
  refine always_ask nofun fun attemptId => ?_
  have hgenerated := adds_newAttemptId gateway.usageSpool past attemptId
  refine (always_persistAttempt _ _).andThen (fun past₁ _ hrecorded => ?_)
    (fun _ _ hrefused => hrefused)
  refine (always_requireIf _ rfl).andThen (fun past₂ _ hblocked => ?_)
    (fun _ _ hrefused => hrefused)
  refine (always_requireIf _ rfl).mono (fun _ _ h => h) fun past₃ result hopened => ?_
  rcases result with error | value
  · exact hopened
  · exact ⟨attemptId, ((hgenerated.trans hrecorded).trans hblocked).trans hopened⟩

/-! ## A successful execution -/

theorem always_recordQuotaSnapshots (past : History Body)
    (snapshots : List ProviderQuotaSnapshot) :
    Program.Always (Ready gateway request plan)
      (fun past' _ => Adds gateway.usageSpool past past' [] []) past
      (Gateway.recordQuotaSnapshots snapshots) := by
  induction snapshots generalizing past with
  | nil => exact Adds.refl _ _
  | cons snapshot snapshots ih =>
    refine always_ask nofun fun answer => ?_
    have hcall : Adds gateway.usageSpool past
        (past ++ [⟨.recordQuotaSnapshot snapshot, answer⟩]) [] [] := Adds.call _ rfl rfl id
    exact (ih _).mono (fun _ _ h => h) fun _ _ hrest => hcall.trans hrest

/-- What the provider reported is stored aside of the records. -/
theorem always_persistAuthoritativeEvidence (past : History Body) (accountId : String)
    (attemptId : AttemptId) (evidence : ProviderAuthoritativeEvidence) :
    Program.Always (Ready gateway request plan)
      (fun past' _ => Adds gateway.usageSpool past past' [] []) past
      (gateway.persistAuthoritativeEvidence accountId attemptId evidence) := by
  unfold Gateway.persistAuthoritativeEvidence
  split
  · exact Adds.refl _ _
  · split
    · exact Adds.refl _ _
    · refine (always_recordQuotaSnapshots past _).bind fun past₁ _ hsnapshots => ?_
      cases evidence.billing with
      | none => exact hsnapshots
      | some billing =>
        refine always_ask nofun fun seconds => always_ask nofun fun answer => ?_
        have hclock : Adds gateway.usageSpool past₁ (past₁ ++ [⟨.unixTime, seconds⟩]) [] [] :=
          Adds.call _ rfl rfl id
        exact (hsnapshots.trans hclock).trans (Adds.call _ rfl rfl id)

/-- What handing out a response does: the record of the invocation is taken, and the response
is the one of the execution; else something failed. -/
def HandsOut {Chunk : Type} (usageSpool : Bool) (past : History Body)
    (execution : InferenceExecution Body) (record : AttemptId → AttemptRecord)
    (past' : History Body) : InferenceResult Body Chunk → Prop
  | .ok response => Responds execution response ∧
    ∃ attemptId, Adds usageSpool past past' [record attemptId] [attemptId]
  | .error _ => ∃ event ∈ past', Refusal usageSpool event

/-- The record of an execution. -/
def executedRecord (request : InferenceRequest) (route : RouteCandidate)
    (execution : InferenceExecution Body) (attemptId : AttemptId) : AttemptRecord :=
  { attemptId
    requestId := request.requestId
    routeId := route.routeId
    outcome := outcomeOf (.ok execution)
    failureCategory := none }

theorem always_handleExecution {Chunk : Type} (past : History Body) (route : RouteCandidate)
    (execution : InferenceExecution Body) :
    Program.Always (Ready gateway request plan)
      (HandsOut gateway.usageSpool past execution (executedRecord request route execution)) past
      (gateway.handleExecution request route execution :
        UseCase Body (InferenceResult Body Chunk)) := by
  refine always_ask nofun fun attemptId => ?_
  have hgenerated := adds_newAttemptId gateway.usageSpool past attemptId
  cases execution with
  -- The record, the mark and, with evidence, the snapshots of the quota.
  | complete response evidence =>
    refine (always_persistAttempt _ _).andThen (fun past₁ _ hrecorded => ?_)
      (fun _ _ hrefused => hrefused)
    refine always_ask nofun fun marked => ?_
    have hmarks : Takes gateway.usageSpool past₁ []
        (past₁ ++ [⟨.configuration (.markRouteSuccess route.routeId), marked⟩])
        (Gateway.configure marked) := marks_call rfl marked
    rcases hmarked : Gateway.configure marked with error | value <;> rw [hmarked] at hmarks
    · exact hmarks
    · have hadds := (hgenerated.trans hrecorded).trans hmarks
      cases evidence with
      | none => exact ⟨rfl, attemptId, hadds⟩
      | some evidence =>
        exact (always_persistAuthoritativeEvidence _ _ _ _).bind fun past₂ _ hstored =>
          ⟨rfl, attemptId, hadds.trans hstored⟩
  -- Only the start of the attempt is recorded here; the stream records its end.
  | streaming body =>
    dsimp only
    rw [StreamAttempt.persist_eq]
    refine (always_persisting _ _ _ _).bind fun past₁ persisted hpersisted => ?_
    rcases hpersisted with ⟨rfl, hadds⟩ | ⟨rfl | rfl, hrefused⟩
    · exact ⟨rfl, attemptId, hgenerated.trans hadds⟩
    · exact hrefused
    · exact hrefused

end Parts

/-! ## The loop -/

section Loop

variable {gateway : Gateway} {request : InferenceRequest} {plan : List RouteCandidate}
  {past : History Body}

/-- The candidates asked for so far were tried in order, and everything is accounted for. -/
structure Tries (gateway : Gateway) (request : InferenceRequest) (plan : List RouteCandidate)
    (answers : List (Except String String)) (past : History Body) : Prop where
  tried : Tried plan answers past
  audited : Audited request past
  failed : AllFailed past
  clean : Clean gateway.usageSpool past

theorem zip_snoc {α β : Type} {xs : List α} {ys : List β} {x : α} (h : xs[ys.length]? = some x)
    (y : β) : xs.zip (ys ++ [y]) = xs.zip ys ++ [(x, y)] := by
  induction ys generalizing xs with
  | nil =>
    rcases xs with _ | ⟨x', xs⟩
    · cases h
    · cases h
      simp
  | cons y' ys ih =>
    rcases xs with _ | ⟨x', xs⟩
    · cases h
    · rw [List.cons_append, List.zip_cons_cons, List.zip_cons_cons, ih h]
      rfl

theorem Tried.snoc {answers : List (Except String String)} {answer : Except String String}
    {route : RouteCandidate} {past' : History Body} (h : Tried plan answers past)
    (hroute : plan[answers.length]? = some route)
    (hresolution : past'.filterMap resolution =
      past.filterMap resolution ++ [(route.credentialRef, answer)])
    (hinvocation : (past'.filterMap invocation).map
        (fun invoked => (invoked.route, invoked.credential)) =
      (past.filterMap invocation).map (fun invoked => (invoked.route, invoked.credential)) ++
        (resolved (route, answer)).toList) :
    Tried plan (answers ++ [answer]) past' := by
  constructor
  · rw [hresolution, h.1, zip_snoc hroute, List.map_append]
    rfl
  · rw [hinvocation, h.2, zip_snoc hroute, List.filterMap_append, List.filterMap_cons]
    cases resolved (route, answer) <;> rfl

theorem Audited.snoc {invoked : Invocation Body} {record : AttemptRecord} {past' : History Body}
    (h : Audited request past)
    (hinvocation : past'.filterMap invocation = past.filterMap invocation ++ [invoked])
    (haccepted : past'.filterMap accepted = past.filterMap accepted ++ [record])
    (hgenerated : past'.filterMap generated = past.filterMap generated ++ [record.attemptId])
    (haccounts : Accounts request invoked record) : Audited request past' := by
  constructor
  · rw [hinvocation, haccepted]
    exact List.rel_append h.1 (.cons haccounts .nil)
  · rw [haccepted, hgenerated, List.map_append, h.2]
    rfl

/-- The history once a candidate's credential was asked for. -/
def resolve (past : History Body) (route : RouteCandidate) (answer : Except String String) :
    History Body :=
  past ++ [⟨.resolve route.credentialRef, answer⟩]

theorem filterMap_resolve {α : Type} (view : Event (application Body) → Option α)
    (past : History Body) (route : RouteCandidate) (answer : Except String String) :
    (past.resolve route answer).filterMap view =
      past.filterMap view ++ (view ⟨.resolve route.credentialRef, answer⟩).toList :=
  Event.filterMap_snoc view past _

theorem clean_resolve {usageSpool : Bool} (h : Clean usageSpool past) (route : RouteCandidate)
    (answer : Except String String) : Clean usageSpool (past.resolve route answer) := by
  intro event hmem
  rcases List.mem_append.mp hmem with hmem | hmem
  · exact h event hmem
  · rw [List.mem_singleton.mp hmem]
    exact id

/-- A candidate whose credential does not resolve is passed over. -/
theorem Tries.unresolved {answers : List (Except String String)} {route : RouteCandidate}
    (h : Tries gateway request plan answers past) (hroute : plan[answers.length]? = some route)
    (error : String) :
    Tries gateway request plan (answers ++ [.error error])
      (past.resolve route (.error error)) := by
  have hinvocation := filterMap_resolve invocation past route (.error error)
  have haccepted := filterMap_resolve accepted past route (.error error)
  have hgenerated := filterMap_resolve generated past route (.error error)
  simp only [invocation, accepted, generated, Option.toList_none, List.append_nil]
    at hinvocation haccepted hgenerated
  refine ⟨h.tried.snoc hroute (filterMap_resolve resolution _ _ _) ?_, ?_, ?_,
    clean_resolve h.clean _ _⟩
  · rw [hinvocation]
    exact (List.append_nil _).symm
  · rw [Audited, hinvocation, haccepted, hgenerated]
    exact h.audited
  · rw [AllFailed, hinvocation]
    exact h.failed

/-- The history once a candidate was handed to the executor. -/
def invoke (past : History Body) (route : RouteCandidate) (request : InferenceRequest)
    (credential : String) (result : Except ProviderFailure (InferenceExecution Body)) :
    History Body :=
  past.resolve route (.ok credential) ++ [⟨.execute route request credential, result⟩]

section Invoke

variable {answers : List (Except String String)} {route : RouteCandidate} {credential : String}
  {result : Except ProviderFailure (InferenceExecution Body)} {past' : History Body}
  {record : AttemptRecord} {attemptId : AttemptId}

theorem clean_invoke (h : Clean gateway.usageSpool past) :
    Clean gateway.usageSpool (past.invoke route request credential result) := by
  intro event hmem
  rcases List.mem_append.mp hmem with hmem | hmem
  · exact clean_resolve h route (.ok credential) event hmem
  · rw [List.mem_singleton.mp hmem]
    exact id

theorem filterMap_invoke {α : Type} (view : Event (application Body) → Option α) :
    (past.invoke route request credential result).filterMap view =
      past.filterMap view ++ (view ⟨.resolve route.credentialRef, .ok credential⟩).toList ++
        (view ⟨.execute route request credential, result⟩).toList := by
  rw [invoke, Event.filterMap_snoc, filterMap_resolve]

/-- An invocation whose record was taken is accounted for. -/
theorem audited_invoke (h : Tries gateway request plan answers past)
    (hroute : plan[answers.length]? = some route)
    (hadds : Adds gateway.usageSpool (past.invoke route request credential result) past'
      [record] [record.attemptId])
    (haccounts : Accounts request ⟨route, credential, result⟩ record) :
    Tried plan (answers ++ [.ok credential]) past' ∧ Audited request past' ∧
      Clean gateway.usageSpool past' ∧
      past'.filterMap invocation =
        past.filterMap invocation ++ [(⟨route, credential, result⟩ : Invocation Body)] := by
  have hresolution := hadds.resolutions.trans (filterMap_invoke resolution)
  have hinvocation := hadds.invocations.trans (filterMap_invoke invocation)
  have haccepted := hadds.accepted
  have hgenerated := hadds.generated
  rw [filterMap_invoke] at haccepted hgenerated
  simp only [resolution, invocation, accepted, generated, Option.toList_none, Option.toList_some,
    List.append_nil] at hresolution hinvocation haccepted hgenerated
  refine ⟨h.tried.snoc hroute hresolution ?_, h.audited.snoc hinvocation haccepted hgenerated
    haccounts, hadds.clean (clean_invoke h.clean), hinvocation⟩
  rw [hinvocation, List.map_append]
  rfl

end Invoke

/-- The loop from a history in which the candidates before `rest` were tried. -/
theorem always_tryCandidates {Chunk : Type} {rest : List RouteCandidate}
    {answers : List (Except String String)} {last : Option String}
    (hrest : plan.drop answers.length = rest) (hlength : answers.length ≤ plan.length)
    (h : Tries gateway request plan answers past) :
    Program.Always (Ready gateway request plan) (Concluded gateway request plan) past
      (gateway.tryCandidates request rest last :
        UseCase Body (InferenceResult Body Chunk)) := by
  induction rest generalizing answers past last with
  | nil =>
    have hend : plan.length ≤ answers.length := List.drop_eq_nil_iff.mp hrest
    exact Or.inr ⟨h.audited, h.failed, answers, Nat.le_antisymm hlength hend, h.tried⟩
  | cons route rest ih =>
    -- As many candidates were resolved as there are answers, so the next one is `route`.
    have hroute : plan[answers.length]? = some route := by
      rw [← List.head?_drop, hrest]
      rfl
    have hnext : ∀ answer : Except String String,
        plan.drop (answers ++ [answer]).length = rest ∧
          (answers ++ [answer]).length ≤ plan.length := by
      intro answer
      have hlt : answers.length < plan.length := (List.getElem?_eq_some_iff.mp hroute).1
      rw [List.length_append, List.length_singleton, ← List.drop_drop, hrest]
      exact ⟨rfl, hlt⟩
    refine always_ask nofun fun answer => ?_
    rcases answer with error | credential
    · exact ih (hnext _).1 (hnext _).2 (h.unresolved hroute error)
    · refine always_ask ?_ fun result => ?_
      · -- the one call that is an invocation
        rintro route' asked credential' hop
        cases hop
        exact ⟨rfl, answers, past, rfl, hroute, h.tried, h.audited, h.failed, h.clean⟩
      · rcases result with failure | execution
        · refine (always_handlePreCommitFailure _ route failure).andThen
            (fun past₁ _ hrecorded => ?_) (fun _ _ hrefused => Or.inl hrefused)
          rcases hrecorded with ⟨attemptId, hadds⟩
          -- The failure is on record before the loop goes on.
          have haccounted := audited_invoke h hroute hadds ⟨rfl, rfl, rfl⟩
          rcases haccounted with ⟨htried, haudited, hclean, hinvocation⟩
          refine ih (hnext _).1 (hnext _).2 ⟨htried, haudited, ?_, hclean⟩
          intro invoked hmem
          rw [hinvocation] at hmem
          rcases List.mem_append.mp hmem with hmem | hmem
          · exact h.failed invoked hmem
          · rw [List.mem_singleton.mp hmem]
            exact ⟨failure, rfl⟩
        · refine (always_handleExecution _ route execution).mono (fun _ _ h => h)
            fun past₁ result hresult => ?_
          rcases result with error | response
          · exact Or.inl hresult
          · rcases hresult with ⟨hresponds, attemptId, hadds⟩
            have haccounted := audited_invoke h hroute hadds ⟨rfl, rfl, rfl⟩
            rcases haccounted with ⟨htried, haudited, hclean, hinvocation⟩
            exact ⟨haudited, hclean, ⟨_, (hnext _).2, htried⟩, _, _, execution, hinvocation,
              h.failed, rfl, hresponds⟩

end Loop

/-! ## Runs of `infer` -/

/-- The history of a run that was let in and given a plan. -/
def opened (rawKey model : String) (plan : List RouteCandidate) (past : History Body) :
    History Body :=
  ⟨.configuration (.authenticate rawKey), .ok true⟩ ::
    ⟨.configuration (.candidates model), .ok plan⟩ :: past

section Opened

variable {rawKey model : String} {plan : List RouteCandidate} {past rest : History Body}

theorem opened_authenticated {answer : Except String Bool}
    (h : ⟨.configuration (.authenticate rawKey), answer⟩ :: rest =
      opened rawKey model plan past) :
    answer = .ok true ∧ rest = ⟨.configuration (.candidates model), .ok plan⟩ :: past := by
  rw [opened, List.cons.injEq, Event.mk.injEq] at h
  exact ⟨eq_of_heq h.1.2, h.2⟩

theorem opened_planned {answer : Except String (List RouteCandidate)}
    (h : (⟨.configuration (.candidates model), answer⟩ :: rest : History Body) =
      ⟨.configuration (.candidates model), .ok plan⟩ :: past) :
    answer = .ok plan ∧ rest = past := by
  rw [List.cons.injEq, Event.mk.injEq] at h
  exact ⟨eq_of_heq h.1.2, h.2⟩

/-- What holds of the history after the opening holds of every way to see one. -/
theorem opened_iff {own : History Body} {plan' : List RouteCandidate} :
    opened rawKey model plan [] ++ own = opened rawKey model plan' past ↔
      plan = plan' ∧ own = past := by
  constructor
  · intro h
    have hplanned := opened_planned (opened_authenticated h).2
    exact ⟨Except.ok.inj hplanned.1, hplanned.2⟩
  · rintro ⟨rfl, rfl⟩
    rfl

end Opened

end History

/-- Once authentication and the choice of candidates have succeeded, for every plan and whatever
is answered: an invocation happens only as the next one of the plan, when everything before it
failed and has its record; the response is that of the first successful invocation, which has
its record too; and a run that ends without one has tried every candidate, or a record or a
mark failed. -/
theorem infer_audited {Body Chunk : Type} (gateway : Gateway) (rawKey : String)
    (request : InferenceRequest) :
    Program.Always
      (fun past op => ∀ plan past', past = History.opened rawKey request.model plan past' →
        History.Ready gateway request plan past' op)
      (fun past result => ∀ plan past',
        past = History.opened rawKey request.model plan past' →
          History.Concluded gateway request plan past' result)
      [] (gateway.infer rawKey request : UseCase Body (InferenceResult Body Chunk)) := by
  refine History.always_ask (fun _ _ h => absurd h.symm (List.cons_ne_nil _ _))
    fun authenticated => ?_
  rcases authenticated with error | _ | _
  -- A history that opened has an accepted key and a plan, so the other answers are none.
  · intro plan past hpast
    cases (History.opened_authenticated hpast).1
  · intro plan past hpast
    cases (History.opened_authenticated hpast).1
  · refine History.always_ask ?_ fun candidates => ?_
    · intro plan past hpast
      cases (History.opened_authenticated hpast).2
    rcases candidates with error | plan
    · intro plan past hpast
      cases (History.opened_planned (History.opened_authenticated hpast).2).1
    · have hstart : History.Tries gateway request plan [] ([] : History Body) :=
        { tried := ⟨by simp, by simp⟩
          audited := ⟨.nil, rfl⟩
          failed := fun _ hmem => absurd hmem List.not_mem_nil
          clean := fun _ hmem => absurd hmem List.not_mem_nil }
      -- The loop starts with an empty history of its own, after the two opening calls.
      have hloop : Program.Always (History.Ready gateway request plan)
          (History.Concluded gateway request plan) []
          (gateway.tryCandidates request plan none : UseCase Body (InferenceResult Body Chunk)) :=
        History.always_tryCandidates rfl (Nat.zero_le _) hstart
      refine (hloop.shift (History.opened rawKey request.model plan [])).mono ?_ ?_
      · rintro past op ⟨own, hown, hready⟩ plan' past' hpast
        rcases History.opened_iff.mp (hown.symm.trans hpast) with ⟨rfl, rfl⟩
        exact hready
      · rintro past result ⟨own, hown, hconcluded⟩ plan' past' hpast
        rcases History.opened_iff.mp (hown.symm.trans hpast) with ⟨rfl, rfl⟩
        exact hconcluded

/-! ## A run with a fallback -/

namespace FallbackRun

open History

def gateway : Gateway := { usageSpool := true, accounting := true }

def request : InferenceRequest := { requestId := "request", model := "model", stream := false }

def route (routeId : String) (priority : Nat) : RouteCandidate where
  routeId := routeId
  logicalModel := "model"
  providerAccountId := "account"
  provider := "openai-compatible"
  credentialRef := .envKey
  baseUrl := "https://provider.test"
  upstreamModel := "upstream"
  priority := priority

def plan : List RouteCandidate := [route "first" 1, route "second" 2, route "third" 3]

def failure : ProviderFailure where
  category := .rateLimited
  message := "slow down"
  status := some 429
  retryAtUnix := none

def later : AttemptId := ⟨"20000000-0000-4000-8000-000000000000", by decide⟩

def succeeded : AttemptRecord := ⟨later, "request", "third", .succeeded, none⟩

/-- The first candidate fails and the second one has no credential. -/
def tried : History Unit :=
  [⟨.resolve .envKey, .ok "credential"⟩,
    ⟨.execute (route "first" 1) request "credential", .error failure⟩,
    ⟨.newAttemptId, .least⟩,
    ⟨.configuration (.recordAttempt
      (Gateway.failedRecord request (route "first" 1) failure .least)), .ok ()⟩,
    ⟨.configuration (.markRouteFailure "first" failure), .ok ()⟩,
    ⟨.resolve .envKey, .error "credential unavailable"⟩,
    ⟨.resolve .envKey, .ok "credential"⟩]

/-- The third candidate answers; only the spool takes its record. -/
def answered : History Unit :=
  [⟨.newAttemptId, later⟩,
    ⟨.configuration (.recordAttempt succeeded), .error "database is locked"⟩,
    ⟨.appendAttempt succeeded, .ok ()⟩,
    ⟨.configuration (.markRouteSuccess "third"), .ok ()⟩]

def executed : Event (application Unit) :=
  ⟨.execute (route "third" 3) request "credential", .ok (.complete .null none)⟩

def calls : History Unit := tried ++ executed :: answered

theorem path_calls : Program.Path
    (gateway.infer "key" request : UseCase Unit (InferenceResult Unit Unit))
    (opened "key" "model" plan calls) (.pure (.ok (.complete .null))) :=
  .head _ <| .head _ <| .head _ <| .head _ <| .head _ <| .head _ <| .head _ <| .head _ <| .head _ <|
    .head _ <| .head _ <| .head _ <| .head _ <| .head _ <| .refl _

/-- The third candidate is executed once the first execution has its record; in the end the second
one has its record too, in the spool, and the response is its own. -/
theorem fallback_audited :
    Program.Path (gateway.infer "key" request : UseCase Unit (InferenceResult Unit Unit))
      (opened "key" "model" plan calls) (.pure (.ok (.complete .null))) ∧
    Ready gateway request plan tried executed.op ∧
    Concluded gateway request plan calls (.ok (.complete .null) : InferenceResult Unit Unit) := by
  have haudited : Program.Always _ _ []
      (gateway.infer "key" request : UseCase Unit (InferenceResult Unit Unit)) :=
    infer_audited gateway "key" request
  refine ⟨path_calls, ?_, ?_⟩
  · exact haudited.before path_calls rfl plan tried rfl
  · exact haudited.path path_calls plan calls rfl

end FallbackRun

end SmartGateway
