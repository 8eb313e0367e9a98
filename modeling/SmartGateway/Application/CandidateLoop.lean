import SmartGateway.Application.FollowUp

/-! # The candidate loop

Which candidates a run of `infer` asks the resolver about and hands to the executor, as a
condition on what the environment answers: every candidate up to the first one that executes
or whose failure is not recorded and marked.
-/

namespace SmartGateway

/-! ## The environment of a run -/

/-- What the executor, the secret resolver, the repository and the spool answer: `behaviour 0`
before the loop, and `behaviour (j + 1)` while candidate `j` is tried. The loop makes no call
twice for one candidate, so the calls tell its answers apart. -/
abbrev Behaviour (Body : Type) := Nat → (op : ApplicationOp) → op.Answer Body

namespace Behaviour

variable {Body : Type}

/-- Answers a call; the state is the number of candidates asked about so far. -/
def handle (behaviour : Behaviour Body) : (op : ApplicationOp) → Nat → op.Answer Body × Nat
  | .resolve reference, asked => (behaviour (asked + 1) (.resolve reference), asked + 1)
  | op, asked => (behaviour asked op, asked)

theorem handle_resolve {behaviour : Behaviour Body} {reference : CredentialReference} {j : Nat}
    {answer : Except String String} (h : behaviour (j + 1) (.resolve reference) = answer) :
    behaviour.handle (.resolve reference) j = (answer, j + 1) := by
  rw [← h]
  rfl

theorem handle_execute {behaviour : Behaviour Body} {route : RouteCandidate}
    {request : InferenceRequest} {credential : String} {j : Nat}
    {answer : Except ProviderFailure (InferenceExecution Body)}
    (h : behaviour j (.execute route request credential) = answer) :
    behaviour.handle (.execute route request credential) j = (answer, j) := by
  rw [← h]
  rfl

/-- The credential of candidate `j` resolves. -/
def Resolves (behaviour : Behaviour Body) (j : Nat) (route : RouteCandidate)
    (credential : String) : Prop :=
  behaviour (j + 1) (.resolve route.credentialRef) = .ok credential

/-- The executor fails on candidate `j`. -/
def Fails (behaviour : Behaviour Body) (request : InferenceRequest) (j : Nat)
    (route : RouteCandidate) (failure : ProviderFailure) : Prop :=
  ∃ credential, behaviour.Resolves j route credential ∧
    behaviour (j + 1) (.execute route request credential) = .error failure

/-- The repository or the spool takes the record. -/
def Persists (behaviour : Behaviour Body) (gateway : Gateway) (j : Nat)
    (attempt : AttemptRecord) : Prop :=
  (behaviour (j + 1) (.configuration (.recordAttempt attempt))).isOk = true ∨
    gateway.usageSpool = true ∧ (behaviour (j + 1) (.appendAttempt attempt)).isOk = true

/-- The repository takes the call, if `condition` holds. -/
def Takes (behaviour : Behaviour Body) (condition : Bool) (j : Nat) (op : RepositoryOp) : Prop :=
  condition = true → (behaviour (j + 1) (.configuration op)).isOk = true

/-- The failure of candidate `j` is recorded and marked. -/
def Handles (behaviour : Behaviour Body) (gateway : Gateway) (request : InferenceRequest)
    (j : Nat) (route : RouteCandidate) (failure : ProviderFailure) : Prop :=
  behaviour.Persists gateway j
    (Gateway.failedRecord request route failure (behaviour (j + 1) .newAttemptId)) ∧
  behaviour.Takes failure.category.blocksAccount j
    (.markAccountFailure route.providerAccountId failure) ∧
  behaviour.Takes failure.category.opensRoute j (.markRouteFailure route.routeId failure)

/-- The loop goes on past candidate `j`: its credential does not resolve, or its failure is
handled. -/
def Passes (behaviour : Behaviour Body) (gateway : Gateway) (request : InferenceRequest)
    (j : Nat) (route : RouteCandidate) : Prop :=
  (∃ error, behaviour (j + 1) (.resolve route.credentialRef) = .error error) ∨
    ∃ failure, behaviour.Fails request j route failure ∧
      behaviour.Handles gateway request j route failure

end Behaviour

/-! ## Calls that leave the loop where it is -/

/-- Neither a resolution nor an execution. -/
def ApplicationOp.settles : ApplicationOp → Bool
  | .resolve _ | .execute _ _ _ => false
  | _ => true

/-- A program that neither resolves nor executes. -/
def Settling {Body α : Type} (p : UseCase Body α) : Prop :=
  p.Calls fun op : ApplicationOp => op.settles = true

section Settling

variable {Body α : Type}

/-- Following up on an attempt neither resolves nor executes. -/
theorem FollowsUp.settling {p : UseCase Body α} (hp : FollowsUp p) : Settling p := by
  refine Program.Calls.mono hp fun op hop => ?_
  cases op with
  | resolve reference => exact hop
  | execute route request credential => exact hop
  | _ => rfl

/-- Such a program leaves the number of candidates asked about as it is, and makes its calls
while the candidate last asked about is tried. -/
theorem Settling.keeps {p : UseCase Body α} (hp : Settling p) (behaviour : Behaviour Body)
    (asked : Nat) :
    (p.run behaviour.handle asked).2 = asked ∧
      ∀ x ∈ p.log behaviour.handle asked, x.1 = asked ∧ x.2.op.settles = true := by
  refine Program.Calls.preserves (I := fun n => n = asked) hp behaviour.handle ?_ rfl
  intro op n hop hn
  cases op with
  | resolve reference => cases hop
  | _ => exact hn

end Settling

namespace Gateway

variable {Body Chunk : Type}

/-! ## When the loop goes on -/

section Run

variable (behaviour : Behaviour Body)

theorem run_persistAttempt (gateway : Gateway) (attempt : AttemptRecord) (j : Nat) :
    ((gateway.persistAttempt attempt).run behaviour.handle (j + 1)).1 = .ok () ↔
      behaviour.Persists gateway j attempt := by
  unfold persistAttempt Behaviour.Persists
  rw [Program.run_perform_bind _ (r := behaviour (j + 1) (.configuration (.recordAttempt attempt)))
    (t := j + 1) rfl]
  rcases behaviour (j + 1) (.configuration (.recordAttempt attempt)) with error | value
  · by_cases hspool : gateway.usageSpool = true
    · dsimp only
      rw [if_pos hspool, Program.run_perform_bind _
        (r := behaviour (j + 1) (.appendAttempt attempt)) (t := j + 1) rfl]
      rcases behaviour (j + 1) (.appendAttempt attempt) with error | value
      · simp [Except.isOk, Except.toBool]
      · simp [Except.isOk, Except.toBool, hspool]
    · simp [Except.isOk, Except.toBool, hspool]
  · simp [Except.isOk, Except.toBool]

theorem run_requireIf (condition : Bool) (op : RepositoryOp) (j : Nat) :
    ((requireIf condition op).run behaviour.handle (j + 1)).1 = .ok () ↔
      behaviour.Takes condition j op := by
  unfold requireIf Behaviour.Takes
  by_cases hcondition : condition = true
  · rw [if_pos hcondition, Program.run_perform_bind _
      (r := behaviour (j + 1) (.configuration op)) (t := j + 1) rfl]
    rcases behaviour (j + 1) (.configuration op) with error | value
    · simp [configure, Except.isOk, Except.toBool, hcondition]
    · simp [configure, Except.isOk, Except.toBool]
  · simp [hcondition]

/-- A fallible program that settles is followed by the rest exactly when it succeeds. -/
theorem run_andThen_settling {α β : Type} {p : UseCase Body (Except ApplicationError α)}
    {f : α → UseCase Body (Except ApplicationError β)} (hp : Settling p) (j : Nat) :
    (p.andThen f).run behaviour.handle j =
      match (p.run behaviour.handle j).1 with
      | .ok value => (f value).run behaviour.handle j
      | .error error => (.error error, j) := by
  have hstays : (p.run behaviour.handle j).2 = j := (hp.keeps behaviour j).1
  unfold Program.andThen
  change (p >>= _).run behaviour.handle j = _
  rw [Program.run_bind, hstays]
  cases (p.run behaviour.handle j).1 <;> rfl

theorem log_andThen_settling {α β : Type} {p : UseCase Body (Except ApplicationError α)}
    {f : α → UseCase Body (Except ApplicationError β)} (hp : Settling p) (j : Nat) :
    (p.andThen f).log behaviour.handle j =
      p.log behaviour.handle j ++
        match (p.run behaviour.handle j).1 with
        | .ok value => (f value).log behaviour.handle j
        | .error _ => [] := by
  have hstays : (p.run behaviour.handle j).2 = j := (hp.keeps behaviour j).1
  unfold Program.andThen
  rw [Program.log_bind, hstays]
  cases (p.run behaviour.handle j).1 <;> rfl

theorem run_handlePreCommitFailure (gateway : Gateway) (request : InferenceRequest)
    (route : RouteCandidate) (failure : ProviderFailure) (j : Nat) :
    ((gateway.handlePreCommitFailure request route failure).run behaviour.handle (j + 1)).1 =
      .ok () ↔ behaviour.Handles gateway request j route failure := by
  unfold handlePreCommitFailure Behaviour.Handles
  rw [Program.run_perform_bind _ (r := behaviour (j + 1) .newAttemptId) (t := j + 1) rfl]
  set record := failedRecord request route failure (behaviour (j + 1) .newAttemptId)
  rw [← run_persistAttempt behaviour gateway record j,
    ← run_requireIf behaviour failure.category.blocksAccount, ← run_requireIf behaviour _ _ j]
  cases hrecord : ((gateway.persistAttempt record).run behaviour.handle (j + 1)).1 with
  | error error =>
    rw [run_andThen_settling behaviour (gateway.followsUp_persistAttempt record).settling, hrecord]
    simp
  | ok value =>
    rw [run_andThen_settling behaviour (gateway.followsUp_persistAttempt record).settling, hrecord]
    dsimp only
    cases haccount : ((requireIf failure.category.blocksAccount
        (.markAccountFailure route.providerAccountId failure)).run behaviour.handle (j + 1)).1 with
    | error error =>
      rw [run_andThen_settling behaviour (followsUp_requireIf _ rfl).settling, haccount]
      simp
    | ok value =>
      rw [run_andThen_settling behaviour (followsUp_requireIf _ rfl).settling, haccount]
      simp

end Run

/-! ## One candidate -/

section Loop

variable (gateway : Gateway) (request : InferenceRequest) (behaviour : Behaviour Body)

/-- The calls the loop makes for the candidates `plan`, when `asked` were asked about before. -/
def loopLog (Chunk : Type) (plan : List RouteCandidate) (lastFailure : Option String)
    (asked : Nat) : List (Nat × Event (application Body)) :=
  (gateway.tryCandidates request plan lastFailure :
    UseCase Body (InferenceResult Body Chunk)).log behaviour.handle asked

variable {C : Type} {gateway request behaviour} {plan : List RouteCandidate} {route : RouteCandidate}
  {last : Option String} {j : Nat}

theorem loopLog_unresolved {error : String}
    (h : behaviour (j + 1) (.resolve route.credentialRef) = .error error) :
    loopLog gateway request behaviour C (route :: plan) last j =
      (j, ⟨.resolve route.credentialRef, .error error⟩) ::
        loopLog gateway request behaviour C plan (some error) (j + 1) := by
  unfold loopLog
  rw [tryCandidates, Program.log_perform_bind _ (Behaviour.handle_resolve h)]

theorem loopLog_executed {credential : String} {execution : InferenceExecution Body}
    (h : behaviour.Resolves j route credential)
    (hexecute : behaviour (j + 1) (.execute route request credential) = .ok execution) :
    loopLog gateway request behaviour C (route :: plan) last j =
      (j, ⟨.resolve route.credentialRef, .ok credential⟩) ::
        (j + 1, ⟨.execute route request credential, .ok execution⟩) ::
          (gateway.handleExecution request route execution :
            UseCase Body (InferenceResult Body C)).log behaviour.handle (j + 1) := by
  unfold loopLog
  rw [tryCandidates, Program.log_perform_bind _ (Behaviour.handle_resolve h)]
  dsimp only
  rw [Program.log_perform_bind _ (Behaviour.handle_execute hexecute)]

theorem loopLog_failed {credential : String} {failure : ProviderFailure}
    (h : behaviour.Resolves j route credential)
    (hexecute : behaviour (j + 1) (.execute route request credential) = .error failure) :
    loopLog gateway request behaviour C (route :: plan) last j =
      (j, ⟨.resolve route.credentialRef, .ok credential⟩) ::
        (j + 1, ⟨.execute route request credential, .error failure⟩) ::
          ((gateway.handlePreCommitFailure request route failure).log behaviour.handle (j + 1) ++
            match ((gateway.handlePreCommitFailure request route failure).run
                behaviour.handle (j + 1)).1 with
            | .ok _ => loopLog gateway request behaviour C plan (some failure.message) (j + 1)
            | .error _ => []) := by
  unfold loopLog
  rw [tryCandidates, Program.log_perform_bind _ (Behaviour.handle_resolve h)]
  dsimp only
  rw [Program.log_perform_bind _ (Behaviour.handle_execute hexecute)]
  dsimp only
  rw [log_andThen_settling behaviour (gateway.followsUp_handlePreCommitFailure _ _ _).settling]
  cases ((gateway.handlePreCommitFailure request route failure).run behaviour.handle (j + 1)).1 <;>
    rfl

/-- Past a candidate the loop passes, it tries the candidates that are left. -/
theorem loopLog_passes (C : Type) (last : Option String)
    (h : behaviour.Passes gateway request j route) :
    ∃ before last', loopLog gateway request behaviour C (route :: plan) last j =
      before ++ loopLog gateway request behaviour C plan last' (j + 1) := by
  rcases h with ⟨error, herror⟩ | ⟨failure, ⟨credential, hresolves, hexecute⟩, hhandled⟩
  · exact ⟨[_], some error, loopLog_unresolved herror⟩
  · have hlog : loopLog gateway request behaviour C (route :: plan) last j = _ :=
      loopLog_failed hresolves hexecute
    rw [(run_handlePreCommitFailure behaviour gateway request route failure j).mpr hhandled] at hlog
    exact ⟨_ :: _ :: _, some failure.message, hlog⟩

/-! ## What the loop returns -/

/-- The loop tries the candidates `plan`, when `asked` were asked about before. -/
abbrev loopResult (gateway : Gateway) (request : InferenceRequest) (behaviour : Behaviour Body)
    (Chunk : Type) (plan : List RouteCandidate) (last : Option String) (asked : Nat) :
    InferenceResult Body Chunk × Nat :=
  (gateway.tryCandidates request plan last : UseCase Body (InferenceResult Body Chunk)).run
    behaviour.handle asked

/-- Past a candidate the loop passes, it returns what it makes of the candidates left. -/
theorem loopResult_passes (last : Option String) (h : behaviour.Passes gateway request j route) :
    ∃ last', loopResult gateway request behaviour C (route :: plan) last j =
      loopResult gateway request behaviour C plan last' (j + 1) := by
  unfold loopResult
  rw [tryCandidates]
  rcases h with ⟨error, herror⟩ | ⟨failure, ⟨credential, hresolves, hexecute⟩, hhandled⟩
  · rw [Program.run_perform_bind _ (Behaviour.handle_resolve herror)]
    exact ⟨some error, rfl⟩
  · have hrun := (run_handlePreCommitFailure behaviour gateway request route failure j).mpr hhandled
    rw [Program.run_perform_bind _ (Behaviour.handle_resolve hresolves)]
    dsimp only
    rw [Program.run_perform_bind _ (Behaviour.handle_execute hexecute)]
    dsimp only
    rw [run_andThen_settling behaviour
      (gateway.followsUp_handlePreCommitFailure request route failure).settling, hrun]
    exact ⟨some failure.message, rfl⟩

/-- A candidate that executes ends the loop. -/
theorem loopResult_executed {credential : String} {execution : InferenceExecution Body}
    (h : behaviour.Resolves j route credential)
    (hexecute : behaviour (j + 1) (.execute route request credential) = .ok execution) :
    loopResult gateway request behaviour C (route :: plan) last j =
      (gateway.handleExecution request route execution :
        UseCase Body (InferenceResult Body C)).run behaviour.handle (j + 1) := by
  unfold loopResult
  rw [tryCandidates, Program.run_perform_bind _ (Behaviour.handle_resolve h)]
  dsimp only
  rw [Program.run_perform_bind _ (Behaviour.handle_execute hexecute)]

/-! ## All candidates -/

/-- The loop passes the first `j` candidates of a plan that starts at position `asked`. -/
def ReachedFrom (gateway : Gateway) (request : InferenceRequest) (behaviour : Behaviour Body)
    (asked : Nat) (plan : List RouteCandidate) (j : Nat) : Prop :=
  ∀ k < j, ∀ route, plan[k]? = some route → behaviour.Passes gateway request (asked + k) route

theorem reachedFrom_succ {asked : Nat} :
    ReachedFrom gateway request behaviour asked (route :: plan) (j + 1) ↔
      behaviour.Passes gateway request asked route ∧
        ReachedFrom gateway request behaviour (asked + 1) plan j := by
  constructor
  · intro h
    refine ⟨h 0 (by omega) route rfl, ?_⟩
    intro k hk later hlater
    have hpasses := h (k + 1) (by omega) later hlater
    rwa [show asked + (k + 1) = asked + 1 + k by omega] at hpasses
  · rintro ⟨hfirst, hrest⟩ k hk later hlater
    cases k with
    | zero =>
      rw [List.getElem?_cons_zero, Option.some.injEq] at hlater
      exact hlater ▸ hfirst
    | succ k =>
      have hpasses := hrest k (by omega) later hlater
      rwa [show asked + 1 + k = asked + (k + 1) by omega] at hpasses

/-- Once the loop has passed the first candidates, it tries the ones that are left. -/
theorem loopLog_reached (C : Type) (last : Option String) {asked : Nat}
    (h : ReachedFrom gateway request behaviour asked plan j) (hj : j ≤ plan.length) :
    ∃ before last', loopLog gateway request behaviour C plan last asked =
      before ++ loopLog gateway request behaviour C (plan.drop j) last' (asked + j) := by
  induction plan generalizing last j asked with
  | nil =>
    obtain rfl : j = 0 := by simpa using hj
    exact ⟨[], last, rfl⟩
  | cons route plan ih =>
    cases j with
    | zero => exact ⟨[], last, rfl⟩
    | succ j =>
      obtain ⟨hfirst, hrest⟩ := reachedFrom_succ.mp h
      obtain ⟨before, last', hlog⟩ := loopLog_passes C last hfirst
      obtain ⟨before', last'', hlog'⟩ := ih last' hrest (by simpa using hj)
      refine ⟨before ++ before', last'', ?_⟩
      rw [hlog, hlog', List.append_assoc, List.drop_succ_cons,
        show asked + (j + 1) = asked + 1 + j by omega]

/-- And it returns what it makes of the ones that are left. -/
theorem loopResult_reached (last : Option String) {asked : Nat}
    (h : ReachedFrom gateway request behaviour asked plan j) (hj : j ≤ plan.length) :
    ∃ last', loopResult gateway request behaviour C plan last asked =
      loopResult gateway request behaviour C (plan.drop j) last' (asked + j) := by
  induction plan generalizing last j asked with
  | nil =>
    obtain rfl : j = 0 := by simpa using hj
    exact ⟨last, rfl⟩
  | cons route plan ih =>
    cases j with
    | zero => exact ⟨last, rfl⟩
    | succ j =>
      obtain ⟨hfirst, hrest⟩ := reachedFrom_succ.mp h
      obtain ⟨last', hpasses⟩ : ∃ last', loopResult gateway request behaviour C (route :: plan)
          last asked = loopResult gateway request behaviour C plan last' (asked + 1) :=
        loopResult_passes last hfirst
      obtain ⟨last'', hreached⟩ := ih last' hrest (by simpa using hj)
      refine ⟨last'', ?_⟩
      rw [hpasses, hreached, List.drop_succ_cons, show asked + (j + 1) = asked + 1 + j by omega]

theorem drop_of_getElem? (h : plan[j]? = some route) :
    plan.drop j = route :: plan.drop (j + 1) := by
  obtain ⟨hj, rfl⟩ := List.getElem?_eq_some_iff.mp h
  exact List.drop_eq_getElem_cons hj

/-- The loop asks the resolver about every candidate it reaches. -/
theorem resolve_mem_loopLog (C : Type) (last : Option String) {asked : Nat}
    (hroute : plan[j]? = some route)
    (h : ReachedFrom gateway request behaviour asked plan j) :
    ∃ answer, (asked + j, ⟨.resolve route.credentialRef, answer⟩) ∈
      loopLog gateway request behaviour C plan last asked := by
  have hj : j < plan.length := (List.getElem?_eq_some_iff.mp hroute).1
  obtain ⟨before, last', hlog⟩ := loopLog_reached C last h (by omega)
  rw [hlog, drop_of_getElem? hroute]
  exact ⟨_, List.mem_append_right _ List.mem_cons_self⟩

/-- The loop hands every candidate it reaches to the executor, if its credential resolves. -/
theorem execute_mem_loopLog (C : Type) (last : Option String) {asked : Nat} {credential : String}
    (hroute : plan[j]? = some route)
    (h : ReachedFrom gateway request behaviour asked plan j)
    (hresolves : behaviour.Resolves (asked + j) route credential) :
    (asked + j + 1, ⟨.execute route request credential,
        behaviour (asked + j + 1) (.execute route request credential)⟩) ∈
      loopLog gateway request behaviour C plan last asked := by
  have hj : j < plan.length := (List.getElem?_eq_some_iff.mp hroute).1
  obtain ⟨before, last', hlog⟩ := loopLog_reached C last h (by omega)
  rw [hlog, drop_of_getElem? hroute]
  apply List.mem_append_right
  cases hexecute : behaviour (asked + j + 1) (.execute route request credential) with
  | ok execution =>
    rw [loopLog_executed hresolves hexecute]
    exact List.mem_cons_of_mem _ List.mem_cons_self
  | error failure =>
    rw [loopLog_failed hresolves hexecute]
    exact List.mem_cons_of_mem _ List.mem_cons_self

/-- The call of the executor for a candidate that is reached and whose credential resolves. -/
def HandedOver (gateway : Gateway) (request : InferenceRequest) (behaviour : Behaviour Body)
    (asked : Nat) (plan : List RouteCandidate) (x : Nat × Event (application Body)) : Prop :=
  ∃ j route credential, plan[j]? = some route ∧
    ReachedFrom gateway request behaviour asked plan j ∧
    behaviour.Resolves (asked + j) route credential ∧
    x = (asked + j + 1, ⟨.execute route request credential,
      behaviour (asked + j + 1) (.execute route request credential)⟩)

theorem handedOver_cons {asked : Nat} {x : Nat × Event (application Body)}
    (hpasses : behaviour.Passes gateway request asked route)
    (h : HandedOver gateway request behaviour (asked + 1) plan x) :
    HandedOver gateway request behaviour asked (route :: plan) x := by
  obtain ⟨j, later, credential, hlater, hreached, hresolves, hx⟩ := h
  rw [show asked + 1 + j = asked + (j + 1) by omega] at hresolves hx
  exact ⟨j + 1, later, credential, hlater, reachedFrom_succ.mpr ⟨hpasses, hreached⟩, hresolves, hx⟩

/-- The loop hands nothing else to the executor. -/
theorem handedOver_of_mem_loopLog {asked : Nat} {x : Nat × Event (application Body)}
    (h : x ∈ loopLog gateway request behaviour C plan last asked)
    (hx : x.2.op.settles = false) (hexecute : ∀ reference, x.2.op ≠ .resolve reference) :
    HandedOver gateway request behaviour asked plan x := by
  induction plan generalizing last asked with
  | nil => cases h
  | cons route plan ih =>
    cases hresolve : behaviour (asked + 1) (.resolve route.credentialRef) with
    | error error =>
      rw [loopLog_unresolved hresolve] at h
      rcases List.mem_cons.mp h with rfl | h
      · exact absurd rfl (hexecute _)
      · exact handedOver_cons (.inl ⟨error, hresolve⟩) (ih h)
    | ok credential =>
      have hfirst : HandedOver gateway request behaviour asked (route :: plan)
          (asked + 1, ⟨.execute route request credential,
            behaviour (asked + 1) (.execute route request credential)⟩) := by
        refine ⟨0, route, credential, rfl, ?_, hresolve, rfl⟩
        intro k hk
        omega
      cases hanswer : behaviour (asked + 1) (.execute route request credential) with
      | ok execution =>
        rw [hanswer] at hfirst
        rw [loopLog_executed hresolve hanswer] at h
        rcases List.mem_cons.mp h with rfl | h
        · exact absurd rfl (hexecute _)
        rcases List.mem_cons.mp h with rfl | h
        · exact hfirst
        -- What follows an execution only settles its outcome.
        have hsettles := ((gateway.followsUp_handleExecution request route execution).settling.keeps
          behaviour (asked + 1)).2 x h
        rw [hx] at hsettles
        cases hsettles.2
      | error failure =>
        rw [hanswer] at hfirst
        rw [loopLog_failed hresolve hanswer] at h
        rcases List.mem_cons.mp h with rfl | h
        · exact absurd rfl (hexecute _)
        rcases List.mem_cons.mp h with rfl | h
        · exact hfirst
        rcases List.mem_append.mp h with h | h
        · have hsettling : Settling (gateway.handlePreCommitFailure request route failure :
              UseCase Body (Except ApplicationError Unit)) :=
            (gateway.followsUp_handlePreCommitFailure request route failure).settling
          have hsettles := (hsettling.keeps behaviour (asked + 1)).2 x h
          rw [hx] at hsettles
          cases hsettles.2
        · cases hhandled : ((gateway.handlePreCommitFailure request route failure).run
              behaviour.handle (asked + 1)).1 with
          | error error =>
            rw [hhandled] at h
            cases h
          | ok value =>
            rw [hhandled] at h
            have hhandles := (run_handlePreCommitFailure behaviour gateway request route failure
              asked).mp hhandled
            exact handedOver_cons (.inr ⟨failure, ⟨credential, hresolve, hanswer⟩, hhandles⟩) (ih h)

end Loop

end Gateway

end SmartGateway
