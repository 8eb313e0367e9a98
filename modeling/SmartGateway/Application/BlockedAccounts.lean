import SmartGateway.Application.CandidateLoop

/-! # Candidates of a blocked account

A failure that blocks its account is written to the repository, but the loop of `infer` goes on
through a plan that was made before, and does not look at the accounts of the candidates that
are left. This module says exactly in which runs that lets it call a blocked account again.
-/

namespace SmartGateway

/-! ## What a run shows -/

section Run

variable {Body : Type} (log : List (Nat × Event (application Body)))

/-- The resolver is asked about candidate `j`. -/
def AskedAt (j : Nat) (route : RouteCandidate) : Prop :=
  ∃ answer, (j, ⟨.resolve route.credentialRef, answer⟩) ∈ log

/-- The executor is invoked on candidate `j`. -/
def ExecutedAt (request : InferenceRequest) (j : Nat) (route : RouteCandidate) : Prop :=
  ∃ credential answer, (j + 1, ⟨.execute route request credential, answer⟩) ∈ log

/-- The executor is invoked on candidate `j` and fails. -/
def FailedAt (request : InferenceRequest) (j : Nat) (route : RouteCandidate)
    (failure : ProviderFailure) : Prop :=
  ∃ credential, (j + 1, ⟨.execute route request credential, .error failure⟩) ∈ log

end Run

namespace Gateway

variable {Body : Type} (gateway : Gateway) (rawKey : String) (request : InferenceRequest)
  (behaviour : Behaviour Body)

/-- The candidates the loop goes through: none if the request is refused before. -/
def planOf : List RouteCandidate :=
  match behaviour 0 (.configuration (.authenticate rawKey)),
    behaviour 0 (.configuration (.candidates request.model)) with
  | .ok true, .ok plan => plan
  | _, _ => []

/-- The calls of a run of `infer`. -/
def inferLog (Chunk : Type) : List (Nat × Event (application Body)) :=
  (gateway.infer rawKey request : UseCase Body (InferenceResult Body Chunk)).log
    behaviour.handle 0

/-- After a failure that blocks its account, no later candidate of the account is handed to the
executor, and, the failure being recorded and marked (an error there is what `infer` returns),
the loop goes on to the next candidate of a different account. -/
structure SkipsBlockedAccounts (Chunk : Type) : Prop where
  never_again : ∀ {i j route later failure}, i < j →
    (planOf rawKey request behaviour)[i]? = some route →
    (planOf rawKey request behaviour)[j]? = some later →
    later.providerAccountId = route.providerAccountId →
    FailedAt (gateway.inferLog rawKey request behaviour Chunk) request i route failure →
    failure.category.blocksAccount = true →
    ¬ ExecutedAt (gateway.inferLog rawKey request behaviour Chunk) request j later
  goes_on : ∀ {i j route next failure}, i < j →
    (planOf rawKey request behaviour)[i]? = some route →
    (planOf rawKey request behaviour)[j]? = some next →
    next.providerAccountId ≠ route.providerAccountId →
    (∀ k, i < k → k < j → ∀ skipped, (planOf rawKey request behaviour)[k]? = some skipped →
      skipped.providerAccountId = route.providerAccountId) →
    FailedAt (gateway.inferLog rawKey request behaviour Chunk) request i route failure →
    failure.category.blocksAccount = true →
    behaviour.Handles gateway request i route failure →
    AskedAt (gateway.inferLog rawKey request behaviour Chunk) j next

/-- Two candidates of one account: the executor fails on the earlier one with a category that
blocks the account, and the loop gets to the later one and its credential resolves. -/
def RevisitsAccount : Prop :=
  ∃ i j route later failure credential, i < j ∧
    (planOf rawKey request behaviour)[i]? = some route ∧
    (planOf rawKey request behaviour)[j]? = some later ∧
    later.providerAccountId = route.providerAccountId ∧
    behaviour.Fails request i route failure ∧ failure.category.blocksAccount = true ∧
    ReachedFrom gateway request behaviour 0 (planOf rawKey request behaviour) j ∧
    behaviour.Resolves j later credential

/-! ## The loop inside `infer` -/

/-- Before the loop, `infer` neither resolves nor executes. -/
theorem inferLog_eq (C : Type) : ∃ before, gateway.inferLog rawKey request behaviour C =
    before ++ loopLog gateway request behaviour C (planOf rawKey request behaviour) none 0 ∧
      ∀ x ∈ before, x.2.op.settles = true := by
  have hauth : behaviour.handle (.configuration (.authenticate rawKey)) 0 =
      (behaviour 0 (.configuration (.authenticate rawKey)), 0) := rfl
  have hcandidates : behaviour.handle (.configuration (.candidates request.model)) 0 =
      (behaviour 0 (.configuration (.candidates request.model)), 0) := rfl
  unfold inferLog infer planOf
  rw [Program.log_perform_bind _ hauth]
  rcases behaviour 0 (.configuration (.authenticate rawKey)) with error | admitted
  · exact ⟨[_], rfl, by simp [ApplicationOp.settles]⟩
  · cases admitted with
    | false => exact ⟨[_], rfl, by simp [ApplicationOp.settles]⟩
    | true =>
      dsimp only
      rw [Program.log_perform_bind _ hcandidates]
      rcases behaviour 0 (.configuration (.candidates request.model)) with error | plan
      · exact ⟨[_, _], rfl, by simp [ApplicationOp.settles]⟩
      · exact ⟨[_, _], rfl, by simp [ApplicationOp.settles]⟩

variable {gateway rawKey request behaviour} {C : Type}

/-- `infer` returns what the loop makes of its candidates, if there are any. -/
theorem run_infer (hplan : planOf rawKey request behaviour ≠ []) :
    (gateway.infer rawKey request : UseCase Body (InferenceResult Body C)).run
        behaviour.handle 0 =
      loopResult gateway request behaviour C (planOf rawKey request behaviour) none 0 := by
  have hauth : behaviour.handle (.configuration (.authenticate rawKey)) 0 =
      (behaviour 0 (.configuration (.authenticate rawKey)), 0) := rfl
  have hcandidates : behaviour.handle (.configuration (.candidates request.model)) 0 =
      (behaviour 0 (.configuration (.candidates request.model)), 0) := rfl
  unfold planOf at *
  unfold infer
  rw [Program.run_perform_bind _ hauth]
  generalize behaviour 0 (.configuration (.authenticate rawKey)) = admitted at hplan ⊢
  rcases admitted with error | admitted
  · exact absurd rfl hplan
  · cases admitted with
    | false => exact absurd rfl hplan
    | true =>
      dsimp only at hplan ⊢
      rw [Program.run_perform_bind _ hcandidates]
      generalize behaviour 0 (.configuration (.candidates request.model)) = planned at hplan ⊢
      rcases planned with error | plan
      · exact absurd rfl hplan
      · rfl

theorem askedAt_of_reached {j : Nat} {route : RouteCandidate}
    (hroute : (planOf rawKey request behaviour)[j]? = some route)
    (h : ReachedFrom gateway request behaviour 0 (planOf rawKey request behaviour) j) :
    AskedAt (gateway.inferLog rawKey request behaviour C) j route := by
  obtain ⟨before, hlog, -⟩ := inferLog_eq gateway rawKey request behaviour C
  obtain ⟨answer, hmem⟩ := resolve_mem_loopLog C none hroute h
  refine ⟨answer, ?_⟩
  rw [hlog]
  rw [Nat.zero_add] at hmem
  exact List.mem_append_right _ hmem

theorem executed_of_reached {j : Nat} {route : RouteCandidate} {credential : String}
    (hroute : (planOf rawKey request behaviour)[j]? = some route)
    (h : ReachedFrom gateway request behaviour 0 (planOf rawKey request behaviour) j)
    (hresolves : behaviour.Resolves j route credential) :
    (j + 1, ⟨.execute route request credential,
        behaviour (j + 1) (.execute route request credential)⟩) ∈
      gateway.inferLog rawKey request behaviour C := by
  obtain ⟨before, hlog, -⟩ := inferLog_eq gateway rawKey request behaviour C
  have hresolves' : behaviour.Resolves (0 + j) route credential := by rwa [Nat.zero_add]
  have hmem := execute_mem_loopLog C none hroute h hresolves'
  rw [hlog]
  rw [Nat.zero_add] at hmem
  exact List.mem_append_right _ hmem

/-- The executor is invoked on no candidate but those that are reached and resolve. -/
theorem reached_of_executed {j : Nat} {route : RouteCandidate} {credential : String}
    {answer : Except ProviderFailure (InferenceExecution Body)}
    (h : (j + 1, ⟨.execute route request credential, answer⟩) ∈
      gateway.inferLog rawKey request behaviour C) :
    ReachedFrom gateway request behaviour 0 (planOf rawKey request behaviour) j ∧
      behaviour.Resolves j route credential ∧
      answer = behaviour (j + 1) (.execute route request credential) := by
  obtain ⟨before, hlog, hbefore⟩ := inferLog_eq gateway rawKey request behaviour C
  rw [hlog] at h
  rcases List.mem_append.mp h with h | h
  · cases hbefore _ h
  · obtain ⟨k, executed, credential', -, hreached, hresolves, hx⟩ :=
      handedOver_of_mem_loopLog h rfl (fun reference => by simp)
    simp only [Nat.zero_add, Prod.mk.injEq, Nat.add_right_cancel_iff] at hx
    obtain ⟨rfl, hevent⟩ := hx
    cases hevent
    rw [Nat.zero_add] at hresolves
    exact ⟨hreached, hresolves, rfl⟩

/-! ## Blocked accounts -/

theorem reachedFrom_mono {i j : Nat} {plan : List RouteCandidate} (hij : i ≤ j)
    (h : ReachedFrom gateway request behaviour 0 plan j) :
    ReachedFrom gateway request behaviour 0 plan i :=
  fun k hk => h k (by omega)

theorem reachedFrom_next {k : Nat} {plan : List RouteCandidate}
    (h : ReachedFrom gateway request behaviour 0 plan k)
    (hpasses : ∀ route, plan[k]? = some route → behaviour.Passes gateway request k route) :
    ReachedFrom gateway request behaviour 0 plan (k + 1) := by
  intro m hm route hroute
  rcases Nat.lt_succ_iff_lt_or_eq.mp hm with hm | rfl
  · exact h m hm route hroute
  · rw [Nat.zero_add]
    exact hpasses route hroute

/-- A run skips the candidates of an account that a failure has blocked exactly when the
environment does not lead it back to one. -/
theorem skipsBlockedAccounts_iff {Body : Type} (Chunk : Type) (gateway : Gateway)
    (rawKey : String) (request : InferenceRequest) (behaviour : Behaviour Body) :
    gateway.SkipsBlockedAccounts rawKey request behaviour Chunk ↔
      ¬ gateway.RevisitsAccount rawKey request behaviour := by
  constructor
  · rintro hskips ⟨i, j, route, later, failure, credential, hij, hroute, hlater, haccount,
      ⟨failed, hresolved, hfailed⟩, hblocks, hreached, hresolves⟩
    have hfirst := executed_of_reached (C := Chunk) hroute
      (reachedFrom_mono (Nat.le_of_lt hij) hreached) hresolved
    rw [hfailed] at hfirst
    have hsecond := executed_of_reached (C := Chunk) hlater hreached hresolves
    exact hskips.never_again hij hroute hlater haccount ⟨failed, hfirst⟩ hblocks ⟨credential, _, hsecond⟩
  · intro hrevisits
    have hfails : ∀ {i route failure},
        FailedAt (gateway.inferLog rawKey request behaviour Chunk) request i route failure →
          ReachedFrom gateway request behaviour 0 (planOf rawKey request behaviour) i ∧
            behaviour.Fails request i route failure := by
      rintro i route failure ⟨credential, hmem⟩
      obtain ⟨hreached, hresolves, hanswer⟩ := reached_of_executed hmem
      exact ⟨hreached, credential, hresolves, hanswer.symm⟩
    constructor
    · rintro i j route later failure hij hroute hlater haccount hfailed hblocks
        ⟨credential, answer, hexecuted⟩
      obtain ⟨hreached, hresolves, -⟩ := reached_of_executed hexecuted
      exact hrevisits ⟨i, j, route, later, failure, credential, hij, hroute, hlater, haccount,
        (hfails hfailed).2, hblocks, hreached, hresolves⟩
    · intro i j route next failure hij hroute hnext haccount hbetween hfailed hblocks hhandles
      obtain ⟨hreached, hfail⟩ := hfails hfailed
      -- The loop gets past each skipped candidate, since its credential does not resolve.
      have hgoes : ∀ k, i < k → k ≤ j →
          ReachedFrom gateway request behaviour 0 (planOf rawKey request behaviour) k := by
        intro k hk
        induction k, hk using Nat.le_induction with
        | base =>
          intro _
          apply reachedFrom_next hreached
          intro failed hfailed
          rw [hroute, Option.some.injEq] at hfailed
          exact hfailed ▸ .inr ⟨failure, hfail, hhandles⟩
        | succ k hk ih =>
          intro hkj
          apply reachedFrom_next (ih (by omega))
          intro skipped hskipped
          cases hresolve : behaviour (k + 1) (.resolve skipped.credentialRef) with
          | error error => exact .inl ⟨error, hresolve⟩
          | ok credential =>
            exact absurd ⟨i, k, route, skipped, failure, credential, by omega, hroute, hskipped,
              hbetween k hk (by omega) skipped hskipped, hfail, hblocks, ih (by omega), hresolve⟩
              hrevisits
      exact askedAt_of_reached hnext (hgoes j hij (Nat.le_refl j))

end Gateway

/-! ## Two routes of one account -/

namespace TwoRoutes

open Gateway

def route (id : String) : RouteCandidate :=
  { routeId := id
    logicalModel := "model"
    providerAccountId := "account"
    provider := "provider"
    credentialRef := .envKey
    baseUrl := "https://upstream"
    upstreamModel := "upstream"
    priority := 0 }

def request : InferenceRequest := { requestId := "request", model := "model", stream := false }

def exhausted : ProviderFailure :=
  { category := .quotaExhausted
    message := "provider capacity is currently unavailable"
    status := some 429
    retryAtUnix := none }

/-- Everything is available, but the executor runs into the exhausted quota. -/
def behaviour : Behaviour Unit
  | _, .configuration (.authenticate _) => .ok true
  | _, .configuration (.candidates _) => .ok [route "first", route "second"]
  | _, .configuration (.recordAttempt _) => .ok ()
  | _, .configuration (.markRouteSuccess _) => .ok ()
  | _, .configuration (.markRouteFailure _ _) => .ok ()
  | _, .configuration (.markAccountFailure _ _) => .ok ()
  | _, .resolve _ => .ok "secret"
  | _, .execute _ _ _ => .error exhausted
  | _, .newAttemptId => .least
  | _, .appendAttempt _ => .ok ()
  | _, .recordQuotaSnapshot _ => .ok ()
  | _, .recordBillingRecord _ => .ok ()
  | _, .unixTime => some 0

def gateway : Gateway := { usageSpool := false, accounting := false }

theorem passes_first : behaviour.Passes gateway request 0 (route "first") :=
  .inr ⟨exhausted, ⟨"secret", rfl, rfl⟩, .inl rfl, fun _ => rfl, fun h => nomatch h⟩

/-- The first route exhausts the quota of the account, the account is blocked, and the second
route of the account is called all the same. -/
theorem blocked_account_called :
    ¬ gateway.SkipsBlockedAccounts "key" request behaviour Unit := by
  intro hskips
  have hfirst : ReachedFrom gateway request behaviour 0 (planOf "key" request behaviour) 0 := by
    intro k hk
    omega
  have hsecond : ReachedFrom gateway request behaviour 0 (planOf "key" request behaviour) 1 := by
    apply reachedFrom_next hfirst
    intro failed hfailed
    obtain rfl : route "first" = failed := by simpa [planOf, behaviour, request] using hfailed
    exact passes_first
  exact hskips.never_again (i := 0) (j := 1) (by omega) rfl rfl rfl
    ⟨"secret", executed_of_reached rfl hfirst rfl⟩ rfl
    ⟨"secret", _, executed_of_reached rfl hsecond rfl⟩

end TwoRoutes

end SmartGateway
