import SmartGateway.Routing.RouteStore
import SmartGateway.Runtime.SnapshotSafety

/-! # Routes under probe in a snapshot

A route is under probe while it is half open and its account is not blocked. Only `candidates`
puts a route under probe, and it returns that route alone. A success or an opening failure of
the route ends the probe, and so does a failure that blocks the account of the route.
-/

namespace SmartGateway

namespace SnapshotRepository

theorem probeTaken_iff {repository : SnapshotRepository} {routeId : String} :
    repository.ProbeTaken routeId ↔
      (repository.routeStates.get? routeId).map SnapshotState.state = some "half_open" :=
  Option.map_eq_some_iff.symm

instance (repository : SnapshotRepository) (routeId : String) :
    Decidable (repository.ProbeTaken routeId) :=
  decidable_of_iff _ probeTaken_iff.symm

/-- A half-open route of an account that is not blocked. -/
def UnderProbe (repository : SnapshotRepository) (routeId : String) : Prop :=
  repository.ProbeTaken routeId ∧ ∃ route ∈ repository.snapshot.routes,
    route.routeId = routeId ∧ repository.accountUsable route = true

/-- The account has a state, and no other account that is not blocked has a route with this
id. -/
def Governs (repository : SnapshotRepository) (accountId routeId : String) : Prop :=
  repository.accountStates.get? accountId ≠ none ∧
    ∀ route ∈ repository.snapshot.routes, route.routeId = routeId →
      repository.accountUsable route = true → route.providerAccountId = accountId

/-- No route of an unblocked account is half open. -/
def NoneHalfOpen (repository : SnapshotRepository) : Prop :=
  ∀ route ∈ repository.snapshot.routes, repository.accountUsable route = true →
    ¬ repository.ProbeTaken route.routeId

section Probe

variable {repository : SnapshotRepository} {routeId : String}

theorem noneHalfOpen_iff :
    repository.NoneHalfOpen ↔ ∀ routeId, ¬ repository.UnderProbe routeId := by
  constructor
  · rintro h routeId ⟨hhalf, route, hroute, rfl, husable⟩
    exact h route hroute husable hhalf
  · intro h route hroute husable hhalf
    exact h route.routeId ⟨hhalf, route, hroute, rfl, husable⟩

/-! ## What an update leaves under probe -/

/-- An update of one route leaves the others as they are. -/
theorem probeTaken_updateRouteState_ne {routeId' : String} {f : SnapshotState → SnapshotState}
    (hne : routeId ≠ routeId') :
    (repository.updateRouteState routeId' f).ProbeTaken routeId ↔ repository.ProbeTaken routeId := by
  unfold ProbeTaken updateRouteState
  rw [KeyedTable.get?_modify_ne _ _ hne]

/-- A route that was set to another state is not half open. -/
theorem not_probeTaken_updateRouteState {f : SnapshotState → SnapshotState}
    (hf : ∀ entry, (f entry).state ≠ "half_open") :
    ¬ (repository.updateRouteState routeId f).ProbeTaken routeId := by
  intro h
  have hstate : ((repository.routeStates.modify routeId f).get? routeId).map SnapshotState.state =
      some "half_open" := probeTaken_iff.mp h
  rw [KeyedTable.get?_modify_self, Option.map_map, Option.map_eq_some_iff] at hstate
  obtain ⟨entry, -, hentry⟩ := hstate
  exact hf entry hentry

/-- Setting a route to another state puts no route under probe. -/
theorem underProbe_of_updateRouteState {routeId' : String} {f : SnapshotState → SnapshotState}
    (hf : ∀ entry, (f entry).state ≠ "half_open")
    (h : (repository.updateRouteState routeId' f).UnderProbe routeId) :
    repository.UnderProbe routeId := by
  obtain ⟨hhalf, hroute⟩ := h
  by_cases hid : routeId = routeId'
  · subst hid
    exact absurd hhalf (not_probeTaken_updateRouteState hf)
  · exact ⟨(probeTaken_updateRouteState_ne hid).mp hhalf, hroute⟩

/-- A blocked account is not usable. -/
theorem accountUsable_updateAccountState_self {retryAtUnix : Option Int} {route : RouteCandidate}
    (hknown : repository.accountStates.get? route.providerAccountId ≠ none) :
    (repository.updateAccountState route.providerAccountId fun _ =>
      { state := "blocked", retryAtUnix }).accountUsable route = false := by
  obtain ⟨account, haccount⟩ := Option.ne_none_iff_exists'.mp hknown
  unfold accountUsable updateAccountState
  rw [KeyedTable.get?_modify_self, haccount]
  rfl

/-- Blocking an account makes no account usable. -/
theorem accountUsable_of_updateAccountState {accountId : String} {retryAtUnix : Option Int}
    {route : RouteCandidate}
    (h : (repository.updateAccountState accountId fun _ =>
      { state := "blocked", retryAtUnix }).accountUsable route = true) :
    repository.accountUsable route = true := by
  by_cases hid : route.providerAccountId = accountId
  · subst hid
    by_cases hknown : repository.accountStates.get? route.providerAccountId = none
    · unfold accountUsable
      rw [hknown]
    · rw [accountUsable_updateAccountState_self hknown] at h
      exact absurd h Bool.false_ne_true
  · unfold accountUsable updateAccountState at h
    rw [KeyedTable.get?_modify_ne _ _ hid] at h
    exact h

/-! ## What a call puts under probe -/

theorem closed_ne_half_open : "closed" ≠ "half_open" := by decide

theorem open_ne_half_open : "open" ≠ "half_open" := by decide

/-- `candidates` returns a probe, or leaves everything as it is. -/
theorem candidates_probe_or_self (now : Int) (logicalModel : String) :
    (∃ probe ∈ repository.retryableRoutes now, repository.candidates now logicalModel =
      (.ok [probe], repository.updateRouteState probe.routeId fun routeState =>
        { routeState with state := "half_open" })) ∨
    (repository.candidates now logicalModel).2 = repository := by
  cases hplan : candidatePlan logicalModel repository.closedRoutes
      repository.snapshot.fallbacks with
  | ok plan =>
    rw [candidates_closed hplan]
    exact Or.inr rfl
  | error error =>
    rcases candidates_probe now hplan with ⟨error', -, h⟩ | ⟨probe, rest, hretry, h⟩
    · rw [h]
      exact Or.inr rfl
    · have hretryable := ((mem_candidatePlan hretry probe).mp List.mem_cons_self).1
      exact Or.inl ⟨probe, hretryable, h⟩

/-- A route that is due for a probe is open. -/
theorem not_probeTaken_of_retryable {now : Int} {route : RouteCandidate}
    (h : route ∈ repository.retryableRoutes now) : ¬ repository.ProbeTaken route.routeId := by
  intro hhalf
  have hretryable := ((Bool.and_eq_true _ _).mp (List.mem_filter.mp h).2).2
  obtain ⟨entry, retryAt, hentry, hopen, -⟩ := due_of_retryable hretryable
  rw [probeTaken_iff, hentry, Option.map_some, hopen, Option.some.injEq] at hhalf
  exact open_ne_half_open hhalf

/-- A route that is under probe after a call was under probe before it, or the call has turned
it half open and returned it. -/
theorem underProbe_cases (digest : String → String) (now : Int) (op : RepositoryOp)
    (h : (handle digest now op repository).2.UnderProbe routeId) :
    repository.UnderProbe routeId ∨ (¬ repository.ProbeTaken routeId ∧
      ∃ logicalModel probe, op = .candidates logicalModel ∧ probe.routeId = routeId ∧
        (repository.candidates now logicalModel).1 = .ok [probe]) := by
  cases op with
  | authenticate rawKey => exact Or.inl h
  | recordAttempt attempt => exact Or.inl h
  -- Only the fallback branch of the planner makes a row half open.
  | candidates logicalModel =>
    have hafter : (repository.candidates now logicalModel).2.UnderProbe routeId := h
    rcases candidates_probe_or_self now logicalModel with ⟨probe, hretryable, hprobe⟩ | hself
    · rw [hprobe] at hafter
      by_cases hid : routeId = probe.routeId
      · subst hid
        exact Or.inr ⟨not_probeTaken_of_retryable hretryable, logicalModel, probe, rfl, rfl,
          by rw [hprobe]⟩
      · exact Or.inl ⟨(probeTaken_updateRouteState_ne hid).mp hafter.1, hafter.2⟩
    · rw [hself] at hafter
      exact Or.inl hafter
  -- A mark writes closed or open, so a half open row was half open before.
  | markRouteSuccess routeId' =>
    have hafter : (markRouteSuccess repository routeId').UnderProbe routeId := h
    exact Or.inl (underProbe_of_updateRouteState (fun _ => closed_ne_half_open) hafter)
  | markRouteFailure routeId' failure =>
    have hafter : (markRouteFailure repository routeId' failure).UnderProbe routeId := h
    unfold markRouteFailure at hafter
    split at hafter
    · exact Or.inl hafter
    · exact Or.inl (underProbe_of_updateRouteState (fun _ => open_ne_half_open) hafter)
  | markAccountFailure accountId failure =>
    have hafter : (markAccountFailure repository accountId failure).UnderProbe routeId := h
    unfold markAccountFailure at hafter
    split at hafter
    · exact Or.inl hafter
    · obtain ⟨hhalf, route, hroute, hid, husable⟩ := hafter
      exact Or.inl ⟨hhalf, route, hroute, hid, accountUsable_of_updateAccountState husable⟩

/-- A mark that decides a route ends its probe. -/
theorem not_underProbe_of_decides {digest : String → String} {now : Int} {op : RepositoryOp}
    (h : op.Decides routeId) : ¬ (handle digest now op repository).2.UnderProbe routeId := by
  rintro ⟨hhalf, -⟩
  cases op with
  | markRouteSuccess routeId' =>
    obtain rfl : routeId' = routeId := h
    have hafter : (markRouteSuccess repository routeId').ProbeTaken routeId' := hhalf
    exact not_probeTaken_updateRouteState (fun _ => closed_ne_half_open) hafter
  | markRouteFailure routeId' failure =>
    obtain ⟨rfl, hopens⟩ : routeId' = routeId ∧ failure.category.opensRoute = true := h
    have hafter : (markRouteFailure repository routeId' failure).ProbeTaken routeId' := hhalf
    rw [markRouteFailure, hopens] at hafter
    exact not_probeTaken_updateRouteState (fun _ => open_ne_half_open) hafter
  | _ => exact h

/-- A failure that blocks the account of a route ends its probe. -/
theorem not_underProbe_of_blocks {digest : String → String} {now : Int} {accountId : String}
    {failure : ProviderFailure} (hblocks : failure.category.blocksAccount = true)
    (hgoverns : repository.Governs accountId routeId) :
    ¬ (handle digest now (.markAccountFailure accountId failure) repository).2.UnderProbe
      routeId := by
  have hblocked : markAccountFailure repository accountId failure =
      repository.updateAccountState accountId fun _ =>
        { state := "blocked", retryAtUnix := failure.retryAtUnix } := by
    rw [markAccountFailure, hblocks]
    rfl
  show ¬ (markAccountFailure repository accountId failure).UnderProbe routeId
  rw [hblocked]
  rintro ⟨-, route, hroute, hid, husable⟩
  have hbefore := accountUsable_of_updateAccountState husable
  obtain rfl := hgoverns.2 route hroute hid hbefore
  rw [accountUsable_updateAccountState_self hgoverns.1] at husable
  exact Bool.false_ne_true husable

end Probe

end SnapshotRepository

end SmartGateway
