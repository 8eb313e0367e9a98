import SmartGateway.Runtime.UsageSpool

/-! # The last-known-good snapshot as a repository

A snapshot of the control plane with runtime copies of the route and account states behind
a mutex. Methods that touch the states hold it throughout, so each is one step.
-/

namespace SmartGateway

/-! ## Data -/

/-- `SnapshotRouteState` and `SnapshotAccountState`, which have the same fields. -/
structure SnapshotState where
  state : String
  retryAtUnix : Option Int
deriving DecidableEq

/-- Sanitized control-plane data retained for PostgreSQL outage recovery. -/
structure ControlSnapshot where
  gatewayKeyHashes : Finset String
  routes : List RouteCandidate
  fallbacks : FallbackMap
  routeStates : KeyedTable String SnapshotState
  accountStates : KeyedTable String SnapshotState

/-- The snapshot, the runtime states and the spool of a `SnapshotRepository`. -/
structure SnapshotRepository where
  snapshot : ControlSnapshot
  routeStates : KeyedTable String SnapshotState
  accountStates : KeyedTable String SnapshotState
  usageSpool : DurableUsageSpool

namespace SnapshotRepository

/-- The runtime states start as those of the snapshot. -/
def new (snapshot : ControlSnapshot) (usageSpool : DurableUsageSpool) : SnapshotRepository :=
  { snapshot, routeStates := snapshot.routeStates, accountStates := snapshot.accountStates,
    usageSpool }

/-! ## Queries -/

/-- `account_states.get(…).is_none_or(|account| account.state != "blocked")`. -/
def accountUsable (repository : SnapshotRepository) (route : RouteCandidate) : Bool :=
  match repository.accountStates.get? route.providerAccountId with
  | none => true
  | some account => account.state != "blocked"

/-- `route_states.get(…).is_none_or(|route_state| route_state.state == "closed")`. -/
def routeClosed (repository : SnapshotRepository) (route : RouteCandidate) : Bool :=
  match repository.routeStates.get? route.routeId with
  | none => true
  | some routeState => routeState.state == "closed"

/-- `route_states.get(…).is_some_and(…)`: open, with a retry time that has come. -/
def routeRetryable (repository : SnapshotRepository) (now : Int) (route : RouteCandidate) : Bool :=
  match repository.routeStates.get? route.routeId with
  | none => false
  | some routeState =>
    routeState.state == "open" && ControlPlane.retryDue routeState.retryAtUnix now

def closedRoutes (repository : SnapshotRepository) : List RouteCandidate :=
  repository.snapshot.routes.filter fun route =>
    repository.accountUsable route && repository.routeClosed route

def retryableRoutes (repository : SnapshotRepository) (now : Int) : List RouteCandidate :=
  repository.snapshot.routes.filter fun route =>
    repository.accountUsable route && repository.routeRetryable now route

/-! ## Methods -/

def authenticate (digest : String → String) (repository : SnapshotRepository)
    (rawKey : String) : Bool :=
  digest rawKey ∈ repository.snapshot.gatewayKeyHashes

/-- Sets the state of a route, if the route has one. -/
def updateRouteState (repository : SnapshotRepository) (routeId : String)
    (f : SnapshotState → SnapshotState) : SnapshotRepository :=
  { repository with routeStates := repository.routeStates.modify routeId f }

/-- Sets the state of an account, if the account has one. -/
def updateAccountState (repository : SnapshotRepository) (accountId : String)
    (f : SnapshotState → SnapshotState) : SnapshotRepository :=
  { repository with accountStates := repository.accountStates.modify accountId f }

/-- Closed routes if they make a plan, otherwise the first retryable one as a probe. -/
def candidates (repository : SnapshotRepository) (now : Int) (logicalModel : String) :
    Except String (List RouteCandidate) × SnapshotRepository :=
  match candidatePlan logicalModel repository.closedRoutes repository.snapshot.fallbacks with
  | .ok routes => (.ok routes, repository)
  | .error _ =>
    match candidatePlan logicalModel (repository.retryableRoutes now)
        repository.snapshot.fallbacks with
    | .error error => (.error error.message, repository)
    | .ok [] => (.error "no route eligible for half-open probe", repository)
    | .ok (probe :: _) =>
      (.ok [probe], repository.updateRouteState probe.routeId fun routeState =>
        { routeState with state := "half_open" })

def recordAttempt (repository : SnapshotRepository) (now : Int) (attempt : AttemptRecord) :
    SnapshotRepository :=
  { repository with usageSpool := repository.usageSpool.append now attempt }

def markRouteSuccess (repository : SnapshotRepository) (routeId : String) :
    SnapshotRepository :=
  repository.updateRouteState routeId fun _ => { state := "closed", retryAtUnix := none }

def markRouteFailure (repository : SnapshotRepository) (routeId : String)
    (failure : ProviderFailure) : SnapshotRepository :=
  if !failure.category.opensRoute then repository
  else repository.updateRouteState routeId fun _ =>
    { state := "open", retryAtUnix := failure.retryAtUnix }

def markAccountFailure (repository : SnapshotRepository) (accountId : String)
    (failure : ProviderFailure) : SnapshotRepository :=
  if !failure.category.blocksAccount then repository
  else repository.updateAccountState accountId fun _ =>
    { state := "blocked", retryAtUnix := failure.retryAtUnix }

/-- `impl ConfigurationRepository for SnapshotRepository`, at the instant of the call. -/
def handle (digest : String → String) (now : Int) :
    (op : RepositoryOp) → SnapshotRepository → Except String op.Output × SnapshotRepository
  | .authenticate rawKey, repository => (.ok (authenticate digest repository rawKey), repository)
  | .candidates logicalModel, repository => candidates repository now logicalModel
  | .recordAttempt attempt, repository => (.ok (), recordAttempt repository now attempt)
  | .markRouteSuccess routeId, repository => (.ok (), markRouteSuccess repository routeId)
  | .markRouteFailure routeId failure, repository =>
    (.ok (), markRouteFailure repository routeId failure)
  | .markAccountFailure accountId failure, repository =>
    (.ok (), markAccountFailure repository accountId failure)

/-! ## What `candidates` returns -/

/-- The closed routes make the plan whenever the model owns one and no cycle is reachable. -/
theorem candidates_closed {repository : SnapshotRepository} {now : Int} {logicalModel : String}
    {plan : List RouteCandidate}
    (h : candidatePlan logicalModel repository.closedRoutes repository.snapshot.fallbacks =
      .ok plan) :
    repository.candidates now logicalModel = (.ok plan, repository) := by
  unfold candidates
  rw [h]

/-- Without a plan of closed routes the result is an error or a single probe. -/
theorem candidates_probe {repository : SnapshotRepository} (now : Int) {logicalModel : String}
    {error : DomainError}
    (h : candidatePlan logicalModel repository.closedRoutes repository.snapshot.fallbacks =
      .error error) :
    (∃ error', candidatePlan logicalModel (repository.retryableRoutes now)
        repository.snapshot.fallbacks = .error error' ∧
      repository.candidates now logicalModel = (.error error'.message, repository)) ∨
    (∃ probe rest, candidatePlan logicalModel (repository.retryableRoutes now)
        repository.snapshot.fallbacks = .ok (probe :: rest) ∧
      repository.candidates now logicalModel = (.ok [probe],
        repository.updateRouteState probe.routeId fun routeState =>
          { routeState with state := "half_open" })) := by
  unfold candidates
  rw [h]
  cases hretry : candidatePlan logicalModel (repository.retryableRoutes now)
      repository.snapshot.fallbacks with
  | error error' => exact Or.inl ⟨error', rfl, rfl⟩
  | ok plan =>
    cases plan with
    | nil => exact absurd rfl (candidatePlan_ne_nil hretry)
    | cons probe rest => exact Or.inr ⟨probe, rest, rfl, rfl⟩

/-- The state after `candidates`: the same, or with a due route half open. -/
theorem candidates_state (repository : SnapshotRepository) (now : Int) (logicalModel : String) :
    (repository.candidates now logicalModel).2 = repository ∨
    ∃ probe ∈ repository.retryableRoutes now, (repository.candidates now logicalModel).2 =
      repository.updateRouteState probe.routeId fun routeState =>
        { routeState with state := "half_open" } := by
  cases hplan : candidatePlan logicalModel repository.closedRoutes
      repository.snapshot.fallbacks with
  | ok plan => exact Or.inl (by rw [candidates_closed hplan])
  | error error =>
    rcases candidates_probe now hplan with ⟨error', -, h⟩ | ⟨probe, rest, hretry, h⟩
    · exact Or.inl (by rw [h])
    · have hretryable := ((mem_candidatePlan hretry probe).mp (by simp)).1
      exact Or.inr ⟨probe, hretryable, by rw [h]⟩

/-- A snapshot offers only closed routes and due ones. -/
theorem offered_cases {repository : SnapshotRepository} {now : Int} {logicalModel : String}
    {routes : List RouteCandidate}
    (h : (repository.candidates now logicalModel).1 = .ok routes) {route : RouteCandidate}
    (hroute : route ∈ routes) :
    route ∈ repository.closedRoutes ∨ route ∈ repository.retryableRoutes now := by
  cases hplan : candidatePlan logicalModel repository.closedRoutes
      repository.snapshot.fallbacks with
  | ok plan =>
    rw [candidates_closed hplan] at h
    cases h
    exact Or.inl ((mem_candidatePlan hplan route).mp hroute).1
  | error error =>
    rcases candidates_probe now hplan with ⟨error', -, hresult⟩ | ⟨probe, rest, hretry, hresult⟩
    · rw [hresult] at h
      cases h
    · rw [hresult] at h
      cases h
      rw [List.mem_singleton] at hroute
      subst hroute
      exact Or.inr ((mem_candidatePlan hretry route).mp (by simp)).1

/-! ## The smallest snapshot -/

/-- A snapshot of the smallest control plane, with the given route states. -/
def oneRoute (routeStates : KeyedTable String SnapshotState) : SnapshotRepository :=
  .new
    { gatewayKeyHashes := ∅
      routes := [ControlPlane.onlyRoute]
      fallbacks := .empty
      routeStates
      accountStates := .single "account" ⟨"available", none⟩ }
    .empty

end SnapshotRepository

end SmartGateway
