import SmartGateway.Storage.Sqlite
import SmartGateway.Storage.PostgresMethods
import SmartGateway.Runtime.Snapshot

/-! # Availability of closed routes

Every repository filters the routes by their state first and plans second, and the planner
takes a model without routes for an unknown one. So a closed route of a fallback model is
offered exactly when some route of the requested model itself passes the filter.

`available_iff_ownsEligible` says so for all three repositories; `closed_fallback_lost` is a configuration
where a closed fallback route is lost in each of them.
-/

namespace SmartGateway

/-- Every closed route of `model` or of its fallbacks is in the answer, if no cycle is
reachable. -/
def Available (fallbacks : FallbackMap) (closed : List RouteCandidate) (model : String)
    (answer : Except String (List RouteCandidate)) : Prop :=
  AcyclicFrom fallbacks model → ∀ route ∈ closed, FallsBackTo fallbacks model route.logicalModel →
    ∃ plan, answer = .ok plan ∧ route ∈ plan

/-- A model that reaches a closed route, and no cycle, owns a route that passes the filter
itself. -/
def OwnsEligible (fallbacks : FallbackMap) (closed eligible : List RouteCandidate)
    (model : String) : Prop :=
  AcyclicFrom fallbacks model →
    (∃ route ∈ closed, FallsBackTo fallbacks model route.logicalModel) → Serves eligible model

/-- The common argument: what an answer must do where the planner succeeds and where it fails. -/
theorem available_iff_of_plan {fallbacks : FallbackMap} {closed eligible : List RouteCandidate}
    {model : String} {answer : Except String (List RouteCandidate)}
    (hplan : ∀ plan, candidatePlan model eligible fallbacks = .ok plan →
      ∀ route ∈ closed, FallsBackTo fallbacks model route.logicalModel →
        ∃ offered, answer = .ok offered ∧ route ∈ offered)
    (hunknown : ¬ Serves eligible model →
      ∀ route ∈ closed, ∀ offered, answer = .ok offered → route ∉ offered) :
    Available fallbacks closed model answer ↔ OwnsEligible fallbacks closed eligible model := by
  constructor
  · intro havailable hacyclic hroute
    obtain ⟨route, hclosed, hreach⟩ := hroute
    by_contra hserves
    obtain ⟨offered, hanswer, hmem⟩ := havailable hacyclic route hclosed hreach
    exact hunknown hserves route hclosed offered hanswer hmem
  · intro howns hacyclic route hclosed hreach
    have hserves := howns hacyclic ⟨route, hclosed, hreach⟩
    obtain ⟨plan, hok⟩ := candidatePlan_ok_iff.mpr ⟨hserves, hacyclic⟩
    exact hplan plan hok route hclosed hreach

/-! ## The two stores -/

/-- The closed routes of the tables: enabled, with a closed circuit, on an enabled account that
is not blocked. -/
def ControlPlane.closedRoutes (db : ControlPlane) : List RouteCandidate :=
  (db.joinedRoutes.filter fun row => row.usable && row.routeState.state == "closed").map
    ControlPlane.JoinedRoute.toCandidate

theorem ControlPlane.mem_closedRoutes {db : ControlPlane} {route : RouteCandidate} :
    route ∈ db.closedRoutes ↔ ∃ row ∈ db.joinedRoutes, row.usable = true ∧
      row.routeState.state = "closed" ∧ row.toCandidate = route := by
  simp only [closedRoutes, List.mem_map, List.mem_filter, Bool.and_eq_true, beq_iff_eq]
  constructor
  · rintro ⟨row, ⟨hrow, husable, hclosed⟩, hroute⟩
    exact ⟨row, hrow, husable, hclosed, hroute⟩
  · rintro ⟨row, hrow, husable, hclosed, hroute⟩
    exact ⟨row, ⟨hrow, husable, hclosed⟩, hroute⟩

theorem Sqlite.offers_closed_iff (db : ControlPlane) (now : Int) (model : String) :
    Available db.fallbackMap db.closedRoutes model (Sqlite.candidates db now model) ↔
      OwnsEligible db.fallbackMap db.closedRoutes (Sqlite.eligibleRoutes db now) model := by
  apply available_iff_of_plan
  · intro plan hplan route hclosed hreach
    refine ⟨plan, by rw [Sqlite.candidates_eq, hplan]; rfl, ?_⟩
    obtain ⟨row, hrow, husable, hstate, rfl⟩ := ControlPlane.mem_closedRoutes.mp hclosed
    have heligible : row.toCandidate ∈ Sqlite.eligibleRoutes db now := by
      apply List.mem_map_of_mem
      rw [List.mem_filter]
      exact ⟨hrow, by simp [Sqlite.eligible, husable, hstate]⟩
    exact (mem_candidatePlan hplan _).mpr ⟨heligible, hreach⟩
  · intro hserves route _ offered hanswer
    rw [Sqlite.candidates_eq, candidatePlan_of_not_serves _ hserves] at hanswer
    cases hanswer

theorem Postgres.offers_closed_iff (digest : String → String) (s : Postgres.Session) (now : Int)
    (leaseId model : String) :
    Available s.db.fallbackMap s.db.closedRoutes model
        (Postgres.handle digest now leaseId (.candidates model) s).1 ↔
      OwnsEligible s.db.fallbackMap s.db.closedRoutes (s.db.eligibleCandidates now model)
        model := by
  have hhandle := Postgres.handle_candidates digest now leaseId model s
  apply available_iff_of_plan
  · intro plan hplan route hclosed hreach
    rw [hplan] at hhandle
    obtain ⟨probe, s', hresult, -, -⟩ := hhandle
    obtain ⟨row, hrow, husable, hstate, rfl⟩ := ControlPlane.mem_closedRoutes.mp hclosed
    have heligible : row ∈ s.db.eligibleRoutes now model := by
      refine List.mem_filter.mpr ⟨hrow, ?_⟩
      have hmodel : row.route.logicalModel ∈ s.db.reachableModels model :=
        Postgres.mem_reachableModels.mpr hreach
      simp [Postgres.eligible, husable, hstate, hmodel]
    have hplanned : row.toCandidate ∈ plan :=
      (mem_candidatePlan hplan _).mpr ⟨List.mem_map_of_mem heligible, hreach⟩
    -- the route was read closed, so the selection keeps it
    have hkept : row.toCandidate ∈
        Postgres.closedRoutes (Postgres.readStates (s.db.eligibleRoutes now model)) plan := by
      refine List.mem_filter.mpr ⟨hplanned, ?_⟩
      have hread := Postgres.get?_readStates_eligibleRoutes heligible
      rw [hstate] at hread
      exact decide_eq_true hread
    have hoffered : row.toCandidate ∈ probe.toList ++
        Postgres.closedRoutes (Postgres.readStates (s.db.eligibleRoutes now model)) plan :=
      List.mem_append_right _ hkept
    refine ⟨_, ?_, hoffered⟩
    rw [hresult, if_neg]
    intro hempty
    rw [List.isEmpty_iff] at hempty
    rw [hempty] at hoffered
    cases hoffered
  · intro hserves route _ offered hanswer
    rw [candidatePlan_of_not_serves _ hserves] at hhandle
    rw [hhandle] at hanswer
    cases hanswer

/-! ## The snapshot -/

theorem SnapshotRepository.not_retryable_of_closed {repository : SnapshotRepository} {now : Int}
    {route : RouteCandidate} (hclosed : route ∈ repository.closedRoutes) :
    route ∉ repository.retryableRoutes now := by
  intro hretryable
  have hc := (Bool.and_eq_true_iff.mp (List.mem_filter.mp hclosed).2).2
  have hr := (Bool.and_eq_true_iff.mp (List.mem_filter.mp hretryable).2).2
  unfold routeClosed at hc
  unfold routeRetryable at hr
  cases hstate : repository.routeStates.get? route.routeId with
  | none =>
    rw [hstate] at hr
    cases hr
  | some routeState =>
    rw [hstate] at hc hr
    simp only [beq_iff_eq, Bool.and_eq_true] at hc hr
    rw [hc] at hr
    exact absurd hr.1 (by decide)

theorem SnapshotRepository.offers_closed_iff (repository : SnapshotRepository) (now : Int)
    (model : String) :
    Available repository.snapshot.fallbacks repository.closedRoutes model
        (repository.candidates now model).1 ↔
      OwnsEligible repository.snapshot.fallbacks repository.closedRoutes repository.closedRoutes
        model := by
  apply available_iff_of_plan
  · intro plan hplan route hclosed hreach
    refine ⟨plan, by rw [candidates_closed hplan], ?_⟩
    exact (mem_candidatePlan hplan _).mpr ⟨hclosed, hreach⟩
  · intro hserves route hclosed offered hanswer hmem
    rcases candidates_probe now (candidatePlan_of_not_serves _ hserves) with
      ⟨error, -, hresult⟩ | ⟨probe, rest, hplan, hresult⟩
    · rw [hresult] at hanswer
      cases hanswer
    · -- the only route offered is a retryable one
      rw [hresult, Except.ok.injEq] at hanswer
      rw [← hanswer, List.mem_singleton] at hmem
      subst hmem
      have hretryable := ((mem_candidatePlan hplan route).mp (by simp)).1
      exact not_retryable_of_closed hclosed hretryable

/-! ## All three repositories -/

/-- In each repository, every closed route that is reachable without a cycle is offered if and
only if the requested model owns, in that case, a route that passes the repository's own filter:
the eligibility predicate of the two stores, the closed routes of the snapshot. -/
theorem available_iff_ownsEligible (db : ControlPlane) (s : Postgres.Session)
    (repository : SnapshotRepository) (digest : String → String) (now : Int)
    (leaseId model : String) :
    (Available db.fallbackMap db.closedRoutes model (Sqlite.candidates db now model) ↔
      OwnsEligible db.fallbackMap db.closedRoutes (Sqlite.eligibleRoutes db now) model) ∧
    (Available s.db.fallbackMap s.db.closedRoutes model
        (Postgres.handle digest now leaseId (.candidates model) s).1 ↔
      OwnsEligible s.db.fallbackMap s.db.closedRoutes (s.db.eligibleCandidates now model)
        model) ∧
    (Available repository.snapshot.fallbacks repository.closedRoutes model
        (repository.candidates now model).1 ↔
      OwnsEligible repository.snapshot.fallbacks repository.closedRoutes
        repository.closedRoutes model) :=
  ⟨Sqlite.offers_closed_iff db now model, Postgres.offers_closed_iff digest s now leaseId model,
    SnapshotRepository.offers_closed_iff repository now model⟩

/-! ## A closed fallback route that is lost -/

namespace Outage

/-- Two models on one account; the only route of `primary` is open, that of its fallback
`backup` is closed. -/
def db : ControlPlane :=
  { ControlPlane.oneRoute ⟨"closed", none, none⟩ with
    logicalModels := ⟨[("primary", true), ("backup", true)], by decide⟩
    providerRoutes := ⟨[
      ("first", ⟨"primary", "account", "upstream", 1, true⟩),
      ("second", ⟨"backup", "account", "upstream", 1, true⟩)], by decide⟩
    modelFallbacks := .single ("primary", 1) "backup"
    providerRouteState := ⟨[
      ("first", ⟨"open", some "RateLimited", none⟩),
      ("second", ⟨"closed", none, none⟩)], by decide⟩
    routePriorityUnique := by decide
    routeReferences := by decide
    fallbackReferences := by decide
    routeStateReferences := by decide }

def session : Postgres.Session where
  db :=
    { db with
      probeLeases := .empty
      routeStateCheck := by decide
      accountStateCheck := by decide
      leaseReferences := by decide }
  probeLeases := .empty

/-- The closed route of the fallback model. -/
def lost : RouteCandidate where
  routeId := "second"
  logicalModel := "backup"
  providerAccountId := "account"
  provider := "openai-compatible"
  credentialRef := .envKey
  baseUrl := "https://provider.test"
  upstreamModel := "upstream"
  priority := 1

/-- The open route of the requested model. -/
def waiting : RouteCandidate :=
  { lost with routeId := "first", logicalModel := "primary" }

/-- The same configuration in a snapshot. -/
def repository : SnapshotRepository :=
  .new
    { gatewayKeyHashes := ∅
      routes := [waiting, lost]
      fallbacks := db.fallbackMap
      routeStates := ⟨[("first", ⟨"open", none⟩), ("second", ⟨"closed", none⟩)], by decide⟩
      accountStates := .single "account" ⟨"available", none⟩ }
    .empty

theorem acyclicFrom_primary : AcyclicFrom db.fallbackMap "primary" := by
  have hsources : ∀ a, nextModels db.fallbackMap a ≠ [] → a ∈ sourceModels db.fallbackMap :=
    fun _ h => mem_sourceModels h
  exact (DepthFirst.explore_ok_iff hsources "primary").mp ⟨_, rfl⟩

/-- Nothing is available if an error is returned although a closed route is reachable. -/
theorem not_available {closed : List RouteCandidate} {error : String} (hlost : lost ∈ closed) :
    ¬ Available db.fallbackMap closed "primary" (.error error) := by
  intro h
  have hreach : FallsBackTo db.fallbackMap "primary" lost.logicalModel :=
    .single (by decide : "backup" ∈ nextModels db.fallbackMap "primary")
  obtain ⟨plan, hanswer, -⟩ := h acyclicFrom_primary lost hlost hreach
  cases hanswer

/-- While the route of the requested model is open, no repository offers the closed route of
its fallback: each reports the model as unknown. -/
theorem closed_fallback_lost :
    ¬ Available db.fallbackMap db.closedRoutes "primary" (Sqlite.candidates db 0 "primary") ∧
    ¬ Available session.db.fallbackMap session.db.closedRoutes "primary"
      (Postgres.handle id 0 "lease" (.candidates "primary") session).1 ∧
    ¬ Available repository.snapshot.fallbacks repository.closedRoutes "primary"
      (repository.candidates 0 "primary").1 :=
  ⟨not_available (by decide), not_available (by decide), not_available (by decide)⟩

end Outage

end SmartGateway
