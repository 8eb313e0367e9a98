import SmartGateway.Storage.Parity

/-! # Probes in SQLite mode

`candidates` only reads, so a route that was returned as a probe stays as it was until a mark
changes it: open and due. Every later call whose model can be planned over the route returns it
again. The probe is single exactly in the runs where no such call comes in between.
-/

namespace SmartGateway

namespace Sqlite

/-- The store as a repository with atomic methods. -/
def atomic (digest : String → String) : AtomicRepository ControlPlane :=
  fun now op db => handle digest now op db

/-- A mark that records the outcome of a probe of the route. -/
def Settles (routeId accountId : String) : RepositoryOp → Prop
  | .markRouteSuccess routeId' => routeId' = routeId
  | .markRouteFailure routeId' _ => routeId' = routeId
  | .markAccountFailure accountId' _ => accountId' = accountId
  | _ => False

/-- The circuit of the route is open, and its retry time has come. -/
def OpenAndDue (db : ControlPlane) (now : Int) (routeId : String) : Prop :=
  ∃ row retryAt, db.providerRouteState.get? routeId = some row ∧ row.state = "open" ∧
    row.retryAt = some retryAt ∧ retryAt ≤ now

/-- After a call has returned a route that was open and due, no later call returns the route
before the outcome of the probe was recorded. -/
def SingleProbe (digest : String → String) (db : ControlPlane)
    (calls : List (Int × RepositoryOp)) : Prop :=
  ∀ before now logicalModel between now' logicalModel' later probe routes routes',
    calls = before ++ (now, .candidates logicalModel) ::
      (between ++ (now', .candidates logicalModel') :: later) →
    candidates ((atomic digest).after before db) now logicalModel = .ok routes →
    probe ∈ routes → OpenAndDue ((atomic digest).after before db) now probe.routeId →
    (∀ call ∈ between, ¬ Settles probe.routeId probe.providerAccountId call.2) →
    candidates ((atomic digest).after (before ++ (now, .candidates logicalModel) :: between) db)
      now' logicalModel' = .ok routes' →
    ∀ route ∈ routes', route.routeId ≠ probe.routeId

/-- The model has a plan that routes of the target model are part of. -/
structure PlansOver (db : ControlPlane) (now : Int) (logicalModel target : String) : Prop where
  acyclic : AcyclicFrom db.fallbackMap logicalModel
  reaches : FallsBackTo db.fallbackMap logicalModel target
  owns : ∃ row ∈ db.joinedRoutes, eligible now row = true ∧
    row.route.logicalModel = logicalModel

/-- While a route is out as a probe, no call comes whose model is planned over the route and
whose clock has reached its retry time. -/
def ProbesApart (digest : String → String) (db : ControlPlane)
    (calls : List (Int × RepositoryOp)) : Prop :=
  ∀ before now logicalModel between now' logicalModel' later row retryAt,
    calls = before ++ (now, .candidates logicalModel) ::
      (between ++ (now', .candidates logicalModel') :: later) →
    row ∈ ((atomic digest).after before db).joinedRoutes → row.usable = true →
    row.routeState.state = "open" → row.routeState.retryAt = some retryAt → retryAt ≤ now →
    PlansOver ((atomic digest).after before db) now logicalModel row.route.logicalModel →
    (∀ call ∈ between, ¬ Settles row.routeId row.route.providerAccountId call.2) →
    retryAt ≤ now' →
    ¬ PlansOver ((atomic digest).after (before ++ (now, .candidates logicalModel) :: between) db)
      now' logicalModel' row.route.logicalModel

/-! ## One call -/

section Call

variable {db : ControlPlane} {now : Int} {logicalModel : String}
  {row : ControlPlane.JoinedRoute}

/-- What `candidates` returns, row by row. -/
theorem candidates_ok_iff {route : RouteCandidate} :
    (∃ routes, candidates db now logicalModel = .ok routes ∧ route ∈ routes) ↔
      ∃ row ∈ db.joinedRoutes, eligible now row = true ∧ row.toCandidate = route ∧
        PlansOver db now logicalModel row.route.logicalModel := by
  rw [candidates_eq]
  constructor
  · rintro ⟨routes, hroutes, hroute⟩
    cases hplan : candidatePlan logicalModel (eligibleRoutes db now) db.fallbackMap with
    | error error =>
      rw [hplan] at hroutes
      cases hroutes
    | ok plan =>
      rw [hplan] at hroutes
      cases hroutes
      obtain ⟨hserves, hacyclic⟩ := candidatePlan_ok_iff.mp ⟨_, hplan⟩
      obtain ⟨hroute, hreaches⟩ := (mem_candidatePlan hplan route).mp hroute
      obtain ⟨row, hrow, heligible, rfl⟩ := mem_eligibleRoutes.mp hroute
      obtain ⟨own, hown, hmodel⟩ := hserves
      obtain ⟨owned, howned, heligible', rfl⟩ := mem_eligibleRoutes.mp hown
      exact ⟨row, hrow, heligible, rfl, hacyclic, hreaches, owned, howned, heligible', hmodel⟩
  · rintro ⟨row, hrow, heligible, rfl, hacyclic, hreaches, own, hown, heligible', hmodel⟩
    have hserves : Serves (eligibleRoutes db now) logicalModel :=
      ⟨own.toCandidate, mem_eligibleRoutes.mpr ⟨own, hown, heligible', rfl⟩, hmodel⟩
    obtain ⟨plan, hplan⟩ := candidatePlan_ok_iff.mpr ⟨hserves, hacyclic⟩
    refine ⟨plan, by rw [hplan]; rfl, (mem_candidatePlan hplan _).mpr ⟨?_, hreaches⟩⟩
    exact mem_eligibleRoutes.mpr ⟨row, hrow, heligible, rfl⟩

/-- A call that settles nothing of a route leaves its row alone. -/
theorem joined_handle {op : RepositoryOp} (digest : String → String) (now : Int)
    (hop : ¬ Settles row.routeId row.route.providerAccountId op) (hrow : row ∈ db.joinedRoutes) :
    row ∈ (handle digest now op db).2.joinedRoutes := by
  obtain ⟨hroute, haccount, hstate, haccountState⟩ := ControlPlane.mem_joinedRoutes.mp hrow
  cases op with
  | authenticate rawKey => exact hrow
  | candidates logicalModel => exact hrow
  | recordAttempt attempt =>
    show row ∈ (recordAttempt db now attempt).2.joinedRoutes
    rw [recordAttempt_tables]
    exact hrow
  | markRouteSuccess routeId =>
    refine ControlPlane.mem_joinedRoutes.mpr ⟨hroute, haccount, ?_, haccountState⟩
    show (db.providerRouteState.modify routeId _).get? row.routeId = _
    rw [KeyedTable.get?_modify_ne _ _ fun hid => hop hid.symm, hstate]
  | markRouteFailure routeId failure =>
    refine ControlPlane.mem_joinedRoutes.mpr ⟨hroute, haccount, ?_, haccountState⟩
    show (db.providerRouteState.modify routeId _).get? row.routeId = _
    rw [KeyedTable.get?_modify_ne _ _ fun hid => hop hid.symm, hstate]
  | markAccountFailure accountId failure =>
    refine ControlPlane.mem_joinedRoutes.mpr ⟨hroute, haccount, hstate, ?_⟩
    show (db.providerAccountState.modify accountId _).get? row.route.providerAccountId = _
    rw [KeyedTable.get?_modify_ne _ _ fun hid => hop hid.symm, haccountState]

/-- The row of a route that is open and due. -/
theorem OpenAndDue.of_row {retryAt : Int} (hrow : row ∈ db.joinedRoutes)
    (hopen : row.routeState.state = "open") (hretry : row.routeState.retryAt = some retryAt)
    (hdue : retryAt ≤ now) : OpenAndDue db now row.routeId :=
  ⟨row.routeState, retryAt, (ControlPlane.mem_joinedRoutes.mp hrow).2.2.1, hopen, hretry, hdue⟩

/-- A usable row whose retry time has come is eligible. -/
theorem eligible_of_due {retryAt : Int} (husable : row.usable = true)
    (hretry : row.routeState.retryAt = some retryAt) (hdue : retryAt ≤ now) :
    eligible now row = true := by
  rw [eligible, husable, hretry]
  simp [ControlPlane.retryDue, hdue]

end Call

/-! ## Runs -/

/-- The row of a route outlives the calls that settle nothing of it. -/
theorem joined_after {row : ControlPlane.JoinedRoute} (digest : String → String)
    {calls : List (Int × RepositoryOp)} {db : ControlPlane}
    (hcalls : ∀ call ∈ calls, ¬ Settles row.routeId row.route.providerAccountId call.2)
    (hrow : row ∈ db.joinedRoutes) : row ∈ ((atomic digest).after calls db).joinedRoutes :=
  AtomicRepository.after_preserves (I := fun db : ControlPlane => row ∈ db.joinedRoutes)
    (fun op => ¬ Settles row.routeId row.route.providerAccountId op)
    (fun now _ _ hrow hop => joined_handle digest now hop hrow) hcalls hrow

/-- A probe is single exactly in the runs that keep probes apart. -/
theorem single_probe_iff (digest : String → String) (db : ControlPlane)
    (calls : List (Int × RepositoryOp)) :
    SingleProbe digest db calls ↔ ProbesApart digest db calls := by
  constructor
  · intro hsingle before now logicalModel between now' logicalModel' later row retryAt hcalls hrow
      husable hopen hretry hdue hplans hbetween hdue' hplans'
    obtain ⟨routes, hroutes, hprobe⟩ := candidates_ok_iff.mpr
      ⟨row, hrow, eligible_of_due husable hretry hdue, rfl, hplans⟩
    -- The row is still what it was when the second call comes.
    have hlater : row ∈ ((atomic digest).after
        (before ++ (now, .candidates logicalModel) :: between) db).joinedRoutes := by
      rw [AtomicRepository.after_append]
      show row ∈ ((atomic digest).after between _).joinedRoutes
      exact joined_after digest hbetween hrow
    obtain ⟨routes', hroutes', hagain⟩ := candidates_ok_iff.mpr
      ⟨row, hlater, eligible_of_due husable hretry hdue', rfl, hplans'⟩
    exact hsingle before now logicalModel between now' logicalModel' later row.toCandidate routes
      routes' hcalls hroutes hprobe (.of_row hrow hopen hretry hdue) hbetween hroutes' _ hagain rfl
  · intro hapart before now logicalModel between now' logicalModel' later probe routes routes'
      hcalls hroutes hprobe hopenAndDue hbetween hroutes' route hroute hsame
    obtain ⟨row, hrow, heligible, rfl, hplans⟩ := candidates_ok_iff.mp ⟨routes, hroutes, hprobe⟩
    obtain ⟨state, retryAt, hstate, hopen, hretry, hdue⟩ := hopenAndDue
    have hrowState : row.routeState = state :=
      Option.some.inj ((ControlPlane.mem_joinedRoutes.mp hrow).2.2.1.symm.trans hstate)
    subst hrowState
    have husable : row.usable = true := ((Bool.and_eq_true _ _).mp heligible).1
    have hlater : row ∈ ((atomic digest).after
        (before ++ (now, .candidates logicalModel) :: between) db).joinedRoutes := by
      rw [AtomicRepository.after_append]
      show row ∈ ((atomic digest).after between _).joinedRoutes
      exact joined_after digest hbetween hrow
    -- The route the second call has returned is read from the same row.
    obtain ⟨row', hrow', heligible', hid, hplans'⟩ := candidates_ok_iff.mp
      ⟨routes', hroutes', hroute⟩
    have hrows : row' = row := by
      refine ControlPlane.joinedRoutes_unique hrow' hlater ?_
      rw [← hid] at hsame
      exact hsame
    subst hrows
    have hdue' : retryAt ≤ now' := by
      have hcircuit := ((Bool.and_eq_true _ _).mp heligible').2
      rw [hopen, hretry] at hcircuit
      simpa [ControlPlane.retryDue] using hcircuit
    exact hapart before now logicalModel between now' logicalModel' later row' retryAt hcalls hrow
      husable hopen hretry hdue hplans hbetween hdue' hplans'

/-- Two requests that overlap are both sent to the route that is to be probed. -/
theorem probed_twice :
    ¬ SingleProbe id (.oneRoute ⟨"open", some "RateLimited", some 0⟩)
      [(1, .candidates "model"), (1, .candidates "model")] := by
  intro hsingle
  refine hsingle [] 1 "model" [] 1 "model" [] ControlPlane.onlyRoute [ControlPlane.onlyRoute]
    [ControlPlane.onlyRoute] rfl rfl List.mem_cons_self ?_ ?_ rfl ControlPlane.onlyRoute
    List.mem_cons_self rfl
  · exact ⟨_, 0, rfl, rfl, rfl, by decide⟩
  · exact fun call hcall => absurd hcall List.not_mem_nil

end Sqlite

end SmartGateway
