import Mathlib.Logic.Relation
import SmartGateway.Runtime.StateView

/-! # Stores that offer routes

What the three repositories have in common for one route: a row with its circuit, and a
`candidates` that offers a configured route once its circuit is closed or due. `RouteStore` states
it once, with the laws as fields; `sqlite`, `postgres` and `snapshot` are the three stores.
-/

namespace SmartGateway

/-! ## Waiting routes -/

/-- The account of the route is not blocked. -/
def StateView.AccountUsable (v : StateView) (route : RouteCandidate) : Prop :=
  ∃ state, v.account route.providerAccountId = some state ∧ state ≠ "blocked"

/-- The account of the route is usable, and its circuit is closed, or open or half open with
retry time `t`. -/
def StateView.Waiting (v : StateView) (route : RouteCandidate) (t : Int) : Prop :=
  v.AccountUsable route ∧ ∃ state retryAt, v.route route.routeId = some (state, retryAt) ∧
    (state = "closed" ∨ (state = "open" ∨ state = "half_open") ∧ retryAt = some t)

/-- A failure of the route or of its account. -/
def RepositoryOp.Disturbs (route : RouteCandidate) : RepositoryOp → Prop
  | .markRouteFailure routeId _ => routeId = route.routeId
  | .markAccountFailure accountId _ => accountId = route.providerAccountId
  | _ => False

namespace StateView

variable {writes : ProviderFailure → Bool} {v v' : StateView} {op : RepositoryOp}
  {route : RouteCandidate}

theorem Step.accountUsable (h : Step writes op v v')
    (hop : ∀ failure, op ≠ .markAccountFailure route.providerAccountId failure)
    (husable : v.AccountUsable route) : v'.AccountUsable route := by
  obtain ⟨state, hstate, hne⟩ := husable
  cases h with
  | read _ hprobes => exact ⟨state, by rw [hprobes.1]; exact hstate, hne⟩
  | success routeId => exact ⟨state, hstate, hne⟩
  | failure routeId => exact ⟨state, hstate, hne⟩
  | failureIgnored routeId => exact ⟨state, hstate, hne⟩
  | block accountId failure =>
    refine ⟨state, ?_, hne⟩
    rw [account_block, if_neg (fun h => hop failure (by rw [h]))]
    exact hstate
  | blockIgnored accountId => exact ⟨state, hstate, hne⟩

theorem not_account_failure (hop : ¬ op.Disturbs route) (failure : ProviderFailure) :
    op ≠ .markAccountFailure route.providerAccountId failure := by
  rintro rfl
  exact hop rfl

/-- The row of a route is never deleted. -/
theorem Step.route_ne_none (h : Step writes op v v') {routeId : String}
    (hrow : v.route routeId ≠ none) : v'.route routeId ≠ none := by
  have hset : ∀ routeId' circuit, (v.setRoute routeId' circuit).route routeId ≠ none := by
    intro routeId' circuit
    rw [route_setRoute]
    split
    · simpa using hrow
    · exact hrow
  cases h with
  | read _ hprobes =>
    rcases hprobes.2 routeId with hsame | ⟨_, _, -, -, hprobed⟩
    · rwa [hsame]
    · rw [hprobed]
      simp
  | success routeId' => exact hset routeId' _
  | failure routeId' => exact hset routeId' _
  | failureIgnored routeId' => exact hrow
  | block accountId failure => exact hrow
  | blockIgnored accountId => exact hrow

/-- A waiting route goes on waiting until its next failure. -/
theorem Step.waiting (h : Step writes op v v') (hop : ¬ op.Disturbs route) {t : Int}
    (hwaiting : v.Waiting route t) : v'.Waiting route t := by
  refine ⟨h.accountUsable (not_account_failure hop) hwaiting.1, ?_⟩
  obtain ⟨-, state, retryAt, hrow, hcircuit⟩ := hwaiting
  cases h with
  | read _ hprobes =>
    rcases hprobes.2 route.routeId with hsame | ⟨old, retryAt', hold, hopen, hprobed⟩
    · exact ⟨state, retryAt, by rw [hsame]; exact hrow, hcircuit⟩
    · rw [hrow, Option.some.injEq, Prod.mk.injEq] at hold
      obtain ⟨rfl, rfl⟩ := hold
      exact ⟨"half_open", retryAt, hprobed,
        Or.inr ⟨Or.inr rfl, (hcircuit.resolve_left hopen).2⟩⟩
  | success routeId =>
    by_cases hid : route.routeId = routeId
    · exact ⟨"closed", none, by rw [route_setRoute, if_pos hid, hrow]; rfl, Or.inl rfl⟩
    · exact ⟨state, retryAt, by rw [route_setRoute_ne _ hid]; exact hrow, hcircuit⟩
  | failure routeId =>
    have hid : route.routeId ≠ routeId := fun h => hop h.symm
    exact ⟨state, retryAt, by rw [route_setRoute_ne _ hid]; exact hrow, hcircuit⟩
  | failureIgnored routeId => exact ⟨state, retryAt, hrow, hcircuit⟩
  | block accountId failure => exact ⟨state, retryAt, hrow, hcircuit⟩
  | blockIgnored accountId => exact ⟨state, retryAt, hrow, hcircuit⟩

/-- After a failure that is written down, the row of the route is open with its retry time. -/
theorem Step.route_failed {failure : ProviderFailure}
    (h : Step writes (.markRouteFailure route.routeId failure) v v')
    (hwrites : writes failure = true) (hrow : v.route route.routeId ≠ none) :
    v'.route route.routeId = some ("open", failure.retryAtUnix) := by
  obtain ⟨circuit, hcircuit⟩ := Option.ne_none_iff_exists'.mp hrow
  cases h with
  | read hop _ => exact absurd hop id
  | failure _ _ _ =>
    rw [route_setRoute, if_pos rfl, hcircuit]
    rfl
  | failureIgnored _ _ hignored =>
    rw [hwrites] at hignored
    cases hignored

/-- A waiting route is due from its retry time on. -/
theorem Waiting.due {t now : Int} (h : v.Waiting route t) (hnow : t ≤ now) :
    v.AccountUsable route ∧ ∃ state retryAt, v.route route.routeId = some (state, retryAt) ∧
      (state = "closed" ∨
        (state = "open" ∨ state = "half_open") ∧ ControlPlane.retryDue retryAt now = true) := by
  obtain ⟨haccount, state, retryAt, hrow, hcircuit⟩ := h
  refine ⟨haccount, state, retryAt, hrow, hcircuit.imp_right fun ⟨hstate, hretry⟩ => ⟨hstate, ?_⟩⟩
  rw [hretry]
  exact decide_eq_true hnow

end StateView

/-! ## Stores -/

/-- What a call of a repository draws besides the instant. -/
structure CallSetting where
  digest : String → String
  leaseId : String

/-- A repository as far as one route is concerned. `Call` is a call of any client. -/
structure RouteStore (σ : Type) where
  handle : CallSetting → Int → (op : RepositoryOp) → σ → Except String op.Output × σ
  Call : RepositoryOp → σ → σ → Prop
  view : σ → StateView
  Configured : RouteCandidate → σ → Prop
  Offers : Int → RouteCandidate → σ → Prop
  handle_call : ∀ setting now op s, Call op s (handle setting now op s).2
  step : ∀ {op s s'}, Call op s s' → ∃ writes, (∀ failure, opens failure = true →
    writes failure = true) ∧ StateView.Step writes op (view s) (view s')
  configured : ∀ {op s s' route}, Call op s s' → Configured route s → Configured route s'
  offers : ∀ {s route t now}, Configured route s → (view s).Waiting route t → t ≤ now →
    Offers now route s

namespace RouteStore

variable {σ : Type} (store : RouteStore σ)

/-- The route is configured, has a row, and its account is not blocked. -/
structure Usable (route : RouteCandidate) (s : σ) : Prop where
  configured : store.Configured route s
  row : (store.view s).route route.routeId ≠ none
  account : (store.view s).AccountUsable route

/-- Calls of any clients, none of which is a failure of the route or of its account. -/
def Undisturbed (route : RouteCandidate) : σ → σ → Prop :=
  Relation.ReflTransGen fun s s' => ∃ op, ¬ op.Disturbs route ∧ store.Call op s s'

/-- The row of the route has a finite retry time, and as long as no failure disturbs the route,
it is offered at every instant from then on. -/
def Recovers (route : RouteCandidate) (s : σ) : Prop :=
  ∃ state t, (store.view s).route route.routeId = some (state, some t) ∧
    ∀ s', store.Undisturbed route s s' → ∀ now, t ≤ now → store.Offers now route s'

variable {store} {route : RouteCandidate} {s s' : σ}

theorem Usable.call {op : RepositoryOp} (h : store.Usable route s) (hcall : store.Call op s s')
    (hop : ¬ op.Disturbs route) : store.Usable route s' := by
  obtain ⟨writes, -, hstep⟩ := store.step hcall
  exact ⟨store.configured hcall h.configured, hstep.route_ne_none h.row,
    hstep.accountUsable (StateView.not_account_failure hop) h.account⟩

/-- A waiting route is offered from its retry time on, as long as nothing disturbs it. -/
theorem offers_of_waiting {t now : Int} (hconfigured : store.Configured route s)
    (hwaiting : (store.view s).Waiting route t) (hcalls : store.Undisturbed route s s')
    (hnow : t ≤ now) : store.Offers now route s' := by
  have hkept : store.Configured route s' ∧ (store.view s').Waiting route t := by
    induction hcalls with
    | refl => exact ⟨hconfigured, hwaiting⟩
    | tail _ hcall ih =>
      obtain ⟨op, hop, hcall⟩ := hcall
      obtain ⟨writes, -, hstep⟩ := store.step hcall
      exact ⟨store.configured hcall ih.1, hstep.waiting hop ih.2⟩
  exact store.offers hkept.1 hkept.2 hnow

/-- Once a failure of its circuit is marked, a usable route recovers exactly if the failure has
a retry time. -/
theorem recovers_failed_iff {failure : ProviderFailure} (h : store.Usable route s)
    (hopens : opens failure = true)
    (hcall : store.Call (.markRouteFailure route.routeId failure) s s') :
    store.Recovers route s' ↔ failure.retryAtUnix ≠ none := by
  obtain ⟨writes, hwrites, hstep⟩ := store.step hcall
  have hrow := hstep.route_failed (hwrites failure hopens) h.row
  constructor
  · rintro ⟨state, t, hfound, -⟩
    rw [hrow, Option.some.injEq, Prod.mk.injEq] at hfound
    rw [hfound.2]
    simp
  · intro hretry
    obtain ⟨t, ht⟩ := Option.ne_none_iff_exists'.mp hretry
    rw [ht] at hrow
    refine ⟨"open", t, hrow, ?_⟩
    intro s'' hcalls now hnow
    have haccount : (store.view s').AccountUsable route :=
      hstep.accountUsable (fun _ => by simp) h.account
    have hwaiting : (store.view s').Waiting route t :=
      ⟨haccount, "open", some t, hrow, Or.inr ⟨Or.inl rfl, rfl⟩⟩
    exact offers_of_waiting (store.configured hcall h.configured) hwaiting hcalls hnow

end RouteStore

/-! ## Configured routes of the tables -/

namespace ControlPlane

/-- The route and its account are enabled rows of the tables. -/
def Configured (route : RouteCandidate) (db : ControlPlane) : Prop :=
  ∃ row : JoinedRoute, row.toCandidate = route ∧
    db.providerRoutes.get? row.routeId = some row.route ∧
    db.providerAccounts.get? row.route.providerAccountId = some row.account ∧
    row.route.enabled = true ∧ row.account.enabled = true

theorem Configured.of_eq {route : RouteCandidate} {db db' : ControlPlane}
    (h : db.Configured route) (hroutes : db'.providerRoutes = db.providerRoutes)
    (haccounts : db'.providerAccounts = db.providerAccounts) : db'.Configured route := by
  obtain ⟨row, hcandidate, hroute, haccount, henabled⟩ := h
  exact ⟨row, hcandidate, by rw [hroutes]; exact hroute, by rw [haccounts]; exact haccount,
    henabled⟩

/-- A configured route with a row, on a usable account, is a usable row of the join. -/
theorem Configured.joined {route : RouteCandidate} {db : ControlPlane}
    (h : db.Configured route) (haccount : db.view.AccountUsable route) {state : String}
    {retryAt : Option Int} (hrow : db.view.route route.routeId = some (state, retryAt)) :
    ∃ row ∈ db.joinedRoutes, row.toCandidate = route ∧ row.usable = true ∧
      row.routeState.state = state ∧ row.routeState.retryAt = retryAt := by
  obtain ⟨row, rfl, hroute, hprovider, henabled, hprovided⟩ := h
  obtain ⟨accountState, haccountState, hne⟩ := haccount
  obtain ⟨accountRow, haccountRow, hstate⟩ := Option.map_eq_some_iff.mp haccountState
  obtain ⟨routeRow, hrouteRow, hcircuit⟩ := Option.map_eq_some_iff.mp hrow
  rw [Prod.mk.injEq] at hcircuit
  refine ⟨{ row with routeState := routeRow, accountState := accountRow }, ?_, rfl, ?_,
    hcircuit⟩
  · exact mem_joinedRoutes.mpr ⟨hroute, hprovider, hrouteRow, haccountRow⟩
  · simp [JoinedRoute.usable, henabled, hprovided, hstate, hne]

end ControlPlane

/-! ## SQLite -/

namespace Sqlite

/-- `candidates` returns the route for its model, if no fallback cycle is in the way. -/
def Offers (now : Int) (route : RouteCandidate) (db : ControlPlane) : Prop :=
  AcyclicFrom db.fallbackMap route.logicalModel →
    ∃ offered, candidates db now route.logicalModel = .ok offered ∧ route ∈ offered

theorem handle_tables (digest : String → String) (now : Int) (op : RepositoryOp)
    (db : ControlPlane) : (handle digest now op db).2.providerRoutes = db.providerRoutes ∧
      (handle digest now op db).2.providerAccounts = db.providerAccounts := by
  cases op with
  | recordAttempt attempt =>
    change (recordAttempt db now attempt).2.providerRoutes = _ ∧
      (recordAttempt db now attempt).2.providerAccounts = _
    rw [recordAttempt_tables]
    exact ⟨rfl, rfl⟩
  | _ => exact ⟨rfl, rfl⟩

theorem offers_due {route : RouteCandidate} {db : ControlPlane} {t now : Int}
    (h : db.Configured route) (hwaiting : db.view.Waiting route t) (hnow : t ≤ now) :
    Offers now route db := by
  intro hacyclic
  obtain ⟨haccount, state, retryAt, hrow, hcircuit⟩ := hwaiting.due hnow
  obtain ⟨row, hjoined, hcandidate, husable, hstate, hretry⟩ := h.joined haccount hrow
  have heligible : route ∈ eligibleRoutes db now := by
    rw [← hcandidate]
    apply List.mem_map_of_mem
    rw [List.mem_filter]
    refine ⟨hjoined, ?_⟩
    rw [← hstate, ← hretry] at hcircuit
    rcases hcircuit with hclosed | ⟨-, hdue⟩
    · simp [eligible, husable, hclosed]
    · simp [eligible, husable, hdue]
  obtain ⟨plan, hplan⟩ := candidatePlan_ok_iff.mpr ⟨⟨route, heligible, rfl⟩, hacyclic⟩
  refine ⟨plan, by rw [candidates_eq, hplan]; rfl, ?_⟩
  exact (mem_candidatePlan hplan route).mpr ⟨heligible, .refl⟩

def store : RouteStore ControlPlane where
  handle setting := handle setting.digest
  Call op db db' := ∃ digest now, db' = (handle digest now op db).2
  view := ControlPlane.view
  Configured := fun route db => db.Configured route
  Offers := Offers
  handle_call := fun setting now _ _ => ⟨setting.digest, now, rfl⟩
  step := by
    rintro op db _ ⟨digest, now, rfl⟩
    exact ⟨_, fun _ _ => rfl, viewStep digest now op db⟩
  configured := by
    rintro op db _ route ⟨digest, now, rfl⟩ h
    have htables := handle_tables digest now op db
    exact h.of_eq htables.1 htables.2
  offers := offers_due

end Sqlite

/-! ## PostgreSQL -/

namespace Postgres

/-- The route is in the plan for its model, and `candidates` returns it or a route before it,
unless a probe of the route is outstanding. -/
def Offers (now : Int) (route : RouteCandidate) (s : Session) : Prop :=
  AcyclicFrom s.db.fallbackMap route.logicalModel →
    ∃ before after, candidatePlan route.logicalModel
        (s.db.eligibleCandidates now route.logicalModel) s.db.fallbackMap =
      .ok (before ++ route :: after) ∧
      (s.ProbeTaken now route.routeId ∨ ∀ digest leaseId, ∃ offered,
        (handle digest now leaseId (.candidates route.logicalModel) s).1 = .ok offered ∧
        (route ∈ offered ∨ ∃ earlier ∈ before, earlier ∈ offered))

theorem handle_tables (digest : String → String) (now : Int) (leaseId : String)
    (op : RepositoryOp) (s : Session) :
    (handle digest now leaseId op s).2.db.providerRoutes = s.db.providerRoutes ∧
      (handle digest now leaseId op s).2.db.providerAccounts = s.db.providerAccounts := by
  cases op with
  | authenticate rawKey => exact ⟨rfl, rfl⟩
  | candidates logicalModel =>
    have hprobed := probed_candidates digest now leaseId logicalModel s
    exact ⟨hprobed.routes, hprobed.accounts⟩
  | recordAttempt attempt =>
    rw [handle_recordAttempt_tables]
    exact ⟨rfl, rfl⟩
  | markRouteSuccess routeId =>
    obtain ⟨s', hresult, htables⟩ := handle_markRouteSuccess digest now leaseId routeId s
    rw [hresult, htables]
    exact ⟨rfl, rfl⟩
  | markRouteFailure routeId failure =>
    obtain ⟨s', hresult, htables⟩ := handle_markRouteFailure digest now leaseId routeId failure s
    rw [hresult, htables]
    exact ⟨rfl, rfl⟩
  | markAccountFailure accountId failure =>
    obtain ⟨s', hresult, htables⟩ :=
      handle_markAccountFailure digest now leaseId accountId failure s
    rw [hresult, htables]
    exact ⟨rfl, rfl⟩

theorem offers_due {route : RouteCandidate} {s : Session} {t now : Int}
    (h : s.db.Configured route) (hwaiting : s.db.view.Waiting route t) (hnow : t ≤ now) :
    Offers now route s := by
  intro hacyclic
  obtain ⟨haccount, state, retryAt, hrow, hcircuit⟩ := hwaiting.due hnow
  obtain ⟨row, hjoined, rfl, husable, rfl, rfl⟩ := h.joined haccount hrow
  -- The row passes the filter of the query, closed or due.
  have heligible : row ∈ s.db.eligibleRoutes now row.toCandidate.logicalModel := by
    refine List.mem_filter.mpr ⟨hjoined, ?_⟩
    have hreach : row.route.logicalModel ∈ s.db.reachableModels row.toCandidate.logicalModel :=
      mem_reachableModels.mpr .refl
    rcases hcircuit with hclosed | ⟨hopen, hdue⟩
    · simp [eligible, husable, hclosed, hreach]
    · rcases hopen with hopen | hopen <;> simp [eligible, husable, hopen, hdue, hreach]
  have hcandidate : row.toCandidate ∈
      s.db.eligibleCandidates now row.toCandidate.logicalModel := List.mem_map_of_mem heligible
  obtain ⟨plan, hplan⟩ := candidatePlan_ok_iff.mpr ⟨⟨_, hcandidate, rfl⟩, hacyclic⟩
  obtain ⟨before, after, rfl⟩ := List.append_of_mem
    ((mem_candidatePlan hplan row.toCandidate).mpr ⟨hcandidate, .refl⟩)
  refine ⟨before, after, hplan, ?_⟩
  -- A probe that is out excuses the route.
  by_cases htaken : s.ProbeTaken now row.toCandidate.routeId
  · exact Or.inl htaken
  right
  intro digest leaseId
  have hhandle := handle_candidates digest now leaseId row.toCandidate.logicalModel s
  rw [hplan] at hhandle
  obtain ⟨probe, s', hresult, -, -, horder⟩ := hhandle
  -- With no probe out, the loop over the plan takes the route when it comes to it.
  have htakes : s.Takes now (readStates (s.db.eligibleRoutes now row.toCandidate.logicalModel))
      row.toCandidate := by
    refine ⟨row.routeState.state, get?_readStates_eligibleRoutes heligible, ?_⟩
    refine hcircuit.imp_right ?_
    rintro ⟨hopen, hdue⟩
    refine ⟨htaken, ?_⟩
    have hstate : s.db.providerRouteState.get? row.toCandidate.routeId = some row.routeState :=
      (ControlPlane.mem_joinedRoutes.mp hjoined).2.2.1
    unfold Database.probeDue
    rw [hstate]
    rcases hopen with hopen | hopen <;> simp [hopen, hdue]
  have hselected := horder before row.toCandidate after rfl htakes
  generalize probe.toList ++ closedRoutes _ _ = offered at hresult hselected
  refine ⟨offered, ?_, hselected⟩
  rw [hresult, if_neg]
  intro hempty
  rw [List.isEmpty_iff] at hempty
  subst hempty
  rcases hselected with hnone | ⟨_, -, hnone⟩ <;> cases hnone

/-- The calls of this process, and those of other processes, which have leases of their own. -/
def store : RouteStore Session where
  handle setting now := handle setting.digest now setting.leaseId
  Call op s s' := ∃ digest now leaseId, s' = (handle digest now leaseId op s).2 ∨
    ∃ leases, s' =
      { s with db := (handle digest now leaseId op { s with probeLeases := leases }).2.db }
  view s := s.db.view
  Configured := fun route s => s.db.Configured route
  Offers := Offers
  handle_call := fun setting now _ _ => ⟨setting.digest, now, setting.leaseId, Or.inl rfl⟩
  step := by
    rintro op s _ ⟨digest, now, leaseId, rfl | ⟨leases, rfl⟩⟩
    · exact ⟨_, fun _ _ => rfl, viewStep digest now leaseId op s⟩
    · exact ⟨_, fun _ _ => rfl, viewStep digest now leaseId op { s with probeLeases := leases }⟩
  configured := by
    rintro op s _ route ⟨digest, now, leaseId, rfl | ⟨leases, rfl⟩⟩ h
    · have htables := handle_tables digest now leaseId op s
      exact h.of_eq htables.1 htables.2
    · have htables := handle_tables digest now leaseId op { s with probeLeases := leases }
      exact h.of_eq htables.1 htables.2
  offers := offers_due

end Postgres

/-! ## The snapshot -/

namespace SnapshotRepository

/-- A probe of the route is outstanding: it has not been marked since. -/
def ProbeTaken (repository : SnapshotRepository) (routeId : String) : Prop :=
  ∃ entry, repository.routeStates.get? routeId = some entry ∧ entry.state = "half_open"

/-- `candidates` returns the route for its model, or the closed routes of the model, or a due
route before it, unless a probe of the route is outstanding. -/
def Offers (now : Int) (route : RouteCandidate) (repository : SnapshotRepository) : Prop :=
  AcyclicFrom repository.snapshot.fallbacks route.logicalModel →
    repository.ProbeTaken route.routeId ∨
    ∃ offered, (repository.candidates now route.logicalModel).1 = .ok offered ∧
      (route ∈ offered ∨
        candidatePlan route.logicalModel repository.closedRoutes
          repository.snapshot.fallbacks = .ok offered ∨
        ∃ before after, candidatePlan route.logicalModel (repository.retryableRoutes now)
            repository.snapshot.fallbacks = .ok (before ++ route :: after) ∧
          ∃ earlier ∈ before, earlier ∈ offered)

theorem handle_snapshot (digest : String → String) (now : Int) (op : RepositoryOp)
    (repository : SnapshotRepository) :
    (handle digest now op repository).2.snapshot = repository.snapshot := by
  cases op with
  | candidates logicalModel =>
    change (repository.candidates now logicalModel).2.snapshot = _
    rcases candidates_state repository now logicalModel with hsame | ⟨probe, -, hprobe⟩
    · rw [hsame]
    · rw [hprobe]
      rfl
  | markRouteFailure routeId failure =>
    change (repository.markRouteFailure routeId failure).snapshot = _
    unfold markRouteFailure
    split <;> rfl
  | markAccountFailure accountId failure =>
    change (repository.markAccountFailure accountId failure).snapshot = _
    unfold markAccountFailure
    split <;> rfl
  | _ => rfl

theorem accountUsable_of_view {repository : SnapshotRepository} {route : RouteCandidate}
    (h : repository.view.AccountUsable route) : repository.accountUsable route = true := by
  obtain ⟨state, hstate, hne⟩ := h
  obtain ⟨entry, hentry, rfl⟩ := Option.map_eq_some_iff.mp hstate
  rw [accountUsable, hentry]
  exact bne_iff_ne.mpr hne

theorem offers_due {route : RouteCandidate} {repository : SnapshotRepository} {t now : Int}
    (h : route ∈ repository.snapshot.routes) (hwaiting : repository.view.Waiting route t)
    (hnow : t ≤ now) : Offers now route repository := by
  intro hacyclic
  obtain ⟨haccount, state, retryAt, hrow, hcircuit⟩ := hwaiting.due hnow
  have husable := accountUsable_of_view haccount
  obtain ⟨entry, hentry, hfound⟩ := Option.map_eq_some_iff.mp hrow
  rw [Prod.mk.injEq] at hfound
  obtain ⟨rfl, rfl⟩ := hfound
  rcases hcircuit with hclosed | ⟨hopen | hhalf, hdue⟩
  · -- the closed routes make a plan with the route in it
    have hmem : route ∈ repository.closedRoutes := by
      refine List.mem_filter.mpr ⟨h, ?_⟩
      rw [husable, routeClosed, hentry]
      exact beq_iff_eq.mpr hclosed
    obtain ⟨plan, hplan⟩ := candidatePlan_ok_iff.mpr ⟨⟨route, hmem, rfl⟩, hacyclic⟩
    refine Or.inr ⟨plan, by rw [candidates_closed hplan], Or.inl ?_⟩
    exact (mem_candidatePlan hplan route).mpr ⟨hmem, .refl⟩
  · -- an open route waits until no closed one makes a plan, then for the probes before it
    right
    cases hplan : candidatePlan route.logicalModel repository.closedRoutes
        repository.snapshot.fallbacks with
    | ok plan => exact ⟨plan, by rw [candidates_closed hplan], Or.inr (Or.inl rfl)⟩
    | error error =>
      have hmem : route ∈ repository.retryableRoutes now := by
        refine List.mem_filter.mpr ⟨h, ?_⟩
        rw [husable, routeRetryable, hentry, Bool.true_and, Bool.and_eq_true]
        exact ⟨beq_iff_eq.mpr hopen, hdue⟩
      obtain ⟨due, hduePlan⟩ := candidatePlan_ok_iff.mpr ⟨⟨route, hmem, rfl⟩, hacyclic⟩
      rcases candidates_probe now hplan with ⟨_, herror, -⟩ | ⟨probe, rest, hprobe, hresult⟩
      · rw [hduePlan] at herror
        cases herror
      · refine ⟨[probe], by rw [hresult], ?_⟩
        have hinPlan := (mem_candidatePlan hprobe route).mpr ⟨hmem, .refl⟩
        rcases List.mem_cons.mp hinPlan with rfl | hlater
        · exact Or.inl List.mem_cons_self
        · obtain ⟨before, after, rfl⟩ := List.append_of_mem hlater
          exact Or.inr (Or.inr ⟨probe :: before, after, hprobe, probe, List.mem_cons_self,
            List.mem_cons_self⟩)
  · exact Or.inl ⟨entry, hentry, hhalf⟩

def store : RouteStore SnapshotRepository where
  handle setting := handle setting.digest
  Call op repository repository' := ∃ digest now, repository' = (handle digest now op repository).2
  view := view
  Configured := fun route repository => route ∈ repository.snapshot.routes
  Offers := Offers
  handle_call := fun setting now _ _ => ⟨setting.digest, now, rfl⟩
  step := by
    rintro op repository _ ⟨digest, now, rfl⟩
    exact ⟨_, fun _ hopens => hopens, viewStep digest now op repository⟩
  configured := by
    rintro op repository _ route ⟨digest, now, rfl⟩ h
    rw [handle_snapshot]
    exact h
  offers := offers_due

end SnapshotRepository

end SmartGateway
