import SmartGateway.Runtime.StateView

/-! # What a snapshot never offers

Calls on the clones of one `SnapshotRepository` are atomic and come in any order, each at the
instant its clock shows. Three facts hold of every list of candidates: no route of a blocked
account is on it; it consists of closed routes, or of one route that is due; and a route that
was offered as a probe is not offered again before a mark decides it.
-/

namespace SmartGateway

namespace StateView.Step

variable {writes : ProviderFailure → Bool} {op : RepositoryOp} {v v' : StateView}

/-- Accounts are never unblocked. -/
theorem account_blocked (h : StateView.Step writes op v v') {accountId : String}
    (hblocked : v.account accountId = some "blocked") : v'.account accountId = some "blocked" := by
  cases h with
  | read hop hprobes => rwa [hprobes.1]
  | success routeId => exact hblocked
  | failure routeId => exact hblocked
  | failureIgnored routeId => exact hblocked
  | block accountId' failure =>
    rw [account_block]
    split
    · rw [hblocked]
      rfl
    · exact hblocked
  | blockIgnored accountId' => exact hblocked

theorem account_unknown (h : StateView.Step writes op v v') {accountId : String}
    (hunknown : v.account accountId = none) : v'.account accountId = none := by
  cases h with
  | read hop hprobes => rwa [hprobes.1]
  | success routeId => exact hunknown
  | failure routeId => exact hunknown
  | failureIgnored routeId => exact hunknown
  | block accountId' failure =>
    rw [account_block, hunknown]
    split <;> rfl
  | blockIgnored accountId' => exact hunknown

/-- A failure that blocks its account leaves it blocked, if it has a state. -/
theorem blocks_account {accountId : String} {failure : ProviderFailure}
    (h : StateView.Step writes (.markAccountFailure accountId failure) v v')
    (hblocks : failure.category.blocksAccount = true) (hknown : v.account accountId ≠ none) :
    v'.account accountId = some "blocked" := by
  cases h with
  | read hop => exact absurd hop id
  | block =>
    obtain ⟨state, hstate⟩ := Option.ne_none_iff_exists'.mp hknown
    rw [account_block, if_pos rfl, hstate]
    rfl
  | blockIgnored _ _ hignored => exact absurd (hblocks.symm.trans hignored) nofun

end StateView.Step

/-- A mark that decides a probe: a success, or a failure that opens the route. -/
def RepositoryOp.Decides (routeId : String) : RepositoryOp → Prop
  | .markRouteSuccess routeId' => routeId' = routeId
  | .markRouteFailure routeId' failure => routeId' = routeId ∧ failure.category.opensRoute = true
  | _ => False

/-- A half-open route stays half open until a mark decides it. -/
theorem StateView.Step.half_open {op : RepositoryOp} {v v' : StateView}
    (h : StateView.Step Side.fallback.writes op v v') {routeId : String} {retryAt : Option Int}
    (hhalf : v.route routeId = some ("half_open", retryAt)) (hundecided : ¬ op.Decides routeId) :
    v'.route routeId = some ("half_open", retryAt) := by
  cases h with
  | read hop hprobes =>
    rcases hprobes.2 routeId with hsame | ⟨state, retryAt', hold, -, hprobed⟩
    · rwa [hsame]
    · rw [hhalf] at hold
      cases hold
      exact hprobed
  | success routeId' =>
    rwa [StateView.route_setRoute_ne]
    exact fun hid => hundecided hid.symm
  | failure routeId' _ hwrites =>
    rwa [StateView.route_setRoute_ne]
    exact fun hid => hundecided ⟨hid.symm, hwrites⟩
  | failureIgnored routeId' => exact hhalf
  | block accountId failure => exact hhalf
  | blockIgnored accountId => exact hhalf

namespace SnapshotRepository

/-! ## One call -/

/-- The route is closed. -/
def Closed (repository : SnapshotRepository) (route : RouteCandidate) : Prop :=
  ∃ entry, repository.routeStates.get? route.routeId = some entry ∧ entry.state = "closed"

/-- The route is open, and its retry time has come. -/
def Due (repository : SnapshotRepository) (now : Int) (route : RouteCandidate) : Prop :=
  ∃ entry retryAt, repository.routeStates.get? route.routeId = some entry ∧
    entry.state = "open" ∧ entry.retryAtUnix = some retryAt ∧ retryAt ≤ now

/-- `candidates` returns the route as a probe. -/
def Probes (repository : SnapshotRepository) (now : Int) (logicalModel : String)
    (probe : RouteCandidate) : Prop :=
  (repository.candidates now logicalModel).1 = .ok [probe] ∧ repository.Due now probe

section Candidates

variable {repository : SnapshotRepository} {now : Int} {logicalModel : String}
  {routes : List RouteCandidate} {route : RouteCandidate}

theorem due_of_retryable (h : repository.routeRetryable now route = true) :
    repository.Due now route := by
  unfold routeRetryable at h
  cases hentry : repository.routeStates.get? route.routeId with
  | none =>
    rw [hentry] at h
    cases h
  | some entry =>
    rw [hentry, Bool.and_eq_true, beq_iff_eq] at h
    obtain ⟨hopen, hretry⟩ := h
    cases hretryAt : entry.retryAtUnix with
    | none =>
      rw [hretryAt] at hretry
      cases hretry
    | some retryAt =>
      rw [hretryAt] at hretry
      exact ⟨entry, retryAt, hentry, hopen, hretryAt, by simpa [ControlPlane.retryDue] using hretry⟩

/-- A list of candidates consists of closed routes, or is a probe that is now half open. -/
theorem candidates_cases (h : (repository.candidates now logicalModel).1 = .ok routes) :
    (∀ route ∈ routes, route ∈ repository.closedRoutes) ∨
    ∃ probe ∈ repository.retryableRoutes now, routes = [probe] ∧
      (repository.candidates now logicalModel).2 =
        repository.updateRouteState probe.routeId fun routeState =>
          { routeState with state := "half_open" } := by
  cases hplan : candidatePlan logicalModel repository.closedRoutes
      repository.snapshot.fallbacks with
  | ok plan =>
    rw [candidates_closed hplan] at h
    cases h
    exact Or.inl fun route hroute => ((mem_candidatePlan hplan route).mp hroute).1
  | error error =>
    rcases candidates_probe now hplan with ⟨error', -, hresult⟩ | ⟨probe, rest, hretry, hresult⟩
    · rw [hresult] at h
      cases h
    · have hretryable := ((mem_candidatePlan hretry probe).mp List.mem_cons_self).1
      rw [hresult] at h ⊢
      cases h
      exact Or.inr ⟨probe, hretryable, rfl, rfl⟩

theorem mem_of_offered (h : (repository.candidates now logicalModel).1 = .ok routes)
    (hroute : route ∈ routes) : route ∈ repository.snapshot.routes := by
  rcases offered_cases h hroute with hclosed | hretryable
  · exact (List.mem_filter.mp hclosed).1
  · exact (List.mem_filter.mp hretryable).1

theorem usable_of_offered (h : (repository.candidates now logicalModel).1 = .ok routes)
    (hroute : route ∈ routes) : repository.accountUsable route = true := by
  rcases offered_cases h hroute with hclosed | hretryable
  · exact ((Bool.and_eq_true _ _).mp (List.mem_filter.mp hclosed).2).1
  · exact ((Bool.and_eq_true _ _).mp (List.mem_filter.mp hretryable).2).1

/-- A blocked account has no route on offer. -/
theorem account_of_offered (h : (repository.candidates now logicalModel).1 = .ok routes)
    (hroute : route ∈ routes) : repository.view.account route.providerAccountId ≠ some "blocked" := by
  have husable := usable_of_offered h hroute
  intro hblocked
  obtain ⟨account, haccount, hstate⟩ := Option.map_eq_some_iff.mp hblocked
  rw [accountUsable, haccount] at husable
  simp [hstate] at husable

/-- A half-open route is on no list. -/
theorem route_of_offered (h : (repository.candidates now logicalModel).1 = .ok routes)
    (hroute : route ∈ routes) (retryAt : Option Int) :
    repository.view.route route.routeId ≠ some ("half_open", retryAt) := by
  intro hhalf
  obtain ⟨entry, hentry, hstate⟩ := Option.map_eq_some_iff.mp hhalf
  obtain ⟨hstate, -⟩ := Prod.mk.inj hstate
  rcases offered_cases h hroute with hclosed | hretryable
  · have hclosed := ((Bool.and_eq_true _ _).mp (List.mem_filter.mp hclosed).2).2
    rw [routeClosed, hentry] at hclosed
    simp [hstate] at hclosed
  · have hretry := ((Bool.and_eq_true _ _).mp (List.mem_filter.mp hretryable).2).2
    rw [routeRetryable, hentry] at hretry
    simp [hstate] at hretry

/-- A probe is half open after the call that has returned it. -/
theorem Probes.half_open {probe : RouteCandidate}
    (h : repository.Probes now logicalModel probe) :
    ∃ retryAt, (repository.candidates now logicalModel).2.view.route probe.routeId =
      some ("half_open", retryAt) := by
  obtain ⟨hresult, entry, retryAt, hentry, hopen, -⟩ := h
  rcases candidates_cases hresult with hclosed | ⟨probe', hretryable, hprobe, hstate⟩
  · -- A route that is open is not among the closed ones.
    have hmem := (List.mem_filter.mp (hclosed probe List.mem_cons_self)).2
    rw [Bool.and_eq_true, routeClosed, hentry] at hmem
    simp [hopen] at hmem
  · cases hprobe
    refine ⟨entry.retryAtUnix, ?_⟩
    rw [hstate]
    have hprobed : (repository.updateRouteState probe.routeId fun routeState =>
        { routeState with state := "half_open" }).routeStates.get? probe.routeId =
        some { entry with state := "half_open" } := by
      rw [updateRouteState, KeyedTable.get?_modify_self, hentry]
      rfl
    exact view_route hprobed

end Candidates

/-! ## Any number of calls -/

/-- The snapshot as a repository with atomic methods. -/
def atomic (digest : String → String) : AtomicRepository SnapshotRepository :=
  fun now op repository => handle digest now op repository

/-- What holds of a list of candidates that was returned after some calls. -/
structure SafeOffer (digest : String → String) (repository : SnapshotRepository)
    (calls : List (Int × RepositoryOp)) (now : Int) (routes : List RouteCandidate) : Prop where
  /-- The account of no route was blocked at the start or by one of the calls. -/
  unblocked : ∀ route ∈ routes,
    (∀ account, repository.accountStates.get? route.providerAccountId = some account →
      account.state ≠ "blocked") ∧
    ∀ instant failure, failure.category.blocksAccount = true →
      (instant, .markAccountFailure route.providerAccountId failure) ∉ calls
  /-- All routes are closed, or there is one, and it is due. -/
  closedOrDue : (∀ route ∈ routes, ((atomic digest).after calls repository).Closed route) ∨
    ∃ probe, routes = [probe] ∧ ((atomic digest).after calls repository).Due now probe
  /-- An undecided probe of an earlier call is not among them. -/
  excluded : ∀ before probedAt logicalModel later probe,
    calls = before ++ (probedAt, .candidates logicalModel) :: later →
    ((atomic digest).after before repository).Probes probedAt logicalModel probe →
    (∀ call ∈ later, ¬ call.2.Decides probe.routeId) →
    ∀ route ∈ routes, route.routeId ≠ probe.routeId

section Calls

variable {digest : String → String} {repository : SnapshotRepository}
  {calls : List (Int × RepositoryOp)}

theorem complete_after (h : repository.Complete) :
    ((atomic digest).after calls repository).Complete :=
  AtomicRepository.after_preserves (fun _ => True)
    (fun now op _ hcomplete _ => hcomplete.handle digest now op) (fun _ _ => trivial) h

/-- What every call preserves of the states, any calls preserve. -/
theorem view_after (digest : String → String) (calls : List (Int × RepositoryOp)) (I : StateView → Prop)
    (allowed : RepositoryOp → Prop)
    (hstep : ∀ op v v', allowed op → StateView.Step Side.fallback.writes op v v' → I v → I v')
    (hcalls : ∀ call ∈ calls, allowed call.2) (h : I repository.view) :
    I ((atomic digest).after calls repository).view :=
  AtomicRepository.after_preserves (I := fun s => I s.view) allowed
    (fun now op s hview hop => hstep op _ _ hop (viewStep digest now op s) hview) hcalls h

/-- A list of candidates that a complete snapshot returns after any calls is safe. -/
theorem safeOffer (hcomplete : repository.Complete) {now : Int} {logicalModel : String}
    {routes : List RouteCandidate}
    (h : (((atomic digest).after calls repository).candidates now logicalModel).1 = .ok routes) :
    SafeOffer digest repository calls now routes where
  unblocked := by
    intro route hroute
    have hfinal := account_of_offered h hroute
    have hblocked : ∀ before later : List (Int × RepositoryOp), calls = before ++ later →
        ((atomic digest).after before repository).view.account route.providerAccountId ≠
          some "blocked" := by
      rintro before later rfl hblocked
      rw [AtomicRepository.after_append] at hfinal
      exact hfinal (view_after digest _ (·.account route.providerAccountId = some "blocked")
        (fun _ => True) (fun op v v' _ hstep => hstep.account_blocked) (fun _ _ => trivial)
        hblocked)
    constructor
    · intro account haccount hstate
      apply hblocked [] calls rfl
      rw [← hstate]
      exact view_account haccount
    · intro instant failure hblocks hmem
      obtain ⟨before, later, hcalls⟩ := List.append_of_mem hmem
      -- The account has a state when it is marked, for it has one in the end.
      have hknown : ((atomic digest).after before repository).view.account
          route.providerAccountId ≠ none := by
        intro hunknown
        rw [hcalls, AtomicRepository.after_append] at h
        have hfinally : ((atomic digest).after calls repository).Complete := complete_after hcomplete
        rw [hcalls, AtomicRepository.after_append] at hfinally
        let mark : RepositoryOp := .markAccountFailure route.providerAccountId failure
        have hnone := view_after digest ((instant, mark) :: later)
          (·.account route.providerAccountId = none)
          (fun _ => True) (fun op v v' _ hstep => hstep.account_unknown) (fun _ _ => trivial)
          hunknown
        exact (hfinally route (mem_of_offered h hroute)).2 (Option.map_eq_none_iff.mp hnone)
      apply hblocked (before ++ [(instant, .markAccountFailure route.providerAccountId failure)])
        later (by rw [hcalls, List.append_assoc, List.singleton_append])
      rw [AtomicRepository.after_append]
      exact (viewStep digest instant _ _).blocks_account hblocks hknown
  closedOrDue := by
    rcases candidates_cases h with hclosed | ⟨probe, hretryable, hroutes, -⟩
    · refine Or.inl fun route hroute => ?_
      obtain ⟨hmem, hstate⟩ := List.mem_filter.mp (hclosed route hroute)
      have hroutes := (complete_after hcomplete route hmem).1
      obtain ⟨entry, hentry⟩ := Option.ne_none_iff_exists'.mp hroutes
      rw [Bool.and_eq_true, routeClosed, hentry] at hstate
      exact ⟨entry, hentry, by simpa using hstate.2⟩
    · exact Or.inr ⟨probe, hroutes,
        due_of_retryable ((Bool.and_eq_true _ _).mp (List.mem_filter.mp hretryable).2).2⟩
  excluded := by
    rintro before probedAt model later probe rfl hprobe hundecided route hroute hsame
    obtain ⟨retryAt, hhalf⟩ := hprobe.half_open
    rw [AtomicRepository.after_append] at h
    apply route_of_offered h hroute retryAt
    rw [hsame]
    show ((atomic digest).after later _).view.route probe.routeId = _
    exact view_after digest _ (fun v => v.route probe.routeId = some ("half_open", retryAt))
      (fun op => ¬ op.Decides probe.routeId)
      (fun op v v' hop hstep hold => hstep.half_open hold hop) hundecided hhalf

end Calls

/-- Whatever calls the clones of a complete snapshot have taken, it offers safely. -/
theorem candidates_safe {snapshot : ControlSnapshot} {usageSpool : DurableUsageSpool}
    (hcomplete : (new snapshot usageSpool).Complete) (digest : String → String)
    (calls : List (Int × RepositoryOp)) {now : Int} {logicalModel : String}
    {routes : List RouteCandidate}
    (h : (((atomic digest).after calls (new snapshot usageSpool)).candidates now
      logicalModel).1 = .ok routes) :
    SafeOffer digest (new snapshot usageSpool) calls now routes :=
  safeOffer hcomplete h

/-- A route that has failed and is due again. -/
theorem probe_safe :
    let failure : ProviderFailure :=
      { category := .rateLimited, message := "", status := none, retryAtUnix := some 3 }
    SafeOffer id (oneRoute (.single "route" ⟨"closed", none⟩))
      [(1, .candidates "model"), (2, .markRouteFailure "route" failure)] 5
      [ControlPlane.onlyRoute] := by
  intro failure
  have hcomplete : (oneRoute (.single "route" ⟨"closed", none⟩)).Complete := by
    intro route hroute
    rw [List.mem_singleton.mp hroute]
    decide
  let calls : List (Int × RepositoryOp) :=
    [(1, .candidates "model"), (2, .markRouteFailure "route" failure)]
  have hprobe : (((atomic id).after calls (oneRoute (.single "route" ⟨"closed", none⟩))).candidates
      5 "model").1 = .ok [ControlPlane.onlyRoute] := rfl
  exact candidates_safe hcomplete id calls hprobe

end SnapshotRepository

end SmartGateway
