import SmartGateway.Lib.Transition
import SmartGateway.Runtime.StateView

/-! # Failure evidence across outages

`SnapshotFallback` hands each mark to the primary, or to the snapshot if the primary returns an
error. So the two sides learn different evidence, and neither learns what the other took.
Each side respects the marks it took itself (`Reflects`); a `candidates` call respects all
evidence if the side that answers it has taken the evidence itself (`Informed`,
`evidence_respected`).

Each side decides by its own clock in whole seconds, the snapshot rounding down and PostgreSQL to
the nearest one, so a retry time can come up to half a second early to the primary.
-/

namespace SmartGateway

/-! ## Runs with outages -/

/-- The circumstances of one call: whether the primary is down, with the error it then returns,
the two clocks, and the lease id drawn for a probe. -/
structure Moment where
  outage : Option String
  now : Int
  localNow : Int
  leaseId : String

/-- The clock of the side that answers. -/
def Moment.clock (moment : Moment) : Side → Int
  | .primary => moment.now
  | .fallback => moment.localNow

/-- The two repositories, and the calls that returned `Ok` so far, with the side that took
each. -/
structure FallbackState where
  primary : Postgres.Session
  fallback : SnapshotRepository
  accepted : List (Side × RepositoryOp)

namespace FallbackState

/-- What the primary does with a call: nothing while it is down. -/
def askPrimary (digest : String → String) (moment : Moment) (op : RepositoryOp)
    (s : Postgres.Session) : Except String op.Output × Postgres.Session :=
  match moment.outage with
  | some error => (.error error, s)
  | none => Postgres.handle digest moment.now moment.leaseId op s

/-- A call on the `SnapshotFallback`. -/
def answer (digest : String → String) (moment : Moment) (op : RepositoryOp) (s : FallbackState) :
    Except String op.Output × (Postgres.Session × SnapshotRepository) :=
  SnapshotFallback.handle (askPrimary digest moment)
    (SnapshotRepository.handle digest moment.localNow) op (s.primary, s.fallback)

/-- The side whose answer the call returns. -/
def side (digest : String → String) (moment : Moment) (op : RepositoryOp) (s : FallbackState) :
    Side :=
  match (askPrimary digest moment op s.primary).1 with
  | .ok _ => .primary
  | .error _ => .fallback

/-- The state after a call. -/
def after (digest : String → String) (moment : Moment) (op : RepositoryOp) (s : FallbackState) :
    FallbackState where
  primary := (s.answer digest moment op).2.1
  fallback := (s.answer digest moment op).2.2
  accepted :=
    match (s.answer digest moment op).1 with
    | .ok _ => s.accepted ++ [(s.side digest moment op, op)]
    | .error _ => s.accepted

end FallbackState

/-- The runs of a `SnapshotFallback`: the primary is up or down at each call as it happens. -/
def fallbackRuns (digest : String → String) : Transition FallbackState (Moment × RepositoryOp) where
  Init s := s.accepted = [] ∧ s.fallback.Complete
  Step s call s' := s' = s.after digest call.1 call.2

/-! ## Evidence -/

/-- The calls a side took. -/
def taken (side : Side) (accepted : List (Side × RepositoryOp)) : List RepositoryOp :=
  (accepted.filter fun call => call.1 = side).map Prod.snd

theorem taken_snoc (side side' : Side) (op : RepositoryOp) (accepted : List (Side × RepositoryOp)) :
    taken side (accepted ++ [(side', op)]) =
      if side' = side then taken side accepted ++ [op] else taken side accepted := by
  rw [taken, List.filter_append, List.map_append]
  by_cases hside : side' = side
  · rw [if_pos hside, List.filter_singleton]
    simp [hside, taken]
  · rw [if_neg hside, List.filter_singleton]
    simp [hside, taken]

/-- No account of a route was blocked, and no failure of it is before its retry time. -/
def Respects (accepted : List (Side × RepositoryOp)) (now : Int) (route : RouteCandidate) : Prop :=
  (∀ side failure, failure.category.blocksAccount = true →
    (side, .markAccountFailure route.providerAccountId failure) ∉ accepted) ∧
  ∀ failure ∈ routeFailures opens route.routeId (accepted.map Prod.snd),
    ControlPlane.retryDue failure.retryAtUnix now = true

/-- A side has taken the evidence itself: a blocking failure of each account that was blocked,
and as its last word on each route that must not be used yet, a failure that says so too. -/
def Informed (accepted : List (Side × RepositoryOp)) (side : Side) (now : Int) : Prop :=
  (∀ side' accountId failure, failure.category.blocksAccount = true →
    (side', .markAccountFailure accountId failure) ∈ accepted →
    ∃ failure', failure'.category.blocksAccount = true ∧
      .markAccountFailure accountId failure' ∈ taken side accepted) ∧
  ∀ routeId, ∀ failure ∈ routeFailures opens routeId (accepted.map Prod.snd),
    ControlPlane.retryDue failure.retryAtUnix now = false →
    ∃ failure', (routeFailures side.writes routeId (taken side accepted)).getLast? =
      some failure' ∧ ControlPlane.retryDue failure'.retryAtUnix now = false

/-- A side that is informed respects all evidence in what it offers. -/
theorem Reflects.respects {accepted : List (Side × RepositoryOp)} {side : Side} {v : StateView}
    (h : Reflects side.writes (taken side accepted) v) {now : Int}
    (hinformed : Informed accepted side now) {route : RouteCandidate}
    (hoffer : Offerable v now route) : Respects accepted now route := by
  obtain ⟨⟨accountState, haccount, husable⟩, state, retryAt, hroute, hcircuit⟩ := hoffer
  constructor
  · intro side' failure hblocks hmem
    obtain ⟨failure', hblocks', hown⟩ := hinformed.1 side' _ failure hblocks hmem
    exact husable (h.accounts _ failure' hblocks' hown accountState haccount)
  · intro failure hmem
    by_contra hnotDue
    rw [Bool.not_eq_true] at hnotDue
    obtain ⟨failure', hlast, hnotDue'⟩ := hinformed.2 _ failure hmem hnotDue
    obtain ⟨hnotClosed, rfl⟩ := h.routes _ failure' hlast state retryAt hroute
    rcases hcircuit with hclosed | hdue
    · exact hnotClosed hclosed
    · rw [hnotDue'] at hdue
      cases hdue

/-! ## Runs -/

/-- Both sides reflect the calls they took, and the snapshot stays complete. -/
structure FallbackInv (s : FallbackState) : Prop where
  primary : Reflects Side.primary.writes (taken .primary s.accepted) s.primary.db.view
  fallback : Reflects Side.fallback.writes (taken .fallback s.accepted) s.fallback.view
  complete : s.fallback.Complete

theorem FallbackInv.init {s : FallbackState} (haccepted : s.accepted = [])
    (hcomplete : s.fallback.Complete) : FallbackInv s := by
  refine ⟨?_, ?_, hcomplete⟩
  · rw [haccepted]
    exact .nil _ _
  · rw [haccepted]
    exact .nil _ _

/-- What the primary does with a call keeps it reflecting what it took. -/
theorem FallbackInv.askPrimary {s : FallbackState} (h : FallbackInv s) (digest : String → String)
    (moment : Moment) (op : RepositoryOp) :
    match FallbackState.askPrimary digest moment op s.primary with
    | (.ok _, s') => Reflects Side.primary.writes (taken .primary s.accepted ++ [op]) s'.db.view
    | (.error _, s') => Reflects Side.primary.writes (taken .primary s.accepted) s'.db.view := by
  unfold FallbackState.askPrimary
  cases moment.outage with
  | some error => exact h.primary
  | none =>
    have hstep := h.primary.step
      (Postgres.viewStep digest moment.now moment.leaseId op s.primary).applies
    dsimp only
    cases hresult : Postgres.handle digest moment.now moment.leaseId op s.primary with
    | mk answer s' =>
      rw [hresult] at hstep
      cases answer with
      | ok value => exact hstep
      | error error =>
        have herror : (Postgres.handle digest moment.now moment.leaseId op s.primary).1 =
            .error error := by rw [hresult]
        exact hstep.of_read (Postgres.isRead_of_error herror)

theorem FallbackInv.step {s : FallbackState} (h : FallbackInv s) (digest : String → String)
    (moment : Moment) (op : RepositoryOp) : FallbackInv (s.after digest moment op) := by
  have hprimary := h.askPrimary digest moment op
  cases hasked : FallbackState.askPrimary digest moment op s.primary with
  | mk answer s' =>
    rw [hasked] at hprimary
    cases answer with
    | ok value =>
      -- the primary takes the call
      have hanswer : s.answer digest moment op = (.ok value, (s', s.fallback)) :=
        SnapshotFallback.handle_of_ok _ _ hasked
      have hside : s.side digest moment op = .primary := by
        rw [FallbackState.side, hasked]
      have hafter : s.after digest moment op =
          ⟨s', s.fallback, s.accepted ++ [(.primary, op)]⟩ := by
        rw [FallbackState.after, hanswer, hside]
      rw [hafter]
      refine ⟨?_, ?_, h.complete⟩
      · rw [taken_snoc, if_pos rfl]
        exact hprimary
      · rw [taken_snoc, if_neg (by decide)]
        exact h.fallback
    | error error =>
      -- the snapshot is asked
      have hanswer : s.answer digest moment op =
          ((SnapshotRepository.handle digest moment.localNow op s.fallback).1,
            (s', (SnapshotRepository.handle digest moment.localNow op s.fallback).2)) :=
        SnapshotFallback.handle_of_error _ _ hasked
      have hside : s.side digest moment op = .fallback := by
        rw [FallbackState.side, hasked]
      have hstep := h.fallback.step
        (SnapshotRepository.viewStep digest moment.localNow op s.fallback).applies
      have hcomplete := h.complete.handle digest moment.localNow op
      cases hresult : SnapshotRepository.handle digest moment.localNow op s.fallback with
      | mk result repository =>
        rw [hresult] at hanswer hstep hcomplete
        cases result with
        | ok value =>
          have hafter : s.after digest moment op =
              ⟨s', repository, s.accepted ++ [(.fallback, op)]⟩ := by
            rw [FallbackState.after, hanswer, hside]
          rw [hafter]
          refine ⟨?_, ?_, hcomplete⟩
          · rw [taken_snoc, if_neg (by decide)]
            exact hprimary
          · rw [taken_snoc, if_pos rfl]
            exact hstep
        | error reason =>
          have hafter : s.after digest moment op = ⟨s', repository, s.accepted⟩ := by
            rw [FallbackState.after, hanswer]
          have herror : (SnapshotRepository.handle digest moment.localNow op s.fallback).1 =
              .error reason := by rw [hresult]
          rw [hafter]
          exact ⟨hprimary, hstep.of_read (SnapshotRepository.isRead_of_error herror), hcomplete⟩

theorem FallbackInv.reachable {digest : String → String} {s : FallbackState}
    (hs : (fallbackRuns digest).Reachable s) : FallbackInv s := by
  refine hs.invariant (I := FallbackInv) ?_ ?_
  · rintro s ⟨haccepted, hcomplete⟩
    exact .init haccepted hcomplete
  · rintro s ⟨moment, op⟩ s' hinv rfl
    exact hinv.step digest moment op

/-- In every run, a `candidates` call respects all evidence if the side that answers it has taken
the evidence itself. -/
theorem evidence_respected {digest : String → String} {s : FallbackState}
    (hs : (fallbackRuns digest).Reachable s) (moment : Moment) (logicalModel : String)
    (hinformed : Informed s.accepted (s.side digest moment (.candidates logicalModel))
      (moment.clock (s.side digest moment (.candidates logicalModel))))
    {routes : List RouteCandidate}
    (hanswer : (s.answer digest moment (.candidates logicalModel)).1 = .ok routes) :
    ∀ route ∈ routes, Respects s.accepted
      (moment.clock (s.side digest moment (.candidates logicalModel))) route := by
  intro route hroute
  have hinv := FallbackInv.reachable hs
  -- The side that answers is the side whose marks count.
  cases hasked : FallbackState.askPrimary digest moment (.candidates logicalModel) s.primary with
  | mk answer s' =>
    cases answer with
    | ok offered =>
      have hside : s.side digest moment (.candidates logicalModel) = .primary := by
        rw [FallbackState.side, hasked]
      rw [hside] at hinformed ⊢
      have hresult : s.answer digest moment (.candidates logicalModel) =
          (.ok offered, (s', s.fallback)) := SnapshotFallback.handle_of_ok _ _ hasked
      rw [hresult, Except.ok.injEq] at hanswer
      subst hanswer
      apply hinv.primary.respects hinformed
      unfold FallbackState.askPrimary at hasked
      cases houtage : moment.outage with
      | some error =>
        rw [houtage] at hasked
        cases hasked
      | none =>
        rw [houtage] at hasked
        have hoffered : (Postgres.handle digest moment.now moment.leaseId
            (.candidates logicalModel) s.primary).1 = .ok offered := congrArg Prod.fst hasked
        exact Postgres.offerable hoffered hroute
    | error error =>
      have hside : s.side digest moment (.candidates logicalModel) = .fallback := by
        rw [FallbackState.side, hasked]
      rw [hside] at hinformed ⊢
      have hresult := SnapshotFallback.handle_of_error
        (FallbackState.askPrimary digest moment)
        (SnapshotRepository.handle digest moment.localNow) (f := s.fallback) hasked
      rw [FallbackState.answer, hresult] at hanswer
      apply hinv.fallback.respects hinformed
      exact SnapshotRepository.offerable hinv.complete hanswer hroute

/-! ## Evidence that is forgotten -/

namespace Outages

/-- A closed route on both sides. -/
def initial : FallbackState where
  primary := .closedRoute
  fallback := .oneRoute (.single "route" ⟨"closed", none⟩)
  accepted := []

/-- The primary is up. -/
def up (now : Int) : Moment := ⟨none, now, now, "lease"⟩

/-- The primary is down. -/
def down (now : Int) : Moment := ⟨some "connection closed", now, now, "lease"⟩

def failure (category : ErrorCategory) : ProviderFailure :=
  ⟨category, "provider request failed", some 429, some 60⟩

theorem reachable_initial : (fallbackRuns id).Reachable initial := by
  refine .init ⟨rfl, ?_⟩
  intro route hroute
  cases List.mem_singleton.mp hroute
  exact ⟨by decide, by decide⟩

/-- The primary takes a failure of the route and is still up when its retry time comes. -/
def served : FallbackState :=
  initial.after id (up 0) (.markRouteFailure "route" (failure .rateLimited))

theorem failure_respected :
    (served.answer id (up 60) (.candidates "model")).1 = .ok [ControlPlane.onlyRoute] ∧
      Respects served.accepted 60 ControlPlane.onlyRoute := by
  have hserved : (fallbackRuns id).Reachable served :=
    reachable_initial.step (l := (up 0, .markRouteFailure "route" (failure .rateLimited))) rfl
  refine ⟨rfl, evidence_respected hserved (up 60) "model" ⟨?_, ?_⟩ rfl
    ControlPlane.onlyRoute (List.mem_singleton_self _)⟩
  · intro side accountId failure _ hmem
    cases List.mem_singleton.mp hmem
  · intro routeId cause hmem hnotDue
    -- the only failure is due
    exfalso
    by_cases hid : "route" = routeId
    · subst hid
      cases List.mem_singleton.mp hmem
      cases hnotDue
    · change cause ∈ noteCall opens routeId []
        (.markRouteFailure "route" (failure .rateLimited)) at hmem
      rw [noteCall, if_neg (fun h => hid h.1)] at hmem
      cases hmem

/-- The primary takes the block of the account and goes down. -/
def blocked : FallbackState :=
  initial.after id (up 0) (.markAccountFailure "account" (failure .quotaExhausted))

/-- The snapshot takes a failure of the route, and the primary comes back. -/
def opened : FallbackState :=
  initial.after id (down 0) (.markRouteFailure "route" (failure .rateLimited))

/-- A state of a run offers a route against the evidence it accepted. -/
def Forgets (s : FallbackState) (moment : Moment) : Prop :=
  (fallbackRuns id).Reachable s ∧ ∃ routes,
    (s.answer id moment (.candidates "model")).1 = .ok routes ∧
    ∃ route ∈ routes, ¬ Respects s.accepted moment.now route

/-- A block that the primary took is forgotten when it goes down; a failure that the snapshot
took is forgotten when the primary comes back. -/
theorem evidence_forgotten : Forgets blocked (down 1) ∧ Forgets opened (up 1) := by
  refine ⟨⟨?_, _, rfl, ControlPlane.onlyRoute, List.mem_singleton_self _, ?_⟩,
    ⟨?_, _, rfl, ControlPlane.onlyRoute, List.mem_singleton_self _, ?_⟩⟩
  · exact reachable_initial.step
      (l := (up 0, .markAccountFailure "account" (failure .quotaExhausted))) rfl
  · intro hrespects
    exact hrespects.1 .primary (failure .quotaExhausted) rfl (List.mem_singleton_self _)
  · exact reachable_initial.step
      (l := (down 0, .markRouteFailure "route" (failure .rateLimited))) rfl
  · intro hrespects
    have hdue := hrespects.2 (failure .rateLimited) (List.mem_singleton_self _)
    cases hdue

end Outages

end SmartGateway
