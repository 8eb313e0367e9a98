import SmartGateway.Runtime.SnapshotFallback
import SmartGateway.Storage.PostgresMethods
import SmartGateway.Storage.Sqlite

/-! # What the two sides know

The primary and the snapshot keep the same kind of states: a circuit for each route, a state
for each account. A `StateView` is what `candidates` reads of them. Each call changes the view
of the side that takes it in the same few ways (`StateView.Step`), so both sides reflect the
marks they took (`Reflects`), and offer only what their view allows (`Offerable`).
-/

namespace SmartGateway

/-! ## The failures of a route -/

/-- The failures of a route after a call: a success clears them. -/
def noteCall (counts : ProviderFailure → Bool) (routeId : String)
    (failures : List ProviderFailure) : RepositoryOp → List ProviderFailure
  | .markRouteSuccess routeId' => if routeId' = routeId then [] else failures
  | .markRouteFailure routeId' failure =>
    if routeId' = routeId ∧ counts failure = true then failures ++ [failure] else failures
  | _ => failures

/-- The failures of a route since its last success. -/
def routeFailures (counts : ProviderFailure → Bool) (routeId : String)
    (calls : List RepositoryOp) : List ProviderFailure :=
  calls.foldl (noteCall counts routeId) []

theorem routeFailures_snoc (counts : ProviderFailure → Bool) (routeId : String)
    (calls : List RepositoryOp) (op : RepositoryOp) :
    routeFailures counts routeId (calls ++ [op]) =
      noteCall counts routeId (routeFailures counts routeId calls) op := by
  rw [routeFailures, List.foldl_append]
  rfl

def opens (failure : ProviderFailure) : Bool := failure.category.opensRoute

/-- The failures of a route that a side writes down: the primary all of them, a snapshot those
that open the route. -/
def Side.writes : Side → ProviderFailure → Bool
  | .primary, _ => true
  | .fallback, failure => opens failure

/-! ## What a side knows -/

/-- The states of a side: for each route its circuit with the retry time, for each account its
state. -/
structure StateView where
  route : String → Option (String × Option Int)
  account : String → Option String

def ControlPlane.view (db : ControlPlane) : StateView where
  route routeId := (db.providerRouteState.get? routeId).map fun row => (row.state, row.retryAt)
  account accountId := (db.providerAccountState.get? accountId).map StateRow.state

def SnapshotRepository.view (repository : SnapshotRepository) : StateView where
  route routeId :=
    (repository.routeStates.get? routeId).map fun entry => (entry.state, entry.retryAtUnix)
  account accountId := (repository.accountStates.get? accountId).map SnapshotState.state

/-- How a call can change the states of a side that writes down the failures `writes`. -/
structure Applies (writes : ProviderFailure → Bool) (op : RepositoryOp) (v v' : StateView) :
    Prop where
  accountKept : ∀ accountId state, v'.account accountId = some state →
    state = "blocked" ∨ v.account accountId = some state
  accountBlocked : ∀ accountId failure, op = .markAccountFailure accountId failure →
    failure.category.blocksAccount = true →
    ∀ state, v'.account accountId = some state → state = "blocked"
  routeKept : ∀ routeId, op ≠ .markRouteSuccess routeId →
    (∀ failure, op = .markRouteFailure routeId failure → writes failure = false) →
    ∀ state retryAt, v'.route routeId = some (state, retryAt) →
      ∃ old, v.route routeId = some (old, retryAt) ∧ (old ≠ "closed" → state ≠ "closed")
  routeOpened : ∀ routeId failure, op = .markRouteFailure routeId failure →
    writes failure = true → ∀ state retryAt, v'.route routeId = some (state, retryAt) →
      state ≠ "closed" ∧ retryAt = failure.retryAtUnix

/-- The states of a side reflect the calls it took: its blocked accounts are blocked, and a
route whose last mark was a failure is open with its retry time. -/
structure Reflects (writes : ProviderFailure → Bool) (calls : List RepositoryOp)
    (v : StateView) : Prop where
  accounts : ∀ accountId failure, failure.category.blocksAccount = true →
    .markAccountFailure accountId failure ∈ calls →
    ∀ state, v.account accountId = some state → state = "blocked"
  routes : ∀ routeId failure, (routeFailures writes routeId calls).getLast? = some failure →
    ∀ state retryAt, v.route routeId = some (state, retryAt) →
      state ≠ "closed" ∧ retryAt = failure.retryAtUnix

theorem Reflects.nil (writes : ProviderFailure → Bool) (v : StateView) : Reflects writes [] v where
  accounts := by
    intro accountId failure _ hmem
    cases hmem
  routes := by
    intro routeId failure hlast
    cases hlast

/-- A side goes on reflecting the calls it takes. -/
theorem Reflects.step {writes : ProviderFailure → Bool} {calls : List RepositoryOp}
    {v v' : StateView} {op : RepositoryOp} (h : Reflects writes calls v)
    (happlies : Applies writes op v v') : Reflects writes (calls ++ [op]) v' where
  accounts := by
    intro accountId failure hblocks hmem state hstate
    rcases List.mem_append.mp hmem with hold | hnew
    · rcases happlies.accountKept accountId state hstate with hblocked | hkept
      · exact hblocked
      · exact h.accounts accountId failure hblocks hold state hkept
    · rw [List.mem_singleton] at hnew
      exact happlies.accountBlocked accountId failure hnew.symm hblocks state hstate
  routes := by
    intro routeId failure hlast state retryAt hstate
    rw [routeFailures_snoc] at hlast
    -- the call is a success of the route, a failure that is written down, or neither
    by_cases hsuccess : op = .markRouteSuccess routeId
    · subst hsuccess
      rw [noteCall, if_pos rfl] at hlast
      cases hlast
    by_cases hfailure : ∃ failure', op = .markRouteFailure routeId failure' ∧ writes failure' = true
    · obtain ⟨failure', rfl, hwrites⟩ := hfailure
      rw [noteCall, if_pos ⟨rfl, hwrites⟩, List.getLast?_concat, Option.some.injEq] at hlast
      subst hlast
      exact happlies.routeOpened routeId failure' rfl hwrites state retryAt hstate
    · have hother : ∀ failure', op = .markRouteFailure routeId failure' →
          writes failure' = false := by
        intro failure' hop
        cases hwrites : writes failure' with
        | false => rfl
        | true => exact absurd ⟨failure', hop, hwrites⟩ hfailure
      have hsame : noteCall writes routeId (routeFailures writes routeId calls) op =
          routeFailures writes routeId calls := by
        cases op with
        | markRouteSuccess routeId' =>
          have hne : routeId' ≠ routeId := by
            rintro rfl
            exact hsuccess rfl
          rw [noteCall, if_neg hne]
        | markRouteFailure routeId' failure' =>
          rw [noteCall, if_neg]
          rintro ⟨rfl, hwrites⟩
          exact hfailure ⟨failure', rfl, hwrites⟩
        | _ => rfl
      rw [hsame] at hlast
      obtain ⟨old, hold, hopen⟩ := happlies.routeKept routeId hsuccess hother state retryAt hstate
      obtain ⟨hnotClosed, hretry⟩ := h.routes routeId failure hlast old retryAt hold
      exact ⟨hopen hnotClosed, hretry⟩

/-- A call that is no mark. -/
def RepositoryOp.IsRead : RepositoryOp → Prop
  | .markRouteSuccess _ | .markRouteFailure _ _ | .markAccountFailure _ _ => False
  | _ => True

/-- Calls that are no marks need not be remembered. -/
theorem Reflects.of_read {writes : ProviderFailure → Bool} {calls : List RepositoryOp}
    {v : StateView} {op : RepositoryOp} (hop : op.IsRead)
    (h : Reflects writes (calls ++ [op]) v) : Reflects writes calls v where
  accounts := fun accountId failure hblocks hmem =>
    h.accounts accountId failure hblocks (List.mem_append_left _ hmem)
  routes := by
    intro routeId failure hlast
    have hnote : noteCall writes routeId (routeFailures writes routeId calls) op =
        routeFailures writes routeId calls := by
      cases op with
      | markRouteSuccess _ => exact absurd hop id
      | markRouteFailure _ _ => exact absurd hop id
      | _ => rfl
    apply h.routes routeId failure
    rw [routeFailures_snoc, hnote, hlast]

/-- What a side must know of a route to offer it: its account is not blocked, and its circuit
is closed or due. -/
def Offerable (v : StateView) (now : Int) (route : RouteCandidate) : Prop :=
  (∃ state, v.account route.providerAccountId = some state ∧ state ≠ "blocked") ∧
  ∃ state retryAt, v.route route.routeId = some (state, retryAt) ∧
    (state = "closed" ∨ ControlPlane.retryDue retryAt now = true)

/-! ## Calls on a view -/

namespace StateView

/-- The circuit of a route set, if it has one. -/
def setRoute (v : StateView) (routeId : String) (circuit : String × Option Int) : StateView where
  route routeId' :=
    if routeId' = routeId then (v.route routeId').map fun _ => circuit else v.route routeId'
  account := v.account

/-- An account blocked, if it has a state. -/
def block (v : StateView) (accountId : String) : StateView where
  route := v.route
  account accountId' :=
    if accountId' = accountId then (v.account accountId').map fun _ => "blocked"
    else v.account accountId'

/-- Some circuits that were not closed may have become half open. -/
def Probes (v v' : StateView) : Prop :=
  v'.account = v.account ∧ ∀ routeId, v'.route routeId = v.route routeId ∨
    ∃ state retryAt, v.route routeId = some (state, retryAt) ∧ state ≠ "closed" ∧
      v'.route routeId = some ("half_open", retryAt)

theorem Probes.refl (v : StateView) : v.Probes v := ⟨rfl, fun _ => Or.inl rfl⟩

/-- The view after a call of a side that writes down the failures `writes`. -/
inductive Step (writes : ProviderFailure → Bool) :
    RepositoryOp → StateView → StateView → Prop where
  | read {op : RepositoryOp} {v v' : StateView} (hop : op.IsRead) (h : v.Probes v') :
    Step writes op v v'
  | success (routeId : String) (v : StateView) :
    Step writes (.markRouteSuccess routeId) v (v.setRoute routeId ("closed", none))
  | failure (routeId : String) {failure : ProviderFailure} (v : StateView)
    (hwrites : writes failure = true) :
    Step writes (.markRouteFailure routeId failure) v
      (v.setRoute routeId ("open", failure.retryAtUnix))
  | failureIgnored (routeId : String) {failure : ProviderFailure} (v : StateView)
    (hignored : writes failure = false) : Step writes (.markRouteFailure routeId failure) v v
  | block (accountId : String) (failure : ProviderFailure) (v : StateView) :
    Step writes (.markAccountFailure accountId failure) v (v.block accountId)
  | blockIgnored (accountId : String) {failure : ProviderFailure} (v : StateView)
    (hignored : failure.category.blocksAccount = false) :
    Step writes (.markAccountFailure accountId failure) v v

theorem route_setRoute (v : StateView) (routeId routeId' : String)
    (circuit : String × Option Int) : (v.setRoute routeId circuit).route routeId' =
      if routeId' = routeId then (v.route routeId').map fun _ => circuit else v.route routeId' :=
  rfl

theorem account_block (v : StateView) (accountId accountId' : String) :
    (v.block accountId).account accountId' =
      if accountId' = accountId then (v.account accountId').map fun _ => "blocked"
      else v.account accountId' :=
  rfl

theorem route_setRoute_self {v : StateView} {routeId : String} {circuit found : String × Option Int}
    (h : (v.setRoute routeId circuit).route routeId = some found) : found = circuit := by
  rw [route_setRoute, if_pos rfl, Option.map_eq_some_iff] at h
  obtain ⟨_, -, rfl⟩ := h
  rfl

theorem route_setRoute_ne {v : StateView} {routeId routeId' : String}
    (circuit : String × Option Int) (h : routeId' ≠ routeId) :
    (v.setRoute routeId circuit).route routeId' = v.route routeId' := by
  rw [route_setRoute, if_neg h]

end StateView

namespace Applies

variable {writes : ProviderFailure → Bool} {v v' : StateView}

/-- A call that is no mark probes at most. -/
theorem of_read {op : RepositoryOp} (hop : op.IsRead) (h : v.Probes v') :
    Applies writes op v v' where
  accountKept := fun _ _ hstate => Or.inr (by rwa [h.1] at hstate)
  accountBlocked := by
    rintro accountId failure rfl
    exact absurd hop id
  routeKept := by
    intro routeId _ _ state retryAt hstate
    rcases h.2 routeId with hsame | ⟨old, retryAt', hold, -, hprobed⟩
    · rw [hsame] at hstate
      exact ⟨state, hstate, id⟩
    · rw [hprobed] at hstate
      cases hstate
      exact ⟨old, hold, fun _ => by decide⟩
  routeOpened := by
    rintro routeId failure rfl
    exact absurd hop id

theorem success (routeId : String) :
    Applies writes (.markRouteSuccess routeId) v (v.setRoute routeId ("closed", none)) where
  accountKept := fun _ _ hstate => Or.inr hstate
  accountBlocked := by
    intro accountId failure hop
    cases hop
  routeKept := by
    intro routeId' hne _ state retryAt hstate
    have hother : routeId' ≠ routeId := by
      rintro rfl
      exact hne rfl
    rw [StateView.route_setRoute_ne _ hother] at hstate
    exact ⟨state, hstate, id⟩
  routeOpened := by
    intro routeId failure hop
    cases hop

theorem failure (routeId : String) {failure : ProviderFailure} (hwrites : writes failure = true) :
    Applies writes (.markRouteFailure routeId failure) v
      (v.setRoute routeId ("open", failure.retryAtUnix)) where
  accountKept := fun _ _ hstate => Or.inr hstate
  accountBlocked := by
    intro accountId failure hop
    cases hop
  routeKept := by
    intro routeId' _ hignored state retryAt hstate
    have hother : routeId' ≠ routeId := by
      rintro rfl
      rw [hignored failure rfl] at hwrites
      cases hwrites
    rw [StateView.route_setRoute_ne _ hother] at hstate
    exact ⟨state, hstate, id⟩
  routeOpened := by
    intro routeId' failure' hop _ state retryAt hstate
    cases hop
    cases StateView.route_setRoute_self hstate
    exact ⟨by decide, rfl⟩

/-- A failure that is not written down. -/
theorem failure_ignored (routeId : String) {failure : ProviderFailure}
    (hignored : writes failure = false) :
    Applies writes (.markRouteFailure routeId failure) v v where
  accountKept := fun _ _ hstate => Or.inr hstate
  accountBlocked := by
    intro accountId failure hop
    cases hop
  routeKept := fun _ _ _ state _ hstate => ⟨state, hstate, id⟩
  routeOpened := by
    intro routeId' failure' hop hwrites
    cases hop
    rw [hignored] at hwrites
    cases hwrites

theorem block (accountId : String) (failure : ProviderFailure) :
    Applies writes (.markAccountFailure accountId failure) v (v.block accountId) where
  accountKept := by
    intro accountId' state hstate
    rw [StateView.account_block] at hstate
    split at hstate
    · rw [Option.map_eq_some_iff] at hstate
      obtain ⟨_, -, rfl⟩ := hstate
      exact Or.inl rfl
    · exact Or.inr hstate
  accountBlocked := by
    intro accountId' failure' hop _ state hstate
    cases hop
    rw [StateView.account_block, if_pos rfl, Option.map_eq_some_iff] at hstate
    obtain ⟨_, -, rfl⟩ := hstate
    rfl
  routeKept := fun _ _ _ state _ hstate => ⟨state, hstate, id⟩
  routeOpened := by
    intro routeId failure' hop
    cases hop

/-- An account failure that does not block. -/
theorem block_ignored (accountId : String) {failure : ProviderFailure}
    (hignored : failure.category.blocksAccount = false) :
    Applies writes (.markAccountFailure accountId failure) v v where
  accountKept := fun _ _ hstate => Or.inr hstate
  accountBlocked := by
    intro accountId' failure' hop hblocks
    cases hop
    rw [hignored] at hblocks
    cases hblocks
  routeKept := fun _ _ _ state _ hstate => ⟨state, hstate, id⟩
  routeOpened := by
    intro routeId failure' hop
    cases hop

end Applies

theorem StateView.Step.applies {writes : ProviderFailure → Bool} {op : RepositoryOp}
    {v v' : StateView} (h : StateView.Step writes op v v') : Applies writes op v v' := by
  cases h with
  | read hop hprobes => exact .of_read hop hprobes
  | success routeId => exact .success routeId
  | failure routeId _ hwrites => exact .failure routeId hwrites
  | failureIgnored routeId _ hignored => exact .failure_ignored routeId hignored
  | block accountId failure => exact .block accountId failure
  | blockIgnored accountId _ hignored => exact .block_ignored accountId hignored

/-! ## The tables -/

namespace ControlPlane

theorem view_route {db : ControlPlane} {routeId : String} {row : StateRow}
    (h : db.providerRouteState.get? routeId = some row) :
    db.view.route routeId = some (row.state, row.retryAt) := by
  change (db.providerRouteState.get? routeId).map _ = _
  rw [h]
  rfl

theorem view_account {db : ControlPlane} {accountId : String} {row : StateRow}
    (h : db.providerAccountState.get? accountId = some row) :
    db.view.account accountId = some row.state := by
  change (db.providerAccountState.get? accountId).map _ = _
  rw [h]
  rfl

theorem view_setRoute (db : ControlPlane) (routeId : String) (row : StateRow) :
    (db.updateRouteState routeId fun _ => row).view =
      db.view.setRoute routeId (row.state, row.retryAt) := by
  unfold ControlPlane.view StateView.setRoute
  congr 1
  funext routeId'
  change ((db.providerRouteState.modify routeId fun _ => row).get? routeId').map _ = _
  rw [KeyedTable.get?_modify]
  by_cases hid : routeId' = routeId
  · subst hid
    rw [if_pos rfl, if_pos rfl, Option.map_map, Option.map_map]
    rfl
  · rw [if_neg hid, if_neg hid]

theorem view_block (db : ControlPlane) (accountId : String) (row : StateRow)
    (hblocked : row.state = "blocked") :
    (db.updateAccountState accountId fun _ => row).view = db.view.block accountId := by
  unfold ControlPlane.view StateView.block
  congr 1
  funext accountId'
  change ((db.providerAccountState.modify accountId fun _ => row).get? accountId').map _ = _
  rw [KeyedTable.get?_modify]
  by_cases hid : accountId' = accountId
  · subst hid
    rw [if_pos rfl, if_pos rfl, Option.map_map, Option.map_map, ← hblocked]
    rfl
  · rw [if_neg hid, if_neg hid]

end ControlPlane

/-- The SQLite store writes down every mark. -/
theorem Sqlite.viewStep (digest : String → String) (now : Int) (op : RepositoryOp)
    (db : ControlPlane) : StateView.Step Side.primary.writes op db.view
      (Sqlite.handle digest now op db).2.view := by
  cases op with
  | authenticate rawKey => exact .read trivial (.refl _)
  | candidates logicalModel => exact .read trivial (.refl _)
  | recordAttempt attempt =>
    change StateView.Step _ _ _ (Sqlite.recordAttempt db now attempt).2.view
    rw [Sqlite.recordAttempt_tables]
    exact .read trivial (.refl _)
  | markRouteSuccess routeId =>
    change StateView.Step _ _ _ (db.updateRouteState routeId fun _ => _).view
    rw [ControlPlane.view_setRoute]
    exact .success routeId _
  | markRouteFailure routeId failure =>
    change StateView.Step _ _ _ (Sqlite.markRouteFailure db routeId failure).view
    rw [Sqlite.markRouteFailure_eq, ControlPlane.view_setRoute]
    exact .failure routeId _ rfl
  | markAccountFailure accountId failure =>
    change StateView.Step _ _ _ (db.updateAccountState accountId fun _ => _).view
    rw [ControlPlane.view_block _ _ _ rfl]
    exact .block accountId failure _

/-! ## The primary -/

namespace Postgres

theorem Probed.view {now : Int} {db db' : Database} (h : Probed now db db') :
    db.view.Probes db'.view := by
  refine ⟨?_, ?_⟩
  · funext accountId
    change (db'.providerAccountState.get? accountId).map _ = _
    rw [h.accountState]
    rfl
  · intro routeId
    change (db'.providerRouteState.get? routeId).map _ = _ ∨
      ∃ state retryAt, _ ∧ _ ∧ (db'.providerRouteState.get? routeId).map _ = _
    -- The row is as before, or it was due and is half open now.
    rcases h.routeState routeId with hsame | ⟨hdue, hhalf⟩
    · left
      rw [hsame]
      rfl
    · right
      unfold Database.probeDue at hdue
      cases hrow : db.providerRouteState.get? routeId with
      | none =>
        rw [hrow] at hdue
        cases hdue
      | some row =>
        rw [hrow] at hdue
        refine ⟨row.state, row.retryAt, ControlPlane.view_route hrow, ?_, ?_⟩
        · intro hclosed
          dsimp only at hdue
          rw [hclosed] at hdue
          simp at hdue
        · rw [hhalf, hrow]
          rfl

/-- The store writes down every mark. -/
theorem viewStep (digest : String → String) (now : Int) (leaseId : String) (op : RepositoryOp)
    (s : Session) : StateView.Step Side.primary.writes op s.db.view
      (handle digest now leaseId op s).2.db.view := by
  cases op with
  | authenticate rawKey => exact .read trivial (.refl _)
  | candidates logicalModel =>
    exact .read trivial (probed_candidates digest now leaseId logicalModel s).view
  | recordAttempt attempt =>
    -- A record touches neither circuits nor accounts.
    rw [handle_recordAttempt_tables]
    exact .read trivial (.refl _)
  | markRouteSuccess routeId =>
    obtain ⟨s', hresult, htables⟩ := handle_markRouteSuccess digest now leaseId routeId s
    rw [hresult, htables]
    change StateView.Step _ _ _ (s.db.updateRouteState routeId fun _ => _).view
    rw [ControlPlane.view_setRoute]
    exact .success routeId _
  | markRouteFailure routeId failure =>
    obtain ⟨s', hresult, htables⟩ := handle_markRouteFailure digest now leaseId routeId failure s
    rw [hresult, htables]
    change StateView.Step _ _ _ (s.db.updateRouteState routeId fun _ => _).view
    rw [ControlPlane.view_setRoute]
    -- The primary writes every failure down, also one that does not open the route.
    exact .failure routeId _ rfl
  | markAccountFailure accountId failure =>
    obtain ⟨s', hresult, htables⟩ :=
      handle_markAccountFailure digest now leaseId accountId failure s
    rw [hresult, htables]
    change StateView.Step _ _ _ (s.db.updateAccountState accountId fun _ => _).view
    rw [ControlPlane.view_block _ _ _ rfl]
    exact .block accountId failure _

/-- The store offers what its states allow. -/
theorem offerable {digest : String → String} {now : Int} {leaseId logicalModel : String}
    {s : Session} {routes : List RouteCandidate}
    (h : (handle digest now leaseId (.candidates logicalModel) s).1 = .ok routes)
    {route : RouteCandidate} (hroute : route ∈ routes) : Offerable s.db.view now route := by
  obtain ⟨row, hrow, rfl⟩ := List.mem_map.mp (eligible_of_offered h hroute)
  obtain ⟨hjoined, heligible⟩ := List.mem_filter.mp hrow
  obtain ⟨-, -, hstate, haccount⟩ := ControlPlane.mem_joinedRoutes.mp hjoined
  simp only [eligible, ControlPlane.JoinedRoute.usable, Bool.and_eq_true, Bool.or_eq_true,
    beq_iff_eq, bne_iff_ne] at heligible
  obtain ⟨-, ⟨-, husable⟩, hcircuit⟩ := heligible
  exact ⟨⟨row.accountState.state, ControlPlane.view_account haccount, husable⟩,
    row.routeState.state, row.routeState.retryAt, ControlPlane.view_route hstate,
    hcircuit.imp_right And.right⟩

end Postgres

/-! ## The snapshot -/

/-- A snapshot with a state for each of its routes and their accounts. -/
def SnapshotRepository.Complete (repository : SnapshotRepository) : Prop :=
  ∀ route ∈ repository.snapshot.routes, repository.routeStates.get? route.routeId ≠ none ∧
    repository.accountStates.get? route.providerAccountId ≠ none

namespace SnapshotRepository

theorem view_route {repository : SnapshotRepository} {routeId : String} {entry : SnapshotState}
    (h : repository.routeStates.get? routeId = some entry) :
    repository.view.route routeId = some (entry.state, entry.retryAtUnix) := by
  change (repository.routeStates.get? routeId).map _ = _
  rw [h]
  rfl

theorem view_account {repository : SnapshotRepository} {accountId : String}
    {entry : SnapshotState} (h : repository.accountStates.get? accountId = some entry) :
    repository.view.account accountId = some entry.state := by
  change (repository.accountStates.get? accountId).map _ = _
  rw [h]
  rfl

theorem view_setRoute (repository : SnapshotRepository) (routeId : String)
    (entry : SnapshotState) :
    (repository.updateRouteState routeId fun _ => entry).view =
      repository.view.setRoute routeId (entry.state, entry.retryAtUnix) := by
  unfold view StateView.setRoute
  congr 1
  funext routeId'
  change ((repository.routeStates.modify routeId fun _ => entry).get? routeId').map _ = _
  rw [KeyedTable.get?_modify]
  by_cases hid : routeId' = routeId
  · subst hid
    rw [if_pos rfl, if_pos rfl, Option.map_map, Option.map_map]
    rfl
  · rw [if_neg hid, if_neg hid]

theorem view_block (repository : SnapshotRepository) (accountId : String)
    (entry : SnapshotState) (hblocked : entry.state = "blocked") :
    (repository.updateAccountState accountId fun _ => entry).view =
      repository.view.block accountId := by
  unfold view StateView.block
  congr 1
  funext accountId'
  change ((repository.accountStates.modify accountId fun _ => entry).get? accountId').map _ = _
  rw [KeyedTable.get?_modify]
  by_cases hid : accountId' = accountId
  · subst hid
    rw [if_pos rfl, if_pos rfl, Option.map_map, Option.map_map, ← hblocked]
    rfl
  · rw [if_neg hid, if_neg hid]

theorem view_halfOpen {repository : SnapshotRepository} {now : Int} {probe : RouteCandidate}
    (hprobe : probe ∈ repository.retryableRoutes now) :
    repository.view.Probes (repository.updateRouteState probe.routeId fun routeState =>
      { routeState with state := "half_open" }).view := by
  refine ⟨rfl, ?_⟩
  intro routeId
  change ((repository.routeStates.modify probe.routeId _).get? routeId).map _ = _ ∨
    ∃ state retryAt, _ ∧ _ ∧ ((repository.routeStates.modify probe.routeId _).get? routeId).map _ = _
  -- Only the row of the probe changes, and that one was open.
  by_cases hid : routeId = probe.routeId
  · subst hid
    right
    have hretryable := ((Bool.and_eq_true _ _).mp (List.mem_filter.mp hprobe).2).2
    unfold routeRetryable at hretryable
    cases hentry : repository.routeStates.get? probe.routeId with
    | none =>
      rw [hentry] at hretryable
      cases hretryable
    | some entry =>
      rw [hentry] at hretryable
      have hopen : entry.state = "open" := by
        simpa using ((Bool.and_eq_true _ _).mp hretryable).1
      refine ⟨entry.state, entry.retryAtUnix, view_route hentry, by rw [hopen]; decide, ?_⟩
      rw [KeyedTable.get?_modify_self, hentry]
      rfl
  · left
    rw [KeyedTable.get?_modify_ne _ _ hid]
    rfl

/-- A snapshot writes down the marks of its category. -/
theorem viewStep (digest : String → String) (now : Int) (op : RepositoryOp)
    (repository : SnapshotRepository) : StateView.Step Side.fallback.writes op repository.view
      (handle digest now op repository).2.view := by
  cases op with
  | authenticate rawKey => exact .read trivial (.refl _)
  | candidates logicalModel =>
    change StateView.Step _ _ _ (repository.candidates now logicalModel).2.view
    -- a read may put the route it probes half open
    rcases candidates_state repository now logicalModel with hsame | ⟨probe, hretryable, hprobe⟩
    · rw [hsame]
      exact .read trivial (.refl _)
    · rw [hprobe]
      exact .read trivial (view_halfOpen hretryable)
  | recordAttempt attempt => exact .read trivial (.refl _)
  | markRouteSuccess routeId =>
    change StateView.Step _ _ _ (repository.updateRouteState routeId fun _ => _).view
    rw [view_setRoute]
    exact .success routeId _
  | markRouteFailure routeId failure =>
    change StateView.Step _ _ _ (repository.markRouteFailure routeId failure).view
    cases hopens : failure.category.opensRoute with
    | false =>
      rw [markRouteFailure, hopens]
      exact .failureIgnored routeId _ hopens
    | true =>
      rw [markRouteFailure, hopens]
      change StateView.Step _ _ _ (repository.updateRouteState routeId fun _ => _).view
      rw [view_setRoute]
      exact .failure routeId _ hopens
  | markAccountFailure accountId failure =>
    change StateView.Step _ _ _ (repository.markAccountFailure accountId failure).view
    cases hblocks : failure.category.blocksAccount with
    | false =>
      rw [markAccountFailure, hblocks]
      exact .blockIgnored accountId _ hblocks
    | true =>
      rw [markAccountFailure, hblocks]
      change StateView.Step _ _ _ (repository.updateAccountState accountId fun _ => _).view
      rw [view_block _ _ _ rfl]
      exact .block accountId failure _

/-- A complete snapshot offers what its states allow. -/
theorem offerable {repository : SnapshotRepository} (hcomplete : repository.Complete) {now : Int}
    {logicalModel : String} {routes : List RouteCandidate}
    (h : (repository.candidates now logicalModel).1 = .ok routes) {route : RouteCandidate}
    (hroute : route ∈ routes) : Offerable repository.view now route := by
  have hcases := offered_cases h hroute
  have hmem : route ∈ repository.snapshot.routes ∧ repository.accountUsable route = true := by
    rcases hcases with hclosed | hretryable
    · exact (List.mem_filter.mp hclosed).imp_right fun h => ((Bool.and_eq_true _ _).mp h).1
    · exact (List.mem_filter.mp hretryable).imp_right fun h => ((Bool.and_eq_true _ _).mp h).1
  obtain ⟨hhasRoute, hhasAccount⟩ := hcomplete route hmem.1
  obtain ⟨entry, hentry⟩ := Option.ne_none_iff_exists'.mp hhasRoute
  obtain ⟨account, haccount⟩ := Option.ne_none_iff_exists'.mp hhasAccount
  refine ⟨⟨account.state, view_account haccount, ?_⟩, entry.state, entry.retryAtUnix,
    view_route hentry, ?_⟩
  · have husable := hmem.2
    rw [accountUsable, haccount] at husable
    simpa using husable
  · rcases hcases with hclosed | hretryable
    · have hstate := ((Bool.and_eq_true _ _).mp (List.mem_filter.mp hclosed).2).2
      rw [routeClosed, hentry] at hstate
      exact Or.inl (by simpa using hstate)
    · have hstate := ((Bool.and_eq_true _ _).mp (List.mem_filter.mp hretryable).2).2
      rw [routeRetryable, hentry] at hstate
      exact Or.inr ((Bool.and_eq_true _ _).mp hstate).2

/-- The keys of the states stay, so a complete snapshot stays complete. -/
theorem Complete.modify {repository : SnapshotRepository} (h : repository.Complete)
    {routeStates accountStates : KeyedTable String SnapshotState} {usageSpool : DurableUsageSpool}
    (hroutes : ∀ routeId, repository.routeStates.get? routeId ≠ none →
      routeStates.get? routeId ≠ none)
    (haccounts : ∀ accountId, repository.accountStates.get? accountId ≠ none →
      accountStates.get? accountId ≠ none) :
    Complete ⟨repository.snapshot, routeStates, accountStates, usageSpool⟩ := by
  intro route hroute
  obtain ⟨hroute', haccount⟩ := h route hroute
  exact ⟨hroutes _ hroute', haccounts _ haccount⟩

theorem Complete.updateRouteState {repository : SnapshotRepository} (h : repository.Complete)
    (routeId : String) (f : SnapshotState → SnapshotState) :
    (repository.updateRouteState routeId f).Complete :=
  h.modify (fun _ => KeyedTable.get?_modify_ne_none) fun _ => id

theorem Complete.handle {repository : SnapshotRepository} (h : repository.Complete)
    (digest : String → String) (now : Int) (op : RepositoryOp) :
    (SnapshotRepository.handle digest now op repository).2.Complete := by
  cases op with
  | authenticate rawKey => exact h
  | candidates logicalModel =>
    change (repository.candidates now logicalModel).2.Complete
    rcases candidates_state repository now logicalModel with hsame | ⟨probe, -, hprobe⟩
    · rw [hsame]
      exact h
    · rw [hprobe]
      exact h.updateRouteState probe.routeId _
  | recordAttempt attempt => exact h.modify (fun _ => id) fun _ => id
  | markRouteSuccess routeId => exact h.updateRouteState routeId _
  | markRouteFailure routeId failure =>
    change (repository.markRouteFailure routeId failure).Complete
    unfold markRouteFailure
    split
    · exact h
    · exact h.updateRouteState routeId _
  | markAccountFailure accountId failure =>
    change (repository.markAccountFailure accountId failure).Complete
    unfold markAccountFailure
    split
    · exact h
    · exact h.modify (fun _ => id) fun _ => KeyedTable.get?_modify_ne_none

theorem isRead_of_error {digest : String → String} {now : Int} {op : RepositoryOp}
    {repository : SnapshotRepository} {error : String}
    (h : (SnapshotRepository.handle digest now op repository).1 = .error error) : op.IsRead := by
  cases op with
  | markRouteSuccess routeId => cases h
  | markRouteFailure routeId failure => cases h
  | markAccountFailure accountId failure => cases h
  | _ => trivial

end SnapshotRepository

/-- A reachable primary accepts every mark. -/
theorem Postgres.isRead_of_error {digest : String → String} {now : Int} {leaseId : String}
    {op : RepositoryOp} {s : Session} {error : String}
    (h : (handle digest now leaseId op s).1 = .error error) : op.IsRead := by
  cases op with
  | markRouteSuccess routeId =>
    obtain ⟨s', hresult, -⟩ := handle_markRouteSuccess digest now leaseId routeId s
    rw [hresult] at h
    cases h
  | markRouteFailure routeId failure =>
    obtain ⟨s', hresult, -⟩ := handle_markRouteFailure digest now leaseId routeId failure s
    rw [hresult] at h
    cases h
  | markAccountFailure accountId failure =>
    obtain ⟨s', hresult, -⟩ := handle_markAccountFailure digest now leaseId accountId failure s
    rw [hresult] at h
    cases h
  | _ => trivial

end SmartGateway
