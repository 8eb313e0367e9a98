import SmartGateway.Storage.Postgres

/-! # What the PostgreSQL methods do

Two views of a method. Over histories (`always_…`): whatever its steps are answered, since
other processes work on the database in between. And as an uninterrupted run (`handle_…`),
which is the first view with the answers of one database.
-/

namespace SmartGateway

namespace Postgres

/-! ## Grants -/

/-- The probe an event was granted, with its lease. -/
def grant : Event statements → Option (String × String)
  | ⟨.acquireProbe routeId, .ok (some leaseId)⟩ => some (routeId, leaseId)
  | _ => none

/-- The probes granted in a history. -/
abbrev grants (past : List (Event statements)) : List (String × String) := past.filterMap grant

/-! ## The states a plan is read with -/

theorem get?_foldl_readStates (rows : List ControlPlane.JoinedRoute)
    (states : KeyedTable String String) (routeId state : String)
    (h : (rows.foldl (fun states row =>
      states.upsert row.routeId row.routeState.state fun _ => row.routeState.state) states).get?
        routeId = some state) :
    states.get? routeId = some state ∨
      ∃ row ∈ rows, row.routeId = routeId ∧ row.routeState.state = state := by
  induction rows generalizing states with
  | nil => exact Or.inl h
  | cons row rows ih =>
    rcases ih _ h with hold | ⟨later, hlater, hid, hstate⟩
    · rw [KeyedTable.get?_upsert] at hold
      by_cases hid : routeId = row.routeId
      · rw [if_pos hid, Option.some.injEq] at hold
        have hstate : row.routeState.state = state := by
          cases hget : states.get? row.routeId with
          | none => rwa [hget, Option.elim_none] at hold
          | some _ => rwa [hget, Option.elim_some] at hold
        exact Or.inr ⟨row, by simp, hid.symm, hstate⟩
      · rw [if_neg hid] at hold
        exact Or.inl hold
    · exact Or.inr ⟨later, List.mem_cons_of_mem _ hlater, hid, hstate⟩

/-- A state a route is read with is the state of a row of that route. -/
theorem get?_readStates {rows : List ControlPlane.JoinedRoute} {routeId state : String}
    (h : (readStates rows).get? routeId = some state) :
    ∃ row ∈ rows, row.routeId = routeId ∧ row.routeState.state = state := by
  rcases get?_foldl_readStates rows .empty routeId state h with hnone | hrow
  · rw [KeyedTable.get?_empty] at hnone
    cases hnone
  · exact hrow

/-- Reading on loses no state. -/
theorem foldl_readStates_ne_none (rows : List ControlPlane.JoinedRoute)
    (states : KeyedTable String String) {routeId : String} (h : states.get? routeId ≠ none) :
    (rows.foldl (fun states row =>
      states.upsert row.routeId row.routeState.state fun _ => row.routeState.state) states).get?
        routeId ≠ none := by
  induction rows generalizing states with
  | nil => exact h
  | cons first rows ih =>
    apply ih
    rw [KeyedTable.get?_upsert]
    split
    · simp
    · exact h

theorem get?_readStates_ne_none {rows : List ControlPlane.JoinedRoute}
    {row : ControlPlane.JoinedRoute} (h : row ∈ rows) :
    (readStates rows).get? row.routeId ≠ none := by
  unfold readStates
  generalize KeyedTable.empty = states
  induction rows generalizing states with
  | nil => cases h
  | cons first rows ih =>
    rcases List.mem_cons.mp h with rfl | h
    · rw [List.foldl_cons]
      refine foldl_readStates_ne_none rows _ ?_
      rw [KeyedTable.get?_upsert_self]
      simp
    · exact ih h _

/-- A route read from one database has the state of its row there. -/
theorem get?_readStates_eligibleRoutes {db : Database} {now : Int} {logicalModel : String}
    {row : ControlPlane.JoinedRoute} (h : row ∈ db.eligibleRoutes now logicalModel) :
    (readStates (db.eligibleRoutes now logicalModel)).get? row.routeId =
      some row.routeState.state := by
  obtain ⟨state, hstate⟩ := Option.ne_none_iff_exists'.mp (get?_readStates_ne_none h)
  obtain ⟨row', hrow', hid, hstate'⟩ := get?_readStates hstate
  have hsame : row' = row := ControlPlane.joinedRoutes_unique
    (List.mem_of_mem_filter hrow') (List.mem_of_mem_filter h) hid
  rw [hstate, ← hstate', hsame]

/-- The recursive query reaches exactly the fallbacks of the loaded map. -/
theorem mem_reachableModels {db : Database} {logicalModel model : String} :
    model ∈ db.reachableModels logicalModel ↔
      FallsBackTo db.fallbackMap logicalModel model := by
  have hedges : (fun a b => (a, b) ∈ db.modelFallbacks.rows.map fun row => (row.1.1, row.2)) =
      DepthFirst.Edge (nextModels db.fallbackMap) := by
    funext a b
    rw [DepthFirst.Edge, ControlPlane.mem_nextModels, ControlPlane.mem_fallbackRows]
    simp
  rw [Database.reachableModels, RecursiveQuery.mem_reachable, hedges]

/-! ## The selection loop -/

/-- The routes of a plan that were read closed. -/
def closedRoutes (states : KeyedTable String String) (plan : List RouteCandidate) :
    List RouteCandidate :=
  plan.filter fun candidate => states.get? candidate.routeId = some "closed"

section SelectionSteps

variable {states : KeyedTable String String} {candidate : RouteCandidate}

theorem closedRoutes_closed (h : states.get? candidate.routeId = some "closed")
    (plan : List RouteCandidate) :
    closedRoutes states (candidate :: plan) = candidate :: closedRoutes states plan := by
  simp [closedRoutes, h]

theorem closedRoutes_skip (h : states.get? candidate.routeId ≠ some "closed")
    (plan : List RouteCandidate) :
    closedRoutes states (candidate :: plan) = closedRoutes states plan := by
  simp [closedRoutes, h]

theorem selectEligible_unknown (h : states.get? candidate.routeId = none)
    (plan eligible : List RouteCandidate) :
    selectEligible states (candidate :: plan) eligible = selectEligible states plan eligible := by
  rw [selectEligible, h]

theorem selectEligible_closed (h : states.get? candidate.routeId = some "closed")
    (plan eligible : List RouteCandidate) :
    selectEligible states (candidate :: plan) eligible =
      selectEligible states plan (eligible ++ [candidate]) := by
  rw [selectEligible, h]
  exact if_pos rfl

/-- The first route that is not closed is asked for. -/
theorem selectEligible_probe {state : String} (h : states.get? candidate.routeId = some state)
    (hopen : state ≠ "closed") (plan : List RouteCandidate) :
    selectEligible states (candidate :: plan) [] =
      (acquireHalfOpenProbe candidate.routeId).andThen fun acquired =>
        selectEligible states plan (if acquired then [candidate] else []) := by
  rw [selectEligible, h]
  dsimp only
  rw [if_neg hopen, if_pos List.isEmpty_nil, List.nil_append]

end SelectionSteps

/-- Once something is eligible the loop only keeps closed routes, and makes no step. -/
theorem selectEligible_of_ne_nil (states : KeyedTable String String) (plan : List RouteCandidate)
    {eligible : List RouteCandidate} (h : eligible ≠ []) :
    selectEligible states plan eligible = yield (.ok (eligible ++ closedRoutes states plan)) := by
  induction plan generalizing eligible with
  | nil => rw [selectEligible, closedRoutes, List.filter_nil, List.append_nil]
  | cons candidate plan ih =>
    by_cases hclosed : states.get? candidate.routeId = some "closed"
    · rw [selectEligible_closed hclosed, ih (by simp), closedRoutes_closed hclosed,
        List.append_assoc, List.singleton_append]
    · rw [closedRoutes_skip hclosed]
      cases hstate : states.get? candidate.routeId with
      | none =>
        rw [selectEligible_unknown hstate]
        exact ih h
      | some state =>
        have hopen : state ≠ "closed" := by
          rintro rfl
          exact hclosed hstate
        rw [selectEligible, hstate]
        dsimp only
        rw [if_neg hopen, if_neg (by simpa using h)]
        exact ih h

/-- What the loop returns after a history: the closed routes of the plan, after at most one
route that was read in another state and whose probe was granted. -/
def Selected (states : KeyedTable String String) (plan : List RouteCandidate)
    (past : List (Event statements)) : Except String (List RouteCandidate) → Prop
  | .error error => grants past = [] ∧
      ∃ candidate ∈ plan, ⟨.acquireProbe candidate.routeId, .error error⟩ ∈ past
  | .ok routes => ∃ probe : Option RouteCandidate,
      routes = probe.toList ++ closedRoutes states plan ∧
      (grants past).map Prod.fst = probe.toList.map RouteCandidate.routeId ∧
      ∀ candidate ∈ probe, candidate ∈ plan ∧
        ∃ state, states.get? candidate.routeId = some state ∧ state ≠ "closed"

/-- What the loop does before it has something eligible: it asks for probes of the plan, none
of which was granted. -/
def Asks (plan : List RouteCandidate) (past : List (Event statements)) (op : Op) : Prop :=
  grants past = [] ∧ ∃ candidate ∈ plan, op = .acquireProbe candidate.routeId

theorem Selected.cons_skip {states : KeyedTable String String} {plan : List RouteCandidate}
    {candidate : RouteCandidate} {past : List (Event statements)}
    {result : Except String (List RouteCandidate)} (h : Selected states plan past result)
    (hskip : states.get? candidate.routeId ≠ some "closed") :
    Selected states (candidate :: plan) past result := by
  cases result with
  | error error =>
    obtain ⟨hgrants, asked, hasked, hevent⟩ := h
    exact ⟨hgrants, asked, List.mem_cons_of_mem _ hasked, hevent⟩
  | ok routes =>
    obtain ⟨probe, hroutes, hgrants, hprobe⟩ := h
    refine ⟨probe, by rw [hroutes, closedRoutes_skip hskip], hgrants, ?_⟩
    intro granted hgranted
    obtain ⟨hplan, hstate⟩ := hprobe granted hgranted
    exact ⟨List.mem_cons_of_mem _ hplan, hstate⟩

theorem Asks.cons {plan : List RouteCandidate} {candidate : RouteCandidate}
    {past : List (Event statements)} {op : Op} (h : Asks plan past op) :
    Asks (candidate :: plan) past op := by
  obtain ⟨hgrants, asked, hasked, hop⟩ := h
  exact ⟨hgrants, asked, List.mem_cons_of_mem _ hasked, hop⟩

/-- The loop, from a history without grants. The induction is on the plan: a route that is
skipped or refused leaves the rest of the plan with nothing granted yet. -/
theorem always_selectEligible (states : KeyedTable String String) (plan : List RouteCandidate)
    (past : List (Event statements)) (hpast : grants past = []) :
    (selectEligible states plan []).Always (Asks plan) (Selected states plan) past := by
  induction plan generalizing past with
  | nil => exact ⟨none, rfl, by rw [hpast]; rfl, by simp⟩
  | cons candidate plan ih =>
    -- A candidate that is passed over leaves the rest of the plan to be asked about.
    have hrest : ∀ past, grants past = [] → states.get? candidate.routeId ≠ some "closed" →
        (selectEligible states plan []).Always (Asks (candidate :: plan))
          (Selected states (candidate :: plan)) past := by
      intro past hpast hskip
      exact (ih past hpast).mono (fun _ _ h => h.cons) (fun _ _ h => h.cons_skip hskip)
    cases hstate : states.get? candidate.routeId with
    | none =>
      rw [selectEligible_unknown hstate]
      exact hrest past hpast (by rw [hstate]; simp)
    | some state =>
      by_cases hclosed : state = "closed"
      · -- the first eligible route is a closed one: no probe is asked for from here on
        subst hclosed
        rw [selectEligible_closed hstate, selectEligible_of_ne_nil states plan (by simp)]
        exact ⟨none, by rw [closedRoutes_closed hstate]; rfl, by rw [hpast]; rfl, by simp⟩
      · have hskip : states.get? candidate.routeId ≠ some "closed" := by
          rw [hstate]
          simpa using hclosed
        rw [selectEligible_probe hstate hclosed]
        refine ⟨⟨hpast, candidate, by simp, rfl⟩, ?_⟩
        intro answer
        have hgrants : ∀ e : Event statements, grant e = none → grants (past ++ [e]) = [] := by
          intro e he
          rw [grants, List.filterMap_append]
          simp [he, hpast]
        -- The probe fails, is refused, or is granted; a grant ends the questions.
        rcases answer with error | (_ | leaseId)
        · exact ⟨hgrants _ rfl, candidate, by simp, by simp⟩
        · exact hrest _ (hgrants _ rfl) hskip
        · change (selectEligible states plan [candidate]).Always _ _ _
          rw [selectEligible_of_ne_nil states plan (by simp)]
          refine ⟨some candidate, by rw [closedRoutes_skip hskip]; rfl, ?_, ?_⟩
          · rw [grants, List.filterMap_append, List.map_append]
            simp [hpast, grant]
          · intro granted hgranted
            rw [Option.mem_def, Option.some.injEq] at hgranted
            subst hgranted
            exact ⟨by simp, state, hstate, hclosed⟩

/-! ## `candidates` over histories -/

theorem readCandidate_eq (row : ControlPlane.JoinedRoute) :
    readCandidate row = .ok row.toCandidate := by
  rw [readCandidate, row.parse_credentialRef]
  rfl

/-- What `candidates` does: it reads, and asks for probes while it was granted none. -/
def Inquires (past : List (Event statements)) (op : Op) : Prop :=
  grants past = [] ∧
    ((∃ logicalModel, op = .eligibleRoutes logicalModel) ∨ op = .fallbackRows ∨
      ∃ routeId, op = .acquireProbe routeId)

/-- What `candidates` returns after a history: a selection from a plan over the routes it
read, or an error without a grant. -/
def Offered (logicalModel : String) (past : List (Event statements)) :
    Except String (List RouteCandidate) → Prop
  | .error _ => grants past = []
  | .ok routes => routes ≠ [] ∧ ∃ rows fallbacks plan,
      ⟨.eligibleRoutes logicalModel, .ok rows⟩ ∈ past ∧
      candidatePlan logicalModel (rows.map ControlPlane.JoinedRoute.toCandidate) fallbacks =
        .ok plan ∧
      Selected (readStates rows) plan past (.ok routes)

theorem always_candidates (logicalModel : String) :
    (candidates logicalModel).Always Inquires (Offered logicalModel) [] := by
  unfold candidates
  -- the route query
  refine ⟨⟨rfl, Or.inl ⟨logicalModel, rfl⟩⟩, ?_⟩
  intro answer
  match answer with
  | .error error =>
    change grants _ = []
    rfl
  | .ok rows =>
  change ((yield (rows.mapM readCandidate)).andThen _).Always _ _ _
  rw [ControlPlane.mapM_toCandidate readCandidate_eq]
  -- the fallback query
  refine ⟨⟨rfl, Or.inr (Or.inl rfl)⟩, ?_⟩
  intro answer
  match answer with
  | .error error =>
    change grants _ = []
    rfl
  | .ok fallbackRows =>
  change ((yield ((candidatePlan logicalModel _ (KeyedTable.group fallbackRows)).mapError
    DomainError.message)).andThen _).Always _ _ _
  cases hplan : candidatePlan logicalModel (rows.map ControlPlane.JoinedRoute.toCandidate)
      (KeyedTable.group fallbackRows) with
  | error error =>
    change grants _ = []
    rfl
  | ok plan =>
  change ((selectEligible (readStates rows) plan []).andThen _).Always _ _ _
  -- the selection starts with the two queries as history, and no grant
  have hselect := always_selectEligible (readStates rows) plan
    ([] ++ [⟨.eligibleRoutes logicalModel, .ok rows⟩] ++ [⟨.fallbackRows, .ok fallbackRows⟩]) rfl
  have hkeep := hselect.keep ⟨.eligibleRoutes logicalModel, .ok rows⟩ (by simp)
  refine Program.Always.andThen (hkeep.mono ?_ fun _ _ h => h) ?_ ?_
  · rintro past op ⟨hgrants, asked, -, rfl⟩
    exact ⟨hgrants, Or.inr (Or.inr ⟨_, rfl⟩)⟩
  · rintro past eligible ⟨hselected, hevent⟩
    by_cases hempty : eligible = []
    · subst hempty
      obtain ⟨probe, hnil, hgrants, -⟩ := hselected
      have hprobe : probe.toList = [] := (List.append_eq_nil_iff.mp hnil.symm).1
      rw [hprobe, List.map_nil, List.map_eq_nil_iff] at hgrants
      exact hgrants
    · rw [if_neg (by simpa using hempty)]
      exact ⟨hempty, rows, _, plan, hevent, hplan, hselected⟩
  · rintro past error ⟨⟨hgrants, -⟩, -⟩
    exact hgrants

/-! ## What probes write -/

/-- What granting probes at `now` can do to a database: due routes become half open, and
leases change. -/
structure Probed (now : Int) (db db' : Database) : Prop where
  routes : db'.providerRoutes = db.providerRoutes
  accounts : db'.providerAccounts = db.providerAccounts
  fallbacks : db'.modelFallbacks = db.modelFallbacks
  accountState : db'.providerAccountState = db.providerAccountState
  attempts : db'.usageAttempts = db.usageAttempts
  routeState : ∀ routeId,
    db'.providerRouteState.get? routeId = db.providerRouteState.get? routeId ∨
    (db.probeDue now routeId = true ∧ db'.providerRouteState.get? routeId =
      (db.providerRouteState.get? routeId).map fun row => { row with state := "half_open" })

theorem Probed.refl (now : Int) (db : Database) : Probed now db db :=
  ⟨rfl, rfl, rfl, rfl, rfl, fun _ => Or.inl rfl⟩

theorem probeDue_congr {now : Int} {db db' : Database} {routeId : String}
    (h : db'.providerRouteState.get? routeId = db.providerRouteState.get? routeId) :
    db'.probeDue now routeId = db.probeDue now routeId := by
  unfold Database.probeDue
  rw [h]

theorem Probed.trans {now : Int} {db db' db'' : Database} (h : Probed now db db')
    (h' : Probed now db' db'') : Probed now db db'' where
  routes := h'.routes.trans h.routes
  accounts := h'.accounts.trans h.accounts
  fallbacks := h'.fallbacks.trans h.fallbacks
  accountState := h'.accountState.trans h.accountState
  attempts := h'.attempts.trans h.attempts
  routeState := by
    intro routeId
    rcases h.routeState routeId with hsame | ⟨hdue, hhalf⟩
    · rcases h'.routeState routeId with hsame' | ⟨hdue', hhalf'⟩
      · exact Or.inl (hsame'.trans hsame)
      · rw [probeDue_congr hsame] at hdue'
        rw [hsame] at hhalf'
        exact Or.inr ⟨hdue', hhalf'⟩
    · -- half open twice is half open
      right
      refine ⟨hdue, ?_⟩
      rcases h'.routeState routeId with hsame' | ⟨-, hhalf'⟩
      · rw [hsame', hhalf]
      · rw [hhalf', hhalf, Option.map_map]
        rfl

theorem Database.probed_grantProbe {now : Int} {db : Database} {routeId leaseId : String}
    (exists_route : db.providerRoutes.get? routeId ≠ none) (hdue : db.probeDue now routeId = true) :
    Probed now db (db.grantProbe now routeId leaseId exists_route) := by
  refine ⟨rfl, rfl, rfl, rfl, rfl, ?_⟩
  intro other
  change (db.providerRouteState.modify routeId _).get? other = _ ∨ _ ∧
    (db.providerRouteState.modify routeId _).get? other = _
  by_cases hother : other = routeId
  · subst hother
    exact Or.inr ⟨hdue, KeyedTable.get?_modify_self _ _ _⟩
  · exact Or.inl (KeyedTable.get?_modify_ne _ _ hother)

/-- Each way a request for a probe can end: refused because the process holds a lease of the
route, refused because the route is missing, refused by the database, or granted. -/
theorem Session.acquireProbe_cases (s : Session) (now : Int) (routeId leaseId : String) :
    (s.probeLeases.get? routeId ≠ none ∧ s.acquireProbe now routeId leaseId = (.ok none, s)) ∨
    (s.probeLeases.get? routeId = none ∧ s.db.providerRoutes.get? routeId = none ∧
      s.acquireProbe now routeId leaseId = (.error Database.foreignKeyViolation, s)) ∨
    (s.probeLeases.get? routeId = none ∧
      ¬ (s.db.leaseFree now routeId = true ∧ s.db.probeDue now routeId = true) ∧
      s.acquireProbe now routeId leaseId = (.ok none, s)) ∨
    (∃ exists_route, s.probeLeases.get? routeId = none ∧ s.db.leaseFree now routeId = true ∧
      s.db.probeDue now routeId = true ∧
      s.acquireProbe now routeId leaseId = (.ok (some leaseId),
        ⟨s.db.grantProbe now routeId leaseId exists_route,
          s.probeLeases.upsert routeId leaseId fun _ => leaseId⟩)) := by
  unfold acquireProbe Database.acquireProbe
  -- The process asks the database only about routes it holds no lease of.
  by_cases howned : s.probeLeases.get? routeId ≠ none
  · rw [if_pos howned]
    exact Or.inl ⟨howned, rfl⟩
  have hnone : s.probeLeases.get? routeId = none := not_not.mp howned
  rw [if_neg howned]
  right
  -- The insert refers to the route row, with and without a lease row in its way.
  by_cases hroute : s.db.providerRoutes.get? routeId ≠ none
  · rw [dif_pos hroute]
    right
    by_cases hfree : s.db.leaseFree now routeId = true
    · rw [if_pos hfree]
      by_cases hdue : s.db.probeDue now routeId = true
      · rw [if_pos hdue]
        exact Or.inr ⟨hroute, hnone, hfree, hdue, rfl⟩
      · rw [if_neg hdue]
        exact Or.inl ⟨hnone, fun h => hdue h.2, rfl⟩
    · rw [if_neg hfree]
      exact Or.inl ⟨hnone, fun h => hfree h.1, rfl⟩
  · rw [dif_neg hroute]
    exact Or.inl ⟨hnone, not_not.mp hroute, rfl⟩

/-- A request for a probe is granted, or changes nothing. -/
theorem Session.acquireProbe_granted_or (s : Session) (now : Int) (routeId leaseId : String) :
    (∃ answer, s.acquireProbe now routeId leaseId = (answer, s) ∧
      grant ⟨.acquireProbe routeId, answer⟩ = none) ∨
    (∃ exists_route, s.probeLeases.get? routeId = none ∧ s.db.leaseFree now routeId = true ∧
      s.db.probeDue now routeId = true ∧
      s.acquireProbe now routeId leaseId = (.ok (some leaseId),
        ⟨s.db.grantProbe now routeId leaseId exists_route,
          s.probeLeases.upsert routeId leaseId fun _ => leaseId⟩)) := by
  rcases s.acquireProbe_cases now routeId leaseId with
    ⟨-, h⟩ | ⟨-, -, h⟩ | ⟨-, -, h⟩ | hgranted
  · exact Or.inl ⟨_, h, rfl⟩
  · exact Or.inl ⟨_, h, rfl⟩
  · exact Or.inl ⟨_, h, rfl⟩
  · exact Or.inr hgranted

theorem probed_acquire (now : Int) (leaseId routeId : String) (s : Session) :
    Probed now s.db (exec now leaseId (.acquireProbe routeId) s).2.db := by
  rw [exec]
  rcases s.acquireProbe_granted_or now routeId leaseId with
    ⟨answer, h, -⟩ | ⟨hroute, -, -, hdue, h⟩
  · rw [h]
    exact .refl now s.db
  · rw [h]
    exact Database.probed_grantProbe hroute hdue

/-! ## `candidates` without interruption -/

/-- The routes `candidates` plans with. -/
def Database.eligibleCandidates (db : Database) (now : Int) (logicalModel : String) :
    List RouteCandidate :=
  (db.eligibleRoutes now logicalModel).map ControlPlane.JoinedRoute.toCandidate

/-- A probe of the route is outstanding: the process holds its lease, or the database has one
that has not expired. -/
def Session.ProbeTaken (s : Session) (now : Int) (routeId : String) : Prop :=
  s.probeLeases.get? routeId ≠ none ∨ s.db.leaseFree now routeId = false

/-- The loop can take the route: it was read closed, or its probe would be granted. -/
def Session.Takes (s : Session) (now : Int) (states : KeyedTable String String)
    (candidate : RouteCandidate) : Prop :=
  ∃ state, states.get? candidate.routeId = some state ∧ (state = "closed" ∨
    ¬ s.ProbeTaken now candidate.routeId ∧ s.db.probeDue now candidate.routeId = true)

/-- A probe that can be granted is granted. -/
theorem Session.acquireProbe_granted {s : Session} {now : Int} {routeId : String}
    (leaseId : String) (hroute : s.db.providerRoutes.get? routeId ≠ none)
    (hfree : ¬ s.ProbeTaken now routeId) (hdue : s.db.probeDue now routeId = true) :
    ∃ s', s.acquireProbe now routeId leaseId = (.ok (some leaseId), s') := by
  rcases s.acquireProbe_cases now routeId leaseId with
    ⟨howned, -⟩ | ⟨-, hmissing, -⟩ | ⟨-, hrefused, -⟩ | ⟨_, -, -, -, h⟩
  · exact absurd (Or.inl howned) hfree
  · exact absurd hmissing hroute
  · refine absurd ⟨?_, hdue⟩ hrefused
    cases hlease : s.db.leaseFree now routeId with
    | true => rfl
    | false => exact absurd (Or.inr hlease) hfree
  · exact ⟨_, h⟩

/-- The loop goes on with whether a probe was granted. -/
theorem run_selectEligible_probe {now : Int} {leaseId : String}
    {states : KeyedTable String String} {candidate : RouteCandidate} {plan : List RouteCandidate}
    {s s' : Session} {state : String} {lease : Option String}
    (hstate : states.get? candidate.routeId = some state) (hopen : state ≠ "closed")
    (hprobe : s.acquireProbe now candidate.routeId leaseId = (.ok lease, s')) :
    (selectEligible states (candidate :: plan) []).run (exec now leaseId) s =
      (selectEligible states plan (if lease.isSome then [candidate] else [])).run
        (exec now leaseId) s' := by
  have hstep : (step (.acquireProbe candidate.routeId)).run (exec now leaseId) s =
      (.ok lease, s') := hprobe
  have hacquire : (acquireHalfOpenProbe candidate.routeId).run (exec now leaseId) s =
      (.ok lease.isSome, s') := by
    rw [acquireHalfOpenProbe, Program.run_andThen_ok hstep]
    rfl
  rw [selectEligible_probe hstate hopen, Program.run_andThen_ok hacquire]

/-- The loop ends with the error of a request for a probe. -/
theorem run_selectEligible_error {now : Int} {leaseId : String}
    {states : KeyedTable String String} {candidate : RouteCandidate} {plan : List RouteCandidate}
    {s s' : Session} {state error : String}
    (hstate : states.get? candidate.routeId = some state) (hopen : state ≠ "closed")
    (hprobe : s.acquireProbe now candidate.routeId leaseId = (.error error, s')) :
    (selectEligible states (candidate :: plan) []).run (exec now leaseId) s =
      (.error error, s') := by
  have hstep : (step (.acquireProbe candidate.routeId)).run (exec now leaseId) s =
      (.error error, s') := hprobe
  have hacquire : (acquireHalfOpenProbe candidate.routeId).run (exec now leaseId) s =
      (.error error, s') := by
    rw [acquireHalfOpenProbe, Program.run_andThen_error hstep]
  rw [selectEligible_probe hstate hopen, Program.run_andThen_error hacquire]

/-- What the loop has taken it keeps, with what is closed of the rest. -/
theorem run_selectEligible_taken (now : Int) (leaseId : String) (states : KeyedTable String String)
    (plan : List RouteCandidate) (chosen : RouteCandidate) (s : Session) :
    ((selectEligible states plan [chosen]).run (exec now leaseId) s).1 =
      .ok (chosen :: closedRoutes states plan) := by
  rw [selectEligible_of_ne_nil states plan (by simp)]
  rfl

/-- The head of a plan is taken: closed, or as a probe. -/
theorem run_selectEligible_first {now : Int} {states : KeyedTable String String}
    {head : RouteCandidate} {s : Session} {state : String} (leaseId : String)
    (tail : List RouteCandidate) (hroute : s.db.providerRoutes.get? head.routeId ≠ none)
    (hstate : states.get? head.routeId = some state)
    (htakes : state = "closed" ∨
      ¬ s.ProbeTaken now head.routeId ∧ s.db.probeDue now head.routeId = true) :
    ((selectEligible states (head :: tail) []).run (exec now leaseId) s).1 =
      .ok (head :: closedRoutes states tail) := by
  by_cases hclosed : state = "closed"
  · subst hclosed
    rw [selectEligible_closed hstate]
    exact run_selectEligible_taken now leaseId states tail head s
  · obtain ⟨hfree, hdue⟩ := htakes.resolve_left hclosed
    obtain ⟨s', hgranted⟩ := s.acquireProbe_granted leaseId hroute hfree hdue
    rw [run_selectEligible_probe hstate hclosed hgranted]
    exact run_selectEligible_taken now leaseId states tail head s'

/-- Every route of the plan that the loop can take is among `routes`, unless one before it is. -/
def Session.InOrder (s : Session) (now : Int) (states : KeyedTable String String)
    (plan routes : List RouteCandidate) : Prop :=
  ∀ before candidate after, plan = before ++ candidate :: after → s.Takes now states candidate →
    candidate ∈ routes ∨ ∃ earlier ∈ before, earlier ∈ routes

/-- A route the loop can take is selected, unless one before it is. -/
theorem selected_in_order {now : Int} {leaseId : String} {states : KeyedTable String String}
    {before after : List RouteCandidate} {candidate : RouteCandidate} {s : Session}
    {routes : List RouteCandidate}
    (hroute : s.db.providerRoutes.get? candidate.routeId ≠ none)
    (htakes : s.Takes now states candidate)
    (h : ((selectEligible states (before ++ candidate :: after) []).run (exec now leaseId) s).1 =
      .ok routes) :
    candidate ∈ routes ∨ ∃ earlier ∈ before, earlier ∈ routes := by
  -- once something is selected it stays so
  have hkept : ∀ (chosen : RouteCandidate) (plan : List RouteCandidate) (s' : Session),
      ((selectEligible states plan [chosen]).run (exec now leaseId) s').1 = .ok routes →
        chosen ∈ routes := by
    intro chosen plan s' hrun
    rw [run_selectEligible_taken] at hrun
    cases hrun
    simp
  obtain ⟨state, hstate, hcan⟩ := htakes
  induction before with
  | nil =>
    left
    rw [List.nil_append, run_selectEligible_first leaseId after hroute hstate hcan] at h
    cases h
    simp
  | cons first before ih =>
    have hlater : ((selectEligible states (before ++ candidate :: after) []).run
        (exec now leaseId) s).1 = .ok routes →
          candidate ∈ routes ∨ ∃ earlier ∈ first :: before, earlier ∈ routes := by
      intro hrun
      exact (ih hrun).imp_right fun ⟨earlier, hmem, hearlier⟩ =>
        ⟨earlier, List.mem_cons_of_mem _ hmem, hearlier⟩
    rw [List.cons_append] at h
    cases hfirst : states.get? first.routeId with
    | none =>
      rw [selectEligible_unknown hfirst] at h
      exact hlater h
    | some firstState =>
      by_cases hclosed : firstState = "closed"
      · subst hclosed
        rw [selectEligible_closed hfirst] at h
        exact Or.inr ⟨first, List.mem_cons_self, hkept first _ s h⟩
      · rcases s.acquireProbe_granted_or now first.routeId leaseId with
          ⟨answer, hprobe, hgrant⟩ | ⟨_, -, -, -, hprobe⟩
        · cases answer with
          | error error =>
            rw [run_selectEligible_error hfirst hclosed hprobe] at h
            cases h
          | ok lease =>
            cases lease with
            | none =>
              rw [run_selectEligible_probe hfirst hclosed hprobe] at h
              exact hlater h
            | some leaseId' => cases hgrant
        · rw [run_selectEligible_probe hfirst hclosed hprobe] at h
          exact Or.inr ⟨first, List.mem_cons_self, hkept first _ _ h⟩

/-- The selection loop on one database: it fails only for a route that is not there. -/
theorem run_selectEligible (now : Int) (leaseId : String) (states : KeyedTable String String)
    {plan : List RouteCandidate} {s : Session}
    (hplan : ∀ candidate ∈ plan, s.db.providerRoutes.get? candidate.routeId ≠ none) :
    ∃ probe : Option RouteCandidate,
      ((selectEligible states plan []).run (exec now leaseId) s).1 =
        .ok (probe.toList ++ closedRoutes states plan) ∧
      (∀ candidate ∈ probe, candidate ∈ plan ∧
        ∃ state, states.get? candidate.routeId = some state ∧ state ≠ "closed") ∧
      Probed now s.db ((selectEligible states plan []).run (exec now leaseId) s).2.db ∧
      s.InOrder now states plan (probe.toList ++ closedRoutes states plan) := by
  have halways := always_selectEligible states plan [] rfl
  have hresult := halways.run (exec now leaseId) s
  have hpreserves := halways.run_preserves (I := fun s' => Probed now s.db s'.db)
    (exec now leaseId) (s := s) (by
      rintro past op s' ⟨-, asked, -, rfl⟩ hs'
      exact hs'.trans (probed_acquire now leaseId _ s')) (.refl now s.db)
  obtain ⟨hfinal, hanswers⟩ := hpreserves
  have horder : ∀ routes, ((selectEligible states plan []).run (exec now leaseId) s).1 =
      .ok routes → s.InOrder now states plan routes := by
    rintro routes hrun before candidate after rfl htakes
    exact selected_in_order (hplan candidate (by simp)) htakes hrun
  generalize (selectEligible states plan []).run (exec now leaseId) s = run at *
  obtain ⟨result, s'⟩ := run
  cases result with
  | ok routes =>
    obtain ⟨probe, hroutes, -, hprobe⟩ := hresult
    exact ⟨probe, congrArg Except.ok hroutes, hprobe, hfinal, hroutes ▸ horder routes rfl⟩
  | error error =>
    -- a probe was answered with an error: its route was missing
    exfalso
    obtain ⟨-, asked, hasked, hevent⟩ := hresult
    rw [List.nil_append] at hevent
    obtain ⟨s₁, hs₁, hanswer⟩ := hanswers _ hevent
    change Except.error error = (s₁.acquireProbe now asked.routeId leaseId).1 at hanswer
    rcases s₁.acquireProbe_cases now asked.routeId leaseId with
      ⟨-, h⟩ | ⟨-, hmissing, -⟩ | ⟨-, -, h⟩ | ⟨_, -, -, -, h⟩
    · rw [h] at hanswer
      cases hanswer
    · rw [hs₁.routes] at hmissing
      exact hplan asked hasked hmissing
    · rw [h] at hanswer
      cases hanswer
    · rw [h] at hanswer
      cases hanswer

theorem route_of_mem_eligibleCandidates {db : Database} {now : Int} {logicalModel : String}
    {candidate : RouteCandidate} (h : candidate ∈ db.eligibleCandidates now logicalModel) :
    db.providerRoutes.get? candidate.routeId ≠ none := by
  obtain ⟨row, hrow, rfl⟩ := List.mem_map.mp h
  have hjoined := ControlPlane.mem_joinedRoutes.mp (List.mem_of_mem_filter hrow)
  change db.providerRoutes.get? row.routeId ≠ none
  rw [hjoined.1]
  simp

/-- The part of `candidates` after its two queries. -/
def selectPlan (rows : List ControlPlane.JoinedRoute) (logicalModel : String)
    (plan : Except DomainError (List RouteCandidate)) :
    Program statements (Except String (List RouteCandidate)) :=
  (yield (plan.mapError DomainError.message)).andThen fun plan =>
  (selectEligible (readStates rows) plan []).andThen fun eligible =>
  if eligible.isEmpty then yield (.error ("no eligible route exists for `" ++ logicalModel ++ "`"))
  else yield (.ok eligible)

/-- The two queries of `candidates`, answered by one database. -/
theorem handle_candidates_eq (digest : String → String) (now : Int) (leaseId logicalModel : String)
    (s : Session) : handle digest now leaseId (.candidates logicalModel) s =
      (selectPlan (s.db.eligibleRoutes now logicalModel) logicalModel
        (candidatePlan logicalModel (s.db.eligibleCandidates now logicalModel)
          s.db.fallbackMap)).run (exec now leaseId) s := by
  have hrows : (step (.eligibleRoutes logicalModel)).run (exec now leaseId) s =
      (.ok (s.db.eligibleRoutes now logicalModel), s) := rfl
  have hread : (yield ((s.db.eligibleRoutes now logicalModel).mapM readCandidate)).run
      (exec now leaseId) s = (.ok (s.db.eligibleCandidates now logicalModel), s) := by
    rw [ControlPlane.mapM_toCandidate readCandidate_eq]
    rfl
  have hfallbacks : (step .fallbackRows).run (exec now leaseId) s =
      (.ok s.db.fallbackRows, s) := rfl
  change (candidates logicalModel).run (exec now leaseId) s = _
  rw [candidates, Program.run_andThen_ok hrows, Program.run_andThen_ok hread,
    Program.run_andThen_ok hfallbacks]
  rfl

/-- How `candidates` ends when its two queries are answered by one database: with the error of
the planner, or with a selection from the plan. -/
theorem handle_candidates (digest : String → String) (now : Int) (leaseId logicalModel : String)
    (s : Session) :
    match candidatePlan logicalModel (s.db.eligibleCandidates now logicalModel)
        s.db.fallbackMap with
    | .error error =>
      handle digest now leaseId (.candidates logicalModel) s = (.error error.message, s)
    | .ok plan => ∃ (probe : Option RouteCandidate) (s' : Session),
      handle digest now leaseId (.candidates logicalModel) s =
        (if (probe.toList ++
            closedRoutes (readStates (s.db.eligibleRoutes now logicalModel)) plan).isEmpty then
          .error ("no eligible route exists for `" ++ logicalModel ++ "`")
        else .ok (probe.toList ++
          closedRoutes (readStates (s.db.eligibleRoutes now logicalModel)) plan), s') ∧
      (∀ candidate ∈ probe, candidate ∈ plan ∧
        ∃ state, (readStates (s.db.eligibleRoutes now logicalModel)).get? candidate.routeId =
          some state ∧ state ≠ "closed") ∧
      Probed now s.db s'.db ∧
      s.InOrder now (readStates (s.db.eligibleRoutes now logicalModel)) plan (probe.toList ++
        closedRoutes (readStates (s.db.eligibleRoutes now logicalModel)) plan) := by
  rw [handle_candidates_eq]
  cases hplan : candidatePlan logicalModel (s.db.eligibleCandidates now logicalModel)
      s.db.fallbackMap with
  | error error => rfl
  | ok plan =>
    -- Every candidate was joined from a route row, so a probe row breaks no foreign key.
    have hroutes : ∀ candidate ∈ plan, s.db.providerRoutes.get? candidate.routeId ≠ none := by
      intro candidate hcandidate
      exact route_of_mem_eligibleCandidates ((mem_candidatePlan hplan candidate).mp hcandidate).1
    obtain ⟨probe, hselect, hprobe, hprobed⟩ := run_selectEligible now leaseId
      (readStates (s.db.eligibleRoutes now logicalModel)) hroutes
    refine ⟨probe, _, ?_, hprobe, hprobed⟩
    have hloop : (selectEligible (readStates (s.db.eligibleRoutes now logicalModel)) plan []).run
        (exec now leaseId) s = (.ok _, _) := Prod.ext hselect rfl
    have hok : (yield (Except.ok plan : Except String _)).run (exec now leaseId) s =
        (.ok plan, s) := rfl
    refine (Program.run_andThen_ok hok).trans ((Program.run_andThen_ok hloop).trans ?_)
    split <;> rfl

/-- What `candidates` leaves behind without interruption: at most probes were granted. -/
theorem probed_candidates (digest : String → String) (now : Int) (leaseId logicalModel : String)
    (s : Session) :
    Probed now s.db (handle digest now leaseId (.candidates logicalModel) s).2.db := by
  have hhandle := handle_candidates digest now leaseId logicalModel s
  cases hplan : candidatePlan logicalModel (s.db.eligibleCandidates now logicalModel)
      s.db.fallbackMap with
  | error error =>
    rw [hplan] at hhandle
    dsimp only at hhandle
    rw [hhandle]
    exact .refl now s.db
  | ok plan =>
    rw [hplan] at hhandle
    obtain ⟨probe, s', hresult, -, hprobed, -⟩ := hhandle
    rw [hresult]
    exact hprobed

/-- What `candidates` offers without interruption was eligible. -/
theorem eligible_of_offered {digest : String → String} {now : Int} {leaseId logicalModel : String}
    {s : Session} {routes : List RouteCandidate}
    (h : (handle digest now leaseId (.candidates logicalModel) s).1 = .ok routes)
    {route : RouteCandidate} (hroute : route ∈ routes) :
    route ∈ s.db.eligibleCandidates now logicalModel := by
  have hhandle := handle_candidates digest now leaseId logicalModel s
  cases hplan : candidatePlan logicalModel (s.db.eligibleCandidates now logicalModel)
      s.db.fallbackMap with
  | error error =>
    rw [hplan] at hhandle
    dsimp only at hhandle
    rw [hhandle] at h
    cases h
  | ok plan =>
    rw [hplan] at hhandle
    obtain ⟨probe, s', hresult, hprobe, -⟩ := hhandle
    rw [hresult] at h
    dsimp only at h
    split at h
    · cases h
    · cases h
      have hmem : route ∈ plan := by
        rcases List.mem_append.mp hroute with hfirst | hclosed
        · exact (hprobe route (Option.mem_toList.mp hfirst)).1
        · exact (List.mem_filter.mp hclosed).1
      exact ((mem_candidatePlan hplan route).mp hmem).1

/-! ## Marks without interruption -/

theorem run_releaseHalfOpenProbe (now : Int) (leaseId routeId : String) (s : Session) :
    ∃ s', (releaseHalfOpenProbe routeId).run (exec now leaseId) s = (.ok (), s') ∧
      s'.db.toControlPlane = s.db.toControlPlane := by
  have htake : exec now leaseId (.takeLease routeId) s =
      (s.probeLeases.get? routeId, { s with probeLeases := s.probeLeases.erase routeId }) := rfl
  rw [releaseHalfOpenProbe, Program.run_perform_bind _ htake]
  cases s.probeLeases.get? routeId with
  | none => exact ⟨_, rfl, rfl⟩
  | some owned => exact ⟨_, rfl, rfl⟩

theorem run_releaseAll (now : Int) (leaseId : String) (routeIds : List String) (s : Session) :
    ∃ s', (releaseAll routeIds).run (exec now leaseId) s = (.ok (), s') ∧
      s'.db.toControlPlane = s.db.toControlPlane := by
  induction routeIds generalizing s with
  | nil => exact ⟨s, rfl, rfl⟩
  | cons routeId routeIds ih =>
    obtain ⟨s₁, hrelease, hsame₁⟩ := run_releaseHalfOpenProbe now leaseId routeId s
    obtain ⟨s₂, hall, hsame₂⟩ := ih s₁
    refine ⟨s₂, ?_, hsame₂.trans hsame₁⟩
    rw [releaseAll, Program.run_andThen_ok hrelease, hall]

theorem handle_markRouteSuccess (digest : String → String) (now : Int) (leaseId routeId : String)
    (s : Session) :
    ∃ s', handle digest now leaseId (.markRouteSuccess routeId) s = (.ok (), s') ∧
      s'.db.toControlPlane = (s.db.closeRoute routeId).toControlPlane := by
  have hclose : (step (.closeRoute routeId)).run (exec now leaseId) s =
      (.ok (), { s with db := s.db.closeRoute routeId }) := rfl
  obtain ⟨s', hrelease, hsame⟩ := run_releaseHalfOpenProbe now leaseId routeId
    { s with db := s.db.closeRoute routeId }
  refine ⟨s', ?_, hsame⟩
  change (markRouteSuccess routeId).run (exec now leaseId) s = _
  rw [markRouteSuccess, Program.run_andThen_ok hclose, hrelease]

theorem handle_markRouteFailure (digest : String → String) (now : Int) (leaseId routeId : String)
    (failure : ProviderFailure) (s : Session) :
    ∃ s', handle digest now leaseId (.markRouteFailure routeId failure) s = (.ok (), s') ∧
      s'.db.toControlPlane = (s.db.openRoute routeId failure).toControlPlane := by
  have hopen : (step (.openRoute routeId failure)).run (exec now leaseId) s =
      (.ok (), { s with db := s.db.openRoute routeId failure }) := rfl
  obtain ⟨s', hrelease, hsame⟩ := run_releaseHalfOpenProbe now leaseId routeId
    { s with db := s.db.openRoute routeId failure }
  refine ⟨s', ?_, hsame⟩
  change (markRouteFailure routeId failure).run (exec now leaseId) s = _
  rw [markRouteFailure, Program.run_andThen_ok hopen, hrelease]

theorem handle_markAccountFailure (digest : String → String) (now : Int)
    (leaseId accountId : String) (failure : ProviderFailure) (s : Session) :
    ∃ s', handle digest now leaseId (.markAccountFailure accountId failure) s = (.ok (), s') ∧
      s'.db.toControlPlane = (s.db.blockAccount accountId failure).toControlPlane := by
  have hblock : (step (.blockAccount accountId failure)).run (exec now leaseId) s =
      (.ok (), { s with db := s.db.blockAccount accountId failure }) := rfl
  have hroutes : (step (.accountRoutes accountId)).run (exec now leaseId)
      { s with db := s.db.blockAccount accountId failure } =
      (.ok ((s.db.blockAccount accountId failure).accountRoutes accountId),
        { s with db := s.db.blockAccount accountId failure }) := rfl
  obtain ⟨s', hrelease, hsame⟩ := run_releaseAll now leaseId
    ((s.db.blockAccount accountId failure).accountRoutes accountId)
    { s with db := s.db.blockAccount accountId failure }
  refine ⟨s', ?_, hsame⟩
  change (markAccountFailure accountId failure).run (exec now leaseId) s = _
  rw [markAccountFailure, Program.run_andThen_ok hblock, Program.run_andThen_ok hroutes, hrelease]

theorem run_attemptIdentity_none {now : Int} {leaseId : String} {attempt : AttemptRecord}
    {s : Session} (h : s.db.attemptIdentity attempt = none) :
    (step (.attemptIdentity attempt)).run (exec now leaseId) s =
      (.error "query returned an unexpected number of rows", s) := by
  rw [step, Program.perform, Program.run_call, Program.run_pure, exec]
  dsimp only
  rw [h]

theorem run_attemptIdentity_some {now : Int} {leaseId : String} {attempt : AttemptRecord}
    {s : Session} {identityMatches : Bool}
    (h : s.db.attemptIdentity attempt = some identityMatches) :
    (step (.attemptIdentity attempt)).run (exec now leaseId) s = (.ok identityMatches, s) := by
  rw [step, Program.perform, Program.run_call, Program.run_pure, exec]
  dsimp only
  rw [h]

theorem handle_recordAttempt_tables (digest : String → String) (now : Int) (leaseId : String)
    (attempt : AttemptRecord) (s : Session) :
    (handle digest now leaseId (.recordAttempt attempt) s).2.db.toControlPlane =
      s.db.upsertAttempt now attempt := by
  have hupsert : (step (.upsertAttempt attempt)).run (exec now leaseId) s =
      (.ok (), { s with db := s.db.upsertUsageAttempt now attempt }) := rfl
  change ((recordAttempt attempt).run (exec now leaseId) s).2.db.toControlPlane = _
  rw [recordAttempt, Program.run_andThen_ok hupsert]
  -- The identity is only read, so the tables are those of the upsert either way.
  cases hidentity : (s.db.upsertUsageAttempt now attempt).attemptIdentity attempt with
  | none =>
    rw [Program.run_andThen_error (run_attemptIdentity_none hidentity)]
    rfl
  | some identityMatches =>
    rw [Program.run_andThen_ok (run_attemptIdentity_some hidentity)]
    cases identityMatches <;> rfl

end Postgres

end SmartGateway
