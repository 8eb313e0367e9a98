import Mathlib.Data.String.Basic
import SmartGateway.Storage.PostgresMethods
import SmartGateway.Storage.Sqlite

/-! # The two stores side by side

What the two stores answer to `candidates` when their tables hold the same rows and no probe is
outstanding. SQLite plans with every eligible route and returns the whole plan; PostgreSQL keeps
the first route of the plan and after it only closed ones. They agree exactly when that makes no
difference.
-/

namespace SmartGateway

/-! ## Lists -/

/-- Two ways to thin out a list give the same keys when they keep the same elements; the first
one is kept by the second way in any case. -/
theorem map_filter_eq_iff {α β : Type} {f : α → β} {kept closed : α → Bool} {head : α}
    {tail : List α} (hnodup : ((head :: tail).map f).Nodup)
    (hclosed : ∀ a ∈ tail, closed a = true → kept a = true) :
    ((head :: tail).filter kept).map f = (head :: tail.filter closed).map f ↔
      kept head = true ∧ ∀ a ∈ tail, kept a = true → closed a = true := by
  constructor
  · intro h
    cases hhead : kept head with
    | false =>
      -- The first key on the right is not among the keys of the tail.
      rw [List.filter_cons_of_neg (by simp [hhead]), List.map_cons] at h
      have hmem : f head ∈ tail.map f := by
        have hin : f head ∈ (tail.filter kept).map f := by
          rw [h]
          exact List.mem_cons_self
        exact (List.filter_sublist.map f).subset hin
      rw [List.map_cons, List.nodup_cons] at hnodup
      exact absurd hmem hnodup.1
    | true =>
      rw [List.filter_cons_of_pos hhead, List.map_cons, List.map_cons, List.cons.injEq] at h
      have hlength : (tail.filter kept).length = (tail.filter closed).length := by
        have := congrArg List.length h.2
        rwa [List.length_map, List.length_map] at this
      have hsub : (tail.filter closed).Sublist (tail.filter kept) := by
        have htwice : tail.filter closed = (tail.filter kept).filter closed := by
          rw [List.filter_filter]
          refine List.filter_congr fun a ha => ?_
          cases hac : closed a with
          | false => rfl
          | true => rw [hclosed a ha hac]; rfl
        rw [htwice]
        exact List.filter_sublist
      have heq := hsub.eq_of_length hlength.symm
      refine ⟨rfl, fun a ha hkept => ?_⟩
      have hin : a ∈ tail.filter closed := by
        rw [heq]
        exact List.mem_filter.mpr ⟨ha, hkept⟩
      exact (List.mem_filter.mp hin).2
  · rintro ⟨hhead, htail⟩
    rw [List.filter_cons_of_pos hhead]
    congr 2
    refine List.filter_congr fun a ha => ?_
    cases hkept : kept a with
    | true => rw [htail a ha hkept]
    | false =>
      cases hac : closed a with
      | false => rfl
      | true => exact absurd ((hclosed a ha hac).symm.trans hkept) nofun

/-! ## Clocks -/

/-- `unixepoch()`: the seconds of an instant in microseconds, rounded down. -/
def Sqlite.unixepoch (instant : Int) : Int := instant / 1000000

/-- `EXTRACT(EPOCH FROM NOW())::BIGINT`: the same, rounded to the nearest second. -/
def Postgres.epoch (instant : Int) : Int := (instant + 500000) / 1000000

theorem unixepoch_le_epoch (instant : Int) : Sqlite.unixepoch instant ≤ Postgres.epoch instant := by
  unfold Sqlite.unixepoch Postgres.epoch
  omega

/-! ## Contents -/

/-- The tables that `candidates` reads hold the same rows. -/
structure SameContents (db db' : ControlPlane) : Prop where
  accounts : ∀ accountId, db.providerAccounts.get? accountId = db'.providerAccounts.get? accountId
  routes : ∀ routeId, db.providerRoutes.get? routeId = db'.providerRoutes.get? routeId
  fallbacks : ∀ key, db.modelFallbacks.get? key = db'.modelFallbacks.get? key
  routeState : ∀ routeId,
    db.providerRouteState.get? routeId = db'.providerRouteState.get? routeId
  accountState : ∀ accountId,
    db.providerAccountState.get? accountId = db'.providerAccountState.get? accountId

section Contents

variable {db db' : ControlPlane}

theorem SameContents.mem_joinedRoutes (h : SameContents db db') (row : ControlPlane.JoinedRoute) :
    row ∈ db.joinedRoutes ↔ row ∈ db'.joinedRoutes := by
  rw [ControlPlane.mem_joinedRoutes, ControlPlane.mem_joinedRoutes, h.routes, h.accounts,
    h.routeState, h.accountState]

/-- The order of the fallbacks comes from their keys, not from the tables. -/
theorem SameContents.fallbackRows (h : SameContents db db') :
    db.fallbackRows = db'.fallbackRows := by
  unfold ControlPlane.fallbackRows
  congr 1
  let before (a b : (String × Nat) × String) : Prop :=
    a.1.1 < b.1.1 ∨ (a.1.1 = b.1.1 ∧ a.1.2 ≤ b.1.2)
  have : IsTrans ((String × Nat) × String) before := by
    constructor
    intro a b c hab hbc
    rcases hab with hab | ⟨hab, hle⟩ <;> rcases hbc with hbc | ⟨hbc, hle'⟩
    · exact Or.inl (lt_trans hab hbc)
    · exact Or.inl (hbc ▸ hab)
    · exact Or.inl (hab ▸ hbc)
    · exact Or.inr ⟨hab.trans hbc, hle.trans hle'⟩
  have : Std.Total before := by
    constructor
    intro a b
    rcases lt_trichotomy a.1.1 b.1.1 with hlt | heq | hgt
    · exact Or.inl (Or.inl hlt)
    · rcases Nat.le_total a.1.2 b.1.2 with hle | hle
      · exact Or.inl (Or.inr ⟨heq, hle⟩)
      · exact Or.inr (Or.inr ⟨heq.symm, hle⟩)
    · exact Or.inr (Or.inl hgt)
  have hperm := KeyedTable.rows_perm h.fallbacks
  -- Two rows that may stand in either order have one key, so they are one row.
  have hsame : ∀ a b, a ∈ db.modelFallbacks.rows.insertionSort before →
      b ∈ db'.modelFallbacks.rows.insertionSort before → before a b → before b a → a = b := by
    intro a b ha hb hab hba
    have hkey : a.1 = b.1 := by
      rcases hab with hlt | ⟨heq, hle⟩ <;> rcases hba with hlt' | ⟨heq', hle'⟩
      · exact absurd hlt' (lt_asymm hlt)
      · exact absurd hlt (heq' ▸ lt_irrefl _)
      · exact absurd hlt' (heq ▸ lt_irrefl _)
      · exact Prod.ext heq (Nat.le_antisymm hle hle')
    have ha' : a ∈ db.modelFallbacks.rows := (List.mem_insertionSort _).mp ha
    have hb' : b ∈ db.modelFallbacks.rows := hperm.mem_iff.mpr ((List.mem_insertionSort _).mp hb)
    have hget := KeyedTable.get?_eq_some.mpr (show (a.1, a.2) ∈ db.modelFallbacks.rows from ha')
    have hget' := KeyedTable.get?_eq_some.mpr (show (b.1, b.2) ∈ db.modelFallbacks.rows from hb')
    rw [hkey, hget'] at hget
    exact Prod.ext hkey (Option.some.inj hget).symm
  exact List.Perm.eq_of_pairwise hsame (List.pairwise_insertionSort before _)
    (List.pairwise_insertionSort before _)
    ((List.perm_insertionSort _ _).trans (hperm.trans (List.perm_insertionSort _ _).symm))

theorem SameContents.fallbackMap (h : SameContents db db') : db.fallbackMap = db'.fallbackMap := by
  rw [ControlPlane.fallbackMap, ControlPlane.fallbackMap, h.fallbackRows]

end Contents

/-! ## Eligible rows -/

section Eligible

variable {db : ControlPlane} {now later : Int} {row row' : ControlPlane.JoinedRoute}
  {route : RouteCandidate}

theorem Sqlite.mem_eligibleRoutes : route ∈ Sqlite.eligibleRoutes db now ↔
    ∃ row ∈ db.joinedRoutes, Sqlite.eligible now row = true ∧ row.toCandidate = route := by
  rw [eligibleRoutes, List.mem_map]
  constructor
  · rintro ⟨row, hrow, rfl⟩
    exact ⟨row, (List.mem_filter.mp hrow).1, (List.mem_filter.mp hrow).2, rfl⟩
  · rintro ⟨row, hrow, heligible, rfl⟩
    exact ⟨row, List.mem_filter.mpr ⟨hrow, heligible⟩, rfl⟩

/-- A route that is eligible stays so. -/
theorem Sqlite.eligible_mono (hle : now ≤ later) (h : Sqlite.eligible now row = true) :
    Sqlite.eligible later row = true := by
  unfold eligible at h ⊢
  rw [Bool.and_eq_true, Bool.or_eq_true] at h ⊢
  refine ⟨h.1, h.2.imp_right fun hdue => ?_⟩
  cases hretry : row.routeState.retryAt with
  | none =>
    rw [hretry] at hdue
    cases hdue
  | some retryAt =>
    rw [hretry, ControlPlane.retryDue, decide_eq_true_eq] at hdue
    rw [ControlPlane.retryDue, decide_eq_true_eq]
    omega

/-- A row is eligible with a closed circuit at any time. -/
theorem Sqlite.eligible_of_closed (h : Sqlite.eligible later row = true)
    (hclosed : row.routeState.state = "closed") : Sqlite.eligible now row = true := by
  unfold eligible at h ⊢
  rw [Bool.and_eq_true] at h ⊢
  exact ⟨h.1, by rw [hclosed]; rfl⟩

/-- The checks of the state columns leave PostgreSQL no other states than SQLite looks for. -/
theorem Postgres.eligible_eq {db : Postgres.Database} (hrow : row ∈ db.joinedRoutes) (now : Int) :
    Postgres.eligible now row = Sqlite.eligible now row := by
  have hstate := (ControlPlane.mem_joinedRoutes.mp hrow).2.2.1
  have hcheck := db.routeStateCheck _ (KeyedTable.get?_eq_some.mp hstate)
  unfold eligible Sqlite.eligible
  congr 1
  simp only [List.mem_cons, List.not_mem_nil, or_false] at hcheck
  rcases hcheck with hclosed | hopen | hhalf
  · rw [hclosed]
    rfl
  · rw [hopen]
    simp
  · rw [hhalf]
    simp

theorem Postgres.mem_eligibleCandidates {db : Postgres.Database} {logicalModel : String} :
    route ∈ db.eligibleCandidates now logicalModel ↔
      ∃ row ∈ db.joinedRoutes, Sqlite.eligible now row = true ∧
        FallsBackTo db.fallbackMap logicalModel row.route.logicalModel ∧
        row.toCandidate = route := by
  rw [Database.eligibleCandidates, List.mem_map]
  constructor
  · rintro ⟨row, hrow, rfl⟩
    obtain ⟨hjoined, hconditions⟩ := List.mem_filter.mp hrow
    rw [Bool.and_eq_true, decide_eq_true_eq, mem_reachableModels, eligible_eq hjoined]
      at hconditions
    exact ⟨row, hjoined, hconditions.2, hconditions.1, rfl⟩
  · rintro ⟨row, hjoined, heligible, hreach, rfl⟩
    refine ⟨row, List.mem_filter.mpr ⟨hjoined, ?_⟩, rfl⟩
    rw [Bool.and_eq_true, decide_eq_true_eq, mem_reachableModels, eligible_eq hjoined]
    exact ⟨hreach, heligible⟩

/-- Every route joins once. -/
theorem ControlPlane.nodup_joinedRoutes (db : ControlPlane) :
    (db.joinedRoutes.map JoinedRoute.routeId).Nodup := by
  have hid : ∀ {routeId route row}, db.join routeId route = some row → row.routeId = routeId := by
    intro routeId route row hjoin
    simp only [join, Option.bind_eq_bind, Option.bind_eq_some_iff, Option.pure_def,
      Option.some.injEq] at hjoin
    obtain ⟨_, _, _, _, _, _, rfl⟩ := hjoin
    rfl
  have hkeys := db.providerRoutes.nodupKeys
  rw [List.Nodup, List.pairwise_map] at hkeys ⊢
  rw [joinedRoutes, List.pairwise_filterMap]
  refine hkeys.imp fun hne row hrow row' hrow' heq => hne ?_
  rw [← hid hrow, ← hid hrow', heq]

/-- Candidates are told apart by their ids. -/
theorem ControlPlane.nodup_candidates (db : ControlPlane) (p : JoinedRoute → Bool) :
    (((db.joinedRoutes.filter p).map JoinedRoute.toCandidate).map RouteCandidate.routeId).Nodup := by
  rw [List.map_map]
  exact (List.filter_sublist.map JoinedRoute.routeId).nodup db.nodup_joinedRoutes

/-- Two routes of one model differ in priority. -/
theorem ControlPlane.row_eq_of_priority (hrow : row ∈ db.joinedRoutes)
    (hrow' : row' ∈ db.joinedRoutes) (hmodel : row.route.logicalModel = row'.route.logicalModel)
    (hpriority : row.route.priority = row'.route.priority) : row = row' := by
  have hget := KeyedTable.get?_eq_some.mp (mem_joinedRoutes.mp hrow).1
  have hget' := KeyedTable.get?_eq_some.mp (mem_joinedRoutes.mp hrow').1
  have hsame := List.inj_on_of_nodup_map db.routePriorityUnique hget hget'
    (Prod.ext hmodel hpriority)
  exact joinedRoutes_unique hrow hrow' (congrArg Prod.fst hsame)

end Eligible

/-! ## The plans of the two stores -/

section Plans

variable {db : ControlPlane} {db' : Postgres.Database} {now later : Int}
  {logicalModel : String} {plan tail : List RouteCandidate} {head : RouteCandidate}

/-- SQLite's planner gets what is eligible by its own clock, of each model that matters. -/
theorem SameContents.routesOf_eligible (h : SameContents db db'.toControlPlane)
    (hle : now ≤ later) {target : String}
    (hreach : FallsBackTo db'.fallbackMap logicalModel target) :
    routesOf (Sqlite.eligibleRoutes db now) target =
      (routesOf (db'.eligibleCandidates later logicalModel) target).filter
        (· ∈ Sqlite.eligibleRoutes db now) := by
  apply routesOf_filter
  · apply (List.perm_ext_iff_of_nodup ?_ ?_).mpr
    · intro route
      simp only [List.mem_filter, decide_eq_true_eq]
      constructor
      · rintro ⟨hroute, hmodel⟩
        refine ⟨⟨?_, hmodel⟩, hroute⟩
        obtain ⟨row, hrow, heligible, rfl⟩ := Sqlite.mem_eligibleRoutes.mp hroute
        have hmodel' : row.route.logicalModel = target := hmodel
        exact Postgres.mem_eligibleCandidates.mpr ⟨row, (h.mem_joinedRoutes row).mp hrow,
          Sqlite.eligible_mono hle heligible, hmodel' ▸ hreach, rfl⟩
      · rintro ⟨⟨-, hmodel⟩, hroute⟩
        exact ⟨hroute, hmodel⟩
    · exact (db.nodup_candidates _).of_map.filter _
    · exact ((db'.nodup_candidates _).of_map.filter _).filter _
  · intro a ha b hb hamodel hbmodel hpriority
    obtain ⟨row, hrow, -, -, rfl⟩ := Postgres.mem_eligibleCandidates.mp ha
    obtain ⟨row', hrow', -, -, rfl⟩ := Postgres.mem_eligibleCandidates.mp hb
    have hmodel : row.route.logicalModel = row'.route.logicalModel := hamodel.trans hbmodel.symm
    rw [ControlPlane.row_eq_of_priority hrow hrow' hmodel hpriority]

/-- The circuit of a candidate, by the row it was read from. -/
def ControlPlane.circuitClosed (db : ControlPlane) (route : RouteCandidate) : Bool :=
  match db.providerRouteState.get? route.routeId with
  | none => false
  | some row => row.state = "closed"

theorem ControlPlane.circuitClosed_toCandidate {db : ControlPlane} {row : JoinedRoute}
    (hrow : row ∈ db.joinedRoutes) :
    db.circuitClosed row.toCandidate = true ↔ row.routeState.state = "closed" := by
  have hstate := (mem_joinedRoutes.mp hrow).2.2.1
  show (match db.providerRouteState.get? row.routeId with | none => false | some row => _) = true ↔ _
  rw [hstate, decide_eq_true_eq]

/-- Without an outstanding probe PostgreSQL answers the head of the plan and what is closed of
the rest. -/
theorem Postgres.candidates_of_free {s : Session} (digest : String → String) (leaseId : String)
    (hfree : ∀ routeId, ¬ s.ProbeTaken now routeId)
    (hplan : candidatePlan logicalModel (s.db.eligibleCandidates now logicalModel)
      s.db.fallbackMap = .ok (head :: tail)) :
    (handle digest now leaseId (.candidates logicalModel) s).1 =
      .ok (head :: tail.filter s.db.circuitClosed) := by
  have hread : ∀ route ∈ head :: tail, ∃ row ∈ s.db.eligibleRoutes now logicalModel,
      row.toCandidate = route := by
    intro route hroute
    exact List.mem_map.mp ((mem_candidatePlan hplan route).mp hroute).1
  -- What the loop looks up is the state of the row.
  have hclosed : closedRoutes (readStates (s.db.eligibleRoutes now logicalModel)) tail =
      tail.filter s.db.circuitClosed := by
    refine List.filter_congr fun route hroute => ?_
    obtain ⟨row, hrow, rfl⟩ := hread route (List.mem_cons_of_mem _ hroute)
    have hstate : (readStates (s.db.eligibleRoutes now logicalModel)).get?
        row.toCandidate.routeId = _ := get?_readStates_eligibleRoutes hrow
    rw [hstate, Bool.eq_iff_iff,
      ControlPlane.circuitClosed_toCandidate (List.mem_of_mem_filter hrow)]
    simp
  obtain ⟨row, hrow, hhead⟩ := hread head List.mem_cons_self
  obtain ⟨hjoined, hconditions⟩ := List.mem_filter.mp hrow
  have hstate : (readStates (s.db.eligibleRoutes now logicalModel)).get? head.routeId =
      some row.routeState.state := by
    rw [← hhead]
    exact get?_readStates_eligibleRoutes hrow
  have hroute : s.db.providerRoutes.get? head.routeId ≠ none :=
    route_of_mem_eligibleCandidates ((mem_candidatePlan hplan head).mp List.mem_cons_self).1
  have htakes : row.routeState.state = "closed" ∨
      ¬ s.ProbeTaken now head.routeId ∧ s.db.probeDue now head.routeId = true := by
    rw [Bool.and_eq_true, eligible, Bool.and_eq_true, Bool.or_eq_true, beq_iff_eq] at hconditions
    refine hconditions.2.2.imp_right fun hdue => ⟨hfree _, ?_⟩
    rw [← hhead]
    show s.db.probeDue now row.routeId = true
    rw [Database.probeDue, (ControlPlane.mem_joinedRoutes.mp hjoined).2.2.1]
    exact hdue
  have hselect : ((selectEligible _ (head :: tail) []).run (exec now leaseId) s).1 = _ :=
    run_selectEligible_first leaseId tail hroute hstate htakes
  rw [hclosed] at hselect
  rw [handle_candidates_eq, hplan, selectPlan]
  have hok : (yield (Except.mapError DomainError.message (.ok (head :: tail)))).run
      (exec now leaseId) s = (.ok (head :: tail), s) := rfl
  rw [Program.run_andThen_ok hok, Program.run_andThen_ok (Prod.ext hselect rfl)]
  rfl

end Plans

/-! ## Parity -/

/-- The same routes in the same order, or two errors. -/
def SameAnswer :
    Except String (List RouteCandidate) → Except String (List RouteCandidate) → Prop
  | .ok routes, .ok routes' =>
    routes.map RouteCandidate.routeId = routes'.map RouteCandidate.routeId
  | .error _, .error _ => True
  | _, _ => False

/-- The two ways to make a list of the plan come to the same, when SQLite's clock shows `now`
and PostgreSQL's `later`: there is no plan, or the first route of the model is eligible on both
clocks, and whatever else SQLite finds eligible is closed. -/
def PlansAlike (db : ControlPlane) (now later : Int) (logicalModel : String) : Prop :=
  ¬ AcyclicFrom db.fallbackMap logicalModel ∨
  (∀ row ∈ db.joinedRoutes, Sqlite.eligible later row = true →
    row.route.logicalModel ≠ logicalModel) ∨
  ∃ first ∈ db.joinedRoutes, Sqlite.eligible now first = true ∧
    first.route.logicalModel = logicalModel ∧
    (∀ row ∈ db.joinedRoutes, Sqlite.eligible later row = true →
      row.route.logicalModel = logicalModel → first.route.priority ≤ row.route.priority) ∧
    ∀ row ∈ db.joinedRoutes, Sqlite.eligible now row = true →
      FallsBackTo db.fallbackMap logicalModel row.route.logicalModel →
        row = first ∨ row.routeState.state = "closed"

section Parity

variable {db : ControlPlane} {db' : Postgres.Database} {now later : Int} {logicalModel : String}

/-- PostgreSQL's plan can be made when its model owns a route eligible on its clock. -/
theorem serves_eligibleCandidates (h : SameContents db db'.toControlPlane) :
    Serves (db'.eligibleCandidates later logicalModel) logicalModel ↔
      ∃ row ∈ db.joinedRoutes, Sqlite.eligible later row = true ∧
        row.route.logicalModel = logicalModel := by
  constructor
  · rintro ⟨route, hroute, hmodel⟩
    obtain ⟨row, hrow, heligible, -, rfl⟩ := Postgres.mem_eligibleCandidates.mp hroute
    exact ⟨row, (h.mem_joinedRoutes row).mpr hrow, heligible, hmodel⟩
  · rintro ⟨row, hrow, heligible, hmodel⟩
    refine ⟨row.toCandidate, Postgres.mem_eligibleCandidates.mpr
      ⟨row, (h.mem_joinedRoutes row).mp hrow, heligible, ?_, rfl⟩, hmodel⟩
    rw [hmodel]

/-- The condition, read off PostgreSQL's plan. -/
theorem plansAlike_of_plan (h : SameContents db db'.toControlPlane) (hle : now ≤ later)
    {head : RouteCandidate} {tail : List RouteCandidate}
    (hplan : candidatePlan logicalModel (db'.eligibleCandidates later logicalModel)
      db'.fallbackMap = .ok (head :: tail)) :
    PlansAlike db now later logicalModel ↔
      head ∈ Sqlite.eligibleRoutes db now ∧ ∀ route ∈ tail,
        route ∈ Sqlite.eligibleRoutes db now → db'.circuitClosed route = true := by
  -- The plan of PostgreSQL exists, so the first two ways to agree are excluded.
  obtain ⟨hserves, hacyclic⟩ := candidatePlan_ok_iff.mp ⟨_, hplan⟩
  obtain ⟨⟨hhead, hmodel⟩, hleast⟩ := candidatePlan_head hplan
  obtain ⟨row, hrow, hrowEligible, -, rfl⟩ := Postgres.mem_eligibleCandidates.mp hhead
  have hmem := mem_candidatePlan hplan
  rw [← h.fallbackMap] at hmem hacyclic
  have hnodup := nodup_candidatePlan (db'.nodup_candidates _).of_map hplan
  constructor
  · rintro (hcyclic | hnone | ⟨first, hfirst, heligible, hown, hminimal, hothers⟩)
    · exact absurd hacyclic hcyclic
    · obtain ⟨row', hrow', heligible', hmodel'⟩ := (serves_eligibleCandidates h).mp hserves
      exact absurd hmodel' (hnone row' hrow' heligible')
    · -- The first route is the head of the plan, since both come first by priority.
      have hfirst' := (h.mem_joinedRoutes first).mp hfirst
      have hsame : first = row := by
        refine ControlPlane.row_eq_of_priority hfirst' hrow (hown.trans hmodel.symm) ?_
        refine Nat.le_antisymm
          (hminimal row ((h.mem_joinedRoutes row).mpr hrow) hrowEligible hmodel) ?_
        refine hleast first.toCandidate (Postgres.mem_eligibleCandidates.mpr ⟨first, hfirst',
          Sqlite.eligible_mono hle heligible, ?_, rfl⟩) hown
        rw [hown]
      subst hsame
      refine ⟨Sqlite.mem_eligibleRoutes.mpr ⟨first, hfirst, heligible, rfl⟩, ?_⟩
      intro route hroute hkept
      obtain ⟨other, hother, heligible', rfl⟩ := Sqlite.mem_eligibleRoutes.mp hkept
      have hreach := ((hmem _).mp (List.mem_cons_of_mem _ hroute)).2
      rcases hothers other hother heligible' hreach with rfl | hclosed
      · exact absurd hroute (List.nodup_cons.mp hnodup).1
      · exact (ControlPlane.circuitClosed_toCandidate
          ((h.mem_joinedRoutes other).mp hother)).mpr hclosed
  · rintro ⟨hkept, hclosed⟩
    obtain ⟨first, hfirst, heligible, hid⟩ := Sqlite.mem_eligibleRoutes.mp hkept
    have hown : first.route.logicalModel = logicalModel := by
      have hsame := congrArg RouteCandidate.logicalModel hid
      exact hsame.trans hmodel
    refine Or.inr (Or.inr ⟨first, hfirst, heligible, hown, ?_, ?_⟩)
    · intro row' hrow' heligible' hmodel'
      have hpriority := congrArg RouteCandidate.priority hid
      refine hpriority.trans_le (hleast row'.toCandidate (Postgres.mem_eligibleCandidates.mpr
        ⟨row', (h.mem_joinedRoutes row').mp hrow', heligible', ?_, rfl⟩) hmodel')
      rw [hmodel']
    · intro row' hrow' heligible' hreach
      have hin : row'.toCandidate ∈ row.toCandidate :: tail := (hmem _).mpr
        ⟨Postgres.mem_eligibleCandidates.mpr ⟨row', (h.mem_joinedRoutes row').mp hrow',
          Sqlite.eligible_mono hle heligible', h.fallbackMap ▸ hreach, rfl⟩, hreach⟩
      -- Every other eligible route is in the tail, where it has to be closed.
      rcases List.mem_cons.mp hin with hhead' | htail
      · left
        have hids := congrArg RouteCandidate.routeId (hhead'.trans hid.symm)
        exact ControlPlane.joinedRoutes_unique hrow' hfirst hids
      · right
        have hcircuit := hclosed _ htail (Sqlite.mem_eligibleRoutes.mpr
          ⟨row', hrow', heligible', rfl⟩)
        exact (ControlPlane.circuitClosed_toCandidate
          ((h.mem_joinedRoutes row').mp hrow')).mp hcircuit

/-- A plan of SQLite's routes is one of PostgreSQL's. -/
theorem serves_postgres {s : Postgres.Session} (h : SameContents db s.db.toControlPlane)
    (hle : now ≤ later) (hserves : Serves (Sqlite.eligibleRoutes db now) logicalModel) :
    Serves (s.db.eligibleCandidates later logicalModel) logicalModel := by
  rcases hserves with ⟨route, hroute, hmodel⟩
  obtain ⟨row, hrow, heligible, rfl⟩ := Sqlite.mem_eligibleRoutes.mp hroute
  exact (serves_eligibleCandidates h).mpr ⟨row, hrow, Sqlite.eligible_mono hle heligible, hmodel⟩

/-- Where PostgreSQL has no plan, SQLite has none, and both answer with an error. -/
theorem sameAnswer_of_no_plan {s : Postgres.Session} (h : SameContents db s.db.toControlPlane)
    (hle : now ≤ later) {error : DomainError}
    (hplan : candidatePlan logicalModel (s.db.eligibleCandidates later logicalModel)
      s.db.fallbackMap = .error error) (digest : String → String) (leaseId : String) :
    SameAnswer (Sqlite.candidates db now logicalModel)
        (Postgres.handle digest later leaseId (.candidates logicalModel) s).1 ∧
      PlansAlike db now later logicalModel := by
  have hnone : ¬ (Serves (s.db.eligibleCandidates later logicalModel) logicalModel ∧
      AcyclicFrom s.db.fallbackMap logicalModel) := by
    rw [← candidatePlan_ok_iff, hplan]
    simp
  obtain ⟨error', hsqlite⟩ : ∃ error', candidatePlan logicalModel
      (Sqlite.eligibleRoutes db now) db.fallbackMap = .error error' := by
    cases hown : candidatePlan logicalModel (Sqlite.eligibleRoutes db now) db.fallbackMap with
    | error error' => exact ⟨error', rfl⟩
    | ok plan =>
      obtain ⟨hown, hacyclic⟩ := candidatePlan_ok_iff.mp ⟨plan, hown⟩
      exact absurd ⟨serves_postgres h hle hown, h.fallbackMap ▸ hacyclic⟩ hnone
  have hpostgres := Postgres.handle_candidates digest later leaseId logicalModel s
  rw [hplan] at hpostgres
  dsimp only at hpostgres
  rw [Sqlite.candidates_eq, hsqlite, hpostgres]
  refine ⟨trivial, ?_⟩
  rcases not_and_or.mp hnone with hserves' | hcyclic
  · refine Or.inr (Or.inl fun row hrow heligible hmodel => hserves' ?_)
    exact (serves_eligibleCandidates h).mpr ⟨row, hrow, heligible, hmodel⟩
  · exact Or.inl (h.fallbackMap ▸ hcyclic)

/-- The stores answer alike, whatever each clock shows, exactly when their plans come to the
same. -/
theorem sameAnswer_iff {s : Postgres.Session} (h : SameContents db s.db.toControlPlane)
    (hle : now ≤ later) (hfree : ∀ routeId, ¬ s.ProbeTaken later routeId)
    (digest : String → String) (leaseId : String) :
    SameAnswer (Sqlite.candidates db now logicalModel)
        (Postgres.handle digest later leaseId (.candidates logicalModel) s).1 ↔
      PlansAlike db now later logicalModel := by
  cases hplan : candidatePlan logicalModel (s.db.eligibleCandidates later logicalModel)
      s.db.fallbackMap with
  | error error =>
    rcases sameAnswer_of_no_plan h hle hplan digest leaseId with ⟨hsame, halike⟩
    exact iff_of_true hsame halike
  | ok plan' =>
    cases plan' with
    | nil => exact absurd rfl (candidatePlan_ne_nil hplan)
    | cons head tail =>
      rw [Sqlite.candidates_eq, Postgres.candidates_of_free digest leaseId hfree hplan,
        plansAlike_of_plan h hle hplan]
      by_cases hown : Serves (Sqlite.eligibleRoutes db now) logicalModel
      · rw [h.fallbackMap, candidatePlan_filter (· ∈ Sqlite.eligibleRoutes db now)
          (fun target hreach => h.routesOf_eligible hle hreach) hown hplan]
        -- both answers leave routes out of one plan without repetitions, so members decide
        have hids : ((head :: tail).map RouteCandidate.routeId).Nodup := by
          have hunique := s.db.nodup_candidates fun row =>
            row.route.logicalModel ∈ s.db.reachableModels logicalModel &&
              Postgres.eligible later row
          refine (nodup_candidatePlan hunique.of_map hplan).map_on fun a ha b hb hid => ?_
          exact List.inj_on_of_nodup_map hunique ((mem_candidatePlan hplan a).mp ha).1
            ((mem_candidatePlan hplan b).mp hb).1 hid
        have hclosed : ∀ route ∈ tail, s.db.circuitClosed route = true →
            decide (route ∈ Sqlite.eligibleRoutes db now) = true := by
          intro route hroute hcircuit
          have hin := ((mem_candidatePlan hplan route).mp (List.mem_cons_of_mem _ hroute)).1
          obtain ⟨row, hrow, heligible, -, rfl⟩ := Postgres.mem_eligibleCandidates.mp hin
          rw [ControlPlane.circuitClosed_toCandidate hrow] at hcircuit
          exact decide_eq_true (Sqlite.mem_eligibleRoutes.mpr ⟨row, (h.mem_joinedRoutes row).mpr hrow,
            Sqlite.eligible_of_closed heligible hcircuit, rfl⟩)
        refine (map_filter_eq_iff hids hclosed).trans ?_
        simp only [decide_eq_true_eq]
      · -- SQLite knows no route of the model, so it has not got the head either.
        rw [candidatePlan_of_not_serves _ hown]
        refine iff_of_false id fun hkept => hown ?_
        exact ⟨head, hkept.1, (candidatePlan_head hplan).1.2⟩

/-- At every instant the two stores answer alike exactly when their plans come to the same. -/
theorem same_candidates_iff {s : Postgres.Session} (h : SameContents db s.db.toControlPlane)
    (instant : Int) (hfree : ∀ routeId, ¬ s.ProbeTaken (Postgres.epoch instant) routeId)
    (digest : String → String) (leaseId logicalModel : String) :
    SameAnswer (Sqlite.candidates db (Sqlite.unixepoch instant) logicalModel)
        (Postgres.handle digest (Postgres.epoch instant) leaseId (.candidates logicalModel) s).1 ↔
      PlansAlike db (Sqlite.unixepoch instant) (Postgres.epoch instant) logicalModel :=
  sameAnswer_iff h (unixepoch_le_epoch instant) hfree digest leaseId

end Parity

/-- The smallest control plane is read alike by both. -/
theorem closed_route_alike :
    SameAnswer (Sqlite.candidates (.oneRoute ⟨"closed", none, none⟩)
        (Sqlite.unixepoch 1500000) "model")
      (Postgres.handle id (Postgres.epoch 1500000) "lease" (.candidates "model")
        Postgres.Session.closedRoute).1 ↔
      PlansAlike (.oneRoute ⟨"closed", none, none⟩) (Sqlite.unixepoch 1500000)
        (Postgres.epoch 1500000) "model" :=
  same_candidates_iff (s := Postgres.Session.closedRoute)
    ⟨fun _ => rfl, fun _ => rfl, fun _ => rfl, fun _ => rfl, fun _ => rfl⟩ 1500000
    (by
      rintro routeId (howned | hheld)
      · exact howned rfl
      · cases hheld) id "lease" "model"

/-! ## A route that only SQLite offers -/

namespace Disparity

/-- One model with a closed route and, after it, one that is open and due since the epoch. -/
def db : ControlPlane :=
  { ControlPlane.oneRoute ⟨"closed", none, none⟩ with
    providerRoutes := ⟨[
      ("first", ⟨"model", "account", "upstream", 1, true⟩),
      ("second", ⟨"model", "account", "upstream", 2, true⟩)], by decide⟩
    providerRouteState := ⟨[
      ("first", ⟨"closed", none, none⟩),
      ("second", ⟨"open", some "RateLimited", some 0⟩)], by decide⟩
    routePriorityUnique := by decide
    routeReferences := by decide
    routeStateReferences := by decide }

def session : Postgres.Session where
  db :=
    { db with
      probeLeases := .empty
      routeStateCheck := by decide
      accountStateCheck := by decide
      leaseReferences := by decide }
  probeLeases := .empty

theorem sqlite_offers_more :
    SameContents db session.db.toControlPlane ∧
    (∀ routeId, ¬ session.ProbeTaken (Postgres.epoch 1000000) routeId) ∧
    (Sqlite.candidates db (Sqlite.unixepoch 1000000) "model").map
      (·.map RouteCandidate.routeId) = .ok ["first", "second"] ∧
    (Postgres.handle id (Postgres.epoch 1000000) "lease" (.candidates "model") session).1.map
      (·.map RouteCandidate.routeId) = .ok ["first"] := by
  refine ⟨⟨fun _ => rfl, fun _ => rfl, fun _ => rfl, fun _ => rfl, fun _ => rfl⟩, ?_, rfl, rfl⟩
  rintro routeId (howned | hheld)
  · exact howned rfl
  · cases hheld

end Disparity

end SmartGateway
