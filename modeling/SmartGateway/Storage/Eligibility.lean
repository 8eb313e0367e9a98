import SmartGateway.Storage.Sqlite
import SmartGateway.Storage.PostgresMethods

/-! # What an offered route may rely on

Both route queries filter on the flags of the route and of its account, on the account's
state and on the circuit. Neither looks at `logical_models.enabled`, so a route that
is offered is sound in every respect but one: its logical model may be disabled.

`candidates_sound_iff` says for both stores when no offered route has a disabled model. It
needs the exact set of offered routes: for SQLite the plan, for PostgreSQL what the
selection loop keeps of it (`mem_selectEligible`).

`now` is what the store itself reads off its clock, in whole seconds. PostgreSQL rounds to the
nearest one, so a retry time can come to it up to half a second early; SQLite rounds down.
-/

namespace SmartGateway

/-! ## Soundness -/

namespace ControlPlane

/-- What makes a joined row a route that may be offered at `now`. -/
structure JoinedRoute.Sound (db : ControlPlane) (now : Int) (row : JoinedRoute) : Prop where
  routeEnabled : row.route.enabled = true
  modelEnabled : db.logicalModels.get? row.route.logicalModel = some true
  accountEnabled : row.account.enabled = true
  accountNotBlocked : row.accountState.state ≠ "blocked"
  circuit : row.routeState.state = "closed" ∨
    ∃ retryAt, row.routeState.retryAt = some retryAt ∧ retryAt ≤ now

/-- The candidate stands for a row of the tables that may be offered. -/
def MaySend (db : ControlPlane) (now : Int) (candidate : RouteCandidate) : Prop :=
  ∃ row ∈ db.joinedRoutes, row.toCandidate = candidate ∧ row.Sound db now

theorem retryDue_eq_true {retryAt : Option Int} {now : Int} :
    retryDue retryAt now = true ↔ ∃ instant, retryAt = some instant ∧ instant ≤ now := by
  cases retryAt with
  | none => simp [retryDue]
  | some instant => simp [retryDue]

/-- The flags and states that both queries check. -/
theorem JoinedRoute.sound_iff {db : ControlPlane} {now : Int} {row : JoinedRoute}
    (husable : row.usable = true)
    (hcircuit : row.routeState.state = "closed" ∨ retryDue row.routeState.retryAt now = true) :
    row.Sound db now ↔ db.logicalModels.get? row.route.logicalModel = some true := by
  have hflags : (row.route.enabled = true ∧ row.account.enabled = true) ∧
      row.accountState.state ≠ "blocked" := by
    simpa [usable] using husable
  constructor
  · intro h
    exact h.modelEnabled
  · intro hmodel
    exact ⟨hflags.1.1, hmodel, hflags.1.2, hflags.2, hcircuit.imp_right retryDue_eq_true.mp⟩

/-- A candidate read from a row that the query lets through may be offered exactly when its
logical model is enabled. -/
theorem maySend_iff {db : ControlPlane} {now : Int} {row : JoinedRoute}
    (hrow : row ∈ db.joinedRoutes) (husable : row.usable = true)
    (hcircuit : row.routeState.state = "closed" ∨ retryDue row.routeState.retryAt now = true) :
    db.MaySend now row.toCandidate ↔
      db.logicalModels.get? row.route.logicalModel = some true := by
  have hsound : row.Sound db now ↔ db.logicalModels.get? row.route.logicalModel = some true :=
    row.sound_iff husable hcircuit
  rw [← hsound]
  constructor
  · rintro ⟨row', hrow', heq, hsound⟩
    have hsame : row' = row :=
      joinedRoutes_unique hrow' hrow (congrArg RouteCandidate.routeId heq)
    rwa [hsame] at hsound
  · intro hrowSound
    exact ⟨row, hrow, rfl, hrowSound⟩

end ControlPlane

/-! ## SQLite -/

namespace Sqlite

/-- Every route the plan would list has an enabled logical model. -/
def ModelsEnabled (db : ControlPlane) (now : Int) (logicalModel : String) : Prop :=
  ∀ row ∈ db.joinedRoutes, eligible now row = true →
    FallsBackTo db.fallbackMap logicalModel row.route.logicalModel →
      db.logicalModels.get? row.route.logicalModel = some true

theorem circuit_of_eligible {now : Int} {row : ControlPlane.JoinedRoute}
    (h : eligible now row = true) : row.usable = true ∧ (row.routeState.state = "closed" ∨
      ControlPlane.retryDue row.routeState.retryAt now = true) := by
  simpa [eligible] using h

/-- What SQLite offers may be sent to exactly when there is no plan or no route of it has a
disabled logical model. -/
theorem candidates_sound_iff (db : ControlPlane) (now : Int) (logicalModel : String) :
    (∀ plan, candidates db now logicalModel = .ok plan →
      ∀ candidate ∈ plan, db.MaySend now candidate) ↔
    (Serves (eligibleRoutes db now) logicalModel → AcyclicFrom db.fallbackMap logicalModel →
      ModelsEnabled db now logicalModel) := by
  -- of what a candidate needs, the query leaves out the switch of its logical model only
  have hmem : ∀ row ∈ db.joinedRoutes, eligible now row = true →
      (db.MaySend now row.toCandidate ↔
        db.logicalModels.get? row.route.logicalModel = some true) := by
    intro row hrow heligible
    obtain ⟨husable, hcircuit⟩ := circuit_of_eligible heligible
    exact ControlPlane.maySend_iff hrow husable hcircuit
  rw [candidates_eq]
  constructor
  · intro h hserves hacyclic row hrow heligible hreach
    obtain ⟨plan, hplan⟩ := candidatePlan_ok_iff.mpr ⟨hserves, hacyclic⟩
    have hin : row.toCandidate ∈ eligibleRoutes db now :=
      List.mem_map_of_mem (List.mem_filter.mpr ⟨hrow, heligible⟩)
    have hlisted := (mem_candidatePlan hplan row.toCandidate).mpr ⟨hin, hreach⟩
    exact (hmem row hrow heligible).mp (h plan (by rw [hplan]; rfl) _ hlisted)
  · intro h plan hplan candidate hcandidate
    cases hresult : candidatePlan logicalModel (eligibleRoutes db now) db.fallbackMap with
    | error error =>
      rw [hresult] at hplan
      cases hplan
    | ok plan' =>
      rw [hresult] at hplan
      cases hplan
      obtain ⟨hserves, hacyclic⟩ := candidatePlan_ok_iff.mp ⟨_, hresult⟩
      obtain ⟨hin, hreach⟩ := (mem_candidatePlan hresult candidate).mp hcandidate
      obtain ⟨row, hrow, rfl⟩ := List.mem_map.mp hin
      obtain ⟨hjoined, heligible⟩ := List.mem_filter.mp hrow
      exact (hmem row hjoined heligible).mpr (h hserves hacyclic row hjoined heligible hreach)

end Sqlite

/-! ## PostgreSQL -/

/-- `a` is the first element of the list with the property. -/
inductive FirstWith {α : Type} (P : α → Prop) : List α → α → Prop where
  | here {a : α} {rest : List α} (h : P a) : FirstWith P (a :: rest) a
  | later {a first : α} {rest : List α} (hfirst : ¬ P first) (h : FirstWith P rest a) :
      FirstWith P (first :: rest) a

theorem FirstWith.mem {α : Type} {P : α → Prop} {items : List α} {a : α}
    (h : FirstWith P items a) : a ∈ items := by
  induction h with
  | here _ => exact List.mem_cons_self
  | later _ _ ih => exact List.mem_cons_of_mem _ ih

namespace Postgres

open ControlPlane (JoinedRoute)

/-- The loop of `candidates` keeps a route of the plan: it was read closed, or it is the first
that the loop can take. -/
def Session.Keeps (s : Session) (now : Int) (states : KeyedTable String String)
    (plan : List RouteCandidate) (candidate : RouteCandidate) : Prop :=
  candidate ∈ closedRoutes states plan ∨ FirstWith (s.Takes now states) plan candidate

/-- A route that was read closed is kept, and nothing before it matters to what follows. -/
theorem Session.keeps_closed {s : Session} {now : Int} {states : KeyedTable String String}
    {first candidate : RouteCandidate} {plan : List RouteCandidate}
    (hfirst : s.Takes now states first) :
    s.Keeps now states (first :: plan) candidate ↔
      candidate ∈ first :: closedRoutes states plan := by
  constructor
  · rintro (hclosed | hfirstWith)
    · obtain ⟨hmem, hstate⟩ := List.mem_filter.mp hclosed
      rcases List.mem_cons.mp hmem with rfl | hmem
      · exact List.mem_cons_self
      · exact List.mem_cons_of_mem _ (List.mem_filter.mpr ⟨hmem, hstate⟩)
    · cases hfirstWith with
      | here _ => exact List.mem_cons_self
      | later hn _ => exact absurd hfirst hn
  · intro h
    rcases List.mem_cons.mp h with rfl | hclosed
    · exact Or.inr (.here hfirst)
    · obtain ⟨hmem, hstate⟩ := List.mem_filter.mp hclosed
      exact Or.inl (List.mem_filter.mpr ⟨List.mem_cons_of_mem _ hmem, hstate⟩)

/-- A route that the loop cannot take is not kept. -/
theorem Session.keeps_skipped {s : Session} {now : Int} {states : KeyedTable String String}
    {first candidate : RouteCandidate} {plan : List RouteCandidate}
    (hfirst : ¬ s.Takes now states first) :
    s.Keeps now states (first :: plan) candidate ↔ s.Keeps now states plan candidate := by
  have hopen : states.get? first.routeId ≠ some "closed" := fun h => hfirst ⟨_, h, Or.inl rfl⟩
  have hclosed : closedRoutes states (first :: plan) = closedRoutes states plan := by
    simp [closedRoutes, hopen]
  rw [Session.Keeps, Session.Keeps, hclosed]
  apply or_congr_right
  constructor
  · intro h
    cases h with
    | here h => exact absurd h hfirst
    | later _ h => exact h
  · exact .later hfirst

/-- A route that was not read closed can be taken if its probe can. -/
theorem Session.takes_iff_of_ne_closed {s : Session} {now : Int}
    {states : KeyedTable String String} {candidate : RouteCandidate} {state : String}
    (hstate : states.get? candidate.routeId = some state) (hclosed : state ≠ "closed") :
    s.Takes now states candidate ↔
      ¬ s.ProbeTaken now candidate.routeId ∧ s.db.probeDue now candidate.routeId = true := by
  constructor
  · rintro ⟨_, hsome, hcan⟩
    rw [hstate, Option.some.injEq] at hsome
    subst hsome
    exact hcan.resolve_left hclosed
  · intro hprobe
    exact ⟨state, hstate, Or.inr hprobe⟩

/-- A probe is granted exactly where it is free and due; without one the session stays as it is. -/
theorem Session.acquireProbe_answer {s s' : Session} {now : Int} {routeId leaseId : String}
    {lease : Option String} (h : s.acquireProbe now routeId leaseId = (.ok lease, s')) :
    (lease.isSome = true ↔ ¬ s.ProbeTaken now routeId ∧ s.db.probeDue now routeId = true) ∧
      (lease = none → s' = s) := by
  -- the process has a probe out, the route is gone, the statement refuses, or it grants the probe
  rcases s.acquireProbe_cases now routeId leaseId with
    ⟨howned, hprobe⟩ | ⟨-, -, hprobe⟩ | ⟨-, hrefused, hprobe⟩ | ⟨_, hfree, hlease, hdue, hprobe⟩
  · rw [hprobe] at h
    cases h
    refine ⟨iff_of_false Bool.false_ne_true ?_, fun _ => rfl⟩
    rintro ⟨hnot, -⟩
    exact hnot (Or.inl howned)
  · rw [hprobe] at h
    cases h
  · rw [hprobe] at h
    cases h
    refine ⟨iff_of_false Bool.false_ne_true ?_, fun _ => rfl⟩
    rintro ⟨hnot, hdue⟩
    apply hrefused
    refine ⟨?_, hdue⟩
    cases hlease : s.db.leaseFree now routeId with
    | true => rfl
    | false => exact absurd (Or.inr hlease) hnot
  · rw [hprobe] at h
    cases h
    have hnot : ¬ s.ProbeTaken now routeId := by
      rintro (howned | hheld)
      · exact howned hfree
      · rw [hheld] at hlease
        cases hlease
    refine ⟨iff_of_true rfl ⟨hnot, hdue⟩, ?_⟩
    intro hnone
    cases hnone

/-- What the loop returns, exactly. The induction is on the plan: until something is eligible
no probe was granted, so the session is still the one the loop began with. -/
theorem mem_selectEligible {now : Int} {leaseId : String} {states : KeyedTable String String}
    {plan : List RouteCandidate} {s : Session} {routes : List RouteCandidate}
    (h : ((selectEligible states plan []).run (exec now leaseId) s).1 = .ok routes)
    (candidate : RouteCandidate) :
    candidate ∈ routes ↔ s.Keeps now states plan candidate := by
  induction plan with
  | nil =>
    cases h
    constructor
    · intro hmem
      cases hmem
    · rintro (hmem | hfirst)
      · cases hmem
      · cases hfirst
  | cons first plan ih =>
    -- once the first route is eligible only closed routes are added to it
    have htaken : ∀ s' : Session,
        ((selectEligible states plan [first]).run (exec now leaseId) s').1 = .ok routes →
          routes = first :: closedRoutes states plan := by
      intro s' hrun
      rw [run_selectEligible_taken, Except.ok.injEq] at hrun
      exact hrun.symm
    cases hstate : states.get? first.routeId with
    | none =>
      have hskip : ¬ s.Takes now states first := by
        rintro ⟨state, hsome, -⟩
        rw [hstate] at hsome
        cases hsome
      rw [selectEligible_unknown hstate] at h
      rw [Session.keeps_skipped hskip]
      exact ih h
    | some state =>
      by_cases hclosed : state = "closed"
      · have htakes : s.Takes now states first := ⟨state, hstate, Or.inl hclosed⟩
        subst hclosed
        rw [selectEligible_closed hstate] at h
        rw [Session.keeps_closed htakes, htaken s h]
      · have htakes : s.Takes now states first ↔ ¬ s.ProbeTaken now first.routeId ∧
            s.db.probeDue now first.routeId = true := Session.takes_iff_of_ne_closed hstate hclosed
        rcases hprobe : s.acquireProbe now first.routeId leaseId with ⟨error | lease, s'⟩
        · rw [run_selectEligible_error hstate hclosed hprobe] at h
          cases h
        · rcases Session.acquireProbe_answer hprobe with ⟨hgranted, hsame⟩
          rw [← hgranted] at htakes
          rw [run_selectEligible_probe hstate hclosed hprobe] at h
          cases lease with
          | none =>
            have hskip : ¬ s.Takes now states first := by
              rw [htakes]
              exact Bool.false_ne_true
            rw [hsame rfl] at h
            rw [Session.keeps_skipped hskip]
            exact ih h
          | some lease => rw [Session.keeps_closed (htakes.mpr rfl), htaken _ h]

/-- No route that the call would keep has a disabled logical model. -/
def Session.ModelsEnabled (s : Session) (now : Int) (logicalModel : String) : Prop :=
  ∀ plan, candidatePlan logicalModel (s.db.eligibleCandidates now logicalModel)
      s.db.fallbackMap = .ok plan →
    ∀ candidate ∈ plan,
      s.Keeps now (readStates (s.db.eligibleRoutes now logicalModel)) plan candidate →
        s.db.logicalModels.get? candidate.logicalModel = some true

/-- What PostgreSQL offers, exactly: what the loop keeps of the plan, if that is anything. -/
theorem offered_iff (digest : String → String) (now : Int) (leaseId logicalModel : String)
    (s : Session) (candidate : RouteCandidate) :
    (∃ routes, (handle digest now leaseId (.candidates logicalModel) s).1 = .ok routes ∧
      candidate ∈ routes) ↔
    ∃ plan, candidatePlan logicalModel (s.db.eligibleCandidates now logicalModel)
        s.db.fallbackMap = .ok plan ∧
      s.Keeps now (readStates (s.db.eligibleRoutes now logicalModel)) plan candidate := by
  rw [handle_candidates_eq]
  cases hplan : candidatePlan logicalModel (s.db.eligibleCandidates now logicalModel)
      s.db.fallbackMap with
  | error error =>
    constructor
    · rintro ⟨routes, h, -⟩
      cases h
    · rintro ⟨plan, h, -⟩
      cases h
  | ok plan =>
    have hroutes : ∀ candidate ∈ plan, s.db.providerRoutes.get? candidate.routeId ≠ none := by
      intro candidate hcandidate
      exact route_of_mem_eligibleCandidates ((mem_candidatePlan hplan candidate).mp hcandidate).1
    obtain ⟨probe, hselect, -⟩ := run_selectEligible now leaseId
      (readStates (s.db.eligibleRoutes now logicalModel)) hroutes
    generalize probe.toList ++ closedRoutes (readStates (s.db.eligibleRoutes now logicalModel))
      plan = routes at hselect
    -- the loop keeps a list, and an empty one is reported as an error
    have hmem := mem_selectEligible hselect candidate
    have hresult : ((selectPlan (s.db.eligibleRoutes now logicalModel) logicalModel
        (.ok plan)).run (exec now leaseId) s).1 =
        if routes.isEmpty then .error ("no eligible route exists for `" ++ logicalModel ++ "`")
        else .ok routes := by
      have hloop : (selectEligible (readStates (s.db.eligibleRoutes now logicalModel))
          plan []).run (exec now leaseId) s = (.ok routes, _) := Prod.ext hselect rfl
      have hok : (yield (Except.ok plan : Except String _)).run (exec now leaseId) s =
          (.ok plan, s) := rfl
      refine (congrArg Prod.fst ((Program.run_andThen_ok hok).trans
        (Program.run_andThen_ok hloop))).trans ?_
      split <;> rfl
    rw [hresult]
    constructor
    · rintro ⟨returned, hreturned, hcandidate⟩
      split at hreturned
      · cases hreturned
      · cases hreturned
        exact ⟨plan, rfl, hmem.mp hcandidate⟩
    · rintro ⟨plan', heq, hkeeps⟩
      cases heq
      have hcandidate := hmem.mpr hkeeps
      have hnonempty : ¬ routes.isEmpty = true := by
        rw [List.isEmpty_iff]
        exact List.ne_nil_of_mem hcandidate
      exact ⟨routes, if_neg hnonempty, hcandidate⟩

/-- A candidate of the plan may be offered exactly when its logical model is enabled. -/
theorem maySend_iff {db : Database} {now : Int} {logicalModel : String}
    {candidate : RouteCandidate} (h : candidate ∈ db.eligibleCandidates now logicalModel) :
    db.MaySend now candidate ↔ db.logicalModels.get? candidate.logicalModel = some true := by
  obtain ⟨row, hrow, rfl⟩ := List.mem_map.mp h
  obtain ⟨hjoined, hquery⟩ := List.mem_filter.mp hrow
  have heligible : eligible now row = true := (Bool.and_eq_true_iff.mp hquery).2
  obtain ⟨husable, hcircuit⟩ : row.usable = true ∧ (row.routeState.state = "closed" ∨
      ControlPlane.retryDue row.routeState.retryAt now = true) := by
    rw [eligible, Bool.and_eq_true, Bool.or_eq_true, Bool.and_eq_true, beq_iff_eq] at heligible
    exact ⟨heligible.1, heligible.2.imp_right And.right⟩
  exact ControlPlane.maySend_iff hjoined husable hcircuit

/-- What PostgreSQL offers may be sent to exactly when no route that the call would keep has a
disabled logical model. -/
theorem candidates_sound_iff (digest : String → String) (now : Int)
    (leaseId logicalModel : String) (s : Session) :
    (∀ routes, (handle digest now leaseId (.candidates logicalModel) s).1 = .ok routes →
      ∀ candidate ∈ routes, s.db.MaySend now candidate) ↔
    s.ModelsEnabled now logicalModel := by
  constructor
  · intro h plan hplan candidate hcandidate hkeeps
    obtain ⟨routes, hroutes, hmem⟩ :=
      (offered_iff digest now leaseId logicalModel s candidate).mpr ⟨plan, hplan, hkeeps⟩
    have hin := ((mem_candidatePlan hplan candidate).mp hcandidate).1
    exact (maySend_iff hin).mp (h routes hroutes candidate hmem)
  · intro h routes hroutes candidate hmem
    obtain ⟨plan, hplan, hkeeps⟩ :=
      (offered_iff digest now leaseId logicalModel s candidate).mp ⟨routes, hroutes, hmem⟩
    have hcandidate : candidate ∈ plan := by
      rcases hkeeps with hclosed | hfirst
      · exact (List.mem_filter.mp hclosed).1
      · exact hfirst.mem
    have hin := ((mem_candidatePlan hplan candidate).mp hcandidate).1
    exact (maySend_iff hin).mpr (h plan hplan candidate hcandidate hkeeps)

end Postgres

/-! ## Both stores -/

/-- When an offered route may be sent to, for either store: no plan, or no disabled logical
model among the routes the call returns. -/
theorem offered_routes_sound_iff (db : ControlPlane) (s : Postgres.Session)
    (digest : String → String) (now : Int) (leaseId logicalModel : String) :
    ((∀ plan, Sqlite.candidates db now logicalModel = .ok plan →
        ∀ candidate ∈ plan, db.MaySend now candidate) ↔
      (Serves (Sqlite.eligibleRoutes db now) logicalModel →
        AcyclicFrom db.fallbackMap logicalModel → Sqlite.ModelsEnabled db now logicalModel)) ∧
    ((∀ routes, (Postgres.handle digest now leaseId (.candidates logicalModel) s).1 = .ok routes →
        ∀ candidate ∈ routes, s.db.MaySend now candidate) ↔
      s.ModelsEnabled now logicalModel) :=
  ⟨Sqlite.candidates_sound_iff db now logicalModel,
    Postgres.candidates_sound_iff digest now leaseId logicalModel s⟩

/-- The smallest control plane with its logical model switched off. -/
def ControlPlane.disabledModel : ControlPlane :=
  { ControlPlane.oneRoute ⟨"closed", none, none⟩ with
    logicalModels := .single "model" false
    routeReferences := by decide
    fallbackReferences := by decide }

/-- Its one route is offered all the same. -/
theorem disabled_model_offered :
    Sqlite.candidates .disabledModel 0 "model" = .ok [ControlPlane.onlyRoute] ∧
    ¬ ControlPlane.disabledModel.MaySend 0 ControlPlane.onlyRoute := by
  constructor
  · decide +kernel
  · rintro ⟨row, hrow, hcandidate, hsound⟩
    have hmodel : row.route.logicalModel = "model" :=
      congrArg RouteCandidate.logicalModel hcandidate
    have henabled := hsound.modelEnabled
    rw [hmodel] at henabled
    have hdisabled : ControlPlane.disabledModel.logicalModels.get? "model" = some false := by
      decide +kernel
    rw [hdisabled] at henabled
    cases henabled

end SmartGateway
