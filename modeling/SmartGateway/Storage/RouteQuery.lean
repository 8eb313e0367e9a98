import SmartGateway.Domain.PlanOrder
import SmartGateway.Storage.Parity

/-! # A plan does not depend on how its routes are read

PostgreSQL reads the eligible routes of the reachable models, in no order. SQLite reads every
eligible route. The planner makes the same plan of both, because it groups the routes by
model, sorts each group by a priority no two of its routes share, and visits reachable models
only.
-/

namespace SmartGateway

/-! ## Lists a plan cannot tell apart -/

/-- No two routes of one model share a priority. -/
def DistinctPriorities (routes : List RouteCandidate) : Prop :=
  (routes.map fun route => (route.logicalModel, route.priority)).Nodup

/-- The lists hold the same routes in any order, but for routes of models that are not
reachable from `model`. -/
def SameReachable (fallbacks : FallbackMap) (model : String)
    (routes routes' : List RouteCandidate) : Prop :=
  ∃ common dropped added : List RouteCandidate,
    routes.Perm (common ++ dropped) ∧ routes'.Perm (common ++ added) ∧
      ∀ route ∈ dropped ++ added, ¬ FallsBackTo fallbacks model route.logicalModel

section SameReachable

variable {fallbacks : FallbackMap} {model : String} {routes routes' : List RouteCandidate}

/-- Leaving out routes of models that are not reachable. -/
theorem SameReachable.of_filter {kept : RouteCandidate → Bool}
    (h : ∀ route ∈ routes, kept route = false → ¬ FallsBackTo fallbacks model route.logicalModel) :
    SameReachable fallbacks model routes (routes.filter kept) := by
  refine ⟨routes.filter kept, routes.filter fun route => !kept route, [], ?_, ?_, ?_⟩
  · exact (List.filter_append_perm kept routes).symm
  · rw [List.append_nil]
  · intro route hroute
    rw [List.append_nil, List.mem_filter, Bool.not_eq_true'] at hroute
    exact h route hroute.1 hroute.2

/-- Routes of unreachable models are not among those of a reachable one. -/
theorem perm_filter_model {common rest : List RouteCandidate} {target : String}
    (hperm : routes.Perm (common ++ rest))
    (hrest : ∀ route ∈ rest, ¬ FallsBackTo fallbacks model route.logicalModel)
    (hreach : FallsBackTo fallbacks model target) :
    (routes.filter (·.logicalModel = target)).Perm (common.filter (·.logicalModel = target)) := by
  have hnone : rest.filter (·.logicalModel = target) = [] := by
    rw [List.filter_eq_nil_iff]
    intro route hroute hmodel
    have hmodel := of_decide_eq_true hmodel
    exact hrest route hroute (hmodel ▸ hreach)
  have hfilter := hperm.filter (·.logicalModel = target)
  rw [List.filter_append, hnone, List.append_nil] at hfilter
  exact hfilter

/-- Where priorities tell the routes of a model apart, each reachable model has the same
routes in the same order. -/
theorem SameReachable.routesOf_eq (h : SameReachable fallbacks model routes routes')
    (hdistinct : DistinctPriorities routes) {target : String}
    (hreach : FallsBackTo fallbacks model target) :
    routesOf routes' target = routesOf routes target := by
  obtain ⟨common, dropped, added, hroutes, hroutes', hunreachable⟩ := h
  have hdropped := perm_filter_model hroutes
    (fun route hroute => hunreachable route (List.mem_append_left _ hroute)) hreach
  have hadded := perm_filter_model hroutes'
    (fun route hroute => hunreachable route (List.mem_append_right _ hroute)) hreach
  have hsame : routesOf routes' target = (routesOf routes target).filter fun _ => true := by
    apply routesOf_filter
    · rw [List.filter_true]
      exact hadded.trans hdropped.symm
    · intro a ha b hb hamodel hbmodel hpriority
      exact List.inj_on_of_nodup_map hdistinct ha hb
        (Prod.ext (hamodel.trans hbmodel.symm) hpriority)
  rw [hsame, List.filter_true]

/-- The planner cannot tell such lists apart: it makes the same plan or fails alike. -/
theorem SameReachable.candidatePlan_eq (h : SameReachable fallbacks model routes routes')
    (hdistinct : DistinctPriorities routes) :
    candidatePlan model routes' fallbacks = candidatePlan model routes fallbacks :=
  candidatePlan_congr fun _ hreach => h.routesOf_eq hdistinct hreach

end SameReachable

/-! ## The two queries -/

/-- The unique index on routes tells the candidates of a model apart. -/
theorem ControlPlane.distinctPriorities (db : ControlPlane) (p : JoinedRoute → Bool) :
    DistinctPriorities ((db.joinedRoutes.filter p).map JoinedRoute.toCandidate) := by
  have hids := db.nodup_joinedRoutes
  rw [List.Nodup, List.pairwise_map] at hids
  rw [DistinctPriorities, List.map_map, List.Nodup, List.pairwise_map]
  have hrows : db.joinedRoutes.Pairwise fun a b =>
      (a.route.logicalModel, a.route.priority) ≠ (b.route.logicalModel, b.route.priority) := by
    refine hids.imp_of_mem ?_
    intro a b ha hb hne hsame
    have hrow := row_eq_of_priority ha hb (congrArg Prod.fst hsame) (congrArg Prod.snd hsame)
    exact hne (congrArg JoinedRoute.routeId hrow)
  exact hrows.filter p

/-- The recursive query, in any order, holds of the eligible routes those that matter. -/
theorem Postgres.sameReachable_eligibleRoutes {db : Database} {now : Int} {logicalModel : String}
    {rows : List ControlPlane.JoinedRoute} (h : rows.Perm (db.eligibleRoutes now logicalModel)) :
    SameReachable db.fallbackMap logicalModel (Sqlite.eligibleRoutes db.toControlPlane now)
      (rows.map ControlPlane.JoinedRoute.toCandidate) := by
  let kept : RouteCandidate → Bool :=
    fun route => route.logicalModel ∈ db.reachableModels logicalModel
  -- the `WHERE` clauses agree on joined rows, apart from reachability
  have hquery : db.eligibleCandidates now logicalModel =
      (Sqlite.eligibleRoutes db.toControlPlane now).filter kept := by
    rw [Database.eligibleCandidates, Database.eligibleRoutes, Sqlite.eligibleRoutes,
      List.filter_map, List.filter_filter]
    congr 1
    apply List.filter_congr
    intro row hrow
    rw [eligible_eq hrow]
    rfl
  have hfilter : SameReachable db.fallbackMap logicalModel
      (Sqlite.eligibleRoutes db.toControlPlane now)
      ((Sqlite.eligibleRoutes db.toControlPlane now).filter kept) := by
    apply SameReachable.of_filter
    intro route _ hkept hreach
    have hmem := mem_reachableModels.mpr hreach
    exact of_decide_eq_false hkept hmem
  obtain ⟨common, dropped, added, hall, hreachable, hunreachable⟩ := hfilter
  rw [← hquery] at hreachable
  have hrows := h.map ControlPlane.JoinedRoute.toCandidate
  exact ⟨common, dropped, added, hall, hrows.trans hreachable, hunreachable⟩

/-- A plan depends on the routes of the reachable models alone, in whatever order they are
read, and so does the error in its place. PostgreSQL's query, whatever the order of its rows,
therefore plans as a scan of every eligible route does, which is what SQLite answers. -/
theorem candidatePlan_reads_reachable (model : String) :
    (∀ (fallbacks : FallbackMap) (routes routes' : List RouteCandidate),
      DistinctPriorities routes → SameReachable fallbacks model routes routes' →
      candidatePlan model routes' fallbacks = candidatePlan model routes fallbacks) ∧
    ∀ (db : Postgres.Database) (now : Int) (rows : List ControlPlane.JoinedRoute),
      rows.Perm (db.eligibleRoutes now model) →
      candidatePlan model (rows.map ControlPlane.JoinedRoute.toCandidate) db.fallbackMap =
        candidatePlan model ((db.joinedRoutes.filter (Postgres.eligible now)).map
          ControlPlane.JoinedRoute.toCandidate) db.fallbackMap ∧
      Sqlite.candidates db.toControlPlane now model =
        (candidatePlan model (rows.map ControlPlane.JoinedRoute.toCandidate)
          db.fallbackMap).mapError DomainError.message := by
  constructor
  · intro fallbacks routes routes' hdistinct hsame
    exact hsame.candidatePlan_eq hdistinct
  · intro db now rows hrows
    have hplan := (Postgres.sameReachable_eligibleRoutes hrows).candidatePlan_eq
      (db.distinctPriorities (Sqlite.eligible now))
    have hscan : db.joinedRoutes.filter (Postgres.eligible now) =
        db.joinedRoutes.filter (Sqlite.eligible now) := by
      apply List.filter_congr
      intro row hrow
      exact Postgres.eligible_eq hrow now
    constructor
    · rw [hscan]
      exact hplan
    · rw [Sqlite.candidates_eq, hplan]

/-- A diamond read in another order, with a route of a model it does not lead to. -/
theorem candidatePlan_reads_reachable_diamond :
    candidatePlan "a" [routeTo "stray" "z" 1, routeTo "d" "d" 1, routeTo "high" "a" 1,
        routeTo "low" "a" 2] diamond =
      candidatePlan "a" [routeTo "low" "a" 2, routeTo "high" "a" 1, routeTo "d" "d" 1] diamond := by
  have hplan : candidatePlan "a" [routeTo "stray" "z" 1, routeTo "high" "a" 1] diamond =
      .ok [routeTo "high" "a" 1] := by
    decide +kernel
  have hstray : ¬ FallsBackTo diamond "a" "z" := by
    intro hreach
    have hmem := (mem_candidatePlan hplan (routeTo "stray" "z" 1)).mpr ⟨by simp, hreach⟩
    revert hmem
    decide
  apply (candidatePlan_reads_reachable "a").1
  · rw [DistinctPriorities]
    decide
  · refine ⟨[routeTo "low" "a" 2, routeTo "high" "a" 1, routeTo "d" "d" 1], [],
      [routeTo "stray" "z" 1], ?_, ?_, ?_⟩
    · rw [List.append_nil]
    · decide
    · intro route hroute
      rw [List.nil_append, List.mem_singleton] at hroute
      rw [hroute]
      exact hstray

end SmartGateway
