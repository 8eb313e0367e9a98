import Mathlib.Data.List.Sort
import SmartGateway.Lib.DepthFirst
import SmartGateway.Domain.Types

/-! # The route planner

`candidatePlan` expands a model and its ordered fallback graph into a route plan.
Its inner function `visit` walks the graph with two sets, the models on the current
path and the models met so far, and appends the routes of each model it meets.

The walk is the depth-first search of `DepthFirst` that carries routes instead of
models (`walks_visit`), which gives the planner's specification `candidatePlan_eq`:

* a model that owns no route is unknown;
* otherwise a reachable cycle is reported at a model on it;
* otherwise the plan lists the routes of every reachable model, those of one model in
  the order of their priority.
-/

namespace SmartGateway

/-! ## The planner -/

/-- The mutable arguments of `visit`. -/
structure Walk where
  visiting : Finset String
  visited : Finset String
  output : List RouteCandidate

/-- The arguments of the first call of `visit`. -/
def Walk.start : Walk := ⟨∅, ∅, []⟩

/-- Visits `model`. The recursion is as deep as the path is long, and only models with an
entry in `fallbacks` recurse, so `depth` bounds it. -/
def visit (routes : KeyedTable String (List RouteCandidate)) (fallbacks : FallbackMap) :
    Nat → String → Walk → Except DomainError Walk
  | 0, model, _ => .error (.fallbackCycle model)
  | depth + 1, model, walk =>
    if model ∈ walk.visiting then .error (.fallbackCycle model)
    -- met before: taken off the path again, which leaves the arguments as they were
    else if model ∈ walk.visited then .ok walk
    else
      let entered : Walk :=
        { visiting := insert model walk.visiting
          visited := insert model walk.visited
          output := walk.output ++ (routes.get? model).getD [] }
      (((fallbacks.get? model).getD []).foldlM
          (fun walk next => visit routes fallbacks depth next walk) entered).map
        fun left => { left with visiting := left.visiting.erase model }

/-- `sort_by_key(|route| route.priority)`, which is stable. -/
def sortByPriority (routes : List RouteCandidate) : List RouteCandidate :=
  routes.insertionSort fun a b => a.priority ≤ b.priority

/-- The routes of each model, by priority. -/
def routesByModel (routes : List RouteCandidate) : KeyedTable String (List RouteCandidate) :=
  (KeyedTable.group (routes.map fun route => (route.logicalModel, route))).mapValues
    sortByPriority

/-- Expands a model and its ordered fallback graph into a deterministic route plan. -/
def candidatePlan (requestedModel : String) (routes : List RouteCandidate)
    (fallbacks : FallbackMap) : Except DomainError (List RouteCandidate) :=
  if (routesByModel routes).get? requestedModel = none then
    .error (.unknownModel requestedModel)
  else
    (visit (routesByModel routes) fallbacks (fallbacks.rows.length + 1) requestedModel
        Walk.start).bind fun walk =>
      if walk.output = [] then .error (.noEligibleRoute requestedModel) else .ok walk.output

/-! ## The fallback graph -/

/-- The models a model falls back to, in order. -/
def nextModels (fallbacks : FallbackMap) (model : String) : List String :=
  (fallbacks.get? model).getD []

/-- `target` is a direct or transitive fallback of `model`, or `model` itself. -/
abbrev FallsBackTo (fallbacks : FallbackMap) (model target : String) : Prop :=
  DepthFirst.Reach (nextModels fallbacks) model target

/-- No cycle is reachable from `model`. -/
abbrev AcyclicFrom (fallbacks : FallbackMap) (model : String) : Prop :=
  DepthFirst.AcyclicFrom (nextModels fallbacks) model

/-- `model` lies on a cycle. -/
abbrev OnFallbackCycle (fallbacks : FallbackMap) (model : String) : Prop :=
  DepthFirst.OnCycle (nextModels fallbacks) model

/-- The models that have fallbacks. -/
def sourceModels (fallbacks : FallbackMap) : Finset String :=
  ⟨fallbacks.rows.map Prod.fst, fallbacks.nodupKeys⟩

theorem card_sourceModels (fallbacks : FallbackMap) :
    (sourceModels fallbacks).card = fallbacks.rows.length := by
  simp [sourceModels, Finset.card]

theorem mem_sourceModels {fallbacks : FallbackMap} {model : String}
    (h : nextModels fallbacks model ≠ []) : model ∈ sourceModels fallbacks := by
  have hkey : model ∈ fallbacks.rows.map Prod.fst := by
    rw [KeyedTable.mem_keys]
    intro hnone
    apply h
    rw [nextModels, hnone, Option.getD_none]
  exact hkey

/-! ## The routes of a model -/

/-- The routes of `model`, by priority. -/
def routesOf (routes : List RouteCandidate) (model : String) : List RouteCandidate :=
  sortByPriority (routes.filter fun route => route.logicalModel = model)

/-- Some route serves `model`. -/
def Serves (routes : List RouteCandidate) (model : String) : Prop :=
  ∃ route ∈ routes, route.logicalModel = model

theorem valuesAt_routes (routes : List RouteCandidate) (model : String) :
    KeyedTable.valuesAt (routes.map fun route => (route.logicalModel, route)) model =
      routes.filter fun route => route.logicalModel = model := by
  unfold KeyedTable.valuesAt
  rw [List.filter_map, List.map_map]
  exact List.map_id _

theorem mem_routesOf {routes : List RouteCandidate} {model : String} {route : RouteCandidate} :
    route ∈ routesOf routes model ↔ route ∈ routes ∧ route.logicalModel = model := by
  simp [routesOf, sortByPriority]

theorem routesOf_eq_nil {routes : List RouteCandidate} {model : String} :
    routesOf routes model = [] ↔ ¬ Serves routes model := by
  rw [List.eq_nil_iff_forall_not_mem, Serves]
  simp only [mem_routesOf, not_and, not_exists]

theorem getD_routesByModel (routes : List RouteCandidate) (model : String) :
    ((routesByModel routes).get? model).getD [] = routesOf routes model := by
  have hgroup := KeyedTable.getD_group
    (routes.map fun route => (route.logicalModel, route)) model
  rw [valuesAt_routes] at hgroup
  rw [routesByModel, KeyedTable.get?_mapValues, routesOf, ← hgroup]
  cases (KeyedTable.group (routes.map fun route => (route.logicalModel, route))).get? model with
  | none => rfl
  | some _ => rfl

theorem get?_routesByModel_eq_none {routes : List RouteCandidate} {model : String} :
    (routesByModel routes).get? model = none ↔ ¬ Serves routes model := by
  have hserves : KeyedTable.valuesAt (routes.map fun route => (route.logicalModel, route)) model
      = [] ↔ ¬ Serves routes model := by
    rw [valuesAt_routes, List.filter_eq_nil_iff, Serves]
    simp
  rw [routesByModel, KeyedTable.get?_mapValues, Option.map_eq_none_iff, KeyedTable.get?_group,
    ← hserves]
  split
  · next hnil => simp [hnil]
  · next hcons => simp [hcons]

/-! ## The walk is a depth-first search -/

/-- The walk that has met the models of a search. -/
def walkOf (routes : List RouteCandidate) (marks : DepthFirst.Marks String) : Walk where
  visiting := marks.visiting
  visited := marks.visited
  output := marks.order.flatMap (routesOf routes)

/-- Entering a model appends its routes, as the search appends the model. -/
theorem walkOf_enter (routes : List RouteCandidate) (marks : DepthFirst.Marks String)
    (model : String) :
    walkOf routes (marks.enter model) =
      ⟨insert model (walkOf routes marks).visiting, insert model (walkOf routes marks).visited,
        (walkOf routes marks).output ++ ((routesByModel routes).get? model).getD []⟩ := by
  rw [getD_routesByModel]
  simp [walkOf, List.flatMap_append]

/-- The outcome of a walk that follows a search. -/
def walkOutcome (routes : List RouteCandidate) :
    Except String (DepthFirst.Marks String) → Except DomainError Walk
  | .ok marks => .ok (walkOf routes marks)
  | .error model => .error (.fallbackCycle model)

/-- The walk over a list of models, given that each single visit follows the search. -/
theorem walks_foldlM {routes : List RouteCandidate} {fallbacks : FallbackMap} {depth : Nat}
    (hvisit : ∀ model marks,
      visit (routesByModel routes) fallbacks depth model (walkOf routes marks) =
        walkOutcome routes (DepthFirst.search (nextModels fallbacks) depth model marks))
    (models : List String) (marks : DepthFirst.Marks String) :
    models.foldlM (fun walk next => visit (routesByModel routes) fallbacks depth next walk)
        (walkOf routes marks) =
      walkOutcome routes (models.foldlM
        (fun marks next => DepthFirst.search (nextModels fallbacks) depth next marks) marks) := by
  induction models generalizing marks with
  | nil => rfl
  | cons model models ih =>
    rw [List.foldlM_cons, List.foldlM_cons, hvisit]
    cases DepthFirst.search (nextModels fallbacks) depth model marks with
    | error _ => rfl
    | ok marks' => exact ih marks'

/-- Every visit follows the search of the fallback graph. The induction is on the depth. -/
theorem walks_visit (routes : List RouteCandidate) (fallbacks : FallbackMap) (depth : Nat)
    (model : String) (marks : DepthFirst.Marks String) :
    visit (routesByModel routes) fallbacks depth model (walkOf routes marks) =
      walkOutcome routes (DepthFirst.search (nextModels fallbacks) depth model marks) := by
  induction depth generalizing model marks with
  | zero => rfl
  | succ depth ih =>
    rw [visit]
    by_cases hvisiting : model ∈ marks.visiting
    · rw [DepthFirst.search_visiting _ depth hvisiting,
        if_pos (show model ∈ (walkOf routes marks).visiting from hvisiting)]
      rfl
    rw [if_neg (show model ∉ (walkOf routes marks).visiting from hvisiting)]
    by_cases hvisited : model ∈ marks.visited
    · rw [DepthFirst.search_visited _ depth hvisiting hvisited,
        if_pos (show model ∈ (walkOf routes marks).visited from hvisited)]
      rfl
    rw [DepthFirst.search_fresh _ depth hvisiting hvisited,
      if_neg (show model ∉ (walkOf routes marks).visited from hvisited)]
    -- a fresh model: the walks of its fallbacks agree, and both leave it at the end
    have hfold := walks_foldlM ih (nextModels fallbacks model) (marks.enter model)
    rw [walkOf_enter] at hfold
    have hleave := congrArg
      (Except.map fun left : Walk => { left with visiting := left.visiting.erase model }) hfold
    refine Eq.trans hleave ?_
    cases (nextModels fallbacks model).foldlM
        (fun marks next => DepthFirst.search (nextModels fallbacks) depth next marks)
        (marks.enter model) with
    | error _ => rfl
    | ok _ => rfl

/-! ## What the planner returns -/

/-- The search behind a plan. -/
def exploreModels (fallbacks : FallbackMap) (model : String) :
    Except String (DepthFirst.Marks String) :=
  DepthFirst.explore (nextModels fallbacks) (sourceModels fallbacks) model

theorem exploreModels_spec (fallbacks : FallbackMap) (model : String) :
    DepthFirst.Explored (nextModels fallbacks) model (exploreModels fallbacks model) :=
  DepthFirst.explore_spec (fun _ h => mem_sourceModels h) model

/-- The planner, read off the search: the routes of the models in the order they are met. -/
theorem candidatePlan_of_serves {model : String} {routes : List RouteCandidate}
    (fallbacks : FallbackMap) (h : Serves routes model) :
    candidatePlan model routes fallbacks =
      match exploreModels fallbacks model with
      | .error cycle => .error (.fallbackCycle cycle)
      | .ok marks => .ok (marks.order.flatMap (routesOf routes)) := by
  have hsome : ¬ (routesByModel routes).get? model = none := by
    rw [get?_routesByModel_eq_none]
    exact fun hn => hn h
  have hwalk := walks_visit routes fallbacks (fallbacks.rows.length + 1) model
    DepthFirst.Marks.start
  have hsearch : DepthFirst.search (nextModels fallbacks) (fallbacks.rows.length + 1) model
      DepthFirst.Marks.start = exploreModels fallbacks model := by
    rw [exploreModels, DepthFirst.explore, card_sourceModels]
  have hstart : walkOf routes DepthFirst.Marks.start = Walk.start := rfl
  rw [hsearch, hstart] at hwalk
  unfold candidatePlan
  rw [if_neg hsome, hwalk]
  have hspec := exploreModels_spec fallbacks model
  cases hexplore : exploreModels fallbacks model with
  | error _ => rfl
  | ok marks =>
    rw [hexplore] at hspec
    cases hspec with
    | ok _ _ _ mem_order =>
      -- the requested model is met, and it has routes
      have hmem : model ∈ marks.order := (mem_order model).mpr .refl
      have houtput : ¬ (walkOf routes marks).output = [] := by
        intro hnil
        have hroutes := List.flatMap_eq_nil_iff.mp hnil model hmem
        exact routesOf_eq_nil.mp hroutes h
      exact if_neg houtput

theorem candidatePlan_of_not_serves {model : String} {routes : List RouteCandidate}
    (fallbacks : FallbackMap) (h : ¬ Serves routes model) :
    candidatePlan model routes fallbacks = .error (.unknownModel model) := by
  unfold candidatePlan
  rw [if_pos (get?_routesByModel_eq_none.mpr h)]

/-- A plan exists exactly when the model owns a route and no cycle is reachable. -/
theorem candidatePlan_ok_iff {model : String} {routes : List RouteCandidate}
    {fallbacks : FallbackMap} :
    (∃ plan, candidatePlan model routes fallbacks = .ok plan) ↔
      Serves routes model ∧ AcyclicFrom fallbacks model := by
  have hiff := DepthFirst.explore_ok_iff
    (fun a (h : nextModels fallbacks a ≠ []) => mem_sourceModels h) model
  by_cases hserves : Serves routes model
  · rw [candidatePlan_of_serves fallbacks hserves, AcyclicFrom, ← hiff, exploreModels]
    cases DepthFirst.explore (nextModels fallbacks) (sourceModels fallbacks) model with
    | error _ => simp
    | ok _ => simp [hserves]
  · rw [candidatePlan_of_not_serves fallbacks hserves]
    simp [hserves]

/-- A plan lists the routes of the models that the search met, in their order. -/
theorem exists_marks {model : String} {routes plan : List RouteCandidate}
    {fallbacks : FallbackMap} (h : candidatePlan model routes fallbacks = .ok plan) :
    ∃ marks, exploreModels fallbacks model = .ok marks ∧ marks.order.Nodup ∧
      (∀ target, target ∈ marks.order ↔ FallsBackTo fallbacks model target) ∧
      plan = marks.order.flatMap (routesOf routes) := by
  have hserves : Serves routes model := (candidatePlan_ok_iff.mp ⟨plan, h⟩).1
  rw [candidatePlan_of_serves fallbacks hserves] at h
  have hspec := exploreModels_spec fallbacks model
  cases hexplore : exploreModels fallbacks model with
  | error _ =>
    rw [hexplore] at h
    cases h
  | ok marks =>
    rw [hexplore] at h hspec
    cases h
    cases hspec with
    | ok _ _ nodup mem_order => exact ⟨marks, rfl, nodup, mem_order, rfl⟩

/-- A plan lists exactly the routes of the reachable models. -/
theorem mem_candidatePlan {model : String} {routes plan : List RouteCandidate}
    {fallbacks : FallbackMap} (h : candidatePlan model routes fallbacks = .ok plan)
    (route : RouteCandidate) :
    route ∈ plan ↔ route ∈ routes ∧ FallsBackTo fallbacks model route.logicalModel := by
  obtain ⟨marks, -, -, mem_order, rfl⟩ := exists_marks h
  rw [List.mem_flatMap]
  constructor
  · rintro ⟨owner, howner, hroute⟩
    have hmem := mem_routesOf.mp hroute
    exact ⟨hmem.1, by rw [hmem.2]; exact (mem_order owner).mp howner⟩
  · rintro ⟨hroute, hreach⟩
    exact ⟨route.logicalModel, (mem_order _).mpr hreach, mem_routesOf.mpr ⟨hroute, rfl⟩⟩

/-- A plan starts with the routes of the requested model. -/
theorem candidatePlan_starts {model : String} {routes plan : List RouteCandidate}
    {fallbacks : FallbackMap} (h : candidatePlan model routes fallbacks = .ok plan) :
    ∃ rest, plan = routesOf routes model ++ rest := by
  obtain ⟨marks, hexplore, -, -, rfl⟩ := exists_marks h
  obtain ⟨rest, hrest⟩ := DepthFirst.explore_order hexplore
  exact ⟨rest.flatMap (routesOf routes), by rw [hrest, List.flatMap_cons]⟩

/-- The routes of one model are in the order of their priority. -/
theorem pairwise_routesOf (routes : List RouteCandidate) (model : String) :
    (routesOf routes model).Pairwise fun a b => a.priority ≤ b.priority :=
  have : IsTrans RouteCandidate fun a b => a.priority ≤ b.priority :=
    ⟨fun _ _ _ hab hbc => Nat.le_trans hab hbc⟩
  have : Std.Total fun a b : RouteCandidate => a.priority ≤ b.priority :=
    ⟨fun a b => Nat.le_total a.priority b.priority⟩
  List.pairwise_insertionSort _ _

/-- The first route of a plan is the requested model's first. -/
theorem candidatePlan_head {model : String} {routes tail : List RouteCandidate}
    {head : RouteCandidate} {fallbacks : FallbackMap}
    (h : candidatePlan model routes fallbacks = .ok (head :: tail)) :
    (head ∈ routes ∧ head.logicalModel = model) ∧
      ∀ route ∈ routes, route.logicalModel = model → head.priority ≤ route.priority := by
  obtain ⟨rest, hrest⟩ := candidatePlan_starts h
  have hpairwise := pairwise_routesOf routes model
  cases hown : routesOf routes model with
  | nil => exact absurd (candidatePlan_ok_iff.mp ⟨_, h⟩).1 (routesOf_eq_nil.mp hown)
  | cons first others =>
    rw [hown, List.cons_append, List.cons.injEq] at hrest
    obtain ⟨rfl, -⟩ := hrest
    rw [hown] at hpairwise
    refine ⟨mem_routesOf.mp (hown ▸ List.mem_cons_self), fun route hroute hmodel => ?_⟩
    have hmem := mem_routesOf.mpr ⟨hroute, hmodel⟩
    rw [hown] at hmem
    rcases List.mem_cons.mp hmem with rfl | hother
    · exact Nat.le_refl _
    · exact (List.pairwise_cons.mp hpairwise).1 route hother

/-- Among routes whose priorities tell them apart, leaving some out does not change the order
of the others. -/
theorem routesOf_filter {routes all : List RouteCandidate} {model : String}
    (kept : RouteCandidate → Bool)
    (hkept : (routes.filter (·.logicalModel = model)).Perm
      ((all.filter (·.logicalModel = model)).filter kept))
    (hpriority : ∀ a ∈ all, ∀ b ∈ all, a.logicalModel = model → b.logicalModel = model →
      a.priority = b.priority → a = b) :
    routesOf routes model = (routesOf all model).filter kept := by
  have hperm : (routesOf routes model).Perm ((routesOf all model).filter kept) :=
    (List.perm_insertionSort _ _).trans
      (hkept.trans ((List.perm_insertionSort _ _).symm.filter kept))
  refine List.Perm.eq_of_pairwise ?_ (pairwise_routesOf routes model)
    ((pairwise_routesOf all model).filter kept) hperm
  intro a b ha hb hab hba
  obtain ⟨hamem, hamodel⟩ := mem_routesOf.mp (List.mem_of_mem_filter (hperm.mem_iff.mp ha))
  obtain ⟨hbmem, hbmodel⟩ := mem_routesOf.mp (List.mem_of_mem_filter hb)
  exact hpriority a hamem b hbmem hamodel hbmodel (Nat.le_antisymm hab hba)

/-- Leaving routes out of the planner's input leaves them out of the plan. -/
theorem candidatePlan_filter {model : String} {routes all plan : List RouteCandidate}
    {fallbacks : FallbackMap} (kept : RouteCandidate → Bool)
    (hroutes : ∀ target, FallsBackTo fallbacks model target →
      routesOf routes target = (routesOf all target).filter kept)
    (hserves : Serves routes model) (h : candidatePlan model all fallbacks = .ok plan) :
    candidatePlan model routes fallbacks = .ok (plan.filter kept) := by
  obtain ⟨marks, hexplore, -, mem_order, rfl⟩ := exists_marks h
  rw [candidatePlan_of_serves fallbacks hserves, hexplore]
  dsimp only
  congr 1
  rw [List.filter_flatMap]
  exact List.flatMap_congr fun target htarget => hroutes target ((mem_order target).mp htarget)

/-- A plan reads of its routes those of the reachable models, each model's by priority. -/
theorem candidatePlan_congr {model : String} {routes routes' : List RouteCandidate}
    {fallbacks : FallbackMap}
    (hroutes : ∀ target, FallsBackTo fallbacks model target →
      routesOf routes target = routesOf routes' target) :
    candidatePlan model routes fallbacks = candidatePlan model routes' fallbacks := by
  -- the requested model is reachable, so both lists serve it or neither does
  have hserves : ¬ Serves routes model ↔ ¬ Serves routes' model := by
    rw [← routesOf_eq_nil, ← routesOf_eq_nil, hroutes model .refl]
  by_cases h : Serves routes model
  · have h' : Serves routes' model := not_not.mp (mt hserves.mpr (not_not.mpr h))
    rw [candidatePlan_of_serves fallbacks h, candidatePlan_of_serves fallbacks h']
    have hspec := exploreModels_spec fallbacks model
    cases hexplore : exploreModels fallbacks model with
    | error _ => rfl
    | ok marks =>
      rw [hexplore] at hspec
      cases hspec with
      | ok _ _ _ mem_order =>
        have hplan : marks.order.flatMap (routesOf routes) =
            marks.order.flatMap (routesOf routes') := by
          apply List.flatMap_congr
          intro target htarget
          exact hroutes target ((mem_order target).mp htarget)
        dsimp only
        rw [hplan]
  · rw [candidatePlan_of_not_serves fallbacks h, candidatePlan_of_not_serves fallbacks (hserves.mp h)]

/-- A plan lists no route twice. -/
theorem nodup_candidatePlan {model : String} {routes plan : List RouteCandidate}
    {fallbacks : FallbackMap} (hroutes : routes.Nodup)
    (h : candidatePlan model routes fallbacks = .ok plan) : plan.Nodup := by
  obtain ⟨marks, -, nodup, -, rfl⟩ := exists_marks h
  rw [List.nodup_flatMap]
  constructor
  · intro target _
    exact (List.perm_insertionSort _ _).nodup_iff.mpr (hroutes.filter _)
  · refine nodup.imp fun hne route hroute hroute' => hne ?_
    rw [← (mem_routesOf.mp hroute).2, ← (mem_routesOf.mp hroute').2]

/-- A plan is never empty. -/
theorem candidatePlan_ne_nil {model : String} {routes plan : List RouteCandidate}
    {fallbacks : FallbackMap} (h : candidatePlan model routes fallbacks = .ok plan) :
    plan ≠ [] := by
  have hserves : Serves routes model := (candidatePlan_ok_iff.mp ⟨plan, h⟩).1
  obtain ⟨route, hroute, rfl⟩ := hserves
  have hmem : route ∈ plan := (mem_candidatePlan h route).mpr ⟨hroute, .refl⟩
  exact List.ne_nil_of_mem hmem

/-- The two ways a plan can fail: the model owns no route, or a reachable model lies on a
cycle, whatever routes there are. -/
theorem candidatePlan_error {model : String} {routes : List RouteCandidate}
    {fallbacks : FallbackMap} {error : DomainError}
    (h : candidatePlan model routes fallbacks = .error error) :
    (¬ Serves routes model ∧ error = .unknownModel model) ∨
      (Serves routes model ∧ ∃ cycle, exploreModels fallbacks model = .error cycle ∧
        error = .fallbackCycle cycle) := by
  by_cases hserves : Serves routes model
  · rw [candidatePlan_of_serves fallbacks hserves] at h
    right
    cases hexplore : exploreModels fallbacks model with
    | error cycle =>
      rw [hexplore] at h
      cases h
      exact ⟨hserves, cycle, rfl, rfl⟩
    | ok _ => rw [hexplore] at h; cases h
  · rw [candidatePlan_of_not_serves fallbacks hserves] at h
    left
    cases h
    exact ⟨hserves, rfl⟩

/-- The cycle that an error names is reachable from the requested model. -/
theorem candidatePlan_cycle {model name : String} {routes : List RouteCandidate}
    {fallbacks : FallbackMap}
    (h : candidatePlan model routes fallbacks = .error (.fallbackCycle name)) :
    FallsBackTo fallbacks model name ∧ OnFallbackCycle fallbacks name := by
  rcases candidatePlan_error h with ⟨-, herror⟩ | ⟨-, cycle, hexplore, herror⟩
  · cases herror
  · cases herror
    have hspec := exploreModels_spec fallbacks model
    rw [hexplore] at hspec
    cases hspec with
    | error _ cycle reach => exact ⟨reach, cycle⟩

end SmartGateway
