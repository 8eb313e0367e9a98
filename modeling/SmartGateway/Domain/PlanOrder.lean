import SmartGateway.Lib.Preorder
import SmartGateway.Domain.CandidatePlan

/-! # What a plan lists, and when there is none

Two readings of the planner that do not mention its walk:

* `candidatePlan_preorder`: a plan is the preorder of the fallback graph, each model taken
  at its first occurrence and replaced by its routes, stably sorted by priority.
* `candidatePlan_terminates`: `Visits` is the recursion of `visit` without any bound on its
  depth, as the source has it. It always ends, with what `candidatePlan` returns, and the
  two errors are exact.
-/

namespace SmartGateway

open DepthFirst (Unfolds)

/-! ## A stable order -/

/-- `sorted` lists `items` by `key`, those of one key in the order they have in `items`. -/
structure StablySorted {α : Type} (key : α → Nat) (items sorted : List α) : Prop where
  ordered : sorted.Pairwise fun a b => key a ≤ key b
  stable : ∀ k, sorted.filter (key · = k) = items.filter (key · = k)

theorem stablySorted_sortByPriority (routes : List RouteCandidate) :
    StablySorted RouteCandidate.priority routes (sortByPriority routes) where
  ordered :=
    have : IsTrans RouteCandidate fun a b => a.priority ≤ b.priority :=
      ⟨fun _ _ _ hab hbc => Nat.le_trans hab hbc⟩
    have : Std.Total fun a b : RouteCandidate => a.priority ≤ b.priority :=
      ⟨fun a b => Nat.le_total a.priority b.priority⟩
    List.pairwise_insertionSort _ _
  stable := by
    intro k
    -- the routes of one priority stay a sublist, and none is added to them
    have hpairwise : (routes.filter (RouteCandidate.priority · = k)).Pairwise
        fun a b => a.priority ≤ b.priority := by
      apply List.pairwise_of_forall_mem_list
      intro a ha b hb
      have ha := of_decide_eq_true (List.mem_filter.mp ha).2
      have hb := of_decide_eq_true (List.mem_filter.mp hb).2
      omega
    have hsub := (List.sublist_insertionSort hpairwise List.filter_sublist).filter
      (RouteCandidate.priority · = k)
    simp only [List.filter_filter, Bool.and_self] at hsub
    have hperm := (List.perm_insertionSort (fun a b : RouteCandidate => a.priority ≤ b.priority)
      routes).filter (RouteCandidate.priority · = k)
    exact (hsub.eq_of_length hperm.length_eq.symm).symm

/-! ## The order of a plan -/

/-- The routes of distinct models, model by model, are the routes of any of them. -/
theorem perm_flatMap_routesOf (routes : List RouteCandidate) {models : List String}
    (h : models.Nodup) :
    (models.flatMap (routesOf routes)).Perm
      (routes.filter fun route => route.logicalModel ∈ models) := by
  induction models with
  | nil => simp
  | cons model models ih =>
    obtain ⟨hfresh, hnodup⟩ := List.nodup_cons.mp h
    -- the routes of the first model, then those of the others
    have hsplit := List.filter_append_perm (fun route : RouteCandidate => route.logicalModel = model)
      (routes.filter fun route => route.logicalModel ∈ model :: models)
    rw [List.filter_filter, List.filter_filter] at hsplit
    have hfirst : (routes.filter fun route : RouteCandidate =>
        decide (route.logicalModel = model) && decide (route.logicalModel ∈ model :: models)) =
        routes.filter fun route => route.logicalModel = model := by
      apply List.filter_congr
      intro route _
      by_cases hmodel : route.logicalModel = model <;> simp [hmodel]
    have hothers : (routes.filter fun route : RouteCandidate =>
        (!decide (route.logicalModel = model)) && decide (route.logicalModel ∈ model :: models)) =
        routes.filter fun route => route.logicalModel ∈ models := by
      apply List.filter_congr
      intro route _
      by_cases hmodel : route.logicalModel = model
      · simp [hmodel, hfresh]
      · simp [hmodel]
    rw [hfirst, hothers] at hsplit
    rw [List.flatMap_cons]
    exact ((List.perm_insertionSort _ _).append (ih hnodup)).trans hsplit

/-- The planner never finds a plan empty. -/
theorem candidatePlan_ne_noEligibleRoute (model : String) (routes : List RouteCandidate)
    (fallbacks : FallbackMap) (name : String) :
    candidatePlan model routes fallbacks ≠ .error (.noEligibleRoute name) := by
  intro h
  rcases candidatePlan_error h with ⟨-, herror⟩ | ⟨-, cycle, -, herror⟩
  · cases herror
  · cases herror

/-- Where a model owns a route and no cycle is reachable, the plan is the concatenation, over
the models in first-visit preorder, of their routes stably sorted by priority. It holds each
input route of a reachable model once and no other. -/
theorem candidatePlan_preorder (model : String) (routes : List RouteCandidate)
    (fallbacks : FallbackMap) :
    (Serves routes model → AcyclicFrom fallbacks model →
      ∃ order sorted,
        Unfolds (nextModels fallbacks) [model] order ∧
        (∀ name, name ∈ order ↔ FallsBackTo fallbacks model name) ∧
        (∀ name, StablySorted RouteCandidate.priority
          (routes.filter fun route => route.logicalModel = name) (sorted name)) ∧
        candidatePlan model routes fallbacks = .ok (order.eraseDups.flatMap sorted) ∧
        (order.eraseDups.flatMap sorted).Perm
          (routes.filter fun route => route.logicalModel ∈ order)) ∧
    ∀ name, candidatePlan model routes fallbacks ≠ .error (.noEligibleRoute name) := by
  refine ⟨?_, candidatePlan_ne_noEligibleRoute model routes fallbacks⟩
  intro hserves hacyclic
  have hsources : ∀ name, nextModels fallbacks name ≠ [] → name ∈ sourceModels fallbacks :=
    fun _ h => mem_sourceModels h
  -- without a cycle the unfolding is finite, and the search lists it by first occurrence
  obtain ⟨order, horder⟩ := DepthFirst.exists_unfolds hsources hacyclic
  obtain ⟨marks, hmarks⟩ := (DepthFirst.explore_ok_iff hsources model).mpr hacyclic
  have hpreorder := DepthFirst.explore_preorder hsources horder hmarks
  have hspec := DepthFirst.explore_spec hsources model
  rw [hmarks] at hspec
  cases hspec with
  | ok _ _ nodup mem_order =>
    rw [hpreorder] at nodup mem_order
    refine ⟨order, routesOf routes, horder, ?_, fun name => stablySorted_sortByPriority _, ?_, ?_⟩
    · intro name
      rw [← List.mem_eraseDups]
      exact mem_order name
    · rw [candidatePlan_of_serves fallbacks hserves, exploreModels, hmarks, ← hpreorder]
    · have hperm := perm_flatMap_routesOf routes nodup
      simpa only [List.mem_eraseDups] using hperm

/-- A route of `model` on the one account. -/
def routeTo (routeId model : String) (priority : Nat) : RouteCandidate where
  routeId := routeId
  logicalModel := model
  providerAccountId := "account"
  provider := "openai-compatible"
  credentialRef := .envKey
  baseUrl := "https://provider.test"
  upstreamModel := "upstream"
  priority := priority

/-- A diamond of fallbacks with a doubled edge. -/
def diamond : FallbackMap :=
  .group [("a", "c"), ("a", "b"), ("b", "d"), ("c", "d"), ("c", "d")]

theorem candidatePlan_preorder_diamond :
    ∃ order sorted,
      Unfolds (nextModels diamond) ["a"] order ∧
      (∀ name, StablySorted RouteCandidate.priority
        ([routeTo "low" "a" 2, routeTo "d" "d" 1, routeTo "high" "a" 1].filter
          fun route => route.logicalModel = name) (sorted name)) ∧
      order.eraseDups.flatMap sorted =
        [routeTo "high" "a" 1, routeTo "low" "a" 2, routeTo "d" "d" 1] := by
  have hplan : candidatePlan "a" [routeTo "low" "a" 2, routeTo "d" "d" 1, routeTo "high" "a" 1]
      diamond = .ok [routeTo "high" "a" 1, routeTo "low" "a" 2, routeTo "d" "d" 1] := by
    decide +kernel
  have hok := candidatePlan_ok_iff.mp ⟨_, hplan⟩
  obtain ⟨order, sorted, horder, -, hsorted, hresult, -⟩ :=
    (candidatePlan_preorder "a" _ diamond).1 hok.1 hok.2
  rw [hplan, Except.ok.injEq] at hresult
  exact ⟨order, sorted, horder, hsorted, hresult.symm⟩

/-! ## The recursion without a bound -/

/-- The calls of `visit` for `models`, one after the other from `walk`, and how they end. The
depth of the recursion is not bounded: calls that do not end have no outcome. -/
inductive Visits (routes : KeyedTable String (List RouteCandidate)) (fallbacks : FallbackMap) :
    List String → Walk → Except DomainError Walk → Prop where
  | done (walk : Walk) : Visits routes fallbacks [] walk (.ok walk)
  /-- `visiting.insert` finds the model on the path. -/
  | cycle {model : String} {models : List String} {walk : Walk}
      (hvisiting : model ∈ walk.visiting) :
      Visits routes fallbacks (model :: models) walk (.error (.fallbackCycle model))
  /-- `visited.insert` finds the model met before. -/
  | met {model : String} {models : List String} {walk : Walk} {outcome : Except DomainError Walk}
      (hvisiting : model ∉ walk.visiting) (hvisited : model ∈ walk.visited)
      (hrest : Visits routes fallbacks models walk outcome) :
      Visits routes fallbacks (model :: models) walk outcome
  /-- A recursive call fails, and `?` returns its error. -/
  | fails {model : String} {models : List String} {walk : Walk} {error : DomainError}
      (hvisiting : model ∉ walk.visiting) (hvisited : model ∉ walk.visited)
      (hnext : Visits routes fallbacks (nextModels fallbacks model)
        ⟨insert model walk.visiting, insert model walk.visited,
          walk.output ++ (routes.get? model).getD []⟩ (.error error)) :
      Visits routes fallbacks (model :: models) walk (.error error)
  /-- The recursive calls succeed, and the model is taken off the path. -/
  | leaves {model : String} {models : List String} {walk left : Walk}
      {outcome : Except DomainError Walk}
      (hvisiting : model ∉ walk.visiting) (hvisited : model ∉ walk.visited)
      (hnext : Visits routes fallbacks (nextModels fallbacks model)
        ⟨insert model walk.visiting, insert model walk.visited,
          walk.output ++ (routes.get? model).getD []⟩ (.ok left))
      (hrest : Visits routes fallbacks models
        { left with visiting := left.visiting.erase model } outcome) :
      Visits routes fallbacks (model :: models) walk outcome

/-- What the planner returns once the calls of `visit` have ended. -/
def finishPlan (model : String) (outcome : Except DomainError Walk) :
    Except DomainError (List RouteCandidate) :=
  outcome.bind fun walk =>
    if walk.output = [] then .error (.noEligibleRoute model) else .ok walk.output

/-- The planner with the recursion of the source. -/
inductive Plans (model : String) (routes : List RouteCandidate) (fallbacks : FallbackMap) :
    Except DomainError (List RouteCandidate) → Prop where
  | unknown (h : (routesByModel routes).get? model = none) :
      Plans model routes fallbacks (.error (.unknownModel model))
  | visits (h : (routesByModel routes).get? model ≠ none) {outcome : Except DomainError Walk}
      (hvisits : Visits (routesByModel routes) fallbacks [model] Walk.start outcome) :
      Plans model routes fallbacks (finishPlan model outcome)

variable {routes : KeyedTable String (List RouteCandidate)} {fallbacks : FallbackMap}

/-- The calls end in one way at most. -/
theorem Visits.unique {models : List String} {walk : Walk} {outcome outcome' : Except DomainError Walk}
    (h : Visits routes fallbacks models walk outcome)
    (h' : Visits routes fallbacks models walk outcome') : outcome = outcome' := by
  -- at each model, where it stands in the walk decides which rule applies
  induction h generalizing outcome' with
  | done walk =>
    cases h'
    rfl
  | cycle hvisiting =>
    cases h' with
    | cycle => rfl
    | met hvisiting' _ _ => exact absurd hvisiting hvisiting'
    | fails hvisiting' _ _ => exact absurd hvisiting hvisiting'
    | leaves hvisiting' _ _ _ => exact absurd hvisiting hvisiting'
  | met hvisiting hvisited _ ih =>
    cases h' with
    | cycle hvisiting' => exact absurd hvisiting' hvisiting
    | met _ _ hrest' => exact ih hrest'
    | fails _ hvisited' _ => exact absurd hvisited hvisited'
    | leaves _ hvisited' _ _ => exact absurd hvisited hvisited'
  | fails hvisiting hvisited _ ih =>
    cases h' with
    | cycle hvisiting' => exact absurd hvisiting' hvisiting
    | met _ hvisited' _ => exact absurd hvisited' hvisited
    | fails _ _ hnext' =>
      cases ih hnext'
      rfl
    | leaves _ _ hnext' _ => cases ih hnext'
  | leaves hvisiting hvisited _ _ ihnext ihrest =>
    cases h' with
    | cycle hvisiting' => exact absurd hvisiting' hvisiting
    | met _ hvisited' _ => exact absurd hvisited' hvisited
    | fails _ _ hnext' => cases ihnext hnext'
    | leaves _ _ hnext' hrest' =>
      cases ihnext hnext'
      exact ihrest hrest'

theorem Plans.unique {model : String} {routes : List RouteCandidate}
    {result result' : Except DomainError (List RouteCandidate)}
    (h : Plans model routes fallbacks result) (h' : Plans model routes fallbacks result') :
    result = result' := by
  cases h with
  | unknown h =>
    cases h' with
    | unknown => rfl
    | visits h' _ => exact absurd h h'
  | visits h hvisits =>
    cases h' with
    | unknown h' => exact absurd h' h
    | visits _ hvisits' => rw [hvisits.unique hvisits']

/-- The calls end as the search does wherever the search has room. The induction is on the
depth, and below it on the models. -/
theorem visits_search (routes : List RouteCandidate) (fallbacks : FallbackMap) (depth : Nat)
    (models : List String) (marks : DepthFirst.Marks String)
    (hready : ∀ model ∈ models, DepthFirst.Ready (nextModels fallbacks) (sourceModels fallbacks)
      depth model marks) :
    Visits (routesByModel routes) fallbacks models (walkOf routes marks)
      (walkOutcome routes (models.foldlM
        (fun marks next => DepthFirst.search (nextModels fallbacks) depth next marks) marks)) := by
  have hsources : ∀ name, nextModels fallbacks name ≠ [] → name ∈ sourceModels fallbacks :=
    fun _ h => mem_sourceModels h
  induction depth generalizing models marks with
  | zero =>
    cases models with
    | nil => exact .done _
    | cons model models => exact absurd (hready model List.mem_cons_self).room (Nat.not_lt_zero _)
  | succ depth ihdepth =>
    induction models generalizing marks with
    | nil => exact .done _
    | cons model models ihmodels =>
      have hmodel := hready model List.mem_cons_self
      have houtcome := DepthFirst.outcome_search hsources (depth + 1) model marks hmodel
      -- once the model is done, the others are ready at the marks it leaves
      have hrest : ∀ marks', DepthFirst.search (nextModels fallbacks) (depth + 1) model marks =
          .ok marks' → Visits (routesByModel routes) fallbacks models (walkOf routes marks')
            (walkOutcome routes (models.foldlM (fun marks next =>
              DepthFirst.search (nextModels fallbacks) (depth + 1) next marks) marks')) := by
        intro marks' hok
        rw [hok] at houtcome
        have hdone : DepthFirst.Done (nextModels fallbacks) [model] marks marks' := houtcome
        apply ihmodels
        intro next hnext
        exact hdone.ready (hready next (List.mem_cons_of_mem _ hnext))
      rw [List.foldlM_cons]
      by_cases hvisiting : model ∈ marks.visiting
      · rw [DepthFirst.search_visiting _ depth hvisiting]
        exact .cycle hvisiting
      by_cases hvisited : model ∈ marks.visited
      · have hsearch := DepthFirst.search_visited (nextModels fallbacks) depth hvisiting hvisited
        rw [hsearch]
        exact .met hvisiting hvisited (hrest marks hsearch)
      -- a fresh model: the calls for its fallbacks follow the search one level down
      have hnext := ihdepth (nextModels fallbacks model) (marks.enter model) (by
        intro next hnext
        exact hmodel.enter hvisiting hvisited (mem_sourceModels (List.ne_nil_of_mem hnext)) hnext)
      rw [walkOf_enter] at hnext
      have hsearch := DepthFirst.search_fresh (nextModels fallbacks) depth hvisiting hvisited
      cases hfold : (nextModels fallbacks model).foldlM
          (fun marks next => DepthFirst.search (nextModels fallbacks) depth next marks)
          (marks.enter model) with
      | error cycle =>
        rw [hfold] at hnext hsearch
        rw [hsearch]
        exact .fails hvisiting hvisited hnext
      | ok left =>
        rw [hfold] at hnext hsearch
        have hafter := hrest _ hsearch
        rw [hsearch]
        exact .leaves hvisiting hvisited hnext hafter

/-- The calls of the source end, and the planner returns what they end with. -/
theorem plans_candidatePlan (model : String) (routes : List RouteCandidate)
    (fallbacks : FallbackMap) :
    Plans model routes fallbacks (candidatePlan model routes fallbacks) := by
  by_cases hunknown : (routesByModel routes).get? model = none
  · rw [candidatePlan, if_pos hunknown]
    exact .unknown hunknown
  · have hvisits := visits_search routes fallbacks (fallbacks.rows.length + 1) [model]
      DepthFirst.Marks.start (by
        intro name _
        rw [← card_sourceModels]
        exact DepthFirst.ready_start name)
    have hwalk := walks_foldlM (walks_visit routes fallbacks (fallbacks.rows.length + 1))
      [model] DepthFirst.Marks.start
    rw [← hwalk, List.foldlM_cons] at hvisits
    have hplan := Plans.visits hunknown hvisits
    rw [candidatePlan, if_neg hunknown]
    have hstart : walkOf routes DepthFirst.Marks.start = Walk.start := rfl
    rw [hstart] at hplan
    cases hvisit : visit (routesByModel routes) fallbacks (fallbacks.rows.length + 1) model
        Walk.start with
    | error error =>
      rw [hvisit] at hplan
      exact hplan
    | ok walk =>
      rw [hvisit] at hplan
      exact hplan

/-- The planner ends on every input, and both its errors are exact: the model owns no route,
or some cycle is reachable and the model named lies on one. -/
theorem candidatePlan_terminates (model : String) (routes : List RouteCandidate)
    (fallbacks : FallbackMap) :
    (∃! result, Plans model routes fallbacks result) ∧
    Plans model routes fallbacks (candidatePlan model routes fallbacks) ∧
    (candidatePlan model routes fallbacks = .error (.unknownModel model) ↔
      ¬ Serves routes model) ∧
    (∀ name, candidatePlan model routes fallbacks = .error (.unknownModel name) → name = model) ∧
    (Serves routes model →
      ((∃ name, candidatePlan model routes fallbacks = .error (.fallbackCycle name)) ↔
        ∃ name, FallsBackTo fallbacks model name ∧ OnFallbackCycle fallbacks name)) ∧
    ∀ name, candidatePlan model routes fallbacks = .error (.fallbackCycle name) →
      FallsBackTo fallbacks model name ∧ OnFallbackCycle fallbacks name := by
  have hplans := plans_candidatePlan model routes fallbacks
  refine ⟨⟨_, hplans, fun _ h => h.unique hplans⟩, hplans, ?_, ?_, ?_,
    fun _ => candidatePlan_cycle⟩
  · constructor
    · intro h
      rcases candidatePlan_error h with ⟨hserves, -⟩ | ⟨-, cycle, -, herror⟩
      · exact hserves
      · cases herror
    · exact candidatePlan_of_not_serves fallbacks
  · intro name h
    rcases candidatePlan_error h with ⟨-, herror⟩ | ⟨-, cycle, -, herror⟩
    · cases herror
      rfl
    · cases herror
  · intro hserves
    constructor
    · rintro ⟨name, h⟩
      exact ⟨name, candidatePlan_cycle h⟩
    · rintro ⟨name, hreach, honcycle⟩
      -- the cycle that is named need not be the one that is given
      cases hplan : candidatePlan model routes fallbacks with
      | ok plan =>
        have hacyclic := (candidatePlan_ok_iff.mp ⟨plan, hplan⟩).2
        exact absurd honcycle (hacyclic name hreach)
      | error error =>
        rcases candidatePlan_error hplan with ⟨hn, -⟩ | ⟨-, cycle, -, rfl⟩
        · exact absurd hserves hn
        · exact ⟨cycle, rfl⟩

/-- A cycle that the requested model leads to without being on it. -/
def tailedLoop : FallbackMap := .group [("a", "b"), ("b", "c"), ("c", "b")]

theorem candidatePlan_terminates_tailedLoop :
    FallsBackTo tailedLoop "a" "b" ∧ OnFallbackCycle tailedLoop "b" := by
  have hplan : candidatePlan "a" [routeTo "route" "a" 1] tailedLoop =
      .error (.fallbackCycle "b") := by
    decide +kernel
  obtain ⟨-, -, -, -, -, hcycle⟩ :=
    candidatePlan_terminates "a" [routeTo "route" "a" 1] tailedLoop
  exact hcycle "b" hplan

end SmartGateway
