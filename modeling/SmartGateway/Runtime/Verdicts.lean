import SmartGateway.Runtime.SnapshotFallback
import SmartGateway.Storage.PostgresMethods

/-! # Verdicts of the primary

A reachable primary refuses a model for three reasons: the model owns no eligible route, a
fallback cycle is reachable, or no probe was granted (`Postgres.verdict_cases`). All errors
share one text channel, and `SnapshotFallback::candidates` hands the call to the snapshot after
any of them. So a verdict is reported only where the snapshot fails with the very same text
(`verdict_reported_iff`).
-/

namespace SmartGateway

/-- A cycle is reported exactly if one is reachable. -/
theorem exploreModels_error_iff (fallbacks : FallbackMap) (model : String) :
    (∃ cycle, exploreModels fallbacks model = .error cycle) ↔ ¬ AcyclicFrom fallbacks model := by
  have hok := DepthFirst.explore_ok_iff
    (fun a (h : nextModels fallbacks a ≠ []) => mem_sourceModels h) model
  rw [AcyclicFrom, ← hok, exploreModels]
  cases DepthFirst.explore (nextModels fallbacks) (sourceModels fallbacks) model with
  | ok marks => simp
  | error cycle => simp

/-! ## How each side refuses -/

/-- How a snapshot refuses a model: neither the closed routes nor the retryable ones make a
plan, and the retryable ones say why. -/
theorem SnapshotRepository.candidates_error_iff {repository : SnapshotRepository} {now : Int}
    {model error : String} :
    (repository.candidates now model).1 = .error error ↔
      (¬ Serves (repository.retryableRoutes now) model ∧
        (¬ Serves repository.closedRoutes model ∨
          ¬ AcyclicFrom repository.snapshot.fallbacks model) ∧
        error = (DomainError.unknownModel model).message) ∨
      (Serves (repository.retryableRoutes now) model ∧
        ∃ cycle, exploreModels repository.snapshot.fallbacks model = .error cycle ∧
          error = (DomainError.fallbackCycle cycle).message) := by
  have hcycle := exploreModels_error_iff repository.snapshot.fallbacks model
  cases hclosed : candidatePlan model repository.closedRoutes repository.snapshot.fallbacks with
  | ok plan =>
    -- the closed routes make a plan
    obtain ⟨hserves, hacyclic⟩ := candidatePlan_ok_iff.mp ⟨plan, hclosed⟩
    rw [candidates_closed hclosed]
    constructor
    · intro h
      cases h
    · rintro (⟨-, hnone | hcyclic, -⟩ | ⟨-, cycle, hexplore, -⟩)
      · exact absurd hserves hnone
      · exact absurd hacyclic hcyclic
      · exact absurd hacyclic (hcycle.mp ⟨cycle, hexplore⟩)
  | error _ =>
    have hnoPlan : ¬ Serves repository.closedRoutes model ∨
        ¬ AcyclicFrom repository.snapshot.fallbacks model := by
      rw [← not_and_or, ← candidatePlan_ok_iff, hclosed]
      rintro ⟨plan, hplan⟩
      cases hplan
    rcases candidates_probe now hclosed with ⟨reason, hretry, hresult⟩ |
      ⟨probe, rest, hretry, hresult⟩
    · rw [hresult, Except.error.injEq]
      rcases candidatePlan_error hretry with ⟨hnone, rfl⟩ | ⟨hserves, cycle, hexplore, rfl⟩
      · constructor
        · rintro rfl
          exact Or.inl ⟨hnone, hnoPlan, rfl⟩
        · rintro (⟨-, -, rfl⟩ | ⟨hserves, -⟩)
          · rfl
          · exact absurd hserves hnone
      · constructor
        · rintro rfl
          exact Or.inr ⟨hserves, cycle, hexplore, rfl⟩
        · rintro (⟨hnone, -⟩ | ⟨-, cycle', hexplore', rfl⟩)
          · exact absurd hserves hnone
          · rw [hexplore, Except.error.injEq] at hexplore'
            rw [hexplore']
    · -- a probe is offered
      obtain ⟨hserves, hacyclic⟩ := candidatePlan_ok_iff.mp ⟨_, hretry⟩
      rw [hresult]
      constructor
      · intro h
        cases h
      · rintro (⟨hnone, -⟩ | ⟨-, cycle, hexplore, -⟩)
        · exact absurd hserves hnone
        · exact absurd hacyclic (hcycle.mp ⟨cycle, hexplore⟩)

/-- The reasons for which a reachable PostgreSQL store refuses a model. -/
theorem Postgres.verdict_cases {digest : String → String} {now : Int} {leaseId model : String}
    {s s' : Session} {verdict : String}
    (h : handle digest now leaseId (.candidates model) s = (.error verdict, s')) :
    (¬ Serves (s.db.eligibleCandidates now model) model ∧
      verdict = (DomainError.unknownModel model).message) ∨
    (Serves (s.db.eligibleCandidates now model) model ∧
      ∃ cycle, exploreModels s.db.fallbackMap model = .error cycle ∧
        verdict = (DomainError.fallbackCycle cycle).message) ∨
    (Serves (s.db.eligibleCandidates now model) model ∧ AcyclicFrom s.db.fallbackMap model ∧
      verdict = (DomainError.noEligibleRoute model).message) := by
  have hhandle := handle_candidates digest now leaseId model s
  cases hplan : candidatePlan model (s.db.eligibleCandidates now model) s.db.fallbackMap with
  | error error =>
    rw [hplan, h] at hhandle
    dsimp only at hhandle
    rw [Prod.mk.injEq, Except.error.injEq] at hhandle
    rcases candidatePlan_error hplan with ⟨hnone, rfl⟩ | ⟨hserves, cycle, hexplore, rfl⟩
    · exact Or.inl ⟨hnone, hhandle.1⟩
    · exact Or.inr (Or.inl ⟨hserves, cycle, hexplore, hhandle.1⟩)
  -- There is a plan, so the verdict can only be that no probe was granted.
  | ok plan =>
    rw [hplan] at hhandle
    obtain ⟨probe, s'', hresult, -, -⟩ := hhandle
    obtain ⟨hserves, hacyclic⟩ := candidatePlan_ok_iff.mp ⟨plan, hplan⟩
    rw [h, Prod.mk.injEq] at hresult
    have hverdict := hresult.1
    split at hverdict
    · rw [Except.error.injEq] at hverdict
      exact Or.inr (Or.inr ⟨hserves, hacyclic, hverdict⟩)
    · cases hverdict

/-! ## When the verdict is reported -/

/-- Both sides refuse a model for the same reason: on both it owns no route that can be used,
or on both the same fallback cycle is found. -/
def SameVerdict (db : Postgres.Database) (now : Int) (repository : SnapshotRepository)
    (localNow : Int) (model : String) : Prop :=
  (¬ Serves (db.eligibleCandidates now model) model ∧
    ¬ Serves (repository.retryableRoutes localNow) model ∧
    (¬ Serves repository.closedRoutes model ∨
      ¬ AcyclicFrom repository.snapshot.fallbacks model)) ∨
  (Serves (db.eligibleCandidates now model) model ∧
    Serves (repository.retryableRoutes localNow) model ∧
    ∃ cycle, exploreModels db.fallbackMap model = .error cycle ∧
      exploreModels repository.snapshot.fallbacks model = .error cycle)

/-- A verdict of the primary is reported if and only if the snapshot refuses the model for the
same reason. -/
theorem verdict_reported_iff (digest : String → String) (now localNow : Int)
    (leaseId model : String) (s : Postgres.Session) (repository : SnapshotRepository)
    {verdict : String} {s' : Postgres.Session}
    (h : Postgres.handle digest now leaseId (.candidates model) s = (.error verdict, s')) :
    (SnapshotFallback.handle (Postgres.handle digest now leaseId)
        (SnapshotRepository.handle digest localNow) (.candidates model) (s, repository)).1 =
      .error verdict ↔ SameVerdict s.db now repository localNow model := by
  rw [SnapshotFallback.handle_of_error _ _ h]
  change (repository.candidates localNow model).1 = .error verdict ↔ _
  -- the texts of the errors are told apart, so each verdict can be met by its own kind only
  rw [SnapshotRepository.candidates_error_iff]
  rcases Postgres.verdict_cases h with ⟨hnone, rfl⟩ | ⟨hserves, cycle, hexplore, rfl⟩ |
    ⟨hserves, hacyclic, rfl⟩
  · -- the model is unknown to the primary
    constructor
    · rintro (⟨hretryable, hclosed, -⟩ | ⟨-, cycle, -, htext⟩)
      · exact Or.inl ⟨hnone, hretryable, hclosed⟩
      · cases DomainError.message_injective htext
    · rintro (⟨-, hretryable, hclosed⟩ | ⟨hserves, -⟩)
      · exact Or.inl ⟨hretryable, hclosed, rfl⟩
      · exact absurd hserves hnone
  · -- the primary found a cycle
    constructor
    · rintro (⟨-, -, htext⟩ | ⟨hretryable, cycle', hexplore', htext⟩)
      · cases DomainError.message_injective htext
      · cases DomainError.message_injective htext
        exact Or.inr ⟨hserves, hretryable, cycle, hexplore, hexplore'⟩
    · rintro (⟨hnone, -⟩ | ⟨-, hretryable, cycle', hexplore', hlocal⟩)
      · exact absurd hserves hnone
      · rw [hexplore, Except.error.injEq] at hexplore'
        subst hexplore'
        exact Or.inr ⟨hretryable, cycle, hlocal, rfl⟩
  · -- the primary granted no probe; no snapshot says so
    have hnoCycle := (exploreModels_error_iff s.db.fallbackMap model).not_left.mpr hacyclic
    constructor
    · rintro (⟨-, -, htext⟩ | ⟨-, cycle, -, htext⟩)
      · cases DomainError.message_injective htext
      · cases DomainError.message_injective htext
    · rintro (⟨hnone, -⟩ | ⟨-, -, cycle, hexplore, -⟩)
      · exact absurd hserves hnone
      · exact absurd ⟨cycle, hexplore⟩ hnoCycle

/-! ## A verdict that is overruled -/

namespace Overruled

/-- The primary holds the only route open, without a retry time. -/
def primary : Postgres.Session :=
  .oneRoute ⟨"open", some "RateLimited", none⟩ (by decide)

/-- The snapshot was taken before the route failed. -/
def local_ : SnapshotRepository := .oneRoute (.single "route" ⟨"closed", none⟩)

def unknownModel : String := "requested logical model `model` is not configured"

theorem refused :
    Postgres.handle id 0 "lease" (.candidates "model") primary = (.error unknownModel, primary) :=
  rfl

theorem verdict_reported_here :
    (SnapshotFallback.handle (Postgres.handle id 0 "lease") (SnapshotRepository.handle id 0)
        (.candidates "model") (primary, local_)).1 = .error unknownModel ↔
      SameVerdict primary.db 0 local_ 0 "model" :=
  verdict_reported_iff id 0 0 "lease" "model" primary local_ refused

/-- The primary is reachable and refuses the model, and yet its open route is offered. -/
theorem open_route_offered :
    (Postgres.handle id 0 "lease" (.candidates "model") primary).1 = .error unknownModel ∧
    (primary.db.providerRouteState.get? "route").map StateRow.state = some "open" ∧
    (SnapshotFallback.handle (Postgres.handle id 0 "lease") (SnapshotRepository.handle id 0)
      (.candidates "model") (primary, local_)).1 = .ok [ControlPlane.onlyRoute] :=
  ⟨rfl, rfl, rfl⟩

end Overruled

end SmartGateway
