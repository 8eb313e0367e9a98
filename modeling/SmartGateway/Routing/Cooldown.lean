import SmartGateway.Runtime.Snapshot
import SmartGateway.Storage.PostgresCluster
import SmartGateway.Storage.Sqlite

/-! # Cooldowns under concurrency

A failed route cools until its retry time. Requests read eligibility at one time and write
marks at another, and no store orders or versions the marks: the last one wins. So a cooldown
lasts, for any interleaving, as long as no success of the route and no failure of it with an
earlier retry time comes in between (`cooldown_respected`); the late success of an attempt that
started before the failure ends it (`CutShort.offered_early`).

In the two stores with a mutex a method is one step, so an interleaving is a sequence of calls.
In PostgreSQL the statements of any number of processes interleave. Every time is what the store
reads off its own clock in whole seconds, and PostgreSQL rounds to the nearest one: a cooldown can
end there up to half a second early.
-/

namespace SmartGateway

/-! ## A cooling circuit -/

/-- A circuit that is not used before an instant: it is not closed, and its retry time, if it
has one, is not earlier. -/
structure CoolsUntil (t : Int) (state : String) (retryAt : Option Int) : Prop where
  notClosed : state ≠ "closed"
  notEarlier : ∀ retry, retryAt = some retry → t ≤ retry

theorem CoolsUntil.le_of_retryDue {t now : Int} {state : String} {retryAt : Option Int}
    (h : CoolsUntil t state retryAt) (hdue : ControlPlane.retryDue retryAt now = true) :
    t ≤ now := by
  cases retryAt with
  | none => cases hdue
  | some retry =>
    have hretry : retry ≤ now := of_decide_eq_true hdue
    have hearlier := h.notEarlier retry rfl
    omega

/-- A circuit that was just opened. -/
theorem CoolsUntil.opened {t : Int} {retryAt : Option Int}
    (h : ∀ retry, retryAt = some retry → t ≤ retry) : CoolsUntil t "open" retryAt :=
  ⟨by decide, h⟩

theorem CoolsUntil.halfOpen {t : Int} {state : String} {retryAt : Option Int}
    (h : CoolsUntil t state retryAt) : CoolsUntil t "half_open" retryAt :=
  ⟨by decide, h.notEarlier⟩

/-- A failure whose retry time is earlier than an instant. -/
def RetriesBefore (t : Int) (failure : ProviderFailure) : Prop :=
  ∃ retry, failure.retryAtUnix = some retry ∧ retry < t

theorem le_of_not_retriesBefore {t : Int} {failure : ProviderFailure}
    (h : ¬ RetriesBefore t failure) {retry : Int} (hretry : failure.retryAtUnix = some retry) :
    t ≤ retry := by
  by_contra hearlier
  exact h ⟨retry, hretry, by omega⟩

theorem not_retriesBefore {t : Int} {failure : ProviderFailure}
    (h : failure.retryAtUnix = some t) : ¬ RetriesBefore t failure := by
  rintro ⟨retry, hretry, hearlier⟩
  rw [h, Option.some.injEq] at hretry
  omega

/-! ## Repositories with atomic methods -/

/-- The marks that cut a cooldown of a route short. -/
def CutsShort (routeId : String) (t : Int) : RepositoryOp → Prop
  | .markRouteSuccess routeId' => routeId' = routeId
  | .markRouteFailure routeId' failure => routeId' = routeId ∧ RetriesBefore t failure
  | _ => False

/-- An atomic repository keeps a route cooling unless a mark cuts it short, and does not offer
it meanwhile. -/
structure KeepsCooling {σ : Type} (repository : AtomicRepository σ)
    (Cooling : String → Int → σ → Prop) : Prop where
  keep : ∀ routeId t now op s, Cooling routeId t s → ¬ CutsShort routeId t op →
    Cooling routeId t (repository now op s).2
  hide : ∀ routeId t now logicalModel s routes, Cooling routeId t s →
    (repository now (.candidates logicalModel) s).1 = .ok routes →
    ∀ route ∈ routes, route.routeId = routeId → t ≤ now

/-- Over any sequence of calls that does not cut the cooldown short, the route is not offered
before its time. -/
theorem KeepsCooling.not_offered {σ : Type} {repository : AtomicRepository σ}
    {Cooling : String → Int → σ → Prop} (h : KeepsCooling repository Cooling) {routeId : String}
    {t : Int} {s : σ} (hs : Cooling routeId t s) {calls : List (Int × RepositoryOp)}
    (hcalls : ∀ call ∈ calls, ¬ CutsShort routeId t call.2) {now : Int} {logicalModel : String}
    {routes : List RouteCandidate}
    (hanswer : (repository now (.candidates logicalModel)
      (AtomicRepository.after repository calls s)).1 = .ok routes)
    (hnow : now < t) : ∀ route ∈ routes, route.routeId ≠ routeId := by
  intro route hroute hid
  have hcooling : Cooling routeId t (AtomicRepository.after repository calls s) :=
    AtomicRepository.after_preserves (fun op => ¬ CutsShort routeId t op)
      (fun now op s hs hop => h.keep routeId t now op s hs hop) hcalls hs
  have hlate := h.hide routeId t now logicalModel _ routes hcooling hanswer route hroute hid
  omega

/-! ## SQLite -/

namespace ControlPlane

/-- The circuit of a route cools, as far as it has one. -/
def Cooling (routeId : String) (t : Int) (db : ControlPlane) : Prop :=
  ∀ row, db.providerRouteState.get? routeId = some row → CoolsUntil t row.state row.retryAt

/-- An update of a state row keeps a route cooling if it keeps this very row cooling. -/
theorem Cooling.update {routeId routeId' : String} {t : Int} {db : ControlPlane}
    {f : StateRow → StateRow} (h : db.Cooling routeId t)
    (hf : routeId' = routeId → ∀ row, CoolsUntil t row.state row.retryAt →
      CoolsUntil t (f row).state (f row).retryAt) :
    (db.updateRouteState routeId' f).Cooling routeId t := by
  intro row hrow
  rcases KeyedTable.get?_modify_cases hrow with ⟨-, hold⟩ | ⟨hid, old, hold, rfl⟩
  · exact h row hold
  · exact hf hid.symm old (h old hold)

end ControlPlane

/-- A route SQLite offers is closed or due. -/
theorem Sqlite.le_of_offered {db : ControlPlane} {routeId : String} {t now : Int}
    (h : db.Cooling routeId t) {route : RouteCandidate} (hroute : route ∈ eligibleRoutes db now)
    (hid : route.routeId = routeId) : t ≤ now := by
  obtain ⟨row, hrow, rfl⟩ := List.mem_map.mp hroute
  obtain ⟨hjoined, heligible⟩ := List.mem_filter.mp hrow
  have hstate := (ControlPlane.mem_joinedRoutes.mp hjoined).2.2.1
  have hcools := h row.routeState (by rw [← hid]; exact hstate)
  simp only [eligible, Bool.and_eq_true, Bool.or_eq_true, beq_iff_eq] at heligible
  rcases heligible.2 with hclosed | hdue
  · exact absurd hclosed hcools.notClosed
  · exact hcools.le_of_retryDue hdue

/-- SQLite keeps failed routes cooling. -/
theorem Sqlite.keepsCooling (digest : String → String) :
    KeepsCooling (handle digest) fun routeId t db => db.Cooling routeId t where
  keep := by
    intro routeId t now op db h hop
    cases op with
    | authenticate rawKey => exact h
    | candidates logicalModel => exact h
    | recordAttempt attempt =>
      change (recordAttempt db now attempt).2.Cooling routeId t
      rw [recordAttempt_tables]
      exact h
    | markRouteSuccess routeId' => exact h.update fun hid => absurd hid hop
    -- A new failure overwrites the retry time, with one that is not earlier.
    | markRouteFailure routeId' failure =>
      change (markRouteFailure db routeId' failure).Cooling routeId t
      rw [markRouteFailure_eq]
      refine h.update ?_
      intro hid row _
      exact .opened fun retry hretry => le_of_not_retriesBefore (fun hb => hop ⟨hid, hb⟩) hretry
    | markAccountFailure accountId failure => exact h
  hide := by
    intro routeId t now logicalModel db routes h hanswer route hroute hid
    change candidates db now logicalModel = .ok routes at hanswer
    rw [candidates_eq] at hanswer
    cases hplan : candidatePlan logicalModel (eligibleRoutes db now) db.fallbackMap with
    | error error =>
      rw [hplan] at hanswer
      cases hanswer
    | ok plan =>
      rw [hplan] at hanswer
      cases hanswer
      exact le_of_offered h ((mem_candidatePlan hplan route).mp hroute).1 hid

/-! ## Snapshots -/

namespace SnapshotRepository

/-- The runtime circuit of a route is there and cools; a route without one counts as closed. -/
def Cooling (routeId : String) (t : Int) (repository : SnapshotRepository) : Prop :=
  ∃ entry, repository.routeStates.get? routeId = some entry ∧
    CoolsUntil t entry.state entry.retryAtUnix

theorem Cooling.update {routeId routeId' : String} {t : Int} {repository : SnapshotRepository}
    {f : SnapshotState → SnapshotState} (h : repository.Cooling routeId t)
    (hf : routeId' = routeId → ∀ entry, CoolsUntil t entry.state entry.retryAtUnix →
      CoolsUntil t (f entry).state (f entry).retryAtUnix) :
    (repository.updateRouteState routeId' f).Cooling routeId t := by
  obtain ⟨entry, hentry, hcools⟩ := h
  by_cases hid : routeId = routeId'
  · subst hid
    refine ⟨f entry, ?_, hf rfl entry hcools⟩
    change (repository.routeStates.modify routeId f).get? routeId = _
    rw [KeyedTable.get?_modify_self, hentry, Option.map_some]
  · refine ⟨entry, ?_, hcools⟩
    change (repository.routeStates.modify routeId' f).get? routeId = _
    rw [KeyedTable.get?_modify_ne _ _ hid, hentry]

theorem le_of_offered {repository : SnapshotRepository} {routeId : String} {t now : Int}
    (h : repository.Cooling routeId t) {logicalModel : String} {routes : List RouteCandidate}
    (hanswer : (repository.candidates now logicalModel).1 = .ok routes) {route : RouteCandidate}
    (hroute : route ∈ routes) (hid : route.routeId = routeId) : t ≤ now := by
  obtain ⟨entry, hentry, hcools⟩ := h
  rw [← hid] at hentry
  rcases offered_cases hanswer hroute with hclosed | hretryable
  · have hstate := (List.mem_filter.mp hclosed).2
    simp only [routeClosed, hentry, Bool.and_eq_true, beq_iff_eq] at hstate
    exact absurd hstate.2 hcools.notClosed
  · have hstate := (List.mem_filter.mp hretryable).2
    simp only [routeRetryable, hentry, Bool.and_eq_true, beq_iff_eq] at hstate
    exact hcools.le_of_retryDue hstate.2.2

/-- A snapshot keeps failed routes cooling. -/
theorem keepsCooling (digest : String → String) :
    KeepsCooling (handle digest) fun routeId t repository => repository.Cooling routeId t where
  keep := by
    intro routeId t now op repository h hop
    cases op with
    | authenticate rawKey => exact h
    -- A probe makes its row half open and leaves the retry time in it.
    | candidates logicalModel =>
      change (repository.candidates now logicalModel).2.Cooling routeId t
      rcases candidates_state repository now logicalModel with hsame | ⟨probed, -, hprobe⟩
      · rw [hsame]
        exact h
      · rw [hprobe]
        exact h.update fun _ _ hcools => hcools.halfOpen
    | recordAttempt attempt => exact h
    | markRouteSuccess routeId' => exact h.update fun hid => absurd hid hop
    | markRouteFailure routeId' failure =>
      change (repository.markRouteFailure routeId' failure).Cooling routeId t
      unfold markRouteFailure
      split
      · exact h
      · refine h.update ?_
        intro hid entry _
        exact .opened fun retry hretry => le_of_not_retriesBefore (fun hb => hop ⟨hid, hb⟩) hretry
    | markAccountFailure accountId failure =>
      change (repository.markAccountFailure accountId failure).Cooling routeId t
      unfold markAccountFailure
      split <;> exact h
  hide := fun _ _ _ _ _ _ h hanswer _ hroute hid => le_of_offered h hanswer hroute hid

end SnapshotRepository

/-! ## PostgreSQL -/

namespace Postgres

open Concurrent

/-- The statements that cut a cooldown of a route short. -/
def EndsCooldown (routeId : String) (t : Int) : Op → Prop
  | .closeRoute routeId' => routeId' = routeId
  | .openRoute routeId' failure => routeId' = routeId ∧ RetriesBefore t failure
  | _ => False

/-- A step in which no statement that cuts the cooldown short takes effect. -/
def Undisturbed (routeId : String) (t : Int) (event : Event statements) (s s' : ClusterState) :
    Prop :=
  EndsCooldown routeId t event.op → s'.db = s.db

/-- Each statement keeps a route cooling that does not cut the cooldown short. -/
theorem cooling_exec {routeId : String} {t now : Int} {leaseId : String} {op : Op} {s : Session}
    (h : s.db.Cooling routeId t) (hop : ¬ EndsCooldown routeId t op) :
    (exec now leaseId op s).2.db.Cooling routeId t := by
  cases op with
  | acquireProbe routeId' =>
    intro row hrow
    rcases (probed_acquire now leaseId routeId' s).routeState routeId with hsame | ⟨-, hhalf⟩
    · rw [hsame] at hrow
      exact h row hrow
    · -- a granted probe leaves the retry time as it is
      rw [hhalf, Option.map_eq_some_iff] at hrow
      obtain ⟨old, hold, rfl⟩ := hrow
      exact (h old hold).halfOpen
  | closeRoute routeId' => exact h.update fun hid => absurd hid hop
  | openRoute routeId' failure =>
    refine h.update ?_
    intro hid row _
    exact .opened fun retry hretry => le_of_not_retriesBefore (fun hb => hop ⟨hid, hb⟩) hretry
  | attemptIdentity attempt =>
    have hsame : (exec now leaseId (.attemptIdentity attempt) s).2 = s := by
      rw [exec]
      split <;> rfl
    rw [hsame]
    exact h
  | _ => exact h

/-- A route that PostgreSQL reads is closed or due. -/
theorem le_of_read {db : Database} {routeId : String} {t now : Int} (h : db.Cooling routeId t)
    {logicalModel : String} {row : ControlPlane.JoinedRoute}
    (hrow : row ∈ db.eligibleRoutes now logicalModel) (hid : row.routeId = routeId) :
    t ≤ now := by
  obtain ⟨hjoined, heligible⟩ := List.mem_filter.mp hrow
  have hstate := (ControlPlane.mem_joinedRoutes.mp hjoined).2.2.1
  have hcools := h row.routeState (by rw [← hid]; exact hstate)
  simp only [eligible, Bool.and_eq_true, Bool.or_eq_true, beq_iff_eq] at heligible
  rcases heligible.2.2 with hclosed | ⟨-, hdue⟩
  · exact absurd hclosed hcools.notClosed
  · exact hcools.le_of_retryDue hdue

/-- What the calls from `first` on know: a query that read the route ran at its retry time or
later. -/
def ReadDue (routeId : String) (t : Int) (first id : ℕ) (_ : Call) (event : Event statements)
    (s : ClusterState) : Prop :=
  first ≤ id → ∀ logicalModel rows, event = ⟨.eligibleRoutes logicalModel, .ok rows⟩ →
    ∀ row ∈ rows, row.routeId = routeId → t ≤ s.clock

theorem cooldown_guarantee (digest : String → String) (routeId : String) (t : Int) (first : ℕ) :
    Guarantee (cluster digest) (fun _ => True) (Undisturbed routeId t)
      (fun s => s.db.Cooling routeId t) (ReadDue routeId t first) fun _ _ _ => True where
  body call _ := ⟨_, Program.always_true _ _⟩
  effect := by
    intro id call past op s answer s' h _ _ heffect hundisturbed
    have hclock := Effect.clock heffect
    refine ⟨?_, ?_, ?_⟩
    -- The statement is undisturbed, or is not one that ends the cooldown.
    · by_cases hop : EndsCooldown routeId t op
      · rw [hundisturbed hop]
        exact h
      · rcases Effect.db_cases heffect with hsame | ⟨leaseId, hexec⟩
        · rw [hsame]
          exact h
        · rw [hexec]
          exact cooling_exec h hop
    -- A read on the way finds the row not yet due.
    · intro _ logicalModel rows hevent row hrow hid
      cases hevent
      rw [Effect.rows_eq heffect] at hrow
      rw [hclock]
      exact le_of_read h hrow hid
    · intro id' call' event hfact hfirst logicalModel rows hevent row hrow hid
      rw [hclock]
      exact hfact hfirst logicalModel rows hevent row hrow hid
  -- Time passes between the statements, and what was not due at a read is not due before it.
  ambient := by
    intro s ended s' h hambient
    refine ⟨by rw [Ambient.db_eq hambient]; exact h, ?_⟩
    intro id call event _ hfact hfirst logicalModel rows hevent row hrow hid
    have hlater := Ambient.clock_le hambient
    have hread := hfact hfirst logicalModel rows hevent row hrow hid
    omega

/-- A world in which a route cools since the call number `first`. -/
abbrev CoolingSince (digest : String → String) (routeId : String) (t : Int) (first : ℕ)
    (w : World (cluster digest)) : Prop :=
  Consistent (cluster digest) (fun s => s.db.Cooling routeId t) (ReadDue routeId t first) w

/-- Once a failure was applied, its route cools in every undisturbed run. -/
theorem cooling_since {digest : String → String} {w w' w'' : World (cluster digest)}
    {l : Label (cluster digest)} {ls : List (Label (cluster digest))} {routeId : String} {t : Int}
    {failure : ProviderFailure} (hw : (runs digest).Reachable w)
    (hstep : (runs digest).Step w l w')
    (happlied : w'.shared.db = w.shared.db.openRoute routeId failure)
    (hretry : failure.retryAtUnix = some t)
    (hrun : ((runs digest).restrict (Allowed (Undisturbed routeId t))).Steps w' ls w'') :
    CoolingSince digest routeId t w'.next w'' := by
  apply (cooldown_guarantee digest routeId t w'.next).steps hrun
  have hw' := hw.step hstep
  refine ⟨?_, fun id f hflight => path_of_reachable hw' hflight, ?_⟩
  · intro row hrow
    rw [happlied] at hrow
    rcases KeyedTable.get?_modify_cases hrow with ⟨hne, -⟩ | ⟨-, old, -, rfl⟩
    · exact absurd rfl hne
    · exact .opened fun retry hretry' =>
        le_of_not_retriesBefore (not_retriesBefore hretry) hretry'
  · -- the calls of this world started before
    intro id f hflight event _ hfirst
    have hlt := flight_lt hw' hflight
    omega

/-- What a call returns, it read. -/
theorem returned_row {logicalModel : String} {past : List (Event statements)}
    {routes : List RouteCandidate} (h : Offered logicalModel past (.ok routes))
    {route : RouteCandidate} (hroute : route ∈ routes) :
    ∃ rows, ⟨.eligibleRoutes logicalModel, .ok rows⟩ ∈ past ∧
      ∃ row ∈ rows, row.routeId = route.routeId := by
  obtain ⟨-, rows, fallbacks, plan, hread, hplan, probe, hroutes, -, hprobe⟩ := h
  refine ⟨rows, hread, ?_⟩
  have hmem : route ∈ plan := by
    rw [hroutes] at hroute
    rcases List.mem_append.mp hroute with hfirst | hclosed
    · exact (hprobe route (Option.mem_toList.mp hfirst)).1
    · exact (List.mem_filter.mp hclosed).1
  obtain ⟨row, hrow, rfl⟩ := List.mem_map.mp ((mem_candidatePlan hplan route).mp hmem).1
  exact ⟨row, hrow, rfl⟩

end Postgres

/-! ## All three repositories -/

/-- Over any sequence of calls on an atomic repository: once a failure with a retry time was
recorded, its route is not offered before that time, unless a mark cuts the cooldown short. -/
def RespectsCooldowns {σ : Type} (repository : AtomicRepository σ)
    (Records : σ → String → ProviderFailure → Prop) : Prop :=
  ∀ s now routeId failure t, Records s routeId failure → failure.retryAtUnix = some t →
    ∀ calls, (∀ call ∈ calls, ¬ CutsShort routeId t call.2) →
      ∀ later logicalModel routes,
        (repository later (.candidates logicalModel) (AtomicRepository.after repository calls
          (repository now (.markRouteFailure routeId failure) s).2)).1 = .ok routes →
        later < t → ∀ route ∈ routes, route.routeId ≠ routeId

/-- How cooldowns are respected under concurrency. -/
structure CooldownRespected (digest : String → String) : Prop where
  /-- SQLite records every failure. -/
  sqlite : RespectsCooldowns (Sqlite.handle digest) fun _ _ _ => True
  /-- A snapshot records the failures that open a route, of the routes it has a state of. -/
  snapshot : RespectsCooldowns (SnapshotRepository.handle digest) fun repository routeId failure =>
    failure.category.opensRoute = true ∧ repository.routeStates.get? routeId ≠ none
  /-- In a cluster, no query reads a cooling route, unless a mark of some process takes effect
  that cuts the cooldown short. -/
  queries : ∀ w₁ l w₂ ls w₃ w₄ routeId failure t id call logicalModel rows,
    (Postgres.runs digest).Reachable w₁ → (Postgres.runs digest).Step w₁ l w₂ →
    w₂.shared.db = w₁.shared.db.openRoute routeId failure → failure.retryAtUnix = some t →
    ((Postgres.runs digest).restrict
      (Concurrent.Allowed (Postgres.Undisturbed routeId t))).Steps w₂ ls w₃ →
    (Postgres.runs digest).Step w₃ (.call id call ⟨.eligibleRoutes logicalModel, .ok rows⟩) w₄ →
    w₃.shared.clock < t → ∀ row ∈ rows, row.routeId ≠ routeId
  /-- In a cluster, no call returns a cooling route that was started after its failure. -/
  calls : ∀ w₁ l w₂ ls w₃ routeId failure t id process logicalModel past routes,
    (Postgres.runs digest).Reachable w₁ → (Postgres.runs digest).Step w₁ l w₂ →
    w₂.shared.db = w₁.shared.db.openRoute routeId failure → failure.retryAtUnix = some t →
    ((Postgres.runs digest).restrict
      (Concurrent.Allowed (Postgres.Undisturbed routeId t))).Steps w₂ ls w₃ →
    w₂.next ≤ id → w₃.flights id =
      some ⟨⟨process, .repository (.candidates logicalModel)⟩, past, .pure (.ok routes)⟩ →
    w₃.shared.clock < t → ∀ route ∈ routes, route.routeId ≠ routeId

theorem Sqlite.respectsCooldowns (digest : String → String) :
    RespectsCooldowns (handle digest) fun _ _ _ => True := by
  intro db now routeId failure t _ hretry calls hcalls later logicalModel routes hanswer hlater
  have hcooling : (markRouteFailure db routeId failure).Cooling routeId t := by
    rw [markRouteFailure_eq]
    intro row hrow
    rcases KeyedTable.get?_modify_cases hrow with ⟨hne, -⟩ | ⟨-, old, -, rfl⟩
    · exact absurd rfl hne
    · exact .opened fun retry hretry' => le_of_not_retriesBefore (not_retriesBefore hretry) hretry'
  exact (keepsCooling digest).not_offered hcooling hcalls hanswer hlater

theorem SnapshotRepository.respectsCooldowns (digest : String → String) :
    RespectsCooldowns (handle digest) fun repository routeId failure =>
      failure.category.opensRoute = true ∧ repository.routeStates.get? routeId ≠ none := by
  intro repository now routeId failure t hrecords hretry calls hcalls later logicalModel routes
    hanswer hlater
  obtain ⟨hopens, hstate⟩ := hrecords
  have hcooling : (repository.markRouteFailure routeId failure).Cooling routeId t := by
    obtain ⟨entry, hentry⟩ := Option.ne_none_iff_exists'.mp hstate
    have hrecorded : repository.markRouteFailure routeId failure =
        repository.updateRouteState routeId fun _ =>
          { state := "open", retryAtUnix := failure.retryAtUnix } := by
      rw [markRouteFailure, hopens]
      rfl
    rw [hrecorded]
    refine ⟨{ state := "open", retryAtUnix := failure.retryAtUnix }, ?_, ?_⟩
    · change (repository.routeStates.modify routeId _).get? routeId = _
      rw [KeyedTable.get?_modify_self, hentry, Option.map_some]
    · exact .opened fun retry hretry' => le_of_not_retriesBefore (not_retriesBefore hretry) hretry'
  exact (keepsCooling digest).not_offered hcooling hcalls hanswer hlater

/-- A cooldown is respected in all three repositories as long as no mark cuts it short. -/
theorem cooldown_respected (digest : String → String) : CooldownRespected digest where
  sqlite := Sqlite.respectsCooldowns digest
  snapshot := SnapshotRepository.respectsCooldowns digest
  queries := by
    intro w₁ l w₂ ls w₃ w₄ routeId failure t id call logicalModel rows hw hstep happlied hretry
      hrun hquery hclock row hrow hid
    have hcooling := Postgres.cooling_since hw hstep happlied hretry hrun
    cases hquery with
    | call _ heffect =>
      rw [Postgres.Effect.rows_eq heffect] at hrow
      have hdue := Postgres.le_of_read hcooling.shared hrow hid
      omega
  calls := by
    intro w₁ l w₂ ls w₃ routeId failure t id process logicalModel past routes hw hstep happlied
      hretry hrun hfirst hflight hclock route hroute hid
    have hcooling := Postgres.cooling_since hw hstep happlied hretry hrun
    have hoffered : Postgres.Offered logicalModel past (.ok routes) :=
      hcooling.result hflight (Postgres.always_candidates logicalModel)
    obtain ⟨rows, hread, row, hrow, hrowId⟩ := Postgres.returned_row hoffered hroute
    have hdue := hcooling.events id _ hflight _ hread hfirst logicalModel rows rfl row hrow
      (hrowId.trans hid)
    omega

/-! ## Cooldowns that are cut short -/

namespace CutShort

/-- A failed attempt with a retry time. -/
def failure (category : ErrorCategory) (retryAt : Int) : ProviderFailure :=
  ⟨category, "provider request failed", some 429, some retryAt⟩

/-- Two overlapping requests read the same closed route. The second one fails, then the first
one succeeds. -/
def overlap : List (Int × RepositoryOp) :=
  [(0, .candidates "model"), (0, .candidates "model"),
    (1, .markRouteFailure "route" (failure .rateLimited 60)), (2, .markRouteSuccess "route")]

/-- Two failures, the second with an earlier retry time. -/
def failures : List (Int × RepositoryOp) :=
  [(1, .markRouteFailure "route" (failure .rateLimited 60)),
    (2, .markRouteFailure "route" (failure .providerUnavailable 10))]

/-- After calls, a repository offers the route at an instant. -/
def Offers {σ : Type} (repository : AtomicRepository σ) (calls : List (Int × RepositoryOp)) (s : σ)
    (now : Int) : Prop :=
  ∃ routes, (repository now (.candidates "model")
    (AtomicRepository.after repository calls s)).1 = .ok routes ∧
      ∃ route ∈ routes, route.routeId = "route"

/-- The route is offered before second sixty although its failure until then was applied: after
a late success, after a failure with an earlier retry time, in a snapshot after a failure of a
blocking category, and in a snapshot without a state of the route. -/
theorem offered_early :
    Offers (Sqlite.handle id) overlap (.oneRoute ⟨"closed", none, none⟩) 3 ∧
    Offers (Sqlite.handle id) failures (.oneRoute ⟨"closed", none, none⟩) 20 ∧
    Offers (SnapshotRepository.handle id)
      [(1, .markRouteFailure "route" (failure .quotaExhausted 60))]
      (.oneRoute (.single "route" ⟨"closed", none⟩)) 3 ∧
    Offers (SnapshotRepository.handle id)
      [(1, .markRouteFailure "route" (failure .rateLimited 60))] (.oneRoute .empty) 3 :=
  ⟨⟨_, rfl, _, List.mem_singleton_self _, rfl⟩, ⟨_, rfl, _, List.mem_singleton_self _, rfl⟩,
    ⟨_, rfl, _, List.mem_singleton_self _, rfl⟩, ⟨_, rfl, _, List.mem_singleton_self _, rfl⟩⟩

end CutShort

end SmartGateway
