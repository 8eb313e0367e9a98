import SmartGateway.Storage.ProbeLeases

/-! # Probes that are never given back

The lease of an abandoned probe expires in the database. The entry in the map of its process
does not: only a mark of the route or of its account by the same process removes it, and a
request that is dropped, cancelled or left without a credential makes no mark. As long as the
entry is there, the process refuses the probe of the route (`acquires_iff`).

So no waiting route is stranded in a run in which no lease expires while its process still has
it (`GivenBackInTime`). The invariant of such runs is that each entry of a local map has its row
in the database, not expired (`Live`).
-/

namespace SmartGateway

namespace Postgres

open Concurrent

/-! ## What one call answers -/

/-- What `acquire_half_open_probe` answers a process that calls it in a state. -/
def acquires (s : ClusterState) (process : ℕ) (routeId leaseId : String) : Except String Bool :=
  ((acquireHalfOpenProbe routeId).run (exec s.clock leaseId) (s.session process)).1

/-- A route that waits for its probe: it is open or half open, its retry time has come, and its
lease is absent or has expired. -/
def Waiting (s : ClusterState) (routeId : String) : Prop :=
  s.db.probeDue s.clock routeId = true ∧ s.db.leaseFree s.clock routeId = true

/-- A route with a due circuit is configured. -/
theorem Database.route_of_probeDue {db : Database} {now : Int} {routeId : String}
    (h : db.probeDue now routeId = true) : db.providerRoutes.get? routeId ≠ none := by
  unfold probeDue at h
  cases hstate : db.providerRouteState.get? routeId with
  | none =>
    rw [hstate] at h
    cases h
  | some row => exact db.routeStateReferences _ (KeyedTable.get?_eq_some.mp hstate)

/-- A process gets the probe of a waiting route if and only if its own map has no lease of
it. -/
theorem acquires_iff {s : ClusterState} {routeId : String} (hwaiting : Waiting s routeId)
    (process : ℕ) (leaseId : String) :
    acquires s process routeId leaseId = .ok true ↔
      (s.probeLeases process).get? routeId = none := by
  obtain ⟨hdue, hfree⟩ := hwaiting
  -- The method is the one statement, and an answer without a lease id is a refusal.
  have hanswer : acquires s process routeId leaseId =
      ((s.session process).acquireProbe s.clock routeId leaseId).1.map Option.isSome := by
    change ((acquireHalfOpenProbe routeId).run (exec s.clock leaseId) (s.session process)).1 = _
    rw [acquireHalfOpenProbe]
    cases hstep : (s.session process).acquireProbe s.clock routeId leaseId with
    | mk answer session =>
      have hrun : (step (.acquireProbe routeId)).run (exec s.clock leaseId) (s.session process) =
          (answer, session) := hstep
      cases answer with
      | error error => rw [Program.run_andThen_error hrun]; rfl
      | ok lease => rw [Program.run_andThen_ok hrun]; rfl
  rw [hanswer]
  rcases (s.session process).acquireProbe_cases s.clock routeId leaseId with
    ⟨howned, h⟩ | ⟨-, hmissing, -⟩ | ⟨-, hrefused, -⟩ | ⟨_, hnone, -, -, h⟩
  · -- the local map refuses
    rw [h]
    constructor
    · intro hgranted
      cases hgranted
    · intro hnone
      exact absurd hnone howned
  · exact absurd hmissing (Database.route_of_probeDue hdue)
  · exact absurd ⟨hfree, hdue⟩ hrefused
  · rw [h]
    exact ⟨fun _ => hnone, fun _ => rfl⟩

/-! ## Runs in which every lease is given back in time -/

/-- The clock does not reach the expiry of a lease that a process still has in its map. -/
def GivenBackInTime {digest : String → String} (w : World (cluster digest))
    (_ : Label (cluster digest)) (w' : World (cluster digest)) : Prop :=
  w.shared.clock < w'.shared.clock → ∀ process routeId lease,
    w.shared.db.probeLeases.get? routeId = some lease →
    (w.shared.probeLeases process).get? routeId = some lease.leaseId →
      w'.shared.clock < lease.expiresAt

/-- Each entry of a local map has its row in the database, not expired. -/
def Live (s : ClusterState) : Prop :=
  ∀ process routeId leaseId, (s.probeLeases process).get? routeId = some leaseId →
    ∃ until_, s.clock < until_ ∧ s.db.probeLeases.get? routeId = some ⟨leaseId, until_⟩

/-- A step of a call keeps local leases live: the row of a lease is deleted only once the lease
is in no map. -/
theorem Live.step {process : ℕ} {s s' : ClusterState} {op : Op} {answer : op.Result}
    (h : Live s) (hstep : LeaseStep process s s' op answer) (hclock : s'.clock = s.clock)
    (hdelete : ∀ routeId leaseId, op = .deleteLease routeId leaseId →
      ∀ process', (s.probeLeases process').get? routeId ≠ some leaseId) : Live s' := by
  intro process' routeId leaseId hget
  rcases hstep.local_cases hget with hold | ⟨-, -, -, -, hgranted⟩
  · obtain ⟨until_, hbefore, hrow⟩ := h process' routeId leaseId hold
    have hheld : HeldUntil routeId leaseId until_ s := fun _ => hrow
    rcases hheld.step hstep hclock with hheld' | ⟨hop, -, -⟩
    · rw [← hclock] at hbefore
      exact ⟨until_, hbefore, hheld' hbefore⟩
    · exact absurd hold (hdelete routeId leaseId hop process')
  · refine ⟨s.clock + halfOpenLeaseSeconds, ?_, hgranted⟩
    have hpositive : (0 : Int) < halfOpenLeaseSeconds := by decide
    omega

/-- The invariant of the runs in which every lease is given back in time. -/
theorem live_of_givenBack {digest : String → String} {w : World (cluster digest)}
    (hw : ((runs digest).restrict GivenBackInTime).Reachable w) :
    Consistent (cluster digest) LeaseInv LeaseFact w ∧ Live w.shared := by
  refine hw.invariant (I := fun w => Consistent (cluster digest) LeaseInv LeaseFact w ∧
    Live w.shared) ?_ ?_
  · rintro w ⟨hinit, hnext, hidle⟩
    refine ⟨lease_consistent (.init ⟨hinit, hnext, hidle⟩), ?_⟩
    intro process routeId leaseId hget
    rw [hinit.noLocal] at hget
    cases hget
  · rintro w l w' ⟨hconsistent, hlive⟩ ⟨hstep, hintime⟩
    refine ⟨(lease_guarantee digest).step hconsistent (allowed_true w l w') hstep, ?_⟩
    cases hstep with
    | start => exact hlive
    | @call id call past op next answer s hflight heffect =>
      have hclock := Effect.clock heffect
      refine hlive.step (Effect.leaseStep heffect) hclock ?_
      rintro routeId leaseId rfl process'
      -- Only an id that a mark has taken out of the local map is released.
      have htaken : ⟨.takeLease routeId, some leaseId⟩ ∈ past :=
        hconsistent.before hflight (releasesOnly_methodBody digest call.method) routeId leaseId rfl
      have hfact := hconsistent.events id _ hflight _ htaken
      exact (hfact.1 routeId leaseId rfl).2 process' routeId
    | finish => exact hlive
    | drop => exact hlive
    | ambient hambient _ _ =>
      intro process routeId leaseId hget
      have hold := Ambient.local_of hambient hget
      obtain ⟨until_, hbefore, hrow⟩ := hlive process routeId leaseId hold
      refine ⟨until_, ?_, by rw [Ambient.db_eq hambient, hrow]⟩
      -- Time passing is the step that the hypothesis on the run restricts.
      rcases lt_or_eq_of_le (Ambient.clock_le hambient) with hlater | hsame
      · exact hintime hlater process routeId _ hrow hold
      · rwa [← hsame]

/-- How far a cluster recovers from abandoned probes. -/
structure ProbeRecovery (digest : String → String) : Prop where
  /-- In every reachable state, a process gets the probe of a waiting route if and only if its
  own map has no lease of it. -/
  answer : ∀ w, (runs digest).Reachable w → ∀ routeId, Waiting w.shared routeId →
    ∀ process leaseId, acquires w.shared process routeId leaseId = .ok true ↔
      (w.shared.probeLeases process).get? routeId = none
  /-- In every run in which leases are given back in time, every process gets the probe of every
  waiting route. -/
  recovers : ∀ w, ((runs digest).restrict GivenBackInTime).Reachable w →
    ∀ routeId, Waiting w.shared routeId →
    ∀ process leaseId, acquires w.shared process routeId leaseId = .ok true

/-- No waiting route is stranded as long as every lease is given back in time. -/
theorem probe_recovery (digest : String → String) : ProbeRecovery digest where
  answer := fun _ _ _ hwaiting process leaseId => acquires_iff hwaiting process leaseId
  recovers := by
    intro w hw routeId hwaiting process leaseId
    obtain ⟨-, hlive⟩ := live_of_givenBack hw
    rw [acquires_iff hwaiting]
    cases hlocal : (w.shared.probeLeases process).get? routeId with
    | none => rfl
    | some owned =>
      -- a live lease is not free
      obtain ⟨until_, hbefore, hrow⟩ := hlive process routeId owned hlocal
      have hheld : HeldUntil routeId owned until_ w.shared := fun _ => hrow
      have hfree := hwaiting.2
      rw [hheld.not_free hbefore] at hfree
      cases hfree

/-! ## A probe that strands its route -/

namespace Abandoned

/-- One route, open with a retry time that has come. -/
def db : Database := (Session.oneRoute ⟨"open", some "RateLimited", some 0⟩ (by decide)).db

def initial : ClusterState := ⟨db, 0, fun _ => .empty, fun _ => none⟩

/-- The state once process `0` was granted the probe. -/
def probing : ClusterState :=
  (initial.write 0 (exec 0 "lease" (.acquireProbe "route") (initial.session 0)).2).draw 0 "lease"
    (.acquireProbe "route")

/-- A request for the probe by process `0`. -/
def request : Call := ⟨0, .acquireHalfOpenProbe "route"⟩

def granted : Event statements := ⟨.acquireProbe "route", .ok (some "lease")⟩

/-- A request of process `0` is granted the probe and dropped. Once the lease has expired, the
process still refuses the probe. -/
theorem abandoned_probe_refused : ∃ w, (runs id).Reachable w ∧ Waiting w.shared "route" ∧
    acquires w.shared 0 "route" "next" ≠ .ok true := by
  have hinit : (runs id).Reachable ⟨initial, 0, fun _ => none⟩ := by
    refine .init ⟨⟨fun _ _ => rfl, ?_⟩, rfl, fun _ => rfl⟩
    intro routeId lease hrow
    cases hrow
  have hstarted := hinit.step (.start _ request)
  have hgranted : (cluster id).Step ⟨initial, 1, Function.update (fun _ => none) 0
      (some ⟨request, [], (cluster id).body request⟩)⟩ (.call 0 request granted)
      ⟨probing, 1, _⟩ := .call rfl (.done "lease" rfl)
  have hdropped := (hstarted.step hgranted).step (.drop _ 0)
  have hminute : probing.clock ≤ 60 := by decide
  have hexpired := Reachable.tick hdropped hminute
  have hwaiting : Waiting { probing with clock := 60 } "route" :=
    ⟨by decide, by decide⟩
  refine ⟨_, hexpired, hwaiting, ?_⟩
  intro hanswer
  have hlocal := (acquires_iff hwaiting 0 "next").mp hanswer
  cases hlocal

end Abandoned

end Postgres

end SmartGateway
