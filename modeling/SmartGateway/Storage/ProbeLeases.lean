import SmartGateway.Storage.PostgresCluster

/-! # Probe leases

A probe lease excludes every other process for sixty seconds, unless its own process gives it
back (`probe_exclusion`). The invariant behind it is about lease ids: an id in the table or in
a local map was drawn by one process for that route, and an id a call has taken out of a local
map is in no local map any more (`LeaseInv`, `LeaseFact`).

The seconds are those that the database reads off its clock, each time rounded to the nearest one:
sixty of them last more than fifty-nine seconds, and at most sixty.
-/

namespace SmartGateway

namespace Postgres

open Concurrent

/-! ## What the methods check -/

/-- A lease is deleted only after it was taken out of the local map. -/
def Releases (past : List (Event statements)) (op : Op) : Prop :=
  ∀ routeId leaseId, op = .deleteLease routeId leaseId →
    ⟨.takeLease routeId, some leaseId⟩ ∈ past

/-- A method that checks `Releases`, whatever it returns. -/
abbrev ReleasesOnly {α : Type} (program : Program statements α)
    (past : List (Event statements)) : Prop :=
  program.Always Releases (fun _ _ => True) past

theorem releasesOnly_step {op : Op} {past : List (Event statements)}
    (h : ∀ routeId leaseId, op ≠ .deleteLease routeId leaseId) : ReleasesOnly (step op) past :=
  ⟨fun routeId leaseId hop => absurd hop (h routeId leaseId), fun _ => trivial⟩

theorem ReleasesOnly.andThen {α β : Type} {program : Program statements (Except String α)}
    {f : α → Program statements (Except String β)} {past : List (Event statements)}
    (h : ReleasesOnly program past) (hf : ∀ past a, ReleasesOnly (f a) past) :
    ReleasesOnly (program.andThen f) past :=
  Program.Always.andThen h (fun past a _ => hf past a) fun _ _ _ => trivial

theorem releasesOnly_releaseHalfOpenProbe (routeId : String) (past : List (Event statements)) :
    ReleasesOnly (releaseHalfOpenProbe routeId) past := by
  refine ⟨by simp [Releases], ?_⟩
  intro answer
  match answer with
  | none => exact trivial
  | some leaseId =>
    refine ⟨?_, fun _ => trivial⟩
    intro routeId' leaseId' hop
    cases hop
    simp

theorem releasesOnly_releaseAll (routeIds : List String) (past : List (Event statements)) :
    ReleasesOnly (releaseAll routeIds) past := by
  induction routeIds generalizing past with
  | nil => exact trivial
  | cons routeId routeIds ih =>
    exact (releasesOnly_releaseHalfOpenProbe routeId past).andThen fun past _ => ih past

theorem releasesOnly_candidates (logicalModel : String) :
    ReleasesOnly (candidates logicalModel) [] := by
  refine (always_candidates logicalModel).mono ?_ fun _ _ _ => trivial
  rintro past op ⟨-, ⟨model, rfl⟩ | rfl | ⟨routeId, rfl⟩⟩ <;> simp [Releases]

theorem releasesOnly_methodBody (digest : String → String) (method : Method) :
    ReleasesOnly (methodBody digest method) [] := by
  match method with
  | .acquireHalfOpenProbe routeId =>
    exact (releasesOnly_step (by simp)).andThen fun _ _ => trivial
  | .repository (.authenticate rawKey) => exact releasesOnly_step (by simp)
  | .repository (.candidates logicalModel) => exact releasesOnly_candidates logicalModel
  | .repository (.recordAttempt attempt) =>
    refine (releasesOnly_step (by simp)).andThen fun past _ => ?_
    refine (releasesOnly_step (by simp)).andThen fun past identityMatches => ?_
    cases identityMatches <;> exact trivial
  | .repository (.markRouteSuccess routeId) =>
    exact (releasesOnly_step (by simp)).andThen fun past _ =>
      releasesOnly_releaseHalfOpenProbe routeId past
  | .repository (.markRouteFailure routeId failure) =>
    exact (releasesOnly_step (by simp)).andThen fun past _ =>
      releasesOnly_releaseHalfOpenProbe routeId past
  | .repository (.markAccountFailure accountId failure) =>
    refine (releasesOnly_step (by simp)).andThen fun past _ => ?_
    exact (releasesOnly_step (by simp)).andThen fun past routeIds =>
      releasesOnly_releaseAll routeIds past

/-! ## The invariant -/

/-- Every lease id that is stored was drawn for its route, a local one by that process. -/
structure LeaseInv (s : ClusterState) : Prop where
  row_drawn : ∀ routeId lease, s.db.probeLeases.get? routeId = some lease →
    ∃ process, s.issued lease.leaseId = some (process, routeId)
  local_drawn : ∀ process routeId leaseId,
    (s.probeLeases process).get? routeId = some leaseId →
      s.issued leaseId = some (process, routeId)

/-- What stays true of an event of a running call: a lease it took out of the local map is its
process's own and in no local map, and the rows it read have different routes. -/
def LeaseFact (_ : ℕ) (call : Call) (event : Event statements) (s : ClusterState) : Prop :=
  (∀ routeId leaseId, event = ⟨.takeLease routeId, some leaseId⟩ →
    s.issued leaseId = some (call.process, routeId) ∧
      ∀ process routeId', (s.probeLeases process).get? routeId' ≠ some leaseId) ∧
  (∀ logicalModel rows, event = ⟨.eligibleRoutes logicalModel, .ok rows⟩ →
    ∀ row ∈ rows, ∀ row' ∈ rows, row.routeId = row'.routeId → row = row')

theorem LeaseInv.init {s : ClusterState} (h : Init s) : LeaseInv s where
  row_drawn := h.drawn
  local_drawn := by
    intro process routeId leaseId hget
    rw [h.noLocal] at hget
    cases hget

/-- Drawn ids stay drawn, by the process and for the route they were drawn. -/
theorem LeaseStep.issued {process : ℕ} {s s' : ClusterState} {op : Op} {answer : op.Result}
    (h : LeaseStep process s s' op answer) {id : String} {drawn : ℕ × String}
    (hid : s.issued id = some drawn) : s'.issued id = some drawn := by
  cases h with
  | grant routeId leaseId fresh _ _ _ _ issued _ =>
    have hne : id ≠ leaseId := by
      rintro rfl
      rw [fresh] at hid
      cases hid
    rw [issued, Function.update_of_ne hne, hid]
  | take _ _ issued _ => rw [issued, hid]
  | delete _ _ _ issued _ => rw [issued, hid]
  | idle _ issued _ _ _ => exact issued id drawn hid

/-- A local lease after a step was there before, or the step granted it. -/
theorem LeaseStep.local_cases {process : ℕ} {s s' : ClusterState} {op : Op} {answer : op.Result}
    (h : LeaseStep process s s' op answer) {process' : ℕ} {routeId leaseId : String}
    (hget : (s'.probeLeases process').get? routeId = some leaseId) :
    (s.probeLeases process').get? routeId = some leaseId ∨
      (process' = process ∧ op = .acquireProbe routeId ∧ s.issued leaseId = none ∧
        s'.issued leaseId = some (process, routeId) ∧
        s'.db.probeLeases.get? routeId = some ⟨leaseId, s.clock + halfOpenLeaseSeconds⟩) := by
  cases h with
  -- The new entry is in the map of the process that was granted the lease.
  | @grant routeId' leaseId' _ fresh notOwned _ _ leases issued noted =>
    rcases noted with ⟨-, hlocal⟩ | ⟨-, hlocal⟩
    · rw [hlocal] at hget
      by_cases hprocess : process' = process
      · subst hprocess
        rw [Function.update_self, KeyedTable.get?_upsert] at hget
        by_cases hroute : routeId = routeId'
        · subst hroute
          right
          rw [if_pos rfl, notOwned, Option.elim_none, Option.some.injEq] at hget
          subst hget
          refine ⟨rfl, rfl, fresh, by rw [issued, Function.update_self], ?_⟩
          rw [leases, KeyedTable.get?_upsert_self]
          cases s.db.probeLeases.get? routeId <;> rfl
        · rw [if_neg hroute] at hget
          exact Or.inl hget
      · rw [Function.update_of_ne hprocess] at hget
        exact Or.inl hget
    · rw [hlocal] at hget
      exact Or.inl hget
  -- A mark takes an entry out.
  | take routeId' _ _ hlocal =>
    left
    rw [hlocal] at hget
    by_cases hprocess : process' = process
    · subst hprocess
      rw [Function.update_self, KeyedTable.get?_erase] at hget
      by_cases hroute : routeId = routeId'
      · rw [if_pos hroute] at hget
        cases hget
      · rwa [if_neg hroute] at hget
    · rwa [Function.update_of_ne hprocess] at hget
  | delete _ _ _ _ hlocal =>
    rw [hlocal] at hget
    exact Or.inl hget
  | idle _ _ hlocal _ _ =>
    rw [hlocal] at hget
    exact Or.inl hget

/-- A lease row after a step was there before, or the step granted it. -/
theorem LeaseStep.row_cases {process : ℕ} {s s' : ClusterState} {op : Op} {answer : op.Result}
    (h : LeaseStep process s s' op answer) {routeId : String} {lease : LeaseRow}
    (hget : s'.db.probeLeases.get? routeId = some lease) :
    s.db.probeLeases.get? routeId = some lease ∨
      (op = .acquireProbe routeId ∧ s.db.leaseFree s.clock routeId = true ∧
        s'.issued lease.leaseId = some (process, routeId) ∧
        lease.expiresAt = s.clock + halfOpenLeaseSeconds) := by
  cases h with
  -- The row is the one just written, or of another route.
  | @grant routeId' leaseId' _ fresh notOwned free _ leases issued noted =>
    rw [leases, KeyedTable.get?_upsert] at hget
    by_cases hroute : routeId = routeId'
    · subst hroute
      right
      rw [if_pos rfl, Option.some.injEq] at hget
      have hlease : lease = ⟨leaseId', s.clock + halfOpenLeaseSeconds⟩ := by
        rw [← hget]
        cases s.db.probeLeases.get? routeId <;> rfl
      subst hlease
      exact ⟨rfl, free, by rw [issued, Function.update_self], rfl⟩
    · rw [if_neg hroute] at hget
      exact Or.inl hget
  | take _ leases _ _ =>
    rw [leases] at hget
    exact Or.inl hget
  -- What a deletion leaves was there before.
  | delete routeId' leaseId' leases _ _ =>
    left
    rw [leases, KeyedTable.get?_eraseIf] at hget
    by_cases hroute : routeId = routeId'
    · subst hroute
      rw [if_pos rfl] at hget
      exact (Option.filter_eq_some_iff.mp hget).1
    · rwa [if_neg hroute] at hget
  | idle leases _ _ _ _ =>
    rw [leases] at hget
    exact Or.inl hget

theorem LeaseInv.step {process : ℕ} {s s' : ClusterState} {op : Op} {answer : op.Result}
    (h : LeaseInv s) (hstep : LeaseStep process s s' op answer) : LeaseInv s' where
  row_drawn := by
    intro routeId lease hget
    rcases hstep.row_cases hget with hold | ⟨-, -, hissued, -⟩
    · obtain ⟨owner, howner⟩ := h.row_drawn routeId lease hold
      exact ⟨owner, hstep.issued howner⟩
    · exact ⟨process, hissued⟩
  local_drawn := by
    intro process' routeId leaseId hget
    rcases hstep.local_cases hget with hold | ⟨rfl, -, -, hissued, -⟩
    · exact hstep.issued (h.local_drawn process' routeId leaseId hold)
    · exact hissued

/-- A lease that was taken out of its map never comes back: an id is drawn once. -/
theorem LeaseFact.step {process : ℕ} {s s' : ClusterState} {op : Op} {answer : op.Result}
    (hstep : LeaseStep process s s' op answer) {id : ℕ} {call : Call} {event : Event statements}
    (h : LeaseFact id call event s) : LeaseFact id call event s' := by
  refine ⟨?_, h.2⟩
  intro routeId leaseId hevent
  obtain ⟨hissued, hretired⟩ := h.1 routeId leaseId hevent
  refine ⟨hstep.issued hissued, ?_⟩
  intro process' routeId' hget
  rcases hstep.local_cases hget with hold | ⟨-, -, hfresh, -⟩
  · exact hretired process' routeId' hold
  · rw [hissued] at hfresh
    cases hfresh

/-- Taking a lease answers with what the map had, and removes it. -/
theorem LeaseStep.take_inv {process : ℕ} {s s' : ClusterState} {routeId : String}
    {answer : Option String} (h : LeaseStep process s s' (.takeLease routeId) answer) :
    (s.probeLeases process).get? routeId = answer ∧ s'.issued = s.issued ∧
      s'.probeLeases = Function.update s.probeLeases process
        ((s.probeLeases process).erase routeId) := by
  cases h with
  | take _ _ issued hlocal => exact ⟨rfl, issued, hlocal⟩
  | idle _ _ _ _ noTake => exact absurd rfl (noTake routeId)

/-- The event a step leaves behind meets its fact. -/
theorem LeaseFact.new {call : Call} {s s' : ClusterState} {op : Op} {answer : op.Result}
    (hinv : LeaseInv s) (heffect : Effect call.process op s answer s') (id : ℕ) :
    LeaseFact id call ⟨op, answer⟩ s' := by
  constructor
  · intro routeId leaseId hevent
    cases hevent
    obtain ⟨htaken, issued, hlocal⟩ := heffect.leaseStep.take_inv
    have hissued := hinv.local_drawn call.process routeId leaseId htaken
    refine ⟨by rw [issued, hissued], ?_⟩
    intro process' routeId' hget
    rw [hlocal] at hget
    -- another entry for the lease would have been drawn elsewhere
    by_cases hprocess : process' = call.process
    · subst hprocess
      rw [Function.update_self, KeyedTable.get?_erase] at hget
      by_cases hroute : routeId' = routeId
      · rw [if_pos hroute] at hget
        cases hget
      · rw [if_neg hroute] at hget
        have hother := hinv.local_drawn call.process routeId' leaseId hget
        rw [hissued, Option.some.injEq, Prod.mk.injEq] at hother
        exact hroute hother.2.symm
    · rw [Function.update_of_ne hprocess] at hget
      have hother := hinv.local_drawn process' routeId' leaseId hget
      rw [hissued, Option.some.injEq, Prod.mk.injEq] at hother
      exact hprocess hother.1.symm
  · intro logicalModel rows hevent row hrow row' hrow' hid
    cases hevent
    rw [heffect.rows_eq] at hrow hrow'
    exact ControlPlane.joinedRoutes_unique (List.mem_of_mem_filter hrow)
      (List.mem_of_mem_filter hrow') hid

theorem lease_guarantee (digest : String → String) :
    Guarantee (cluster digest) (fun _ => True) (fun _ _ _ => True) LeaseInv LeaseFact
      fun _ => Releases where
  body call _ := ⟨_, releasesOnly_methodBody digest call.method⟩
  effect := by
    intro id call past op s answer s' hinv _ _ heffect _
    have hstep := Effect.leaseStep heffect
    exact ⟨hinv.step hstep, .new hinv heffect id, fun _ _ _ h => h.step hstep⟩
  ambient := by
    intro s ended s' hinv hambient
    refine ⟨⟨?_, ?_⟩, ?_⟩
    · intro routeId lease hget
      rw [hambient.db_eq] at hget
      rw [hambient.issued_eq]
      exact hinv.row_drawn routeId lease hget
    · intro process routeId leaseId hget
      rw [hambient.issued_eq]
      exact hinv.local_drawn process routeId leaseId (hambient.local_of hget)
    · intro id call event _ hfact
      refine ⟨?_, hfact.2⟩
      intro routeId leaseId hevent
      obtain ⟨hissued, hretired⟩ := hfact.1 routeId leaseId hevent
      rw [hambient.issued_eq]
      exact ⟨hissued, fun process routeId' hget =>
        hretired process routeId' (hambient.local_of hget)⟩

/-- Every reachable world meets the lease invariant. -/
theorem lease_consistent {digest : String → String} {w : World (cluster digest)}
    (hw : (runs digest).Reachable w) : Consistent (cluster digest) LeaseInv LeaseFact w :=
  (lease_guarantee digest).reachable (fun _ h => .init h) hw

/-! ## Exclusion -/

/-- A lease that is held until an instant: before that instant its row is in the table. -/
def HeldUntil (routeId leaseId : String) (until_ : Int) (s : ClusterState) : Prop :=
  s.clock < until_ → s.db.probeLeases.get? routeId = some ⟨leaseId, until_⟩

/-- A granted lease is held for sixty seconds. -/
theorem LeaseStep.grant_inv {process : ℕ} {s s' : ClusterState} {routeId leaseId : String}
    (h : LeaseStep process s s' (.acquireProbe routeId) (.ok (some leaseId))) :
    s.db.leaseFree s.clock routeId = true ∧
      s'.issued leaseId = some (process, routeId) ∧
      s'.db.probeLeases.get? routeId = some ⟨leaseId, s.clock + halfOpenLeaseSeconds⟩ := by
  cases h with
  | grant _ _ _ _ free _ leases issued noted =>
    rcases noted with ⟨hanswer, -⟩ | ⟨⟨error, hanswer⟩, -⟩
    · cases hanswer
      refine ⟨free, by rw [issued, Function.update_self], ?_⟩
      rw [leases, KeyedTable.get?_upsert_self]
      cases s.db.probeLeases.get? routeId <;> rfl
    · cases hanswer
  | idle _ _ _ noGrant _ => cases noGrant

/-- A lease is not free while it is held. -/
theorem HeldUntil.not_free {routeId leaseId : String} {until_ : Int} {s : ClusterState}
    (h : HeldUntil routeId leaseId until_ s) (hclock : s.clock < until_) :
    s.db.leaseFree s.clock routeId = false := by
  rw [Database.leaseFree, h hclock]
  simp only [decide_eq_false_iff_not, not_le]
  exact hclock

/-- A step keeps a held lease, or deletes this very lease. -/
theorem HeldUntil.step {process : ℕ} {s s' : ClusterState} {op : Op} {answer : op.Result}
    {routeId leaseId : String} {until_ : Int} (h : HeldUntil routeId leaseId until_ s)
    (hstep : LeaseStep process s s' op answer) (hclock : s'.clock = s.clock) :
    HeldUntil routeId leaseId until_ s' ∨
      (op = .deleteLease routeId leaseId ∧
        s.db.probeLeases.get? routeId = some ⟨leaseId, until_⟩ ∧
        s'.db.probeLeases.get? routeId = none) := by
  by_cases hbefore : s.clock < until_
  swap
  · left
    intro hbefore'
    omega
  have hrow := h hbefore
  cases hstep with
  -- A lease that has not expired is not free, so the grant is of another route.
  | grant routeId' leaseId' _ _ free _ leases _ _ =>
    have hroute : routeId ≠ routeId' := by
      rintro rfl
      rw [h.not_free hbefore] at free
      cases free
    left
    intro _
    rw [leases, KeyedTable.get?_upsert_ne _ _ _ hroute, hrow]
  | take _ leases _ _ =>
    left
    intro _
    rw [leases, hrow]
  -- Only a deletion with the same lease id hits the row.
  | delete routeId' leaseId' leases _ _ =>
    by_cases hroute : routeId = routeId'
    · subst hroute
      by_cases hlease : leaseId = leaseId'
      · subst hlease
        right
        refine ⟨rfl, hrow, ?_⟩
        rw [leases, KeyedTable.get?_eraseIf, if_pos rfl, hrow]
        simp [Option.filter]
      · left
        intro _
        rw [leases, KeyedTable.get?_eraseIf, if_pos rfl, hrow]
        simp [Option.filter, hlease]
    · left
      intro _
      rw [leases, KeyedTable.get?_eraseIf, if_neg hroute, hrow]
  | idle leases _ _ _ _ =>
    left
    intro _
    rw [leases, hrow]

/-- A lease is deleted by its own process only. -/
theorem deleter_owns {digest : String → String} {w : World (cluster digest)}
    (hw : Consistent (cluster digest) LeaseInv LeaseFact w) {id : ℕ} {call : Call}
    {past : List (Event statements)} {routeId leaseId : String} {next}
    (hflight : w.flights id = some ⟨call, past, .call (.deleteLease routeId leaseId) next⟩) :
    w.shared.issued leaseId = some (call.process, routeId) := by
  have htaken : ⟨.takeLease routeId, some leaseId⟩ ∈ past :=
    hw.before hflight (releasesOnly_methodBody digest call.method) routeId leaseId rfl
  exact ((hw.events id _ hflight _ htaken).1 routeId leaseId rfl).1

/-- A step in which a process deletes its lease of a route. -/
structure Releases.Step {digest : String → String} (process : ℕ) (routeId leaseId : String)
    (w : World (cluster digest)) (l : Label (cluster digest)) (w' : World (cluster digest)) :
    Prop where
  label : ∃ id method answer,
    l = .call id ⟨process, method⟩ ⟨.deleteLease routeId leaseId, answer⟩
  before : ∃ lease, w.shared.db.probeLeases.get? routeId = some lease ∧ lease.leaseId = leaseId
  after : w'.shared.db.probeLeases.get? routeId = none

/-- A world in which a lease of a process is held. -/
structure Holding {digest : String → String} (process : ℕ) (routeId leaseId : String)
    (until_ : Int) (w : World (cluster digest)) : Prop where
  consistent : Consistent (cluster digest) LeaseInv LeaseFact w
  issued : w.shared.issued leaseId = some (process, routeId)
  held : HeldUntil routeId leaseId until_ w.shared

/-- Every step but its release keeps a lease held. -/
theorem Holding.step {digest : String → String} {process : ℕ} {routeId leaseId : String}
    {until_ : Int} {w w' : World (cluster digest)} {l : Label (cluster digest)}
    (h : Holding process routeId leaseId until_ w) (hstep : (cluster digest).Step w l w') :
    Holding process routeId leaseId until_ w' ∨ Releases.Step process routeId leaseId w l w' := by
  have hconsistent := (lease_guarantee digest).step h.consistent (allowed_true w l w') hstep
  cases hstep with
  | start => exact Or.inl ⟨hconsistent, h.issued, h.held⟩
  | @call id call past op next answer s hflight heffect =>
    have hlease := Effect.leaseStep heffect
    have hissued := hlease.issued h.issued
    rcases h.held.step hlease (Effect.clock heffect) with hheld | ⟨rfl, hbefore, hafter⟩
    · exact Or.inl ⟨hconsistent, hissued, hheld⟩
    · -- only the process that drew the id deletes it
      have howner := deleter_owns h.consistent hflight
      rw [h.issued, Option.some.injEq, Prod.mk.injEq] at howner
      obtain ⟨process', method⟩ := call
      obtain ⟨rfl, -⟩ := howner
      exact Or.inr ⟨⟨id, method, answer, rfl⟩, ⟨_, hbefore, rfl⟩, hafter⟩
  | finish => exact Or.inl ⟨hconsistent, h.issued, h.held⟩
  | drop => exact Or.inl ⟨hconsistent, h.issued, h.held⟩
  | @ambient w' _ hambient _ _ =>
    left
    refine ⟨hconsistent, by rw [Ambient.issued_eq hambient, h.issued], ?_⟩
    intro hbefore
    have hclock := Ambient.clock_le hambient
    rw [Ambient.db_eq hambient]
    exact h.held (lt_of_le_of_lt hclock hbefore)

/-- A call that asks for the probe of a route and is granted it. -/
def IsGrant {digest : String → String} (process : ℕ) (routeId leaseId : String)
    (l : Label (cluster digest)) : Prop :=
  ∃ id method, l = .call id ⟨process, method⟩ ⟨.acquireProbe routeId, .ok (some leaseId)⟩

theorem grant_effect {digest : String → String} {w w' : World (cluster digest)}
    {l : Label (cluster digest)} {process : ℕ} {routeId leaseId : String}
    (hgrant : IsGrant process routeId leaseId l) (hstep : (cluster digest).Step w l w') :
    Effect process (.acquireProbe routeId) w.shared (.ok (some leaseId)) w'.shared := by
  obtain ⟨id, method, rfl⟩ := hgrant
  cases hstep with
  | call hflight heffect => exact heffect

/-- Between two grants for one route within sixty seconds, the first process released its
lease. -/
theorem release_between {digest : String → String} {w₁ w₂ w₃ w₄ : World (cluster digest)}
    {l₁ l₂ : Label (cluster digest)} {ls : List (Label (cluster digest))}
    {process process' : ℕ} {routeId leaseId leaseId' : String}
    (hw₁ : (runs digest).Reachable w₁) (hfirst : (runs digest).Step w₁ l₁ w₂)
    (hgrant : IsGrant process routeId leaseId l₁) (hrun : (runs digest).Steps w₂ ls w₃)
    (hsecond : (runs digest).Step w₃ l₂ w₄) (hgrant' : IsGrant process' routeId leaseId' l₂)
    (htime : w₃.shared.clock < w₁.shared.clock + halfOpenLeaseSeconds) :
    ∃ ls₁ l ls₂ w w', ls = ls₁ ++ l :: ls₂ ∧ (runs digest).Steps w₂ ls₁ w ∧
      (runs digest).Step w l w' ∧ (runs digest).Steps w' ls₂ w₃ ∧
      Releases.Step process routeId leaseId w l w' := by
  obtain ⟨-, hissued, hrow⟩ := (grant_effect hgrant hfirst).leaseStep.grant_inv
  have hholding : Holding process routeId leaseId
      (w₁.shared.clock + halfOpenLeaseSeconds) w₂ :=
    ⟨lease_consistent (hw₁.step hfirst), hissued, fun _ => hrow⟩
  -- the second grant found the lease free
  have hfree := (grant_effect hgrant' hsecond).leaseStep.grant_inv.1
  have hlost : ¬ Holding process routeId leaseId
      (w₁.shared.clock + halfOpenLeaseSeconds) w₃ := by
    intro h
    rw [h.held.not_free htime] at hfree
    cases hfree
  obtain ⟨ls₁, l, ls₂, w, w', hls, hbefore, hheld, hstep, hnot, hafter⟩ :=
    hrun.leaves hholding hlost
  refine ⟨ls₁, l, ls₂, w, w', hls, hbefore, hstep, hafter, ?_⟩
  rcases hheld.step hstep with hkept | hrelease
  · exact absurd hkept hnot
  · exact hrelease

/-- A step keeps every lease as it is, or replaces it once it has expired, or is the deletion of
this very lease by its own process. -/
theorem lease_kept {digest : String → String} {w w' : World (cluster digest)}
    (hw : (runs digest).Reachable w) {id : ℕ} {call : Call} {event : Event statements}
    (hstep : (runs digest).Step w (.call id call event) w') {routeId : String} {lease : LeaseRow}
    (hrow : w.shared.db.probeLeases.get? routeId = some lease) :
    (∃ lease', w'.shared.db.probeLeases.get? routeId = some lease' ∧
      lease.expiresAt ≤ lease'.expiresAt ∧
      (lease' = lease ∨ lease.expiresAt ≤ w.shared.clock)) ∨
    (event.op = .deleteLease routeId lease.leaseId ∧
      w.shared.issued lease.leaseId = some (call.process, routeId)) := by
  have hconsistent := lease_consistent hw
  cases hstep with
  | @call _ _ past op next answer s hflight heffect =>
    have hlease := Effect.leaseStep heffect
    cases hlease with
    -- A grant replaces a row that has expired.
    | grant routeId' leaseId' _ _ free _ leases _ _ =>
      left
      by_cases hroute : routeId = routeId'
      · subst hroute
        have hexpired : lease.expiresAt ≤ w.shared.clock := by
          rw [Database.leaseFree, hrow] at free
          exact of_decide_eq_true free
        refine ⟨⟨leaseId', w.shared.clock + halfOpenLeaseSeconds⟩, ?_, ?_, Or.inr hexpired⟩
        · rw [leases, KeyedTable.get?_upsert_self, hrow]
          rfl
        · have hpositive : (0 : Int) ≤ halfOpenLeaseSeconds := by decide
          dsimp only
          omega
      · refine ⟨lease, ?_, le_refl _, Or.inl rfl⟩
        rw [leases, KeyedTable.get?_upsert_ne _ _ _ hroute, hrow]
    | take _ leases _ _ =>
      exact Or.inl ⟨lease, by rw [leases, hrow], le_refl _, Or.inl rfl⟩
    -- The row goes if the deletion names it, and then its own process has asked for it.
    | delete routeId' leaseId' leases _ _ =>
      by_cases hdeleted : routeId = routeId' ∧ lease.leaseId = leaseId'
      · obtain ⟨rfl, rfl⟩ := hdeleted
        exact Or.inr ⟨rfl, deleter_owns hconsistent hflight⟩
      · left
        refine ⟨lease, ?_, le_refl _, Or.inl rfl⟩
        rw [leases, KeyedTable.get?_eraseIf]
        by_cases hroute : routeId = routeId'
        · subst hroute
          have hne : lease.leaseId ≠ leaseId' := fun h => hdeleted ⟨rfl, h⟩
          rw [if_pos rfl, hrow]
          simp [Option.filter, hne]
        · rw [if_neg hroute, hrow]
    | idle leases _ _ _ _ => exact Or.inl ⟨lease, by rw [leases, hrow], le_refl _, Or.inl rfl⟩

/-! ## What `candidates` takes and returns -/

/-- A running `candidates` call was granted at most one probe. -/
theorem grants_le_one {digest : String → String} {w : World (cluster digest)}
    (hw : (runs digest).Reachable w) {id process : ℕ} {logicalModel : String} {past rest}
    (hflight : w.flights id =
      some ⟨⟨process, .repository (.candidates logicalModel)⟩, past, rest⟩) :
    (grants past).length ≤ 1 := by
  have hpath := (lease_consistent hw).path id _ hflight
  have halways := always_candidates logicalModel
  rcases List.eq_nil_or_concat past with hnil | ⟨init, last, hlast⟩
  · rw [hnil]
    exact Nat.zero_le _
  · -- before its last event the call had been granted nothing
    have hsplit : past = init ++ last :: [] := by rw [hlast, List.concat_eq_append]
    have hbefore : grants init = [] := (halways.before hpath hsplit).1
    rw [hsplit, grants, List.filterMap_append]
    change (grants init ++ _).length ≤ 1
    rw [hbefore]
    cases hgrant : grant last <;> simp [hgrant]

/-- What a `candidates` call returns: a route it read open or half open can only be the first
one, and the call itself was granted its probe. -/
theorem probe_first {digest : String → String} {w : World (cluster digest)}
    (hw : (runs digest).Reachable w) {id process : ℕ} {logicalModel : String}
    {past : List (Event statements)} {routes : List RouteCandidate}
    (hflight : w.flights id =
      some ⟨⟨process, .repository (.candidates logicalModel)⟩, past, .pure (.ok routes)⟩) :
    ∃ rows, ⟨.eligibleRoutes logicalModel, .ok rows⟩ ∈ past ∧
      ∀ i (hi : i < routes.length), ∀ row ∈ rows, row.routeId = routes[i].routeId →
        row.routeState.state ∈ ["open", "half_open"] →
        i = 0 ∧ ∃ leaseId, (row.routeId, leaseId) ∈ grants past := by
  -- The history of the call says what was read and which probe was granted.
  have hconsistent := lease_consistent hw
  have hoffered : Offered logicalModel past (.ok routes) :=
    hconsistent.result hflight (always_candidates logicalModel)
  obtain ⟨-, rows, fallbacks, plan, hread, -, probe, hroutes, hgrants, -⟩ := hoffered
  refine ⟨rows, hread, ?_⟩
  intro i hi row hrow hid hopen
  have hunique := (hconsistent.events id _ hflight _ hread).2 logicalModel rows rfl
  subst hroutes
  by_cases hprobe : i < probe.toList.length
  -- Only a granted probe comes before the closed routes.
  · cases probe with
    | none => exact absurd hprobe (Nat.not_lt_zero _)
    | some granted =>
      have hzero : i = 0 := by simpa using hprobe
      subst hzero
      refine ⟨rfl, ?_⟩
      have hmem : row.routeId ∈ (grants past).map Prod.fst := by
        rw [hgrants, hid]
        simp
      obtain ⟨⟨routeId, leaseId⟩, hgrant, hfst⟩ := List.mem_map.mp hmem
      dsimp only at hfst
      subst hfst
      exact ⟨leaseId, hgrant⟩
  · -- every later route was read closed
    exfalso
    have hclosed : (probe.toList ++ closedRoutes (readStates rows) plan)[i] ∈
        closedRoutes (readStates rows) plan := by
      rw [List.getElem_append_right (Nat.le_of_not_lt hprobe)]
      exact List.getElem_mem _
    have hstate := of_decide_eq_true (List.mem_filter.mp hclosed).2
    rw [← hid] at hstate
    obtain ⟨row', hrow', hid', hclosed'⟩ := get?_readStates hstate
    have hsame := hunique row' hrow' row hrow hid'
    rw [← hsame, hclosed'] at hopen
    exact absurd hopen (by decide)

/-- The exclusion guarantees of probe leases, over every run of a cluster. -/
structure ProbeExclusion (digest : String → String) : Prop where
  /-- A route is granted again within sixty seconds only after the process that holds its lease
  deleted this lease. -/
  exclusive : ∀ w₁ l₁ w₂ ls w₃ l₂ w₄ process process' routeId leaseId leaseId',
    (runs digest).Reachable w₁ → (runs digest).Step w₁ l₁ w₂ →
    IsGrant process routeId leaseId l₁ → (runs digest).Steps w₂ ls w₃ →
    (runs digest).Step w₃ l₂ w₄ → IsGrant process' routeId leaseId' l₂ →
    w₃.shared.clock < w₁.shared.clock + 60 →
      ∃ ls₁ l ls₂ w w', ls = ls₁ ++ l :: ls₂ ∧ (runs digest).Steps w₂ ls₁ w ∧
        (runs digest).Step w l w' ∧ (runs digest).Steps w' ls₂ w₃ ∧
        Releases.Step process routeId leaseId w l w'
  /-- A lease is deleted by the process that drew it only, and as this very lease; no other step
  shortens it, or replaces it before it has expired. -/
  kept : ∀ w w' id call event routeId lease,
    (runs digest).Reachable w → (runs digest).Step w (.call id call event) w' →
    w.shared.db.probeLeases.get? routeId = some lease →
      (∃ lease', w'.shared.db.probeLeases.get? routeId = some lease' ∧
        lease.expiresAt ≤ lease'.expiresAt ∧
        (lease' = lease ∨ lease.expiresAt ≤ w.shared.clock)) ∨
      (event.op = .deleteLease routeId lease.leaseId ∧
        w.shared.issued lease.leaseId = some (call.process, routeId))
  /-- A `candidates` call is granted at most one probe, at any point of it. -/
  one_grant : ∀ w id process logicalModel past rest, (runs digest).Reachable w →
    w.flights id = some ⟨⟨process, .repository (.candidates logicalModel)⟩, past, rest⟩ →
      (grants past).length ≤ 1
  /-- A `candidates` call returns a route it read open or half open only as the first one, with
  the probe it was granted itself. -/
  first : ∀ w id process logicalModel past routes, (runs digest).Reachable w →
    w.flights id =
      some ⟨⟨process, .repository (.candidates logicalModel)⟩, past, .pure (.ok routes)⟩ →
      ∃ rows, ⟨.eligibleRoutes logicalModel, .ok rows⟩ ∈ past ∧
        ∀ i (hi : i < routes.length), ∀ row ∈ rows, row.routeId = routes[i].routeId →
          row.routeState.state ∈ ["open", "half_open"] →
          i = 0 ∧ ∃ leaseId, (row.routeId, leaseId) ∈ grants past

/-- Probe leases exclude, in every run of any number of processes. -/
theorem probe_exclusion (digest : String → String) : ProbeExclusion digest where
  exclusive := fun _ _ _ _ _ _ _ _ _ _ _ _ hw₁ hfirst hgrant hrun hsecond hgrant' htime =>
    release_between hw₁ hfirst hgrant hrun hsecond hgrant' htime
  kept := fun _ _ _ _ _ _ _ hw hstep hrow => lease_kept hw hstep hrow
  one_grant := fun _ _ _ _ _ _ hw hflight => grants_le_one hw hflight
  first := fun _ _ _ _ _ _ hw hflight => probe_first hw hflight

/-! ## A probe that is handed over -/

namespace Handover

/-- A route that is open, with a retry time that has come. -/
def initial : ClusterState where
  db := (Session.oneRoute ⟨"open", some "RateLimited", some 0⟩ (.tail _ (.head _))).db
  clock := 0
  probeLeases := fun _ => .empty
  issued := fun _ => none

/-- A failure after which the route may be tried at once. -/
def failure : ProviderFailure where
  category := .rateLimited
  message := "slow down"
  status := some 429
  retryAtUnix := some 0

/-- Process `0` asks for candidates, and marks the route it was given as failed. -/
def asks : Call := ⟨0, .repository (.candidates "model")⟩
def fails : Call := ⟨0, .repository (.markRouteFailure "route" failure)⟩

/-- Process `1` asks for the probe of the route. -/
def probes : Call := ⟨1, .acquireHalfOpenProbe "route"⟩

/-- The state after a step of a process. -/
def after (s : ClusterState) (process : ℕ) (leaseId : String) (op : Op) : ClusterState :=
  (s.write process (exec s.clock leaseId op (s.session process)).2).draw process leaseId op

def planned : ClusterState :=
  after (after initial 0 "" (.eligibleRoutes "model")) 0 "" .fallbackRows
def probing : ClusterState := after planned 0 "first" (.acquireProbe "route")
def reopened : ClusterState := after probing 0 "" (.openRoute "route" failure)
def taken : ClusterState := after reopened 0 "" (.takeLease "route")
def released : ClusterState := after taken 0 "" (.deleteLease "route" "first")

/-- The calls of process `0` for candidates, which grant it the probe. -/
def asked : List (Event statements) :=
  [⟨.eligibleRoutes "model", .ok (initial.db.eligibleRoutes 0 "model")⟩, ⟨.fallbackRows, .ok []⟩]

def granted : Event statements := ⟨.acquireProbe "route", .ok (some "first")⟩

def start : World (cluster id) := ⟨initial, 0, fun _ => none⟩

theorem reachable_start : (runs id).Reachable start := by
  refine .init ⟨⟨fun _ _ => rfl, ?_⟩, rfl, fun _ => rfl⟩
  intro routeId lease hrow
  cases hrow

/-- Process `0` is granted the probe of the route, and has it as its first candidate. -/
theorem exists_asked : ∃ w w', (runs id).Reachable w ∧
    (runs id).Step w (.call 0 asks granted) w' ∧ w.shared.clock = 0 ∧ w'.shared = probing ∧
    w'.flights 0 = some ⟨asks, asked ++ [granted], .pure (.ok [ControlPlane.onlyRoute])⟩ := by
  obtain ⟨w₁, h₁, hs₁, hf₁⟩ := exists_start start asks
  obtain ⟨w₂, h₂, hs₂, hf₂⟩ := exists_call hf₁ hs₁ (Effect.done "" rfl)
  obtain ⟨w₃, h₃, hs₃, hf₃⟩ := exists_call hf₂ hs₂ (Effect.done "" rfl)
  obtain ⟨w₄, h₄, hs₄, hf₄⟩ := exists_call hf₃ hs₃ (Effect.done "first" rfl)
  exact ⟨w₃, w₄, ((reachable_start.step h₁).step h₂).step h₃, h₄, congrArg ClusterState.clock hs₃,
    hs₄, hf₄⟩

/-- It gives the lease back, and process `1` is granted the probe within the same second. -/
theorem exists_granted_again {w : World (cluster id)} (hshared : w.shared = probing)
    (hflight : w.flights 0 = some ⟨asks, asked ++ [granted],
      .pure (.ok [ControlPlane.onlyRoute])⟩) :
    ∃ ls w₁ l w₂, (runs id).Steps w ls w₁ ∧ (runs id).Step w₁ l w₂ ∧ w₁.shared.clock = 0 ∧
      IsGrant 1 "route" "second" l := by
  obtain ⟨w₁, h₁, hs₁⟩ := exists_finish hflight
  obtain ⟨w₂, h₂, hs₂, hf₂⟩ := exists_start w₁ fails
  have hprobing : w₂.shared = probing := hs₂.trans (hs₁.trans hshared)
  obtain ⟨w₃, h₃, hs₃, hf₃⟩ := exists_call hf₂ hprobing (Effect.done "" (by decide +kernel))
  obtain ⟨w₄, h₄, hs₄, hf₄⟩ := exists_call hf₃ hs₃ (Effect.done "" (by decide +kernel))
  obtain ⟨w₅, h₅, hs₅, hf₅⟩ := exists_call hf₄ hs₄ (Effect.done "" (by decide +kernel))
  obtain ⟨w₆, h₆, hs₆, hf₆⟩ := exists_start w₅ probes
  have hreleased : w₆.shared = released := hs₆.trans hs₅
  obtain ⟨w₇, h₇, hs₇, hf₇⟩ := exists_call hf₆ hreleased (Effect.done "second" (by decide +kernel))
  refine ⟨_, w₆, _, w₇, .head h₁ (.head h₂ (.head h₃ (.head h₄ (.head h₅ (.head h₆ (.refl w₆)))))),
    h₇, congrArg ClusterState.clock hreleased, _, _, rfl⟩

/-- Between the two grants process `0` has deleted its lease, which it had drawn; the route it was
given was read open, and comes with its only grant. -/
theorem handed_over : ∃ w₁ w₂ ls w₃ l w₄, (runs id).Reachable w₁ ∧
    (runs id).Step w₁ (.call 0 asks granted) w₂ ∧ (runs id).Steps w₂ ls w₃ ∧
    (runs id).Step w₃ l w₄ ∧ IsGrant 1 "route" "second" l ∧
    (∃ ls₁ release ls₂ w w', ls = ls₁ ++ release :: ls₂ ∧ (runs id).Steps w₂ ls₁ w ∧
      (runs id).Steps w' ls₂ w₃ ∧ Releases.Step 0 "route" "first" w release w' ∧
      w.shared.issued "first" = some (0, "route")) ∧
    (∃ row ∈ initial.db.eligibleRoutes 0 "model", row.routeState.state = "open" ∧
      ∃ leaseId, (row.routeId, leaseId) ∈ grants (asked ++ [granted])) ∧
    (grants (asked ++ [granted])).length ≤ 1 := by
  obtain ⟨w₁, w₂, hw₁, hfirst, hclock₁, hprobing, hflight⟩ := exists_asked
  obtain ⟨ls, w₃, l, w₄, hrun, hsecond, hclock₃, hgrant⟩ := exists_granted_again hprobing hflight
  have hw₂ := hw₁.step hfirst
  obtain ⟨ls₁, release, ls₂, w, w', hls, hbefore, hrelease, hafter, hreleases⟩ :=
    (probe_exclusion id).exclusive w₁ _ w₂ ls w₃ l w₄ 0 1 "route" "first" "second" hw₁ hfirst
      ⟨0, _, rfl⟩ hrun hsecond hgrant (by rw [hclock₁, hclock₃]; decide)
  refine ⟨w₁, w₂, ls, w₃, l, w₄, hw₁, hfirst, hrun, hsecond, hgrant,
    ⟨ls₁, release, ls₂, w, w', hls, hbefore, hafter, hreleases, ?_⟩, ?_,
    (probe_exclusion id).one_grant w₂ 0 0 "model" _ _ hw₂ hflight⟩
  · obtain ⟨call, method, answer, rfl⟩ := hreleases.label
    obtain ⟨lease, hlease, hid⟩ := hreleases.before
    obtain ⟨w₀, earlier, hinit, hearlier⟩ := hw₂
    have hw : (runs id).Reachable w := ⟨w₀, _, hinit, hearlier.append hbefore⟩
    rcases (probe_exclusion id).kept w w' call _ _ "route" lease hw hrelease hlease with
      ⟨lease', hstill, -⟩ | ⟨-, hissued⟩
    · rw [hreleases.after] at hstill
      cases hstill
    · rw [← hid]
      exact hissued
  · obtain ⟨rows, hrows, hread⟩ := (probe_exclusion id).first w₂ 0 0 "model" _ _ hw₂ hflight
    have hsame : rows = initial.db.eligibleRoutes 0 "model" := by
      simpa [asked, granted] using hrows
    obtain ⟨row, hrow, hid, hopen⟩ : ∃ row ∈ initial.db.eligibleRoutes 0 "model",
        row.routeId = ControlPlane.onlyRoute.routeId ∧ row.routeState.state = "open" := by
      decide +kernel
    exact ⟨row, hrow, hopen, (hread 0 Nat.one_pos row (hsame ▸ hrow) hid (by simp [hopen])).2⟩

end Handover

end Postgres

end SmartGateway
