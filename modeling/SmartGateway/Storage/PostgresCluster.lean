import SmartGateway.Lib.Interleaving
import SmartGateway.Storage.PostgresMethods

/-! # Gateway processes on one database

Any number of processes call the methods of the store on one database. Their steps interleave,
a request can be dropped between any two of its steps, a process can crash, and the clock of
the database moves on.

A step can also fail. A statement that fails has either done nothing, or was applied with the
answer lost; in the second case the process has not noted a lease it was granted.

Lease ids are drawn fresh. For each drawn id the state records who drew it, and for which
route; nothing in the program reads that record.
-/

namespace SmartGateway

namespace Postgres

/-! ## State and calls -/

structure ClusterState where
  db : Database
  /-- The clock of the database. -/
  clock : Int
  /-- The lease map of each process. -/
  probeLeases : ℕ → KeyedTable String String
  /-- The process that drew a lease id, and the route it drew it for. -/
  issued : String → Option (ℕ × String)

/-- The public methods of the store. -/
inductive Method where
  | repository (op : RepositoryOp)
  | acquireHalfOpenProbe (routeId : String)

/-- A call of a method by a process. -/
structure Call where
  process : ℕ
  method : Method

abbrev Method.Output : Method → Type
  | .repository op => op.Output
  | .acquireHalfOpenProbe _ => Bool

def methodBody (digest : String → String) :
    (method : Method) → Program statements (Except String method.Output)
  | .repository op => body digest op
  | .acquireHalfOpenProbe routeId => acquireHalfOpenProbe routeId

/-! ## Steps -/

/-- The error answer of a step, where it has one. -/
def Op.failure (error : String) : (op : Op) → Option op.Result
  | .keyEnabled _ => some (.error error)
  | .eligibleRoutes _ => some (.error error)
  | .fallbackRows => some (.error error)
  | .acquireProbe _ => some (.error error)
  | .upsertAttempt _ => some (.error error)
  | .attemptIdentity _ => some (.error error)
  | .closeRoute _ => some (.error error)
  | .openRoute _ _ => some (.error error)
  | .blockAccount _ _ => some (.error error)
  | .accountRoutes _ => some (.error error)
  | .takeLease _ => none
  | .deleteLease _ _ => some (.error error)

namespace ClusterState

/-- What a process works on. -/
def session (s : ClusterState) (process : ℕ) : Session := ⟨s.db, s.probeLeases process⟩

/-- The state once a process is done with a step. -/
def write (s : ClusterState) (process : ℕ) (session : Session) : ClusterState :=
  { s with
    db := session.db
    probeLeases := Function.update s.probeLeases process session.probeLeases }

/-- Records the lease id a step draws; only a request for a probe draws one. -/
def draw (s : ClusterState) (process : ℕ) (leaseId : String) : Op → ClusterState
  | .acquireProbe routeId =>
    { s with issued := Function.update s.issued leaseId (some (process, routeId)) }
  | _ => s

end ClusterState

/-- What a step of a process can answer, with the state after it. -/
inductive Effect (process : ℕ) (op : Op) (s : ClusterState) : op.Result → ClusterState → Prop
  /-- The step is applied and answered. -/
  | done (leaseId : String) (fresh : s.issued leaseId = none) :
      Effect process op s (exec s.clock leaseId op (s.session process)).1
        ((s.write process (exec s.clock leaseId op (s.session process)).2).draw process leaseId op)
  /-- The step fails and does nothing. -/
  | failed {error : String} {r : op.Result} (h : op.failure error = some r) :
      Effect process op s r s
  /-- The statement is applied, but the process only sees an error. -/
  | lost {error : String} {r : op.Result} (leaseId : String) (fresh : s.issued leaseId = none)
      (h : op.failure error = some r) :
      Effect process op s r
        (({ s with db := (exec s.clock leaseId op (s.session process)).2.db }).draw process leaseId
          op)

/-- The clock moves on, or a process crashes with its calls and its lease map. -/
inductive Ambient (s : ClusterState) : (Call → Prop) → ClusterState → Prop
  | tick (clock : Int) (h : s.clock ≤ clock) : Ambient s (fun _ => False) { s with clock }
  | crash (process : ℕ) :
      Ambient s (fun call => call.process = process)
        { s with probeLeases := Function.update s.probeLeases process .empty }

/-- The processes of a cluster. -/
def cluster (digest : String → String) : Concurrent statements ClusterState Call where
  Ret call := Except String call.method.Output
  body call := methodBody digest call.method
  Effect call := Effect call.process
  Ambient := Ambient

/-- A cluster starts without running calls and without local leases; the database may hold
leases that were drawn before. -/
structure Init (s : ClusterState) : Prop where
  noLocal : ∀ process routeId, (s.probeLeases process).get? routeId = none
  drawn : ∀ routeId lease, s.db.probeLeases.get? routeId = some lease →
    ∃ process, s.issued lease.leaseId = some (process, routeId)

/-- The runs of a cluster. -/
abbrev runs (digest : String → String) :
    Transition (Concurrent.World (cluster digest)) (Concurrent.Label (cluster digest)) :=
  (cluster digest).toTransition Init

/-! ## What a step does to the leases -/

@[simp] theorem ClusterState.draw_db (s : ClusterState) (process : ℕ) (leaseId : String) (op : Op) :
    (s.draw process leaseId op).db = s.db := by cases op <;> rfl

@[simp] theorem ClusterState.draw_clock (s : ClusterState) (process : ℕ) (leaseId : String)
    (op : Op) : (s.draw process leaseId op).clock = s.clock := by cases op <;> rfl

/-- Drawing an id leaves the ids drawn before as they were. -/
theorem ClusterState.issued_draw {s : ClusterState} {process : ℕ} {leaseId : String} {op : Op}
    (fresh : s.issued leaseId = none) {id : String} {drawn : ℕ × String}
    (h : s.issued id = some drawn) : (s.draw process leaseId op).issued id = some drawn := by
  cases op with
  | acquireProbe routeId =>
    have hne : id ≠ leaseId := by
      rintro rfl
      rw [fresh] at h
      cases h
    change Function.update s.issued leaseId _ id = some drawn
    rw [Function.update_of_ne hne, h]
  | _ => exact h

/-- Everything a step can do to the leases: a grant, which the process may fail to note; a
lease taken out of the local map; a deletion; or nothing. -/
inductive LeaseStep (process : ℕ) (s s' : ClusterState) : (op : Op) → op.Result → Prop
  | grant (routeId leaseId : String) {answer : Except String (Option String)}
      (fresh : s.issued leaseId = none)
      (notOwned : (s.probeLeases process).get? routeId = none)
      (free : s.db.leaseFree s.clock routeId = true) (due : s.db.probeDue s.clock routeId = true)
      (leases : s'.db.probeLeases = s.db.probeLeases.upsert routeId
        ⟨leaseId, s.clock + halfOpenLeaseSeconds⟩ fun _ => ⟨leaseId, s.clock + halfOpenLeaseSeconds⟩)
      (issued : s'.issued = Function.update s.issued leaseId (some (process, routeId)))
      (noted : (answer = .ok (some leaseId) ∧ s'.probeLeases = Function.update s.probeLeases process
          ((s.probeLeases process).upsert routeId leaseId fun _ => leaseId)) ∨
        ((∃ error, answer = .error error) ∧ s'.probeLeases = s.probeLeases)) :
      LeaseStep process s s' (.acquireProbe routeId) answer
  | take (routeId : String) (leases : s'.db.probeLeases = s.db.probeLeases)
      (issued : s'.issued = s.issued)
      (local_ : s'.probeLeases = Function.update s.probeLeases process
        ((s.probeLeases process).erase routeId)) :
      LeaseStep process s s' (.takeLease routeId) ((s.probeLeases process).get? routeId)
  | delete (routeId leaseId : String) {answer : Except String Unit}
      (leases : s'.db.probeLeases =
        s.db.probeLeases.eraseIf routeId fun row => row.leaseId = leaseId)
      (issued : s'.issued = s.issued) (local_ : s'.probeLeases = s.probeLeases) :
      LeaseStep process s s' (.deleteLease routeId leaseId) answer
  | idle {op : Op} {answer : op.Result} (leases : s'.db.probeLeases = s.db.probeLeases)
      (issued : ∀ id drawn, s.issued id = some drawn → s'.issued id = some drawn)
      (local_ : s'.probeLeases = s.probeLeases)
      (noGrant : Postgres.grant ⟨op, answer⟩ = none) (noTake : ∀ routeId, op ≠ .takeLease routeId) :
      LeaseStep process s s' op answer

/-- An error answer grants nothing. -/
theorem grant_failure {error : String} {op : Op} {answer : op.Result}
    (h : op.failure error = some answer) : grant ⟨op, answer⟩ = none := by
  cases op <;> cases h <;> rfl

theorem failure_takeLease {error : String} {op : Op} {answer : op.Result}
    (h : op.failure error = some answer) (routeId : String) : op ≠ .takeLease routeId := by
  rintro rfl
  cases h

/-- An answer is the one the step computes, or an error. -/
theorem Effect.answer_cases {process : ℕ} {op : Op} {s s' : ClusterState} {answer : op.Result}
    (h : Effect process op s answer s') :
    (∃ leaseId, s.issued leaseId = none ∧
      answer = (exec s.clock leaseId op (s.session process)).1 ∧
      s' = (s.write process (exec s.clock leaseId op (s.session process)).2).draw process leaseId
        op) ∨
    (∃ error, op.failure error = some answer) := by
  cases h with
  | done leaseId fresh => exact Or.inl ⟨leaseId, fresh, rfl, rfl⟩
  | failed hfailure => exact Or.inr ⟨_, hfailure⟩
  | lost _ _ hfailure => exact Or.inr ⟨_, hfailure⟩

/-- A route query is answered by the database as it is. -/
theorem Effect.rows_eq {process : ℕ} {s s' : ClusterState} {logicalModel : String}
    {rows : List ControlPlane.JoinedRoute}
    (h : Effect process (.eligibleRoutes logicalModel) s (.ok rows) s') :
    rows = s.db.eligibleRoutes s.clock logicalModel := by
  rcases h.answer_cases with ⟨leaseId, -, hanswer, -⟩ | ⟨error, hfailure⟩
  · exact Except.ok.inj hanswer
  · cases hfailure

/-- The database after a step is the one before, or the one the step computes. -/
theorem Effect.db_cases {process : ℕ} {op : Op} {s s' : ClusterState} {answer : op.Result}
    (h : Effect process op s answer s') :
    s'.db = s.db ∨ ∃ leaseId, s'.db = (exec s.clock leaseId op (s.session process)).2.db := by
  cases h with
  | done leaseId fresh => exact Or.inr ⟨leaseId, by rw [ClusterState.draw_db]; rfl⟩
  | failed _ => exact Or.inl rfl
  | lost leaseId fresh _ => exact Or.inr ⟨leaseId, by rw [ClusterState.draw_db]⟩

theorem Effect.clock {process : ℕ} {op : Op} {s s' : ClusterState} {answer : op.Result}
    (h : Effect process op s answer s') : s'.clock = s.clock := by
  cases h with
  | done => rw [ClusterState.draw_clock]; rfl
  | failed => rfl
  | lost => rw [ClusterState.draw_clock]

/-! ## What happens between the steps -/

theorem Ambient.db_eq {s s' : ClusterState} {ended : Call → Prop} (h : Ambient s ended s') :
    s'.db = s.db := by
  cases h <;> rfl

theorem Ambient.issued_eq {s s' : ClusterState} {ended : Call → Prop} (h : Ambient s ended s') :
    s'.issued = s.issued := by
  cases h <;> rfl

theorem Ambient.clock_le {s s' : ClusterState} {ended : Call → Prop} (h : Ambient s ended s') :
    s.clock ≤ s'.clock := by
  cases h with
  | tick _ hclock => exact hclock
  | crash _ => exact le_refl _

/-- No local lease appears between the steps. -/
theorem Ambient.local_of {s s' : ClusterState} {ended : Call → Prop} (h : Ambient s ended s')
    {process : ℕ} {routeId leaseId : String}
    (hget : (s'.probeLeases process).get? routeId = some leaseId) :
    (s.probeLeases process).get? routeId = some leaseId := by
  cases h with
  | tick _ _ => exact hget
  | crash crashed =>
    change (Function.update s.probeLeases crashed KeyedTable.empty process).get? routeId = _ at hget
    by_cases hprocess : process = crashed
    · subst hprocess
      rw [Function.update_self, KeyedTable.get?_empty] at hget
      cases hget
    · rwa [Function.update_of_ne hprocess] at hget

/-- The clock can move on in any reachable world. -/
theorem Reachable.tick {digest : String → String} {w : Concurrent.World (cluster digest)}
    (hw : (runs digest).Reachable w) {clock : Int} (hclock : w.shared.clock ≤ clock) :
    (runs digest).Reachable ⟨{ w.shared with clock }, w.next, w.flights⟩ := by
  have hstep : (cluster digest).Step w .ambient ⟨{ w.shared with clock }, w.next, w.flights⟩ :=
    .ambient (Ambient.tick clock hclock) rfl fun _ _ hflight => ⟨hflight, not_false⟩
  exact hw.step hstep

/-! ## Each step as a lease step -/

theorem Effect.leaseStep {process : ℕ} {op : Op} {s s' : ClusterState} {answer : op.Result}
    (h : Effect process op s answer s') : LeaseStep process s s' op answer := by
  cases h with
  | done leaseId fresh =>
    -- A process that writes its own map back changes none.
    have hsame : s.probeLeases = (s.write process (s.session process)).probeLeases :=
      (Function.update_eq_self process s.probeLeases).symm
    cases op with
    | acquireProbe routeId =>
      rw [exec]
      rcases (s.session process).acquireProbe_granted_or s.clock routeId leaseId with
        ⟨answer, h, hnone⟩ | ⟨_, howned, hfree, hdue, h⟩
      · have hdrawn : ∀ id drawn, s.issued id = some drawn →
            ((s.write process (s.session process)).draw process leaseId
              (.acquireProbe routeId)).issued id = some drawn :=
          fun _ _ => ClusterState.issued_draw (s := s.write process (s.session process)) fresh
        rw [h]
        exact .idle rfl hdrawn hsame.symm hnone (by simp)
      · rw [h]
        exact .grant routeId leaseId fresh howned hfree hdue rfl rfl (Or.inl ⟨rfl, rfl⟩)
    | takeLease routeId => exact .take routeId rfl rfl rfl
    | deleteLease routeId leaseId' => exact .delete routeId leaseId' rfl rfl hsame.symm
    | attemptIdentity attempt =>
      have hexec : (exec s.clock leaseId (.attemptIdentity attempt) (s.session process)).2 =
          s.session process := by
        rw [exec]
        split <;> rfl
      rw [hexec]
      exact .idle rfl (fun _ _ h => h) hsame.symm rfl (by simp)
    | _ => exact .idle rfl (fun _ _ h => h) hsame.symm rfl (by simp)
  -- An error without effect leaves everything as it is.
  | failed hfailure =>
    exact .idle rfl (fun _ _ h => h) rfl (grant_failure hfailure) (failure_takeLease hfailure)
  -- The database has taken the statement, but the process notes no lease.
  | lost leaseId fresh hfailure =>
    cases op with
    | acquireProbe routeId =>
      rw [exec]
      rcases (s.session process).acquireProbe_granted_or s.clock routeId leaseId with
        ⟨answer', h, -⟩ | ⟨_, howned, hfree, hdue, h⟩
      · have hdrawn : ∀ id drawn, s.issued id = some drawn →
            (s.draw process leaseId (.acquireProbe routeId)).issued id = some drawn :=
          fun _ _ => ClusterState.issued_draw fresh
        rw [h]
        exact .idle rfl hdrawn rfl (grant_failure hfailure) (by simp)
      · rw [h]
        cases hfailure
        exact .grant routeId leaseId fresh howned hfree hdue rfl rfl (Or.inr ⟨⟨_, rfl⟩, rfl⟩)
    | takeLease routeId => cases hfailure
    | deleteLease routeId leaseId' => exact .delete routeId leaseId' rfl rfl rfl
    | attemptIdentity attempt =>
      have hexec : (exec s.clock leaseId (.attemptIdentity attempt) (s.session process)).2 =
          s.session process := by
        rw [exec]
        split <;> rfl
      rw [hexec]
      exact .idle rfl (fun _ _ h => h) rfl (grant_failure hfailure) (by simp)
    | _ => exact .idle rfl (fun _ _ h => h) rfl (grant_failure hfailure) (by simp)

end Postgres

end SmartGateway
