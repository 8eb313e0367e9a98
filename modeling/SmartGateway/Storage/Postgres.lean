import SmartGateway.Lib.Program
import SmartGateway.Lib.RecursiveQuery
import SmartGateway.Storage.ControlPlane

/-! # The PostgreSQL store

Several processes share one database. A method is a program over single statements,
since other processes run theirs in between; `acquire_half_open_probe` is one step of
it, because its transaction is atomic and the process holds its lease map throughout.

A step reads and writes the database and the lease map of the process that makes it.
Timestamps are the instant of the step, lease ids are drawn by the caller.
-/

namespace SmartGateway

namespace Postgres

/-! ## The database -/

/-- A row of `provider_route_probe_leases`. -/
structure LeaseRow where
  leaseId : String
  expiresAt : Int
deriving DecidableEq

/-- The control plane with the probe leases and the `CHECK`s of the state columns. -/
structure Database extends ControlPlane where
  probeLeases : KeyedTable String LeaseRow
  routeStateCheck : ∀ row ∈ providerRouteState.rows,
    row.2.state ∈ ["closed", "open", "half_open"]
  accountStateCheck : ∀ row ∈ providerAccountState.rows,
    row.2.state ∈ ["unknown", "available", "blocked"]
  leaseReferences : ∀ row ∈ probeLeases.rows, providerRoutes.get? row.1 ≠ none

def halfOpenLeaseSeconds : Int := 60

namespace Database

/-- The models the recursive query reaches from `logicalModel`. -/
def reachableModels (db : Database) (logicalModel : String) : Finset String :=
  RecursiveQuery.reachable (db.modelFallbacks.rows.map fun row => (row.1.1, row.2)) logicalModel

end Database

/-- The `WHERE` clause of `candidates` at instant `now`, apart from reachability. -/
def eligible (now : Int) (row : ControlPlane.JoinedRoute) : Bool :=
  row.usable && (row.routeState.state == "closed" ||
    (row.routeState.state ∈ ["open", "half_open"] &&
      ControlPlane.retryDue row.routeState.retryAt now))

namespace Database

/-- The route query of `candidates`. -/
def eligibleRoutes (db : Database) (now : Int) (logicalModel : String) :
    List ControlPlane.JoinedRoute :=
  db.joinedRoutes.filter fun row =>
    row.route.logicalModel ∈ db.reachableModels logicalModel && eligible now row

theorem check_modify {table : KeyedTable String StateRow} {allowed : List String} (key : String)
    {f : StateRow → StateRow} (hf : ∀ row, (f row).state ∈ allowed)
    (h : ∀ row ∈ table.rows, row.2.state ∈ allowed) :
    ∀ row ∈ (table.modify key f).rows, row.2.state ∈ allowed := by
  intro row hrow
  rcases KeyedTable.mem_modify hrow with hold | ⟨old, -, rfl⟩
  · exact h row hold
  · exact hf old

/-- `UPDATE provider_route_state SET state = 'closed', reason = NULL, retry_at = NULL …`. -/
def closeRoute (db : Database) (routeId : String) : Database :=
  { db with
    toControlPlane := db.updateRouteState routeId fun _ =>
      { state := "closed", reason := none, retryAt := none }
    routeStateCheck := check_modify routeId (by simp) db.routeStateCheck
    accountStateCheck := db.accountStateCheck
    leaseReferences := db.leaseReferences }

/-- `UPDATE provider_route_state SET state = 'open', reason = …, retry_at = …`. -/
def openRoute (db : Database) (routeId : String) (failure : ProviderFailure) : Database :=
  { db with
    toControlPlane := db.updateRouteState routeId fun _ =>
      { state := "open", reason := some failure.category.debug, retryAt := failure.retryAtUnix }
    routeStateCheck := check_modify routeId (by simp) db.routeStateCheck
    accountStateCheck := db.accountStateCheck
    leaseReferences := db.leaseReferences }

/-- `UPDATE provider_account_state SET state = 'blocked', …`. -/
def blockAccount (db : Database) (accountId : String) (failure : ProviderFailure) : Database :=
  { db with
    toControlPlane := db.updateAccountState accountId fun _ =>
      { state := "blocked", reason := some failure.category.debug
        retryAt := failure.retryAtUnix }
    routeStateCheck := db.routeStateCheck
    accountStateCheck := check_modify accountId (by simp) db.accountStateCheck
    leaseReferences := db.leaseReferences }

def upsertUsageAttempt (db : Database) (now : Int) (attempt : AttemptRecord) : Database :=
  { db with toControlPlane := db.upsertAttempt now attempt }

/-- `SELECT id FROM provider_routes WHERE provider_account_id = …`. -/
def accountRoutes (db : Database) (accountId : String) : List String :=
  (db.providerRoutes.rows.filter fun row => row.2.providerAccountId = accountId).map Prod.fst

/-- `DELETE FROM provider_route_probe_leases WHERE route_id = … AND lease_id = …`. -/
def deleteLease (db : Database) (routeId leaseId : String) : Database :=
  { db with
    probeLeases := db.probeLeases.eraseIf routeId fun row => row.leaseId = leaseId
    leaseReferences := by
      intro row hrow
      exact db.leaseReferences row (List.mem_of_mem_filter hrow) }

/-- The two writes of the probe transaction once both of its conditions hold: the lease row
inserted or taken over, and the route half open. -/
def grantProbe (db : Database) (now : Int) (routeId leaseId : String)
    (exists_route : db.providerRoutes.get? routeId ≠ none) : Database :=
  { db with
    toControlPlane := db.updateRouteState routeId fun row => { row with state := "half_open" }
    routeStateCheck := check_modify routeId (by simp) db.routeStateCheck
    accountStateCheck := db.accountStateCheck
    probeLeases := db.probeLeases.upsert routeId
      { leaseId, expiresAt := now + halfOpenLeaseSeconds }
      fun _ => { leaseId, expiresAt := now + halfOpenLeaseSeconds }
    leaseReferences := by
      intro row hrow
      have hkey := KeyedTable.mem_keys.mp (List.mem_map_of_mem (f := Prod.fst) hrow)
      rw [KeyedTable.get?_upsert] at hkey
      by_cases hroute : row.1 = routeId
      · rw [hroute]
        exact exists_route
      · rw [if_neg hroute] at hkey
        obtain ⟨lease, hlease⟩ := Option.ne_none_iff_exists'.mp hkey
        exact db.leaseReferences (row.1, lease) (KeyedTable.get?_eq_some.mp hlease) }

def foreignKeyViolation : String :=
  "db error: ERROR: insert or update on table \"provider_route_probe_leases\" violates " ++
    "foreign key constraint \"provider_route_probe_leases_route_id_fkey\""

/-- No other lease is in the way: there is no row, or it has expired. -/
def leaseFree (db : Database) (now : Int) (routeId : String) : Bool :=
  match db.probeLeases.get? routeId with
  | none => true
  | some held => held.expiresAt ≤ now

/-- The route is open or half open and its retry time has come. -/
def probeDue (db : Database) (now : Int) (routeId : String) : Bool :=
  match db.providerRouteState.get? routeId with
  | none => false
  | some row =>
    row.state ∈ ["open", "half_open"] && ControlPlane.retryDue row.retryAt now

/-- The transaction of `acquire_half_open_probe`: `none` if the lease is not free, or if the
circuit is not due and the lease was rolled back. -/
def acquireProbe (db : Database) (now : Int) (routeId leaseId : String) :
    Except String (Option Database) :=
  if exists_route : db.providerRoutes.get? routeId ≠ none then
    if db.leaseFree now routeId then
      if db.probeDue now routeId then .ok (some (db.grantProbe now routeId leaseId exists_route))
      else .ok none
    else .ok none
  else .error foreignKeyViolation

end Database

/-! ## Statements -/

/-- What a method of the store can do in one step. -/
inductive Op where
  | keyEnabled (keyHash : String)
  | eligibleRoutes (logicalModel : String)
  | fallbackRows
  | acquireProbe (routeId : String)
  | upsertAttempt (attempt : AttemptRecord)
  | attemptIdentity (attempt : AttemptRecord)
  | closeRoute (routeId : String)
  | openRoute (routeId : String) (failure : ProviderFailure)
  | blockAccount (accountId : String) (failure : ProviderFailure)
  | accountRoutes (accountId : String)
  | takeLease (routeId : String)
  | deleteLease (routeId leaseId : String)
deriving DecidableEq

/-- What each step returns. Taking a lease out of the local map cannot fail; every statement
can. A granted probe returns its lease id. -/
abbrev Op.Result : Op → Type
  | .keyEnabled _ => Except String Bool
  | .eligibleRoutes _ => Except String (List ControlPlane.JoinedRoute)
  | .fallbackRows => Except String (List (String × String))
  | .acquireProbe _ => Except String (Option String)
  | .attemptIdentity _ => Except String Bool
  | .accountRoutes _ => Except String (List String)
  | .takeLease _ => Option String
  | _ => Except String Unit

abbrev statements : Signature := ⟨Op, Op.Result⟩

/-- What a step of one process reads and writes: the database and the process's own leases. -/
structure Session where
  db : Database
  probeLeases : KeyedTable String String

/-- `acquire_half_open_probe`, with the lease map held throughout: refused at once while the
map has a lease of this route, otherwise the transaction, and a granted lease is kept. -/
def Session.acquireProbe (s : Session) (now : Int) (routeId leaseId : String) :
    Except String (Option String) × Session :=
  if s.probeLeases.get? routeId ≠ none then (.ok none, s)
  else
    match s.db.acquireProbe now routeId leaseId with
    | .error error => (.error error, s)
    | .ok none => (.ok none, s)
    | .ok (some db) =>
      (.ok (some leaseId), ⟨db, s.probeLeases.upsert routeId leaseId fun _ => leaseId⟩)

/-- The effect of a step at instant `now`, with `leaseId` as the lease id drawn for it. -/
def exec (now : Int) (leaseId : String) : (op : Op) → Session → op.Result × Session
  | .keyEnabled keyHash, s => (.ok (s.db.keyEnabled keyHash), s)
  | .eligibleRoutes logicalModel, s => (.ok (s.db.eligibleRoutes now logicalModel), s)
  | .fallbackRows, s => (.ok s.db.fallbackRows, s)
  | .acquireProbe routeId, s => s.acquireProbe now routeId leaseId
  | .upsertAttempt attempt, s => (.ok (), { s with db := s.db.upsertUsageAttempt now attempt })
  | .attemptIdentity attempt, s =>
    match s.db.attemptIdentity attempt with
    | none => (.error "query returned an unexpected number of rows", s)
    | some identityMatches => (.ok identityMatches, s)
  | .closeRoute routeId, s => (.ok (), { s with db := s.db.closeRoute routeId })
  | .openRoute routeId failure, s => (.ok (), { s with db := s.db.openRoute routeId failure })
  | .blockAccount accountId failure, s =>
    (.ok (), { s with db := s.db.blockAccount accountId failure })
  | .accountRoutes accountId, s => (.ok (s.db.accountRoutes accountId), s)
  | .takeLease routeId, s =>
    (s.probeLeases.get? routeId, { s with probeLeases := s.probeLeases.erase routeId })
  | .deleteLease routeId leaseId, s =>
    (.ok (), { s with db := s.db.deleteLease routeId leaseId })

/-! ## Methods -/

/-- One step as a program. -/
abbrev step (op : Op) : Program statements op.Result := Program.perform (S := statements) op

/-- A value or error computed between steps. -/
abbrev yield {α : Type} (result : Except String α) : Program statements (Except String α) :=
  .pure result

def authenticate (digest : String → String) (rawKey : String) :
    Program statements (Except String Bool) :=
  step (.keyEnabled (digest rawKey))

def acquireHalfOpenProbe (routeId : String) : Program statements (Except String Bool) :=
  (step (.acquireProbe routeId)).andThen fun lease => yield (.ok lease.isSome)

def releaseHalfOpenProbe (routeId : String) : Program statements (Except String Unit) :=
  (step (.takeLease routeId)).bind fun
    | none => yield (.ok ())
    | some leaseId => step (.deleteLease routeId leaseId)

/-- The row mapping of `candidates`. -/
def readCandidate (row : ControlPlane.JoinedRoute) : Except String RouteCandidate :=
  match CredentialReference.parse row.account.credentialRef with
  | .error _ => .error "invalid credential reference in PostgreSQL configuration"
  | .ok credentialRef => .ok (row.candidate credentialRef)

/-- The circuit state each route was read with. -/
def readStates (rows : List ControlPlane.JoinedRoute) : KeyedTable String String :=
  rows.foldl (fun states row =>
    states.upsert row.routeId row.routeState.state fun _ => row.routeState.state) .empty

/-- The loop of `candidates` over the plan: closed routes are kept, any other route only as
the first one and only with its probe. -/
def selectEligible (routeStates : KeyedTable String String) :
    List RouteCandidate → List RouteCandidate →
      Program statements (Except String (List RouteCandidate))
  | [], eligible => yield (.ok eligible)
  | candidate :: plan, eligible =>
    match routeStates.get? candidate.routeId with
    | none => selectEligible routeStates plan eligible
    | some state =>
      if state = "closed" then selectEligible routeStates plan (eligible ++ [candidate])
      else if eligible.isEmpty then
        (acquireHalfOpenProbe candidate.routeId).andThen fun acquired =>
          selectEligible routeStates plan
            (if acquired then eligible ++ [candidate] else eligible)
      else selectEligible routeStates plan eligible

def candidates (logicalModel : String) :
    Program statements (Except String (List RouteCandidate)) :=
  (step (.eligibleRoutes logicalModel)).andThen fun rows =>
  (yield (rows.mapM readCandidate)).andThen fun routes =>
  (step .fallbackRows).andThen fun fallbackRows =>
  (yield ((candidatePlan logicalModel routes (KeyedTable.group fallbackRows)).mapError
    DomainError.message)).andThen fun plan =>
  (selectEligible (readStates rows) plan []).andThen fun eligible =>
  if eligible.isEmpty then yield (.error ("no eligible route exists for `" ++ logicalModel ++ "`"))
  else yield (.ok eligible)

def recordAttempt (attempt : AttemptRecord) : Program statements (Except String Unit) :=
  (step (.upsertAttempt attempt)).andThen fun _ =>
  (step (.attemptIdentity attempt)).andThen fun identityMatches =>
  if identityMatches then yield (.ok ())
  else yield (.error "attempt identity does not match the persisted attempt")

def markRouteSuccess (routeId : String) : Program statements (Except String Unit) :=
  (step (.closeRoute routeId)).andThen fun _ => releaseHalfOpenProbe routeId

def markRouteFailure (routeId : String) (failure : ProviderFailure) :
    Program statements (Except String Unit) :=
  (step (.openRoute routeId failure)).andThen fun _ => releaseHalfOpenProbe routeId

def releaseAll : List String → Program statements (Except String Unit)
  | [] => yield (.ok ())
  | routeId :: routeIds => (releaseHalfOpenProbe routeId).andThen fun _ => releaseAll routeIds

def markAccountFailure (accountId : String) (failure : ProviderFailure) :
    Program statements (Except String Unit) :=
  (step (.blockAccount accountId failure)).andThen fun _ =>
  (step (.accountRoutes accountId)).andThen fun routeIds => releaseAll routeIds

/-- `impl ConfigurationRepository for PostgresStore`. -/
def body (digest : String → String) :
    (op : RepositoryOp) → Program statements (Except String op.Output)
  | .authenticate rawKey => authenticate digest rawKey
  | .candidates logicalModel => candidates logicalModel
  | .recordAttempt attempt => recordAttempt attempt
  | .markRouteSuccess routeId => markRouteSuccess routeId
  | .markRouteFailure routeId failure => markRouteFailure routeId failure
  | .markAccountFailure accountId failure => markAccountFailure accountId failure

/-- A method run without interruption at one instant, with `leaseId` as the lease id it draws
if it is granted a probe. -/
def handle (digest : String → String) (now : Int) (leaseId : String) (op : RepositoryOp)
    (s : Session) : Except String op.Output × Session :=
  (body digest op).run (exec now leaseId) s

/-- A session on the smallest control plane, without leases. -/
def Session.oneRoute (routeState : StateRow)
    (check : routeState.state ∈ ["closed", "open", "half_open"]) : Session where
  db :=
    { ControlPlane.oneRoute routeState with
      probeLeases := .empty
      routeStateCheck := by
        intro row hrow
        cases List.mem_singleton.mp hrow
        exact check
      accountStateCheck := by
        intro row hrow
        cases List.mem_singleton.mp hrow
        exact of_decide_eq_true rfl
      leaseReferences := by
        intro row hrow
        cases hrow }
  probeLeases := .empty

/-- The same with a closed circuit. -/
def Session.closedRoute : Session := .oneRoute ⟨"closed", none, none⟩ (by decide)

end Postgres

end SmartGateway
