import SmartGateway.Storage.ControlPlane

/-! # The SQLite store

A single connection behind a mutex that every method holds from its first statement
to its last, so a method is one step on the tables.
-/

namespace SmartGateway

namespace Sqlite

/-- The `WHERE` clause of `candidates_internal` at instant `now`. -/
def eligible (now : Int) (row : ControlPlane.JoinedRoute) : Bool :=
  row.usable && (row.routeState.state == "closed" ||
    ControlPlane.retryDue row.routeState.retryAt now)

/-- The row mapping of `candidates_internal`. -/
def readCandidate (row : ControlPlane.JoinedRoute) : Except String RouteCandidate :=
  match CredentialReference.parse row.account.credentialRef with
  | .error error => .error ("Conversion error from type Text at index: 4, " ++ error.message)
  | .ok credentialRef => .ok (row.candidate credentialRef)

def authenticate (digest : String → String) (db : ControlPlane) (rawKey : String) : Bool :=
  db.keyEnabled (digest rawKey)

def candidates (db : ControlPlane) (now : Int) (logicalModel : String) :
    Except String (List RouteCandidate) :=
  ((db.joinedRoutes.filter (eligible now)).mapM readCandidate).bind fun routes =>
    (candidatePlan logicalModel routes db.fallbackMap).mapError DomainError.message

def recordAttempt (db : ControlPlane) (now : Int) (attempt : AttemptRecord) :
    Except String Unit × ControlPlane :=
  let db := db.upsertAttempt now attempt
  match db.attemptIdentity attempt with
  | none => (.error "Query returned no rows", db)
  | some true => (.ok (), db)
  | some false => (.error "attempt identity does not match the persisted attempt", db)

def markRouteSuccess (db : ControlPlane) (routeId : String) : ControlPlane :=
  db.updateRouteState routeId fun _ => { state := "closed", reason := none, retryAt := none }

def markRouteFailure (db : ControlPlane) (routeId : String) (failure : ProviderFailure) :
    ControlPlane :=
  let state :=
    if failure.category.blocksAccount || failure.category.opensRoute then "open" else "closed"
  db.updateRouteState routeId fun _ =>
    { state, reason := some failure.category.debug, retryAt := failure.retryAtUnix }

def markAccountFailure (db : ControlPlane) (accountId : String) (failure : ProviderFailure) :
    ControlPlane :=
  db.updateAccountState accountId fun _ =>
    { state := "blocked", reason := some failure.category.debug, retryAt := failure.retryAtUnix }

/-- `impl ConfigurationRepository for SqliteStore`, at the instant of the call. -/
def handle (digest : String → String) (now : Int) :
    (op : RepositoryOp) → ControlPlane → Except String op.Output × ControlPlane
  | .authenticate rawKey, db => (.ok (authenticate digest db rawKey), db)
  | .candidates logicalModel, db => (candidates db now logicalModel, db)
  | .recordAttempt attempt, db => recordAttempt db now attempt
  | .markRouteSuccess routeId, db => (.ok (), markRouteSuccess db routeId)
  | .markRouteFailure routeId failure, db => (.ok (), markRouteFailure db routeId failure)
  | .markAccountFailure accountId failure, db => (.ok (), markAccountFailure db accountId failure)

/-! ## What each method returns and writes -/

theorem readCandidate_eq (row : ControlPlane.JoinedRoute) :
    readCandidate row = .ok row.toCandidate := by
  rw [readCandidate, row.parse_credentialRef]
  rfl

/-- The routes `candidates` plans with. -/
def eligibleRoutes (db : ControlPlane) (now : Int) : List RouteCandidate :=
  (db.joinedRoutes.filter (eligible now)).map ControlPlane.JoinedRoute.toCandidate

theorem candidates_eq (db : ControlPlane) (now : Int) (logicalModel : String) :
    candidates db now logicalModel =
      (candidatePlan logicalModel (eligibleRoutes db now) db.fallbackMap).mapError
        DomainError.message := by
  rw [candidates, ControlPlane.mapM_toCandidate readCandidate_eq]
  rfl

/-- Whatever it answers, `record_attempt` runs the upsert. -/
theorem recordAttempt_tables (db : ControlPlane) (now : Int) (attempt : AttemptRecord) :
    (recordAttempt db now attempt).2 = db.upsertAttempt now attempt := by
  unfold recordAttempt
  dsimp only
  split <;> rfl

/-- Every category either blocks its account or opens its route, so a failure always opens. -/
theorem markRouteFailure_eq (db : ControlPlane) (routeId : String) (failure : ProviderFailure) :
    markRouteFailure db routeId failure = db.updateRouteState routeId fun _ =>
      { state := "open", reason := some failure.category.debug
        retryAt := failure.retryAtUnix } := by
  have hopen : (failure.category.blocksAccount || failure.category.opensRoute) = true := by
    rw [failure.category.opensRoute_eq_not_blocksAccount, Bool.or_not_self]
  rw [markRouteFailure, if_pos hopen]

end Sqlite

end SmartGateway
