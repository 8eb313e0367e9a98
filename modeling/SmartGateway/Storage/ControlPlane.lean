import Mathlib.Data.List.Sort
import SmartGateway.Ports
import SmartGateway.Domain.CandidatePlan

/-! # The relational control plane

The tables both stores keep, with the constraints of their schema as fields, and
the statements both stores run on them in the same words. What differs between
the two stores (the eligibility predicate, the probe leases, what is one
transaction) is in `Sqlite` and `Postgres`.
-/

namespace SmartGateway

/-! ## Tables -/

structure GatewayKeyRow where
  keyHash : String
  enabled : Bool
deriving DecidableEq

/-- The credential reference is a text; its form is a `CHECK` of the column. -/
@[ext] structure AccountRow where
  provider : String
  credentialRef : String
  baseUrl : String
  enabled : Bool
  credentialRefCheck : WellFormedReference credentialRef

instance : DecidableEq AccountRow := fun _ _ => decidable_of_iff _ AccountRow.ext_iff.symm

structure RouteRow where
  logicalModel : String
  providerAccountId : String
  upstreamModel : String
  priority : Nat
  enabled : Bool
deriving DecidableEq

/-- A row of `provider_route_state` or `provider_account_state`. -/
structure StateRow where
  state : String
  reason : Option String
  retryAt : Option Int
deriving DecidableEq

/-- A row of `usage_attempts`. The `CHECK` on the outcome column lists the texts of the five
outcomes, so the column holds an outcome. -/
structure AttemptRow where
  requestId : String
  routeId : String
  outcome : AttemptOutcome
  failureCategory : Option String
  observedAt : Int
deriving DecidableEq

/-- The tables of the control plane with their unique constraints and references. -/
structure ControlPlane where
  gatewayKeys : KeyedTable String GatewayKeyRow
  logicalModels : KeyedTable String Bool
  providerAccounts : KeyedTable String AccountRow
  providerRoutes : KeyedTable String RouteRow
  modelFallbacks : KeyedTable (String × Nat) String
  providerRouteState : KeyedTable String StateRow
  providerAccountState : KeyedTable String StateRow
  usageAttempts : KeyedTable String AttemptRow
  keyHashUnique : (gatewayKeys.rows.map fun row => row.2.keyHash).Nodup
  routePriorityUnique :
    (providerRoutes.rows.map fun row => (row.2.logicalModel, row.2.priority)).Nodup
  routeReferences : ∀ row ∈ providerRoutes.rows,
    logicalModels.get? row.2.logicalModel ≠ none ∧
      providerAccounts.get? row.2.providerAccountId ≠ none
  fallbackReferences : ∀ row ∈ modelFallbacks.rows,
    logicalModels.get? row.1.1 ≠ none ∧ logicalModels.get? row.2 ≠ none
  routeStateReferences : ∀ row ∈ providerRouteState.rows, providerRoutes.get? row.1 ≠ none
  accountStateReferences : ∀ row ∈ providerAccountState.rows, providerAccounts.get? row.1 ≠ none

namespace ControlPlane

/-! ## Queries -/

/-- `SELECT 1 FROM gateway_keys WHERE key_hash = … AND enabled`. -/
def keyEnabled (db : ControlPlane) (keyHash : String) : Bool :=
  db.gatewayKeys.rows.any fun row => row.2.keyHash = keyHash && row.2.enabled

/-- A row of the join of routes, accounts and their states. -/
structure JoinedRoute where
  routeId : String
  route : RouteRow
  account : AccountRow
  routeState : StateRow
  accountState : StateRow

/-- The account of a route with both states, if all rows are there. -/
def join (db : ControlPlane) (routeId : String) (route : RouteRow) : Option JoinedRoute := do
  let account ← db.providerAccounts.get? route.providerAccountId
  let routeState ← db.providerRouteState.get? routeId
  let accountState ← db.providerAccountState.get? route.providerAccountId
  return { routeId, route, account, routeState, accountState }

/-- `provider_routes JOIN provider_accounts JOIN provider_route_state JOIN
provider_account_state`. -/
def joinedRoutes (db : ControlPlane) : List JoinedRoute :=
  db.providerRoutes.rows.filterMap fun row => db.join row.1 row.2

/-- The conditions every eligibility predicate shares: enabled, on an enabled account that
is not blocked. -/
def JoinedRoute.usable (row : JoinedRoute) : Bool :=
  row.route.enabled && row.account.enabled && row.accountState.state != "blocked"

/-- `retry_at IS NOT NULL AND retry_at <= now`. -/
def retryDue (retryAt : Option Int) (now : Int) : Bool :=
  match retryAt with
  | none => false
  | some retryAt => retryAt ≤ now

/-- The candidate a joined row stands for. -/
def JoinedRoute.candidate (row : JoinedRoute) (credentialRef : CredentialReference) :
    RouteCandidate where
  routeId := row.routeId
  logicalModel := row.route.logicalModel
  providerAccountId := row.route.providerAccountId
  provider := row.account.provider
  credentialRef := credentialRef
  baseUrl := row.account.baseUrl
  upstreamModel := row.route.upstreamModel
  priority := row.route.priority

/-- `SELECT source_model, target_model FROM model_fallbacks ORDER BY source_model, priority`. -/
def fallbackRows (db : ControlPlane) : List (String × String) :=
  (db.modelFallbacks.rows.insertionSort fun a b =>
    a.1.1 < b.1.1 ∨ (a.1.1 = b.1.1 ∧ a.1.2 ≤ b.1.2)).map fun row => (row.1.1, row.2)

/-- Whether the stored attempt has this identity; no row is an error of the query. -/
def attemptIdentity (db : ControlPlane) (attempt : AttemptRecord) : Option Bool :=
  (db.usageAttempts.get? attempt.attemptId.text).map fun row =>
    row.requestId = attempt.requestId && row.routeId = attempt.routeId

/-! ## Updates -/

/-- An update of the payload keeps a reference of the key column. -/
theorem references_modify {ω : Type} {table : KeyedTable String StateRow}
    {referenced : KeyedTable String ω} (key : String) (f : StateRow → StateRow)
    (h : ∀ row ∈ table.rows, referenced.get? row.1 ≠ none) :
    ∀ row ∈ (table.modify key f).rows, referenced.get? row.1 ≠ none := by
  intro row hrow
  rcases KeyedTable.mem_modify hrow with hold | ⟨old, hold, rfl⟩
  · exact h row hold
  · exact h (key, old) hold

/-- `UPDATE provider_route_state SET … WHERE route_id = …`. -/
def updateRouteState (db : ControlPlane) (routeId : String) (f : StateRow → StateRow) :
    ControlPlane :=
  { db with
    providerRouteState := db.providerRouteState.modify routeId f
    routeStateReferences := references_modify routeId f db.routeStateReferences }

/-- `UPDATE provider_account_state SET … WHERE account_id = …`. -/
def updateAccountState (db : ControlPlane) (accountId : String) (f : StateRow → StateRow) :
    ControlPlane :=
  { db with
    providerAccountState := db.providerAccountState.modify accountId f
    accountStateReferences := references_modify accountId f db.accountStateReferences }

/-- `ON CONFLICT (id) DO UPDATE SET outcome, failure_category … WHERE …`. -/
def mergeAttempt (attempt : AttemptRecord) (row : AttemptRow) : AttemptRow :=
  if row.requestId = attempt.requestId ∧ row.routeId = attempt.routeId ∧
      row.outcome = .committed ∧
      attempt.outcome ∈ [AttemptOutcome.succeeded, .partialFailed, .cancelled] then
    { row with outcome := attempt.outcome, failureCategory := attempt.failureCategory }
  else row

/-- `INSERT INTO usage_attempts … ON CONFLICT (id) DO UPDATE …`. -/
def upsertAttempt (db : ControlPlane) (now : Int) (attempt : AttemptRecord) : ControlPlane :=
  { db with
    usageAttempts := db.usageAttempts.upsert attempt.attemptId.text
      { requestId := attempt.requestId
        routeId := attempt.routeId
        outcome := attempt.outcome
        failureCategory := attempt.failureCategory
        observedAt := now }
      (mergeAttempt attempt) }

/-! ## The fallback graph of the table -/

/-- The fallback map both stores load. -/
def fallbackMap (db : ControlPlane) : FallbackMap := KeyedTable.group db.fallbackRows

theorem mem_fallbackRows {db : ControlPlane} {source target : String} :
    (source, target) ∈ db.fallbackRows ↔
      ∃ priority, ((source, priority), target) ∈ db.modelFallbacks.rows := by
  simp only [fallbackRows, List.mem_map, List.mem_insertionSort, Prod.mk.injEq]
  constructor
  · rintro ⟨row, hrow, rfl, rfl⟩
    exact ⟨row.1.2, hrow⟩
  · rintro ⟨priority, hrow⟩
    exact ⟨_, hrow, rfl, rfl⟩

/-- The edges of the loaded map are the rows of the table. -/
theorem mem_nextModels {db : ControlPlane} {source target : String} :
    target ∈ nextModels db.fallbackMap source ↔ (source, target) ∈ db.fallbackRows := by
  rw [nextModels, fallbackMap, KeyedTable.getD_group, KeyedTable.mem_valuesAt]

/-! ## Reading candidates off the join -/

theorem mem_joinedRoutes {db : ControlPlane} {row : JoinedRoute} :
    row ∈ db.joinedRoutes ↔
      db.providerRoutes.get? row.routeId = some row.route ∧
      db.providerAccounts.get? row.route.providerAccountId = some row.account ∧
      db.providerRouteState.get? row.routeId = some row.routeState ∧
      db.providerAccountState.get? row.route.providerAccountId = some row.accountState := by
  simp only [joinedRoutes, List.mem_filterMap, join, Option.bind_eq_bind,
    Option.bind_eq_some_iff, Option.pure_def, Option.some.injEq, KeyedTable.get?_eq_some]
  constructor
  · rintro ⟨⟨id, route⟩, hroute, account, haccount, state, hstate, accountState, haccountState, rfl⟩
    exact ⟨hroute, haccount, hstate, haccountState⟩
  · rintro ⟨hroute, haccount, hstate, haccountState⟩
    exact ⟨(row.routeId, row.route), hroute, row.account, haccount, row.routeState, hstate,
      row.accountState, haccountState, rfl⟩

/-- A route joins at most once. -/
theorem joinedRoutes_unique {db : ControlPlane} {row row' : JoinedRoute}
    (h : row ∈ db.joinedRoutes) (h' : row' ∈ db.joinedRoutes) (hid : row.routeId = row'.routeId) :
    row = row' := by
  obtain ⟨hroute, haccount, hstate, haccountState⟩ := mem_joinedRoutes.mp h
  obtain ⟨hroute', haccount', hstate', haccountState'⟩ := mem_joinedRoutes.mp h'
  obtain ⟨routeId, route, account, routeState, accountState⟩ := row
  obtain ⟨routeId', route', account', routeState', accountState'⟩ := row'
  dsimp only at hid hroute haccount hstate haccountState hroute' haccount' hstate' haccountState'
  subst hid
  rw [hroute, Option.some.injEq] at hroute'
  subst hroute'
  rw [haccount, Option.some.injEq] at haccount'
  rw [hstate, Option.some.injEq] at hstate'
  rw [haccountState, Option.some.injEq] at haccountState'
  rw [haccount', hstate', haccountState']

/-- The parsed reference of an account; the `CHECK` of the column is what parsing accepts. -/
def JoinedRoute.reference (row : JoinedRoute) : CredentialReference :=
  ⟨row.account.credentialRef, row.account.credentialRefCheck⟩

/-- The candidate a joined row is read as. -/
def JoinedRoute.toCandidate (row : JoinedRoute) : RouteCandidate := row.candidate row.reference

theorem JoinedRoute.parse_credentialRef (row : JoinedRoute) :
    CredentialReference.parse row.account.credentialRef = .ok row.reference :=
  CredentialReference.parse_text row.reference

/-- Reading rows as candidates never fails, whatever error text a store has for it. -/
theorem mapM_toCandidate {read : JoinedRoute → Except String RouteCandidate}
    (h : ∀ row, read row = .ok row.toCandidate) (rows : List JoinedRoute) :
    rows.mapM read = .ok (rows.map JoinedRoute.toCandidate) := by
  have hread : read = fun row => pure row.toCandidate := funext h
  rw [hread]
  exact List.mapM_pure

/-! ## The smallest control plane -/

/-- One model with one route on one account that is available. -/
def oneRoute (routeState : StateRow) : ControlPlane where
  gatewayKeys := .empty
  logicalModels := .single "model" true
  providerAccounts := .single "account" ⟨"openai-compatible", "env:KEY", "https://provider.test",
    true, CredentialReference.envKey.wellFormed⟩
  providerRoutes := .single "route" ⟨"model", "account", "upstream", 1, true⟩
  modelFallbacks := .empty
  providerRouteState := .single "route" routeState
  providerAccountState := .single "account" ⟨"available", none, none⟩
  usageAttempts := .empty
  keyHashUnique := by decide
  routePriorityUnique := by decide
  routeReferences := by decide
  fallbackReferences := by decide
  routeStateReferences := by
    intro row hrow
    rw [KeyedTable.mem_single hrow]
    exact of_decide_eq_true rfl
  accountStateReferences := by decide

/-- Its route as a candidate. -/
def onlyRoute : RouteCandidate where
  routeId := "route"
  logicalModel := "model"
  providerAccountId := "account"
  provider := "openai-compatible"
  credentialRef := .envKey
  baseUrl := "https://provider.test"
  upstreamModel := "upstream"
  priority := 1

end ControlPlane

end SmartGateway
