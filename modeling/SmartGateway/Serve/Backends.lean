import SmartGateway.Serve.SnapshotFile
import SmartGateway.Storage.Parity

/-! # The store behind the commands

`Store` is either of the two databases, and every command goes to the one that is there. Both
are given the same calls one after another here, each at the instant of its own clock and, in
PostgreSQL, by any of the processes that share it. Their tables stay the same up to what no
query tells: when an attempt was observed, and that a circuit is half open and not open
(`Mirrors`). So their answers stay the same too, but for one (`backends_agree`): PostgreSQL
offers of the plan of SQLite the closed routes, after at most one that it probes.
-/

namespace SmartGateway

/-! ## Calls -/

/-- What is asked of a store: a key is added under an id and a hash that were drawn. -/
inductive StoreCall where
  | createGatewayKey (id keyHash : String)
  | configure (op : ConfigurationOp)
  | repository (op : RepositoryOp)

abbrev StoreCall.Output : StoreCall → Type
  | .repository op => op.Output
  | _ => Unit

namespace ControlPlane

/-- The key and the hash of a new gateway key are free. -/
def KeyFree (db : ControlPlane) (id keyHash : String) : Prop :=
  db.gatewayKeys.get? id = none ∧ keyHash ∉ db.gatewayKeys.rows.map fun row => row.2.keyHash

instance (db : ControlPlane) (id keyHash : String) : Decidable (db.KeyFree id keyHash) :=
  inferInstanceAs (Decidable (_ ∧ _))

/-- `INSERT INTO gateway_keys`. -/
def addGatewayKey (db : ControlPlane) (id keyHash : String) (h : db.KeyFree id keyHash) :
    ControlPlane :=
  { db with
    gatewayKeys := db.gatewayKeys.append id ⟨keyHash, true⟩ h.1
    keyHashUnique := by
      simp only [KeyedTable.append, List.map_append, List.map_cons, List.map_nil]
      refine List.nodup_append.mpr ⟨db.keyHashUnique, List.nodup_singleton _, ?_⟩
      intro a ha b hb hab
      rw [List.mem_singleton] at hb
      rw [hab, hb] at ha
      exact h.2 ha }

end ControlPlane

namespace Sqlite

/-- As for a route, the `UNIQUE` constraint is looked at before the primary key. -/
def createGatewayKey (db : ControlPlane) (id keyHash : String) : Except String Unit × ControlPlane :=
  if h : db.KeyFree id keyHash then (.ok (), db.addGatewayKey id keyHash h)
  else if keyHash ∈ db.gatewayKeys.rows.map fun row => row.2.keyHash then
    (.error "UNIQUE constraint failed: gateway_keys.key_hash", db)
  else (.error "UNIQUE constraint failed: gateway_keys.id", db)

/-- `Store::Sqlite`, at the instant of the call. -/
def perform (digest : String → String) (now : Int) :
    (call : StoreCall) → ControlPlane → Except String call.Output × ControlPlane
  | .createGatewayKey id keyHash, db => createGatewayKey db id keyHash
  | .configure op, db => configure op db
  | .repository op, db => handle digest now op db

end Sqlite

namespace Postgres

instance (db : Database) (id keyHash : String) : Decidable (db.KeyFree id keyHash) :=
  inferInstanceAs (Decidable (_ ∧ _))

def createGatewayKey (db : Database) (id keyHash : String) : Except String Unit × Database :=
  if h : db.KeyFree id keyHash then (.ok (), db.addGatewayKey id keyHash h)
  else if db.gatewayKeys.get? id = none then
    (.error (violationMessage.duplicateKey "gateway_keys_key_hash_key"), db)
  else (.error (violationMessage.duplicateKey "gateway_keys_pkey"), db)

/-- `Store::Postgres`: the call of a process with these leases. -/
def perform (digest : String → String) (now : Int) (leaseId : String)
    (probeLeases : KeyedTable String String) :
    (call : StoreCall) → Database → Except String call.Output × Database
  | .createGatewayKey id keyHash, db => createGatewayKey db id keyHash
  | .configure op, db => configure op db
  | .repository op, db =>
    let (answer, s) := handle digest now leaseId op ⟨db, probeLeases⟩
    (answer, s.db)

/-- The texts a call of the repository sends. -/
def repositoryTexts : RepositoryOp → List String
  | .authenticate _ => []
  | .candidates logicalModel => [logicalModel]
  | .recordAttempt attempt =>
    [attempt.attemptId.text, attempt.requestId, attempt.routeId] ++ attempt.failureCategory.toList
  | .markRouteSuccess routeId | .markRouteFailure routeId _ => [routeId]
  | .markAccountFailure accountId _ => [accountId]

/-- PostgreSQL can take the arguments of the call: no text holds a NUL, and a priority fits its
column. SQLite can take any. -/
def Portable : StoreCall → Prop
  | .createGatewayKey _ _ => True
  | .configure (.createModel name) => storable [name] = true
  | .configure (.createAccount id provider credentialRef baseUrl) =>
    storable [id, provider, credentialRef, trimEndSlashes baseUrl] = true
  | .configure (.createRoute id logicalModel accountId upstreamModel priority) =>
    storable [id, logicalModel, accountId, upstreamModel] = true ∧ fitsInteger priority = true
  | .configure (.addFallback source target priority) =>
    storable [source, target] = true ∧ fitsInteger priority = true
  | .repository op => storable (repositoryTexts op) = true

end Postgres

/-! ## Tables that mirror each other -/

/-- The state of a route apart from a probe that is out. -/
def StateRow.settled (row : StateRow) : StateRow :=
  if row.state = "half_open" then { row with state := "open" } else row

/-- What an attempt's row says apart from the clock. -/
def AttemptRow.evidence (row : AttemptRow) : String × String × AttemptOutcome × Option String :=
  (row.requestId, row.routeId, row.outcome, row.failureCategory)

/-- SQLite's tables are PostgreSQL's, apart from probes that are out and from clocks. -/
structure Mirrors (db : ControlPlane) (db' : ControlPlane) : Prop where
  gatewayKeys : db.gatewayKeys = db'.gatewayKeys
  logicalModels : db.logicalModels = db'.logicalModels
  providerAccounts : db.providerAccounts = db'.providerAccounts
  providerRoutes : db.providerRoutes = db'.providerRoutes
  modelFallbacks : db.modelFallbacks = db'.modelFallbacks
  accountState : db.providerAccountState = db'.providerAccountState
  routeState : ∀ routeId, db.providerRouteState.get? routeId =
    (db'.providerRouteState.get? routeId).map StateRow.settled
  attempts : ∀ attemptId, (db.usageAttempts.get? attemptId).map AttemptRow.evidence =
    (db'.usageAttempts.get? attemptId).map AttemptRow.evidence

theorem StateRow.settled_of_ne {row : StateRow} (h : row.state ≠ "half_open") :
    row.settled = row := if_neg h

/-- A route that is probed while it is due stays as it was. -/
theorem StateRow.settled_probed {row : StateRow} (h : row.state ∈ ["open", "half_open"]) :
    StateRow.settled { row with state := "half_open" } = row.settled := by
  unfold settled
  rw [if_pos rfl]
  rcases List.mem_pair.mp h with hopen | hhalf
  · rw [if_neg (by rw [hopen]; decide), ← hopen]
  · rw [if_pos hhalf]

/-- What merging does to a row shows in what the row says. -/
theorem AttemptRow.evidence_merge (attempt : AttemptRecord) {row row' : AttemptRow}
    (h : row.evidence = row'.evidence) :
    (ControlPlane.mergeAttempt attempt row).evidence =
      (ControlPlane.mergeAttempt attempt row').evidence := by
  obtain ⟨requestId, routeId, outcome, failureCategory, observedAt⟩ := row
  obtain ⟨requestId', routeId', outcome', failureCategory', observedAt'⟩ := row'
  simp only [evidence, Prod.mk.injEq] at h
  obtain ⟨rfl, rfl, rfl, rfl⟩ := h
  unfold ControlPlane.mergeAttempt
  dsimp only
  split <;> rfl

/-! ## Configuration -/

namespace ControlPlane

/-- The tables after an operation that violates nothing. -/
def configured (db : ControlPlane) : ConfigurationOp → Option ControlPlane
  | .createModel name =>
    if h : db.modelViolation name = none then some (db.addModel name h) else none
  | .createAccount id provider credentialRef baseUrl =>
    match CredentialReference.parse credentialRef with
    | .error _ => none
    | .ok credentialRef =>
      if h : db.accountViolation id = none then
        some (db.addAccount id (accountRow provider credentialRef baseUrl) h)
      else none
  | .createRoute id logicalModel accountId upstreamModel priority =>
    if h : db.routeViolation id (routeRow logicalModel accountId upstreamModel priority) = none then
      some (db.addRoute id (routeRow logicalModel accountId upstreamModel priority) h)
    else none
  | .addFallback source target priority =>
    if h : db.fallbackViolation source target priority.toNat = none then
      some (db.addFallback source target priority.toNat h)
    else none

theorem configured_createAccount (db : ControlPlane) {id provider credentialRef baseUrl : String}
    {reference : CredentialReference}
    (hparse : CredentialReference.parse credentialRef = .ok reference) :
    db.configured (.createAccount id provider credentialRef baseUrl) =
      if h : db.accountViolation id = none then
        some (db.addAccount id (accountRow provider reference baseUrl) h)
      else none := by
  rw [configured, hparse]

end ControlPlane

/-- A store does the inserts of an operation, or refuses it and changes nothing. -/
def Configures (db : ControlPlane) (op : ConfigurationOp) (answer : Except String Unit)
    (db' : ControlPlane) : Prop :=
  (db.configured op = some db' ∧ answer = .ok ()) ∨
    (db.configured op = none ∧ db' = db ∧ ∃ error, answer = .error error)

theorem Sqlite.configures (op : ConfigurationOp) (db : ControlPlane) :
    Configures db op (configure op db).1 (configure op db).2 := by
  cases op with
  | createModel name =>
    rw [configure, createModel]
    split
    · next h => exact Or.inr ⟨by simp [ControlPlane.configured, h], rfl, _, rfl⟩
    · next h => exact Or.inl ⟨dif_pos h, rfl⟩
  | createAccount id provider credentialRef baseUrl =>
    rw [configure, createAccount]
    split
    · next hparse => exact Or.inr ⟨by simp [ControlPlane.configured, hparse], rfl, _, rfl⟩
    next hparse =>
    have hconfigured : db.configured (.createAccount id provider credentialRef baseUrl) = _ :=
      db.configured_createAccount hparse
    split
    · next h => exact Or.inr ⟨hconfigured.trans (dif_neg (by simp [h])), rfl, _, rfl⟩
    · next h => exact Or.inl ⟨hconfigured.trans (dif_pos h), rfl⟩
  | createRoute id logicalModel accountId upstreamModel priority =>
    rw [configure, createRoute]
    split
    · next h => exact Or.inr ⟨by simp [ControlPlane.configured, h], rfl, _, rfl⟩
    · next h => exact Or.inl ⟨dif_pos h, rfl⟩
  | addFallback source target priority =>
    rw [configure, addFallback]
    split
    · next h => exact Or.inr ⟨by simp [ControlPlane.configured, h], rfl, _, rfl⟩
    · next h => exact Or.inl ⟨dif_pos h, rfl⟩

/-- Of the arguments it can take, PostgreSQL refuses no others than SQLite. -/
theorem Postgres.configures {op : ConfigurationOp} (hop : Portable (.configure op))
    (db : Database) :
    Configures db.toControlPlane op (configure op db).1 (configure op db).2.toControlPlane := by
  cases op with
  | createModel name =>
    have hstorable : storable [name] = true := hop
    rw [configure, createModel, if_pos hstorable]
    split
    · next h => exact Or.inr ⟨by simp [ControlPlane.configured, h], rfl, _, rfl⟩
    · next h => exact Or.inl ⟨dif_pos h, rfl⟩
  | createAccount id provider credentialRef baseUrl =>
    rw [configure, createAccount]
    split
    · next hparse => exact Or.inr ⟨by simp [ControlPlane.configured, hparse], rfl, _, rfl⟩
    next reference hparse =>
    have htext : reference.text = credentialRef := CredentialReference.parse_eq_ok.mp hparse
    have hstorable : storable [id, provider, reference.text, trimEndSlashes baseUrl] = true := by
      rw [htext]
      exact hop
    have hconfigured : db.configured (.createAccount id provider credentialRef baseUrl) = _ :=
      db.configured_createAccount hparse
    rw [if_pos hstorable]
    split
    · next h => exact Or.inr ⟨hconfigured.trans (dif_neg (by simp [h])), rfl, _, rfl⟩
    · next h => exact Or.inl ⟨hconfigured.trans (dif_pos h), rfl⟩
  | createRoute id logicalModel accountId upstreamModel priority =>
    rw [configure, createRoute, if_pos hop.2, if_pos hop.1]
    split
    · next h => exact Or.inr ⟨by simp [ControlPlane.configured, h], rfl, _, rfl⟩
    · next h => exact Or.inl ⟨dif_pos h, rfl⟩
  | addFallback source target priority =>
    rw [configure, addFallback, if_pos hop.2, if_pos hop.1]
    split
    · next h => exact Or.inr ⟨by simp [ControlPlane.configured, h], rfl, _, rfl⟩
    · next h => exact Or.inl ⟨dif_pos h, rfl⟩

namespace Mirrors

variable {db db' : ControlPlane}

/-- The same row under the same key. -/
theorem append_congr {κ ν : Type} [DecidableEq κ] {t t' : KeyedTable κ ν} (h : t = t') {k : κ}
    {v : ν} (fresh : t.get? k = none) (fresh' : t'.get? k = none) :
    t.append k v fresh = t'.append k v fresh' := by
  subst h
  rfl

theorem addGatewayKey (h : Mirrors db db') {id keyHash : String} (hfree : db.KeyFree id keyHash)
    (hfree' : db'.KeyFree id keyHash) :
    Mirrors (db.addGatewayKey id keyHash hfree) (db'.addGatewayKey id keyHash hfree') :=
  { h with gatewayKeys := append_congr h.gatewayKeys hfree.1 hfree'.1 }

theorem addModel (h : Mirrors db db') {name : String} (hfits : db.modelViolation name = none)
    (hfits' : db'.modelViolation name = none) :
    Mirrors (db.addModel name hfits) (db'.addModel name hfits') :=
  { h with
    logicalModels := append_congr h.logicalModels (ControlPlane.fresh_of_modelViolation hfits)
      (ControlPlane.fresh_of_modelViolation hfits') }

theorem addAccount (h : Mirrors db db') {id : String} {row : AccountRow}
    (hfits : db.accountViolation id = none) (hfits' : db'.accountViolation id = none) :
    Mirrors (db.addAccount id row hfits) (db'.addAccount id row hfits') :=
  { h with
    providerAccounts := append_congr h.providerAccounts
      (ControlPlane.fresh_of_accountViolation hfits)
      (ControlPlane.fresh_of_accountViolation hfits')
    accountState := by
      show db.providerAccountState.upsert _ _ _ = db'.providerAccountState.upsert _ _ _
      rw [h.accountState] }

theorem addRoute (h : Mirrors db db') {id : String} {row : RouteRow}
    (hfits : db.routeViolation id row = none) (hfits' : db'.routeViolation id row = none) :
    Mirrors (db.addRoute id row hfits) (db'.addRoute id row hfits') :=
  { h with
    providerRoutes := append_congr h.providerRoutes (ControlPlane.fits_of_routeViolation hfits).1
      (ControlPlane.fits_of_routeViolation hfits').1
    routeState := by
      intro routeId
      show (db.providerRouteState.upsert id ⟨"closed", none, none⟩ fun old => old).get? routeId =
        ((db'.providerRouteState.upsert id ⟨"closed", none, none⟩ fun old => old).get?
          routeId).map StateRow.settled
      rw [KeyedTable.get?_upsert, KeyedTable.get?_upsert, h.routeState id, h.routeState routeId]
      split
      · cases db'.providerRouteState.get? id with
        | none => rfl
        | some old => rfl
      · rfl }

theorem addFallback (h : Mirrors db db') {source target : String} {priority : Nat}
    (hfits : db.fallbackViolation source target priority = none)
    (hfits' : db'.fallbackViolation source target priority = none) :
    Mirrors (db.addFallback source target priority hfits)
      (db'.addFallback source target priority hfits') :=
  { h with
    modelFallbacks := append_congr h.modelFallbacks
      (ControlPlane.fits_of_fallbackViolation hfits).1
      (ControlPlane.fits_of_fallbackViolation hfits').1 }

/-- An operation violates the same constraint in both stores. -/
theorem configured (h : Mirrors db db') (op : ConfigurationOp) :
    (db.configured op = none ∧ db'.configured op = none) ∨
      ∃ next next', db.configured op = some next ∧ db'.configured op = some next' ∧
        Mirrors next next' := by
  -- each check reads tables that are the same in both
  cases op with
  | createModel name =>
    have hsame : db.modelViolation name = db'.modelViolation name := by
      rw [ControlPlane.modelViolation, ControlPlane.modelViolation, h.logicalModels]
    by_cases hfits : db.modelViolation name = none
    · have hfits' := hsame.symm.trans hfits
      exact Or.inr ⟨_, _, dif_pos hfits, dif_pos hfits', h.addModel hfits hfits'⟩
    · exact Or.inl ⟨dif_neg hfits, dif_neg (hsame ▸ hfits)⟩
  | createAccount id provider credentialRef baseUrl =>
    have hsame : db.accountViolation id = db'.accountViolation id := by
      rw [ControlPlane.accountViolation, ControlPlane.accountViolation, h.providerAccounts]
    cases hparse : CredentialReference.parse credentialRef with
    | error _ =>
      exact Or.inl ⟨by rw [ControlPlane.configured, hparse],
        by rw [ControlPlane.configured, hparse]⟩
    | ok reference =>
      rw [db.configured_createAccount hparse, db'.configured_createAccount hparse]
      by_cases hfits : db.accountViolation id = none
      · have hfits' := hsame.symm.trans hfits
        exact Or.inr ⟨_, _, dif_pos hfits, dif_pos hfits', h.addAccount hfits hfits'⟩
      · exact Or.inl ⟨dif_neg hfits, dif_neg (hsame ▸ hfits)⟩
  | createRoute id logicalModel accountId upstreamModel priority =>
    have hsame : db.routeViolation id (routeRow logicalModel accountId upstreamModel priority) =
        db'.routeViolation id (routeRow logicalModel accountId upstreamModel priority) := by
      rw [ControlPlane.routeViolation, ControlPlane.routeViolation, h.providerRoutes,
        h.logicalModels, h.providerAccounts]
    by_cases hfits : db.routeViolation id
        (routeRow logicalModel accountId upstreamModel priority) = none
    · have hfits' := hsame.symm.trans hfits
      exact Or.inr ⟨_, _, dif_pos hfits, dif_pos hfits', h.addRoute hfits hfits'⟩
    · exact Or.inl ⟨dif_neg hfits, dif_neg (hsame ▸ hfits)⟩
  | addFallback source target priority =>
    have hsame : db.fallbackViolation source target priority.toNat =
        db'.fallbackViolation source target priority.toNat := by
      rw [ControlPlane.fallbackViolation, ControlPlane.fallbackViolation, h.modelFallbacks,
        h.logicalModels]
    by_cases hfits : db.fallbackViolation source target priority.toNat = none
    · have hfits' := hsame.symm.trans hfits
      exact Or.inr ⟨_, _, dif_pos hfits, dif_pos hfits', h.addFallback hfits hfits'⟩
    · exact Or.inl ⟨dif_neg hfits, dif_neg (hsame ▸ hfits)⟩

/-! ## Marks and attempts -/

/-- One update of a state row that tells nothing of the row before. -/
theorem updateRouteState (h : Mirrors db db') (routeId : String) {row : StateRow}
    (hrow : row.state ≠ "half_open") :
    Mirrors (db.updateRouteState routeId fun _ => row)
      (db'.updateRouteState routeId fun _ => row) :=
  { h with
    routeState := by
      intro other
      show (db.providerRouteState.modify routeId fun _ => row).get? other =
        ((db'.providerRouteState.modify routeId fun _ => row).get? other).map StateRow.settled
      rw [KeyedTable.get?_modify, KeyedTable.get?_modify, h.routeState routeId, h.routeState other]
      split
      · cases db'.providerRouteState.get? routeId with
        | none => rfl
        | some old => exact congrArg some (StateRow.settled_of_ne hrow).symm
      · rfl }

theorem updateAccountState (h : Mirrors db db') (accountId : String) (f : StateRow → StateRow) :
    Mirrors (db.updateAccountState accountId f) (db'.updateAccountState accountId f) :=
  { h with
    accountState := by
      show db.providerAccountState.modify _ _ = db'.providerAccountState.modify _ _
      rw [h.accountState] }

/-- The clocks of the two stores may differ. -/
theorem upsertAttempt (h : Mirrors db db') (now now' : Int) (attempt : AttemptRecord) :
    Mirrors (db.upsertAttempt now attempt) (db'.upsertAttempt now' attempt) :=
  { h with
    attempts := by
      intro attemptId
      have hown := h.attempts attempt.attemptId.text
      unfold ControlPlane.upsertAttempt
      dsimp only
      rw [KeyedTable.get?_upsert, KeyedTable.get?_upsert]
      split
      · cases hrow : db.usageAttempts.get? attempt.attemptId.text with
        | none =>
          rw [hrow] at hown
          rw [Option.map_eq_none_iff.mp hown.symm]
          rfl
        | some row =>
          rw [hrow] at hown
          obtain ⟨row', hrow', hsame⟩ := Option.map_eq_some_iff.mp hown.symm
          rw [hrow']
          exact congrArg some (AttemptRow.evidence_merge attempt hsame.symm)
      · exact h.attempts attemptId }

theorem attemptIdentity (h : Mirrors db db') (attempt : AttemptRecord) :
    db.attemptIdentity attempt = db'.attemptIdentity attempt := by
  have hrows := congrArg (Option.map fun evidence : String × String × _ × _ =>
    decide (evidence.1 = attempt.requestId) && decide (evidence.2.1 = attempt.routeId))
    (h.attempts attempt.attemptId.text)
  rw [Option.map_map, Option.map_map] at hrows
  exact hrows

end Mirrors

/-! ## Plans -/

/-- A joined row apart from a probe that is out. -/
def ControlPlane.JoinedRoute.settled (row : JoinedRoute) : JoinedRoute :=
  { row with routeState := row.routeState.settled }

/-- A due circuit is eligible whether it is probed or not. -/
theorem Sqlite.eligible_settled (now : Int) (row : ControlPlane.JoinedRoute) :
    eligible now row.settled = eligible now row := by
  unfold ControlPlane.JoinedRoute.settled StateRow.settled
  split
  · next hhalf =>
    unfold eligible
    dsimp only [ControlPlane.JoinedRoute.usable]
    rw [hhalf]
    rfl
  · rfl

namespace Mirrors

variable {db : ControlPlane} {db' : Postgres.Database}

/-- The join reads the same rows, apart from probes. -/
theorem joinedRoutes (h : Mirrors db db'.toControlPlane) :
    db.joinedRoutes = db'.joinedRoutes.map ControlPlane.JoinedRoute.settled := by
  unfold ControlPlane.joinedRoutes
  rw [List.map_filterMap, h.providerRoutes]
  apply List.filterMap_congr
  intro row _
  unfold ControlPlane.join
  rw [h.providerAccounts, h.accountState, h.routeState]
  cases db'.providerAccounts.get? row.2.providerAccountId with
  | none => rfl
  | some account =>
    cases db'.providerRouteState.get? row.1 with
    | none => rfl
    | some state =>
      cases db'.providerAccountState.get? row.2.providerAccountId with
      | none => rfl
      | some accountState => rfl

theorem fallbackMap (h : Mirrors db db'.toControlPlane) : db.fallbackMap = db'.fallbackMap := by
  unfold ControlPlane.fallbackMap ControlPlane.fallbackRows
  rw [h.modelFallbacks]

theorem eligibleRoutes (h : Mirrors db db'.toControlPlane) (now : Int) :
    Sqlite.eligibleRoutes db now =
      (db'.joinedRoutes.filter (Sqlite.eligible now)).map
        ControlPlane.JoinedRoute.toCandidate := by
  have hsame : Sqlite.eligible now ∘ ControlPlane.JoinedRoute.settled = Sqlite.eligible now :=
    funext (Sqlite.eligible_settled now)
  unfold Sqlite.eligibleRoutes
  rw [h.joinedRoutes, List.filter_map, hsame, List.map_map]
  rfl

/-- At one second, both planners get the same routes of each model that matters. -/
theorem routesOf (h : Mirrors db db'.toControlPlane) (now : Int) {logicalModel target : String}
    (hreach : FallsBackTo db'.fallbackMap logicalModel target) :
    SmartGateway.routesOf (Sqlite.eligibleRoutes db now) target =
      SmartGateway.routesOf (db'.eligibleCandidates now logicalModel) target := by
  unfold SmartGateway.routesOf
  congr 1
  rw [h.eligibleRoutes, Postgres.Database.eligibleCandidates, Postgres.Database.eligibleRoutes,
    List.filter_map, List.filter_map, List.filter_filter, List.filter_filter]
  congr 1
  apply List.filter_congr
  intro row hrow
  have heligible := Postgres.eligible_eq hrow now
  by_cases hmodel : row.route.logicalModel = target
  · have hreachable : row.route.logicalModel ∈ db'.reachableModels logicalModel := by
      rw [hmodel]
      exact Postgres.mem_reachableModels.mpr hreach
    simp [heligible, hreachable]
  · have hother : ¬ row.toCandidate.logicalModel = target := hmodel
    simp [hother]

theorem candidatePlan (h : Mirrors db db'.toControlPlane) (now : Int) (logicalModel : String) :
    SmartGateway.candidatePlan logicalModel (Sqlite.eligibleRoutes db now) db.fallbackMap =
      SmartGateway.candidatePlan logicalModel (db'.eligibleCandidates now logicalModel)
        db'.fallbackMap := by
  rw [h.fallbackMap]
  exact candidatePlan_congr fun target hreach => h.routesOf now hreach

/-- A closed circuit is closed in both. -/
theorem circuitClosed (h : Mirrors db db'.toControlPlane) (route : RouteCandidate) :
    db.circuitClosed route = db'.circuitClosed route := by
  unfold ControlPlane.circuitClosed
  rw [h.routeState]
  cases db'.providerRouteState.get? route.routeId with
  | none => rfl
  | some row =>
    show decide (row.settled.state = "closed") = decide (row.state = "closed")
    unfold StateRow.settled
    split
    · next hhalf =>
      rw [hhalf]
      rfl
    · rfl

end Mirrors

/-! ## Candidates -/

/-- What PostgreSQL makes of SQLite's answer: the same error, or of the plan the closed routes
after at most one that it probes. -/
inductive CandidatesAlike (closed : RouteCandidate → Bool) :
    Except String (List RouteCandidate) → Except String (List RouteCandidate) → Prop
  | refused (error : String) : CandidatesAlike closed (.error error) (.error error)
  | offered {plan : List RouteCandidate} (probe : Option RouteCandidate)
      (hprobe : ∀ route ∈ probe, route ∈ plan ∧ closed route = false)
      (hsome : probe.toList ++ plan.filter closed ≠ []) :
      CandidatesAlike closed (.ok plan) (.ok (probe.toList ++ plan.filter closed))
  | held {plan : List RouteCandidate} (error : String)
      (hopen : ∀ route ∈ plan, closed route = false) :
      CandidatesAlike closed (.ok plan) (.error error)

namespace Postgres

/-- The states that the plan is read with are those of the table. -/
theorem get?_readStates_plan {s : Session} {now : Int} {logicalModel : String}
    {plan : List RouteCandidate}
    (hplan : candidatePlan logicalModel (s.db.eligibleCandidates now logicalModel)
      s.db.fallbackMap = .ok plan) {route : RouteCandidate} (hroute : route ∈ plan) :
    ∃ state, (readStates (s.db.eligibleRoutes now logicalModel)).get? route.routeId = some state ∧
      (s.db.circuitClosed route = true ↔ state = "closed") := by
  obtain ⟨row, hrow, rfl⟩ := List.mem_map.mp ((mem_candidatePlan hplan route).mp hroute).1
  exact ⟨row.routeState.state, get?_readStates_eligibleRoutes hrow,
    ControlPlane.circuitClosed_toCandidate (List.mem_of_mem_filter hrow)⟩

theorem closedRoutes_plan {s : Session} {now : Int} {logicalModel : String}
    {plan : List RouteCandidate}
    (hplan : candidatePlan logicalModel (s.db.eligibleCandidates now logicalModel)
      s.db.fallbackMap = .ok plan) :
    closedRoutes (readStates (s.db.eligibleRoutes now logicalModel)) plan =
      plan.filter s.db.circuitClosed := by
  apply List.filter_congr
  intro route hroute
  obtain ⟨state, hstate, hclosed⟩ := get?_readStates_plan hplan hroute
  rw [hstate, Bool.eq_iff_iff, hclosed]
  simp

/-- What `candidates` answers without interruption, in terms of the plan. -/
theorem candidatesAlike_plan (digest : String → String) (now : Int) (leaseId logicalModel : String)
    (s : Session) :
    CandidatesAlike s.db.circuitClosed
      ((candidatePlan logicalModel (s.db.eligibleCandidates now logicalModel)
        s.db.fallbackMap).mapError DomainError.message)
      (handle digest now leaseId (.candidates logicalModel) s).1 := by
  have hhandle := handle_candidates digest now leaseId logicalModel s
  cases hplan : candidatePlan logicalModel (s.db.eligibleCandidates now logicalModel)
      s.db.fallbackMap with
  | error error =>
    rw [hplan] at hhandle
    dsimp only at hhandle
    rw [hhandle]
    exact .refused _
  | ok plan =>
    rw [hplan] at hhandle
    obtain ⟨probe, s', hresult, hprobe, -, -⟩ := hhandle
    rw [closedRoutes_plan hplan] at hresult
    have hopen : ∀ route ∈ probe, route ∈ plan ∧ s.db.circuitClosed route = false := by
      intro route hroute
      obtain ⟨hmem, state, hstate, hne⟩ := hprobe route hroute
      obtain ⟨state', hstate', hclosed⟩ := get?_readStates_plan hplan hmem
      rw [hstate, Option.some.injEq] at hstate'
      subst hstate'
      exact ⟨hmem, Bool.eq_false_iff.mpr (mt hclosed.mp hne)⟩
    rw [hresult]
    dsimp only
    by_cases hempty : probe.toList ++ plan.filter s.db.circuitClosed = []
    · -- nothing is closed, and the probes of all routes are out
      rw [if_pos (by rw [hempty]; rfl)]
      refine .held _ fun route hroute => Bool.eq_false_iff.mpr fun hclosed => ?_
      have hmem : route ∈ plan.filter s.db.circuitClosed := List.mem_filter.mpr ⟨hroute, hclosed⟩
      rw [(List.append_eq_nil_iff.mp hempty).2] at hmem
      cases hmem
    · rw [if_neg (by simpa using hempty)]
      exact .offered probe hopen hempty

end Postgres

theorem Mirrors.candidates {db : ControlPlane} {s : Postgres.Session}
    (h : Mirrors db s.db.toControlPlane) (digest : String → String) (now : Int)
    (leaseId logicalModel : String) :
    CandidatesAlike db.circuitClosed (Sqlite.candidates db now logicalModel)
      (Postgres.handle digest now leaseId (.candidates logicalModel) s).1 := by
  rw [Sqlite.candidates_eq, h.candidatePlan, funext h.circuitClosed]
  exact Postgres.candidatesAlike_plan digest now leaseId logicalModel s

/-! ## What stays the same -/

namespace Postgres

/-- What asking for probes leaves alone, beside what `Probed` says. -/
theorem keys_acquireProbe (now : Int) (leaseId routeId : String) (s : Session) :
    (s.acquireProbe now routeId leaseId).2.db.gatewayKeys = s.db.gatewayKeys ∧
      (s.acquireProbe now routeId leaseId).2.db.logicalModels = s.db.logicalModels := by
  rcases s.acquireProbe_cases now routeId leaseId with
    ⟨-, h⟩ | ⟨-, -, h⟩ | ⟨-, -, h⟩ | ⟨_, -, -, -, h⟩
  · rw [h]
    exact ⟨rfl, rfl⟩
  · rw [h]
    exact ⟨rfl, rfl⟩
  · rw [h]
    exact ⟨rfl, rfl⟩
  · rw [h]
    exact ⟨rfl, rfl⟩

theorem keys_candidates (digest : String → String) (now : Int) (leaseId logicalModel : String)
    (s : Session) :
    (handle digest now leaseId (.candidates logicalModel) s).2.db.gatewayKeys = s.db.gatewayKeys ∧
      (handle digest now leaseId (.candidates logicalModel) s).2.db.logicalModels =
        s.db.logicalModels := by
  refine ((always_candidates logicalModel).run_preserves
    (I := fun s' => s'.db.gatewayKeys = s.db.gatewayKeys ∧
      s'.db.logicalModels = s.db.logicalModels) (exec now leaseId) ?_ ⟨rfl, rfl⟩).1
  rintro past op s' ⟨-, ⟨model, rfl⟩ | rfl | ⟨routeId, rfl⟩⟩ ⟨hkeys, hmodels⟩
  · exact ⟨hkeys, hmodels⟩
  · exact ⟨hkeys, hmodels⟩
  · obtain ⟨hkeys', hmodels'⟩ := keys_acquireProbe now leaseId routeId s'
    exact ⟨hkeys'.trans hkeys, hmodels'.trans hmodels⟩

end Postgres

/-- A probe does not show. -/
theorem Mirrors.probed {db : ControlPlane} {db' next : Postgres.Database} {now : Int}
    (h : Mirrors db db'.toControlPlane) (hprobed : Postgres.Probed now db' next)
    (hkeys : next.gatewayKeys = db'.gatewayKeys)
    (hmodels : next.logicalModels = db'.logicalModels) : Mirrors db next.toControlPlane where
  gatewayKeys := h.gatewayKeys.trans hkeys.symm
  logicalModels := h.logicalModels.trans hmodels.symm
  providerAccounts := h.providerAccounts.trans hprobed.accounts.symm
  providerRoutes := h.providerRoutes.trans hprobed.routes.symm
  modelFallbacks := h.modelFallbacks.trans hprobed.fallbacks.symm
  accountState := h.accountState.trans hprobed.accountState.symm
  routeState := by
    intro routeId
    rw [h.routeState]
    rcases hprobed.routeState routeId with hsame | ⟨hdue, hhalf⟩
    · rw [hsame]
    · rw [hhalf, Option.map_map]
      -- a route that is due is open or half open
      cases hrow : db'.providerRouteState.get? routeId with
      | none => rfl
      | some row =>
        rw [Postgres.Database.probeDue, hrow, Bool.and_eq_true, decide_eq_true_eq] at hdue
        exact congrArg some (StateRow.settled_probed hdue.1).symm
  attempts := by
    intro attemptId
    rw [hprobed.attempts]
    exact h.attempts attemptId

/-! ## Runs of both -/

/-- Two answers to a call that was made of both stores when SQLite held these tables. Plans are
compared where both clocks show the same second. -/
def AnswersAlike (db : ControlPlane) (now now' : Int) :
    (call : StoreCall) → Except String call.Output → Except String call.Output → Prop
  | .createGatewayKey _ _, answer, answer' => answer = .ok () ↔ answer' = .ok ()
  | .configure _, answer, answer' => answer = .ok () ↔ answer' = .ok ()
  | .repository (.candidates _), answer, answer' =>
    now = now' → CandidatesAlike db.circuitClosed answer answer'
  | .repository (.authenticate _), answer, answer' => answer = answer'
  | .repository (.recordAttempt _), answer, answer' => answer = answer'
  | .repository (.markRouteSuccess _), answer, answer' => answer = answer'
  | .repository (.markRouteFailure _ _), answer, answer' => answer = answer'
  | .repository (.markAccountFailure _ _), answer, answer' => answer = answer'

/-- A call of both stores, with what each of them needs to know and their answers. -/
structure Exchange where
  call : StoreCall
  now : Int
  now' : Int
  leaseId : String
  probeLeases : KeyedTable String String
  answer : Except String call.Output
  answer' : Except String call.Output

inductive Exchange.Made (digest : String → String) :
    ControlPlane × Postgres.Database → Exchange → ControlPlane × Postgres.Database → Prop where
  | call {db : ControlPlane} {db' : Postgres.Database} (call : StoreCall)
      (hportable : Postgres.Portable call) (now now' : Int) (leaseId : String)
      (probeLeases : KeyedTable String String) :
      Made digest (db, db')
        ⟨call, now, now', leaseId, probeLeases, (Sqlite.perform digest now call db).1,
          (Postgres.perform digest now' leaseId probeLeases call db').1⟩
        ((Sqlite.perform digest now call db).2,
          (Postgres.perform digest now' leaseId probeLeases call db').2)

/-- The two stores side by side, from equal contents on. -/
def backends (digest : String → String) :
    Transition (ControlPlane × Postgres.Database) Exchange where
  Init stores := Mirrors stores.1 stores.2.toControlPlane
  Step := Exchange.Made digest

section Steps

variable {db : ControlPlane} {db' : Postgres.Database}

theorem Mirrors.createGatewayKey (h : Mirrors db db'.toControlPlane) (id keyHash : String) :
    ((Sqlite.createGatewayKey db id keyHash).1 = .ok () ↔
      (Postgres.createGatewayKey db' id keyHash).1 = .ok ()) ∧
    Mirrors (Sqlite.createGatewayKey db id keyHash).2
      (Postgres.createGatewayKey db' id keyHash).2.toControlPlane := by
  have hsame : db.KeyFree id keyHash ↔ db'.KeyFree id keyHash := by
    unfold ControlPlane.KeyFree Postgres.Database.KeyFree
    rw [h.gatewayKeys]
  unfold Sqlite.createGatewayKey Postgres.createGatewayKey
  by_cases hfree : db.KeyFree id keyHash
  · rw [dif_pos hfree, dif_pos (hsame.mp hfree)]
    exact ⟨Iff.rfl, h.addGatewayKey hfree (hsame.mp hfree)⟩
  · rw [dif_neg hfree, dif_neg (mt hsame.mpr hfree)]
    constructor
    · split
      · split <;> simp
      · split <;> simp
    · split
      · split <;> exact h
      · split <;> exact h

theorem Mirrors.configure (h : Mirrors db db'.toControlPlane) {op : ConfigurationOp}
    (hportable : Postgres.Portable (.configure op)) :
    ((Sqlite.configure op db).1 = .ok () ↔ (Postgres.configure op db').1 = .ok ()) ∧
    Mirrors (Sqlite.configure op db).2 (Postgres.configure op db').2.toControlPlane := by
  have hsqlite := Sqlite.configures op db
  have hpostgres := Postgres.configures hportable db'
  rcases h.configured op with ⟨hnone, hnone'⟩ | ⟨next, next', hsome, hsome', hnext⟩
  · rcases hsqlite with ⟨hdone, -⟩ | ⟨-, hsame, error, herror⟩
    · rw [hnone] at hdone
      cases hdone
    rcases hpostgres with ⟨hdone', -⟩ | ⟨-, hsame', error', herror'⟩
    · rw [hnone'] at hdone'
      cases hdone'
    rw [herror, herror', hsame, hsame']
    exact ⟨by simp, h⟩
  · rcases hsqlite with ⟨hdone, hok⟩ | ⟨hrefused, -⟩
    · rcases hpostgres with ⟨hdone', hok'⟩ | ⟨hrefused', -⟩
      · rw [hsome, Option.some.injEq] at hdone
        rw [hsome', Option.some.injEq] at hdone'
        rw [hok, hok', ← hdone, ← hdone']
        exact ⟨Iff.rfl, hnext⟩
      · rw [hsome'] at hrefused'
        cases hrefused'
    · rw [hsome] at hrefused
      cases hrefused

/-- Recording an attempt answers by the identity that is stored then. -/
theorem Mirrors.recordAttempt (h : Mirrors db db'.toControlPlane) (digest : String → String)
    (now now' : Int) (leaseId : String) (probeLeases : KeyedTable String String)
    (attempt : AttemptRecord) :
    (Sqlite.recordAttempt db now attempt).1 =
      (Postgres.handle digest now' leaseId (.recordAttempt attempt) ⟨db', probeLeases⟩).1 := by
  have hupserted := h.upsertAttempt now now' attempt
  have hidentity := hupserted.attemptIdentity attempt
  have hsome : (db'.upsertAttempt now' attempt).attemptIdentity attempt ≠ none := by
    unfold ControlPlane.attemptIdentity ControlPlane.upsertAttempt
    rw [KeyedTable.get?_upsert_self]
    simp
  obtain ⟨identityMatches, hmatches⟩ := Option.ne_none_iff_exists'.mp hsome
  have hupsert : (Postgres.step (.upsertAttempt attempt)).run (Postgres.exec now' leaseId)
      ⟨db', probeLeases⟩ = (.ok (), ⟨db'.upsertUsageAttempt now' attempt, probeLeases⟩) := rfl
  have hread : (db'.upsertUsageAttempt now' attempt).attemptIdentity attempt =
      some identityMatches := hmatches
  show _ = ((Postgres.recordAttempt attempt).run (Postgres.exec now' leaseId) ⟨db', probeLeases⟩).1
  rw [Postgres.recordAttempt, Program.run_andThen_ok hupsert,
    Program.run_andThen_ok (Postgres.run_attemptIdentity_some hread)]
  unfold Sqlite.recordAttempt
  dsimp only
  rw [hidentity, hmatches]
  cases identityMatches <;> rfl

/-- The step lemma: a call is answered alike, and its tables are the same again. -/
theorem Mirrors.call (h : Mirrors db db'.toControlPlane) {digest : String → String}
    {call : StoreCall} (hportable : Postgres.Portable call) (now now' : Int) (leaseId : String)
    (probeLeases : KeyedTable String String) :
    AnswersAlike db now now' call (Sqlite.perform digest now call db).1
      (Postgres.perform digest now' leaseId probeLeases call db').1 ∧
    Mirrors (Sqlite.perform digest now call db).2
      (Postgres.perform digest now' leaseId probeLeases call db').2.toControlPlane := by
  cases call with
  | createGatewayKey id keyHash => exact h.createGatewayKey id keyHash
  | configure op => exact h.configure hportable
  | repository op =>
    cases op with
    | authenticate rawKey =>
      refine ⟨?_, h⟩
      show Except.ok (db.keyEnabled (digest rawKey)) = Except.ok (db'.keyEnabled (digest rawKey))
      rw [ControlPlane.keyEnabled, ControlPlane.keyEnabled, h.gatewayKeys]
    | candidates logicalModel =>
      -- PostgreSQL may take a probe for the plan, which `Mirrors` does not look at
      obtain ⟨hkeys, hmodels⟩ :=
        Postgres.keys_candidates digest now' leaseId logicalModel ⟨db', probeLeases⟩
      refine ⟨?_, h.probed
        (Postgres.probed_candidates digest now' leaseId logicalModel ⟨db', probeLeases⟩)
        hkeys hmodels⟩
      intro hclock
      subst hclock
      have hsession : Mirrors db (Postgres.Session.mk db' probeLeases).db.toControlPlane := h
      exact hsession.candidates digest now leaseId logicalModel
    | recordAttempt attempt =>
      refine ⟨h.recordAttempt digest now now' leaseId probeLeases attempt, ?_⟩
      show Mirrors (Sqlite.recordAttempt db now attempt).2 (Postgres.handle digest now' leaseId
        (.recordAttempt attempt) ⟨db', probeLeases⟩).2.db.toControlPlane
      rw [Sqlite.recordAttempt_tables, Postgres.handle_recordAttempt_tables]
      exact h.upsertAttempt now now' attempt
    | markRouteSuccess routeId =>
      obtain ⟨s', hhandle, htables⟩ :=
        Postgres.handle_markRouteSuccess digest now' leaseId routeId ⟨db', probeLeases⟩
      have hperform : Postgres.perform digest now' leaseId probeLeases
          (.repository (.markRouteSuccess routeId)) db' = (.ok (), s'.db) := by
        rw [Postgres.perform, hhandle]
      rw [hperform, htables]
      exact ⟨rfl, h.updateRouteState routeId (by decide)⟩
    | markRouteFailure routeId failure =>
      obtain ⟨s', hhandle, htables⟩ :=
        Postgres.handle_markRouteFailure digest now' leaseId routeId failure ⟨db', probeLeases⟩
      have hperform : Postgres.perform digest now' leaseId probeLeases
          (.repository (.markRouteFailure routeId failure)) db' = (.ok (), s'.db) := by
        rw [Postgres.perform, hhandle]
      rw [hperform, htables]
      refine ⟨rfl, ?_⟩
      show Mirrors (Sqlite.markRouteFailure db routeId failure) _
      rw [Sqlite.markRouteFailure_eq]
      exact h.updateRouteState routeId (by simp)
    | markAccountFailure accountId failure =>
      obtain ⟨s', hhandle, htables⟩ :=
        Postgres.handle_markAccountFailure digest now' leaseId accountId failure ⟨db', probeLeases⟩
      have hperform : Postgres.perform digest now' leaseId probeLeases
          (.repository (.markAccountFailure accountId failure)) db' = (.ok (), s'.db) := by
        rw [Postgres.perform, hhandle]
      rw [hperform, htables]
      exact ⟨rfl, h.updateAccountState accountId _⟩

end Steps

/-- Tables that mirror each other do so over every run of calls. -/
theorem mirrors_of_reachable {digest : String → String}
    {stores : ControlPlane × Postgres.Database} (h : (backends digest).Reachable stores) :
    Mirrors stores.1 stores.2.toControlPlane := by
  refine h.invariant
    (I := fun stores : ControlPlane × Postgres.Database =>
      Mirrors stores.1 stores.2.toControlPlane) (fun _ hinit => hinit) ?_
  intro stores exchange stores' hmirrors hstep
  cases hstep with
  | call call hportable now now' leaseId probeLeases =>
    exact (hmirrors.call hportable now now' leaseId probeLeases).2

/-- Whatever two stores with equal contents are asked, in any order and at whatever times, as
long as PostgreSQL can take it, they answer alike. -/
theorem backends_agree {digest : String → String} {stores stores' : ControlPlane × Postgres.Database}
    {exchange : Exchange} (h : (backends digest).Reachable stores)
    (hstep : (backends digest).Step stores exchange stores') :
    AnswersAlike stores.1 exchange.now exchange.now' exchange.call exchange.answer
      exchange.answer' := by
  have hmirrors := mirrors_of_reachable h
  cases hstep with
  | call call hportable now now' leaseId probeLeases =>
    exact (hmirrors.call hportable now now' leaseId probeLeases).1

/-- A route that is due is offered by both, in PostgreSQL as the one that it probes. -/
theorem backends_agree_due :
    CandidatesAlike (ControlPlane.oneRoute ⟨"open", some "RateLimited", some 5⟩).circuitClosed
      (Sqlite.candidates (.oneRoute ⟨"open", some "RateLimited", some 5⟩) 7 "model")
      (Postgres.handle id 7 "lease" (.candidates "model")
        (.oneRoute ⟨"open", some "RateLimited", some 5⟩ (by decide))).1 := by
  have hsame : Mirrors (.oneRoute ⟨"open", some "RateLimited", some 5⟩)
      (.oneRoute ⟨"open", some "RateLimited", some 5⟩) := by
    refine ⟨rfl, rfl, rfl, rfl, rfl, rfl, fun routeId => ?_, fun _ => rfl⟩
    show (KeyedTable.single "route" _).get? routeId =
      ((KeyedTable.single "route" _).get? routeId).map StateRow.settled
    cases hrow : (KeyedTable.single "route"
        (⟨"open", some "RateLimited", some 5⟩ : StateRow)).get? routeId with
    | none => rfl
    | some row =>
      have hmem := KeyedTable.mem_single (KeyedTable.get?_eq_some.mp hrow)
      rw [Prod.mk.injEq] at hmem
      rw [hmem.2]
      rfl
  let db' := (Postgres.Session.oneRoute ⟨"open", some "RateLimited", some 5⟩ (by decide)).db
  have hinit : (backends id).Init (.oneRoute ⟨"open", some "RateLimited", some 5⟩, db') := hsame
  have hportable : Postgres.Portable (.repository (.candidates "model")) := by
    show Postgres.storable ["model"] = true
    decide
  exact backends_agree (.init hinit)
    (.call (.repository (.candidates "model")) hportable 7 7 "lease" .empty) rfl

end SmartGateway
