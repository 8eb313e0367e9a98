import SmartGateway.Lib.Transition
import SmartGateway.Runtime.LastKnownGood
import SmartGateway.Storage.FallbackCycles

/-! # Saving the PostgreSQL control plane

At start `serve_postgres` reads the control plane from the database, turns it into a snapshot
and saves that; an error of the save ends the start. `history` is the system of a database
and everything the store does to it, so its reachable states are the databases that the store
can hold.
-/

namespace SmartGateway

namespace Postgres

/-! ## Reading the control plane -/

structure ControlSnapshotData where
  gatewayKeyHashes : List String
  routes : List RouteCandidate
  fallbacks : FallbackMap
  routeStates : KeyedTable String (String × Option Int)
  accountStates : KeyedTable String (String × Option Int)

/-- A row of `provider_routes JOIN provider_accounts`. -/
structure SnapshotRow where
  routeId : String
  route : RouteRow
  account : AccountRow

/-- `credential_reference`. -/
def credentialReference (value : String) : Except String CredentialReference :=
  match CredentialReference.parse value with
  | .error _ => .error "invalid credential reference in PostgreSQL configuration"
  | .ok reference => .ok reference

/-- The row mapping of the route query. The column has no negative priority, the other error
of the mapping. -/
def SnapshotRow.read (row : SnapshotRow) : Except String RouteCandidate := do
  let credentialRef ← credentialReference row.account.credentialRef
  return {
    routeId := row.routeId
    logicalModel := row.route.logicalModel
    providerAccountId := row.route.providerAccountId
    provider := row.account.provider
    credentialRef
    baseUrl := row.account.baseUrl
    upstreamModel := row.route.upstreamModel
    priority := row.route.priority }

namespace Database

/-- The account of an enabled route, if it is enabled too. -/
def snapshotRow (db : Database) (routeId : String) (route : RouteRow) : Option SnapshotRow := do
  let account ← db.providerAccounts.get? route.providerAccountId
  if route.enabled && account.enabled then some { routeId, route, account } else none

def snapshotRows (db : Database) : List SnapshotRow :=
  db.providerRoutes.rows.filterMap fun row => db.snapshotRow row.1 row.2

/-- The result of `control_snapshot_data`, its queries at one instant. -/
def controlSnapshotData (db : Database) : Except String ControlSnapshotData := do
  let routes ← db.snapshotRows.mapM SnapshotRow.read
  return {
    gatewayKeyHashes := (db.gatewayKeys.rows.filter fun row => row.2.enabled).map
      fun row => row.2.keyHash
    routes
    fallbacks := db.fallbackMap
    routeStates := db.providerRouteState.mapValues fun row => (row.state, row.retryAt)
    accountStates := db.providerAccountState.mapValues fun row => (row.state, row.retryAt) }

end Database

end Postgres

/-- The states of `control_snapshot`. -/
def snapshotStates (states : KeyedTable String (String × Option Int)) :
    KeyedTable String SnapshotState :=
  states.mapValues fun row => { state := row.1, retryAtUnix := row.2 }

def controlSnapshot (data : Postgres.ControlSnapshotData) : ControlSnapshot where
  gatewayKeyHashes := data.gatewayKeyHashes.toFinset
  routes := data.routes
  fallbacks := data.fallbacks
  routeStates := snapshotStates data.routeStates
  accountStates := snapshotStates data.accountStates

/-- The `LastKnownGoodSnapshot` of `serve_postgres`. -/
def lastKnownGood (codec : SnapshotCodec) : LastKnownGoodSnapshot ControlSnapshot :=
  { codec with toValue := ControlSnapshot.toValue, ofValue := ControlSnapshot.ofValue }

namespace Postgres

/-! ## The databases the store can hold -/

namespace Database

/-- The key and the hash of a new gateway key are free. -/
def KeyFree (db : Database) (id keyHash : String) : Prop :=
  db.gatewayKeys.get? id = none ∧ keyHash ∉ db.gatewayKeys.rows.map fun row => row.2.keyHash

/-- `INSERT INTO gateway_keys`. -/
def addGatewayKey (db : Database) (id keyHash : String) (h : db.KeyFree id keyHash) : Database :=
  { db with
    gatewayKeys := db.gatewayKeys.append id ⟨keyHash, true⟩ h.1
    keyHashUnique := by
      simp only [KeyedTable.append, List.map_append, List.map_cons, List.map_nil]
      refine List.nodup_append.mpr ⟨db.keyHashUnique, List.nodup_singleton _, ?_⟩
      intro a ha b hb hab
      rw [List.mem_singleton] at hb
      rw [hab, hb] at ha
      exact h.2 ha }

end Database

/-- The retry time of a failure is an `i64`. -/
def Op.Fits : Op → Prop
  | .openRoute _ failure | .blockAccount _ failure => ∀ retryAt ∈ failure.retryAtUnix, IsI64 retryAt
  | _ => True

/-- What the store does to a database: it configures it, adds a gateway key, or makes a step
of a repository method, in a process with any leases. -/
inductive StoreStep where
  | configure (op : ConfigurationOp)
  | createGatewayKey (id keyHash : String)
  | perform (now : Int) (leaseId : String) (op : Op) (probeLeases : KeyedTable String String)

inductive StoreStep.Does : Database → StoreStep → Database → Prop where
  | configure (db : Database) (op : ConfigurationOp) :
      Does db (.configure op) (Postgres.configure op db).2
  | createGatewayKey (db : Database) (id keyHash : String) (h : db.KeyFree id keyHash) :
      Does db (.createGatewayKey id keyHash) (db.addGatewayKey id keyHash h)
  | perform (db : Database) (now : Int) (leaseId : String) (op : Op)
      (probeLeases : KeyedTable String String) (h : op.Fits) :
      Does db (.perform now leaseId op probeLeases) (exec now leaseId op ⟨db, probeLeases⟩).2.db

/-- A database from its creation on. -/
def history : Transition Database StoreStep where
  Init db := db = .empty
  Step := StoreStep.Does

end Postgres

/-! ## What the tables hold -/

namespace ControlPlane

/-- The integers are in the ranges of the types they are read as, and no route and no account
is without a state. -/
structure Stored (db : ControlPlane) : Prop where
  priorities : ∀ row ∈ db.providerRoutes.rows, row.2.priority < UInt32.size
  routeRetries : ∀ row ∈ db.providerRouteState.rows, ∀ retryAt ∈ row.2.retryAt, IsI64 retryAt
  accountRetries : ∀ row ∈ db.providerAccountState.rows, ∀ retryAt ∈ row.2.retryAt, IsI64 retryAt
  routeStates : ∀ row ∈ db.providerRoutes.rows, db.providerRouteState.get? row.1 ≠ none
  accountStates : ∀ row ∈ db.providerAccounts.rows, db.providerAccountState.get? row.1 ≠ none

theorem stored_empty : ControlPlane.empty.Stored where
  priorities _ hrow := nomatch hrow
  routeRetries _ hrow := nomatch hrow
  accountRetries _ hrow := nomatch hrow
  routeStates _ hrow := nomatch hrow
  accountStates _ hrow := nomatch hrow

theorem retries_modify {table : KeyedTable String StateRow} {key : String}
    {f : StateRow → StateRow}
    (h : ∀ row ∈ table.rows, ∀ retryAt ∈ row.2.retryAt, IsI64 retryAt)
    (hf : ∀ row, (∀ retryAt ∈ row.retryAt, IsI64 retryAt) →
      ∀ retryAt ∈ (f row).retryAt, IsI64 retryAt) :
    ∀ row ∈ (table.modify key f).rows, ∀ retryAt ∈ row.2.retryAt, IsI64 retryAt := by
  intro row hrow
  rcases KeyedTable.mem_modify hrow with hold | ⟨old, hold, rfl⟩
  · exact h row hold
  · exact hf old (h (key, old) hold)

/-- A new state row has no retry time. -/
theorem retries_upsert {table : KeyedTable String StateRow} {key state : String}
    (h : ∀ row ∈ table.rows, ∀ retryAt ∈ row.2.retryAt, IsI64 retryAt) :
    ∀ row ∈ (table.upsert key ⟨state, none, none⟩ fun old => old).rows,
      ∀ retryAt ∈ row.2.retryAt, IsI64 retryAt := by
  intro row hrow
  unfold KeyedTable.upsert at hrow
  split at hrow
  · rcases KeyedTable.mem_append hrow with hold | rfl
    · exact h row hold
    · intro retryAt hretryAt
      cases hretryAt
  · exact retries_modify h (fun _ hold => hold) row hrow

/-- A row and its state are inserted together. -/
theorem states_insert {ν : Type} {table : KeyedTable String ν} {states : KeyedTable String StateRow}
    {key : String} {v : ν} {state : StateRow} (fresh : table.get? key = none)
    (h : ∀ row ∈ table.rows, states.get? row.1 ≠ none) :
    ∀ row ∈ (table.append key v fresh).rows,
      (states.upsert key state fun old => old).get? row.1 ≠ none := by
  intro row hrow
  rw [KeyedTable.get?_upsert]
  split
  · simp
  · next hkey =>
    rcases KeyedTable.mem_append hrow with hold | rfl
    · exact h row hold
    · exact absurd rfl hkey

theorem states_modify {ν : Type} {table : KeyedTable String ν} {states : KeyedTable String StateRow}
    {key : String} {f : StateRow → StateRow} (h : ∀ row ∈ table.rows, states.get? row.1 ≠ none) :
    ∀ row ∈ table.rows, (states.modify key f).get? row.1 ≠ none := by
  intro row hrow
  exact KeyedTable.get?_modify_ne_none (h row hrow)

theorem Accepted.stored {db db' : ControlPlane} {op : ConfigurationOp}
    (h : db.Accepted op db') (hstored : db.Stored) : db'.Stored := by
  cases h with
  | model h => exact { hstored with }
  | account h =>
    exact { hstored with
      accountRetries := retries_upsert hstored.accountRetries
      accountStates := states_insert (fresh_of_accountViolation h) hstored.accountStates }
  | @route id logicalModel accountId upstreamModel priority h =>
    refine { hstored with
      priorities := ?_
      routeRetries := retries_upsert hstored.routeRetries
      routeStates := states_insert (fits_of_routeViolation h).1 hstored.routeStates }
    intro row hrow
    have hmem : row ∈ (db.providerRoutes.append id
        (routeRow logicalModel accountId upstreamModel priority)
        (fits_of_routeViolation h).1).rows := hrow
    rcases KeyedTable.mem_append hmem with hold | rfl
    · exact hstored.priorities row hold
    · exact priority.toNat_lt
  | fallback h => exact { hstored with }

theorem Stored.updateRouteState {db : ControlPlane} (h : db.Stored) {routeId : String}
    {f : StateRow → StateRow} (hf : ∀ row, (∀ retryAt ∈ row.retryAt, IsI64 retryAt) →
      ∀ retryAt ∈ (f row).retryAt, IsI64 retryAt) : (db.updateRouteState routeId f).Stored :=
  { h with
    routeRetries := retries_modify h.routeRetries hf
    routeStates := states_modify h.routeStates }

theorem Stored.updateAccountState {db : ControlPlane} (h : db.Stored) {accountId : String}
    {f : StateRow → StateRow} (hf : ∀ row, (∀ retryAt ∈ row.retryAt, IsI64 retryAt) →
      ∀ retryAt ∈ (f row).retryAt, IsI64 retryAt) : (db.updateAccountState accountId f).Stored :=
  { h with
    accountRetries := retries_modify h.accountRetries hf
    accountStates := states_modify h.accountStates }

end ControlPlane

namespace Postgres

theorem stored_configure {db : Database} (op : ConfigurationOp) (h : db.Stored) :
    (configure op db).2.Stored := by
  rcases configure_cases op db with ⟨error, hrefused⟩ | ⟨db', haccepted, hstep⟩
  · rw [hrefused]
    exact h
  · rw [haccepted]
    exact hstep.stored h

/-- A state row that a step changes gets the retry time of a failure, none, or the one it
had. -/
theorem stored_exec {db : Database} {op : Op} (hop : op.Fits) (h : db.Stored) (now : Int)
    (leaseId : String) (probeLeases : KeyedTable String String) :
    (exec now leaseId op ⟨db, probeLeases⟩).2.db.Stored := by
  cases op with
  | closeRoute routeId => exact h.updateRouteState fun _ _ retryAt hretryAt => nomatch hretryAt
  | openRoute routeId failure => exact h.updateRouteState fun _ _ => hop
  | blockAccount accountId failure => exact h.updateAccountState fun _ _ => hop
  | acquireProbe routeId =>
    rw [exec, Session.acquireProbe]
    split
    · exact h
    split
    · exact h
    · exact h
    next db' hgranted =>
    unfold Database.acquireProbe at hgranted
    split at hgranted
    next hroute =>
      split at hgranted
      · split at hgranted
        · cases hgranted
          exact h.updateRouteState fun _ hold => hold
        · cases hgranted
      · cases hgranted
    · cases hgranted
  | attemptIdentity attempt =>
    rw [exec]
    split
    · exact h
    · exact h
  | _ => exact { h with }

theorem stored_of_reachable {db : Database} (h : history.Reachable db) : db.Stored := by
  refine h.invariant (I := fun db : Database => db.Stored) ?_ ?_
  · rintro db rfl
    exact ControlPlane.stored_empty
  · intro db step db' hstored hstep
    cases hstep with
    | configure op => exact stored_configure op hstored
    | createGatewayKey id keyHash h => exact { hstored with }
    | perform now leaseId op probeLeases hop => exact stored_exec hop hstored now leaseId probeLeases

/-! ## The snapshot of a database -/

/-- The candidate a row is read as. -/
def SnapshotRow.candidate (row : SnapshotRow) : RouteCandidate where
  routeId := row.routeId
  logicalModel := row.route.logicalModel
  providerAccountId := row.route.providerAccountId
  provider := row.account.provider
  credentialRef := ⟨row.account.credentialRef, row.account.credentialRefCheck⟩
  baseUrl := row.account.baseUrl
  upstreamModel := row.route.upstreamModel
  priority := row.route.priority

theorem SnapshotRow.read_eq (row : SnapshotRow) : row.read = .ok row.candidate := by
  have hparse : credentialReference row.account.credentialRef = .ok row.candidate.credentialRef := by
    unfold credentialReference
    have htext := CredentialReference.parse_text row.candidate.credentialRef
    rw [candidate] at htext ⊢
    rw [htext]
  unfold SnapshotRow.read
  rw [hparse]
  rfl

namespace Database

/-- What `control_snapshot_data` returns. -/
def snapshotData (db : Database) : ControlSnapshotData where
  gatewayKeyHashes := (db.gatewayKeys.rows.filter fun row => row.2.enabled).map
    fun row => row.2.keyHash
  routes := db.snapshotRows.map SnapshotRow.candidate
  fallbacks := db.fallbackMap
  routeStates := db.providerRouteState.mapValues fun row => (row.state, row.retryAt)
  accountStates := db.providerAccountState.mapValues fun row => (row.state, row.retryAt)

theorem controlSnapshotData_eq (db : Database) : db.controlSnapshotData = .ok db.snapshotData := by
  have hroutes : db.snapshotRows.mapM SnapshotRow.read =
      .ok (db.snapshotRows.map SnapshotRow.candidate) := by
    rw [show SnapshotRow.read = fun row => pure row.candidate from funext SnapshotRow.read_eq]
    exact List.mapM_pure
  unfold controlSnapshotData
  rw [hroutes]
  rfl

theorem mem_snapshotRows {db : Database} {row : SnapshotRow} (h : row ∈ db.snapshotRows) :
    (row.routeId, row.route) ∈ db.providerRoutes.rows := by
  obtain ⟨source, hsource, hrow⟩ := List.mem_filterMap.mp h
  unfold snapshotRow at hrow
  obtain ⟨account, -, henabled⟩ := Option.bind_eq_some_iff.mp hrow
  split at henabled
  · cases henabled
    exact hsource
  · cases henabled

end Database

theorem fits_snapshotStates {states : KeyedTable String StateRow}
    (h : ∀ row ∈ states.rows, ∀ retryAt ∈ row.2.retryAt, IsI64 retryAt) :
    ∀ row ∈ (snapshotStates (states.mapValues fun row => (row.state, row.retryAt))).rows,
      row.2.Fits := by
  intro row hrow
  simp only [snapshotStates, KeyedTable.mapValues, List.map_map] at hrow
  obtain ⟨source, hsource, rfl⟩ := List.mem_map.mp hrow
  exact h source hsource

/-- The numbers of the snapshot of a stored database are in their ranges. -/
theorem fits_controlSnapshot {db : Database} (h : db.Stored) :
    (controlSnapshot db.snapshotData).Fits where
  routes := by
    intro route hroute
    obtain ⟨row, hrow, rfl⟩ := List.mem_map.mp hroute
    exact h.priorities _ (Database.mem_snapshotRows hrow)
  routeStates := fits_snapshotStates h.routeRetries
  accountStates := fits_snapshotStates h.accountRetries

/-- No route, no account and no model with fallbacks has the name of a sensitive field. -/
structure Database.NamesAllowed (db : Database) : Prop where
  routes : ∀ row ∈ db.providerRoutes.rows, row.1 ∉ sensitiveFields
  accounts : ∀ row ∈ db.providerAccounts.rows, row.1 ∉ sensitiveFields
  sources : ∀ row ∈ db.modelFallbacks.rows, row.1.1 ∉ sensitiveFields

/-- The names of a state table are those of the table it refers to. -/
theorem forall_states_iff {ν : Type} {table : KeyedTable String ν}
    {states : KeyedTable String StateRow}
    (hreferences : ∀ row ∈ states.rows, table.get? row.1 ≠ none)
    (hstates : ∀ row ∈ table.rows, states.get? row.1 ≠ none) {P : String → Prop} :
    (∀ row ∈ (snapshotStates (states.mapValues fun row => (row.state, row.retryAt))).rows,
      P row.1) ↔ ∀ row ∈ table.rows, P row.1 := by
  simp only [snapshotStates, KeyedTable.mapValues, List.map_map, List.forall_mem_map,
    Function.comp_apply]
  constructor
  · intro h row hrow
    obtain ⟨state, hstate⟩ := Option.ne_none_iff_exists'.mp (hstates row hrow)
    exact h (row.1, state) (KeyedTable.get?_eq_some.mp hstate)
  · intro h row hrow
    obtain ⟨v, hv⟩ := Option.ne_none_iff_exists'.mp (hreferences row hrow)
    exact h (row.1, v) (KeyedTable.get?_eq_some.mp hv)

theorem mem_sources {db : Database} {source : String} :
    source ∈ db.fallbackMap.rows.map Prod.fst ↔
      ∃ priority target, ((source, priority), target) ∈ db.modelFallbacks.rows := by
  rw [KeyedTable.mem_keys, ControlPlane.fallbackMap, KeyedTable.get?_group]
  constructor
  · intro h
    have hne : KeyedTable.valuesAt db.fallbackRows source ≠ [] := by
      intro hnil
      exact h (if_pos hnil)
    obtain ⟨target, htarget⟩ := List.exists_mem_of_ne_nil _ hne
    obtain ⟨priority, hrow⟩ :=
      ControlPlane.mem_fallbackRows.mp (KeyedTable.mem_valuesAt.mp htarget)
    exact ⟨priority, target, hrow⟩
  · rintro ⟨priority, target, hrow⟩
    have hmem : target ∈ KeyedTable.valuesAt db.fallbackRows source :=
      KeyedTable.mem_valuesAt.mpr (ControlPlane.mem_fallbackRows.mpr ⟨priority, hrow⟩)
    rw [if_neg (List.ne_nil_of_mem hmem)]
    simp

theorem forall_sources_iff {P : String → Prop} (db : Database) :
    (∀ row ∈ db.fallbackMap.rows, P row.1) ↔ ∀ row ∈ db.modelFallbacks.rows, P row.1.1 := by
  constructor
  · intro h row hrow
    obtain ⟨entry, hentry, hkey⟩ := List.mem_map.mp (mem_sources.mpr ⟨row.1.2, row.2, hrow⟩)
    rw [← hkey]
    exact h entry hentry
  · intro h entry hentry
    obtain ⟨priority, target, hrow⟩ :=
      mem_sources.mp (List.mem_map_of_mem (f := Prod.fst) hentry)
    exact h _ hrow

/-- The scan passes the control plane of a stored database exactly when its names are
allowed. -/
theorem harmless_controlSnapshot_iff {db : Database} (h : db.Stored) :
    Harmless (controlSnapshot db.snapshotData).toValue ↔ db.NamesAllowed := by
  have hroutes := forall_states_iff (P := fun name => name ∉ sensitiveFields)
    db.routeStateReferences h.routeStates
  have haccounts := forall_states_iff (P := fun name => name ∉ sensitiveFields)
    db.accountStateReferences h.accountStates
  have hsources := forall_sources_iff (P := fun name => name ∉ sensitiveFields) db
  refine (ControlSnapshot.harmless_iff _).trans ?_
  constructor
  · intro hnames
    exact ⟨hroutes.mp hnames.2.1, haccounts.mp hnames.2.2, hsources.mp hnames.1⟩
  · intro hnames
    exact ⟨hsources.mpr hnames.sources, hroutes.mpr hnames.routes, haccounts.mpr hnames.accounts⟩

end Postgres

/-! ## The round trip -/

/-- The control plane of any database the store can hold is saved and loaded back, as far as
`serde_json` parses what it prints, exactly when no route, no account and no model with
fallbacks has the name of a sensitive field. -/
theorem control_snapshot_round_trip_iff {db : Postgres.Database}
    (h : Postgres.history.Reachable db) (codec : SnapshotCodec)
    (hprint : ∀ data, db.controlSnapshotData = .ok data →
      (lastKnownGood codec).PrintsBack (controlSnapshot data)) (file : Option String) :
    (∃ data, db.controlSnapshotData = .ok data ∧
      (lastKnownGood codec).RoundTrips ControlSnapshot.Same (controlSnapshot data) file) ↔
      db.NamesAllowed := by
  have hstored := Postgres.stored_of_reachable h
  have hdata := db.controlSnapshotData_eq
  have hread := (Postgres.fits_controlSnapshot hstored).ofValue_toValue
  have hiff := LastKnownGoodSnapshot.roundTrips_iff (lastKnownGood codec) (hprint _ hdata) hread
    (ControlSnapshot.sorted_same _) file
  rw [← Postgres.harmless_controlSnapshot_iff hstored]
  constructor
  · rintro ⟨data, hresult, htrip⟩
    rw [hdata] at hresult
    cases hresult
    exact hiff.mp htrip
  · intro hharmless
    exact ⟨_, hdata, hiff.mpr hharmless⟩

namespace Postgres

theorem reachable_run (ops : List ConfigurationOp) : history.Reachable (configurable.run ops) := by
  induction ops using List.reverseRecOn with
  | nil => exact .init rfl
  | append_singleton ops op ih =>
    rw [ConfigurableStore.run_snoc]
    exact ih.step (.configure _ op)

/-- Two models, the second as the fallback of the first. -/
def fallbackPair (source target : String) : Database :=
  configurable.run [.createModel source, .createModel target, .addFallback source target 1]

theorem reachable_fallbackPair (source target : String) :
    history.Reachable (fallbackPair source target) := reachable_run _

/-- The text and the digest of the snapshot of `fallbackPair "a" "b"`. -/
def fallbackPairCodec : SnapshotCodec :=
  .ofText (controlSnapshot (fallbackPair "a" "b").snapshotData).toValue
    ("\x7b\"account_states\":\x7b\x7d,\"fallbacks\":\x7b\"a\":[\"b\"]\x7d,\"gateway_" ++
      "key_hashes\":[],\"route_states\":\x7b\x7d,\"routes\":[]\x7d")
    "3a130c3a37951f7b47c8a8dbf1b7a116339349de1ed84a0dd089816a01b70488"

end Postgres

theorem fallback_pair_round_trips :
    ∃ data, (Postgres.fallbackPair "a" "b").controlSnapshotData = .ok data ∧
      (lastKnownGood Postgres.fallbackPairCodec).RoundTrips ControlSnapshot.Same
        (controlSnapshot data) none := by
  apply (control_snapshot_round_trip_iff (Postgres.reachable_fallbackPair "a" "b") _ ?_ none).mpr
  · exact ⟨by decide +kernel, by decide +kernel, by decide +kernel⟩
  · intro data hdata
    rw [Postgres.Database.controlSnapshotData_eq] at hdata
    cases hdata
    rfl

theorem prompt_fallback_rejected :
    rejectSensitiveFields (controlSnapshot (Postgres.fallbackPair "prompt" "chat").snapshotData).toValue =
      .error "snapshot contains forbidden sensitive field `prompt`" := by
  decide +kernel

/-- A model `prompt` with a fallback: its name is taken for a field of the snapshot. -/
theorem prompt_fallback_not_saved :
    Postgres.history.Reachable (Postgres.fallbackPair "prompt" "chat") ∧
    ∀ codec file data, (Postgres.fallbackPair "prompt" "chat").controlSnapshotData = .ok data →
      (lastKnownGood codec).save (controlSnapshot data) file =
        (.error "snapshot contains forbidden sensitive field `prompt`", file) ∧
      ¬ (lastKnownGood codec).RoundTrips ControlSnapshot.Same (controlSnapshot data) file := by
  refine ⟨Postgres.reachable_fallbackPair "prompt" "chat", ?_⟩
  intro codec file data hdata
  rw [Postgres.Database.controlSnapshotData_eq] at hdata
  cases hdata
  have hsave := (lastKnownGood codec).save_rejected prompt_fallback_rejected file
  refine ⟨hsave, ?_⟩
  rintro ⟨hsaved, -⟩
  rw [hsave] at hsaved
  cases hsaved

end SmartGateway
