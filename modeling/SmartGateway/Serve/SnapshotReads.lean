import SmartGateway.Lib.Ownership
import SmartGateway.Serve.SnapshotFile

/-! # Reading the control plane while it changes

`control_snapshot_data` makes five queries, one after the other and in no transaction, and other
processes change the database between them: what is read need not be a state that the database
ever had. The tables only grow, though, and the states are read after the routes, so it lies
between the database before and after, with a state for each route.
-/

namespace SmartGateway

/-! ## What the tables keep -/

namespace ControlPlane

/-- No key, account, route or fallback changes or goes away, and no state. -/
structure Grows (db db' : ControlPlane) : Prop where
  keys : ∀ row ∈ db.gatewayKeys.rows, row ∈ db'.gatewayKeys.rows
  accounts : ∀ row ∈ db.providerAccounts.rows, row ∈ db'.providerAccounts.rows
  routes : ∀ row ∈ db.providerRoutes.rows, row ∈ db'.providerRoutes.rows
  fallbacks : ∀ row ∈ db.modelFallbacks.rows, row ∈ db'.modelFallbacks.rows
  routeStates : ∀ id, db.providerRouteState.get? id ≠ none → db'.providerRouteState.get? id ≠ none
  accountStates : ∀ id,
    db.providerAccountState.get? id ≠ none → db'.providerAccountState.get? id ≠ none

theorem Grows.refl (db : ControlPlane) : db.Grows db :=
  ⟨fun _ h => h, fun _ h => h, fun _ h => h, fun _ h => h, fun _ h => h, fun _ h => h⟩

theorem Grows.trans {db db' db'' : ControlPlane} (h : db.Grows db') (h' : db'.Grows db'') :
    db.Grows db'' where
  keys row hrow := h'.keys row (h.keys row hrow)
  accounts row hrow := h'.accounts row (h.accounts row hrow)
  routes row hrow := h'.routes row (h.routes row hrow)
  fallbacks row hrow := h'.fallbacks row (h.fallbacks row hrow)
  routeStates id hid := h'.routeStates id (h.routeStates id hid)
  accountStates id hid := h'.accountStates id (h.accountStates id hid)

theorem get?_upsert_ne_none {table : KeyedTable String StateRow} {key : String} {row : StateRow}
    (id : String) (h : table.get? id ≠ none) :
    (table.upsert key row fun old => old).get? id ≠ none :=
  KeyedTable.get?_upsert_ne_none_iff.mpr (Or.inl h)

/-- The operations that configure a store only add rows. -/
theorem Accepted.grows {db db' : ControlPlane} {op : ConfigurationOp} (h : db.Accepted op db') :
    db.Grows db' := by
  have hsame := Grows.refl db
  cases h with
  | model h => exact { hsame with }
  | account h =>
    exact { hsame with
      accounts := fun row hrow => List.mem_append_left _ hrow
      accountStates := get?_upsert_ne_none }
  | route h =>
    exact { hsame with
      routes := fun row hrow => List.mem_append_left _ hrow
      routeStates := get?_upsert_ne_none }
  | fallback h => exact { hsame with fallbacks := fun row hrow => List.mem_append_left _ hrow }

theorem grows_updateRouteState (db : ControlPlane) (routeId : String) (f : StateRow → StateRow) :
    db.Grows (db.updateRouteState routeId f) :=
  { Grows.refl db with routeStates := fun _ h => KeyedTable.get?_modify_ne_none h }

theorem grows_updateAccountState (db : ControlPlane) (accountId : String)
    (f : StateRow → StateRow) : db.Grows (db.updateAccountState accountId f) :=
  { Grows.refl db with accountStates := fun _ h => KeyedTable.get?_modify_ne_none h }

theorem Grows.keyEnabled {db db' : ControlPlane} (h : db.Grows db') {keyHash : String}
    (hkey : db.keyEnabled keyHash = true) : db'.keyEnabled keyHash = true := by
  obtain ⟨row, hrow, henabled⟩ := List.any_eq_true.mp hkey
  exact List.any_eq_true.mpr ⟨row, h.keys row hrow, henabled⟩

theorem Grows.fallbackEdge {db db' : ControlPlane} (h : db.Grows db') {source target : String}
    (hedge : db.FallbackEdge source target) : db'.FallbackEdge source target := by
  obtain ⟨priority, hrow⟩ := fallbackEdge_iff.mp hedge
  exact fallbackEdge_iff.mpr ⟨priority, h.fallbacks _ hrow⟩

end ControlPlane

namespace Postgres

theorem grows_configure (op : ConfigurationOp) (db : Database) :
    db.Grows (configure op db).2.toControlPlane := by
  rcases configure_cases op db with ⟨error, hrefused⟩ | ⟨db', haccepted, hstep⟩
  · rw [hrefused]
    exact .refl _
  · rw [haccepted]
    exact hstep.grows

theorem grows_exec (now : Int) (leaseId : String) (op : Op) (db : Database)
    (probeLeases : KeyedTable String String) :
    db.Grows (exec now leaseId op ⟨db, probeLeases⟩).2.db.toControlPlane := by
  cases op with
  | closeRoute routeId => exact ControlPlane.grows_updateRouteState _ _ _
  | openRoute routeId failure => exact ControlPlane.grows_updateRouteState _ _ _
  | blockAccount accountId failure => exact ControlPlane.grows_updateAccountState _ _ _
  | acquireProbe routeId =>
    rw [exec]
    rcases Session.acquireProbe_granted_or ⟨db, probeLeases⟩ now routeId leaseId with
      ⟨answer, hsame, -⟩ | ⟨hroute, -, -, -, hgranted⟩
    · rw [hsame]
      exact .refl _
    · rw [hgranted]
      exact ControlPlane.grows_updateRouteState _ _ _
  | attemptIdentity attempt =>
    rw [exec]
    split
    · exact .refl _
    · exact .refl _
  | upsertAttempt attempt => exact { ControlPlane.Grows.refl db.toControlPlane with }
  | _ => exact .refl _

theorem StoreStep.Does.grows {db db' : Database} {step : StoreStep} (h : step.Does db db') :
    db.Grows db'.toControlPlane := by
  cases h with
  | configure op => exact grows_configure op db
  | createGatewayKey id keyHash h =>
    exact { ControlPlane.Grows.refl db.toControlPlane with
      keys := fun row hrow => List.mem_append_left _ hrow }
  | perform now leaseId op probeLeases h => exact grows_exec now leaseId op db probeLeases

namespace Database

theorem mem_snapshotRows_iff {db : Database} {row : SnapshotRow} :
    row ∈ db.snapshotRows ↔ (row.routeId, row.route) ∈ db.providerRoutes.rows ∧
      (row.route.providerAccountId, row.account) ∈ db.providerAccounts.rows ∧
      (row.route.enabled && row.account.enabled) = true := by
  constructor
  · intro h
    obtain ⟨source, hsource, hrow⟩ := List.mem_filterMap.mp h
    unfold snapshotRow at hrow
    obtain ⟨account, haccount, henabled⟩ := Option.bind_eq_some_iff.mp hrow
    split at henabled
    next hboth =>
      cases henabled
      exact ⟨hsource, KeyedTable.get?_eq_some.mp haccount, hboth⟩
    · cases henabled
  · rintro ⟨hroute, haccount, henabled⟩
    refine List.mem_filterMap.mpr ⟨_, hroute, ?_⟩
    unfold snapshotRow
    rw [KeyedTable.get?_eq_some.mpr haccount]
    exact if_pos henabled

theorem mem_snapshotRows_of_grows {db db' : Database} (h : db.Grows db'.toControlPlane)
    {row : SnapshotRow} (hrow : row ∈ db.snapshotRows) : row ∈ db'.snapshotRows := by
  obtain ⟨hroute, haccount, henabled⟩ := mem_snapshotRows_iff.mp hrow
  exact mem_snapshotRows_iff.mpr ⟨h.routes _ hroute, h.accounts _ haccount, henabled⟩

end Database

/-! ## Reading the control plane, query by query -/

inductive SnapshotQuery where
  | gatewayKeys
  | routes
  | fallbacks
  | routeStates
  | accountStates
deriving DecidableEq

abbrev SnapshotQuery.Rows : SnapshotQuery → Type
  | .gatewayKeys => List String
  | .routes => List SnapshotRow
  | .fallbacks => List (String × String)
  | .routeStates | .accountStates => KeyedTable String (String × Option Int)

abbrev snapshotQueries : Signature := ⟨SnapshotQuery, fun query => Except String query.Rows⟩

def Database.select (db : Database) : (query : SnapshotQuery) → query.Rows
  | .gatewayKeys => (db.gatewayKeys.rows.filter fun row => row.2.enabled).map
      fun row => row.2.keyHash
  | .routes => db.snapshotRows
  | .fallbacks => db.fallbackRows
  | .routeStates => db.providerRouteState.mapValues fun row => (row.state, row.retryAt)
  | .accountStates => db.providerAccountState.mapValues fun row => (row.state, row.retryAt)

abbrev select (query : SnapshotQuery) :
    Program snapshotQueries (Except String query.Rows) :=
  Program.perform (S := snapshotQueries) query

/-- `control_snapshot_data`. -/
def readControlSnapshot : Program snapshotQueries (Except String ControlSnapshotData) :=
  (select .gatewayKeys).andThen fun gatewayKeyHashes =>
  (select .routes).andThen fun rows =>
  (Program.pure (rows.mapM SnapshotRow.read)).andThen fun routes =>
  (select .fallbacks).andThen fun fallbackRows =>
  (select .routeStates).andThen fun routeStates =>
  (select .accountStates).andThen fun accountStates =>
  .pure (.ok {
    gatewayKeyHashes, routes, fallbacks := KeyedTable.group fallbackRows
    routeStates, accountStates })

theorem mapM_read (rows : List SnapshotRow) :
    rows.mapM SnapshotRow.read = .ok (rows.map SnapshotRow.candidate) := by
  rw [show SnapshotRow.read = fun row => pure row.candidate from funext SnapshotRow.read_eq]
  exact List.mapM_pure

/-- The database answers each query with what it holds at that instant. -/
def answerQuery (query : SnapshotQuery) (db : Database) : Except String query.Rows × Database :=
  (.ok (db.select query), db)

/-- On a database that does not change the queries return its control plane. -/
theorem run_readControlSnapshot (db : Database) :
    readControlSnapshot.run (S := snapshotQueries) answerQuery db =
      (db.controlSnapshotData, db) := by
  unfold readControlSnapshot
  simp only [mapM_read]
  rw [db.controlSnapshotData_eq]
  rfl

/-- What a process reads while others work with the database; each query can fail. -/
def reading : Concurrent snapshotQueries Database Unit where
  Ret _ := Except String ControlSnapshotData
  body _ := readControlSnapshot
  Effect _ query db answer db' :=
    db' = db ∧ (answer = .ok (db.select query) ∨ ∃ error, answer = .error error)
  Ambient db ended db' := (∃ step : StoreStep, step.Does db db') ∧ ∀ name, ¬ ended name

/-- The states are read after the routes. -/
def RoutesFirst (past : List (Event snapshotQueries)) (query : SnapshotQuery) : Prop :=
  query = .routes → ∀ e ∈ past, e.op = .gatewayKeys

/-- The data is put together from the answers. -/
structure ReadFrom (past : List (Event snapshotQueries)) (data : ControlSnapshotData) : Prop where
  keys : ⟨.gatewayKeys, .ok data.gatewayKeyHashes⟩ ∈ past
  routes : ∃ rows, ⟨.routes, .ok rows⟩ ∈ past ∧ data.routes = rows.map SnapshotRow.candidate
  fallbacks : ∃ pairs, ⟨.fallbacks, .ok pairs⟩ ∈ past ∧ data.fallbacks = KeyedTable.group pairs
  routeStates : ⟨.routeStates, .ok data.routeStates⟩ ∈ past
  accountStates : ⟨.accountStates, .ok data.accountStates⟩ ∈ past

theorem always_readControlSnapshot :
    readControlSnapshot.Always RoutesFirst
      (fun past result => ∀ data, result = .ok data → ReadFrom past data) [] := by
  have herror : ∀ (past : List (Event snapshotQueries)) (error : String),
      ∀ data, (.error error : Except String ControlSnapshotData) = .ok data →
        ReadFrom past data := by
    intro past error data hdata
    cases hdata
  unfold readControlSnapshot
  simp only [mapM_read]
  refine ⟨?_, fun answer => ?_⟩
  · intro hquery
    cases hquery
  rcases answer with error | keys
  · exact herror _ error
  -- the routes come right after the keys, before any other query
  refine ⟨?_, fun answer => ?_⟩
  · intro _ e he
    rw [List.mem_singleton.mp he]
  rcases answer with error | rows
  · exact herror _ error
  refine ⟨?_, fun answer => ?_⟩
  · intro hquery
    cases hquery
  rcases answer with error | pairs
  · exact herror _ error
  refine ⟨?_, fun answer => ?_⟩
  · intro hquery
    cases hquery
  rcases answer with error | routeStates
  · exact herror _ error
  refine ⟨?_, fun answer => ?_⟩
  · intro hquery
    cases hquery
  rcases answer with error | accountStates
  · exact herror _ error
  rintro data ⟨⟩
  exact ⟨by simp, ⟨rows, by simp, rfl⟩, ⟨pairs, by simp, rfl⟩, by simp, by simp⟩

/-! ## What was read stays true -/

/-- What a process knows from the answers to its queries. -/
structure Knows (past : List (Event snapshotQueries)) (db : Database) : Prop where
  keys : ∀ hashes, ⟨.gatewayKeys, .ok hashes⟩ ∈ past → ∀ keyHash ∈ hashes,
    db.keyEnabled keyHash = true
  routes : ∀ rows, ⟨.routes, .ok rows⟩ ∈ past → ∀ row ∈ rows, row ∈ db.snapshotRows
  fallbacks : ∀ pairs, ⟨.fallbacks, .ok pairs⟩ ∈ past → ∀ pair ∈ pairs,
    db.FallbackEdge pair.1 pair.2
  routeStates : ∀ states, ⟨.routeStates, .ok states⟩ ∈ past →
    (∀ row ∈ states.rows, ∀ retryAt ∈ row.2.2, IsI64 retryAt) ∧
    ∀ rows, ⟨.routes, .ok rows⟩ ∈ past → ∀ row ∈ rows, states.get? row.routeId ≠ none
  accountStates : ∀ states, ⟨.accountStates, .ok states⟩ ∈ past →
    (∀ row ∈ states.rows, ∀ retryAt ∈ row.2.2, IsI64 retryAt) ∧
    ∀ rows, ⟨.routes, .ok rows⟩ ∈ past → ∀ row ∈ rows,
      states.get? row.route.providerAccountId ≠ none

theorem Knows.grows {past : List (Event snapshotQueries)} {db db' : Database} (h : Knows past db)
    (hgrows : db.Grows db'.toControlPlane) : Knows past db' where
  keys hashes he keyHash hkey := hgrows.keyEnabled (h.keys hashes he keyHash hkey)
  routes rows he row hrow :=
    Database.mem_snapshotRows_of_grows hgrows (h.routes rows he row hrow)
  fallbacks pairs he pair hpair := hgrows.fallbackEdge (h.fallbacks pairs he pair hpair)
  routeStates := h.routeStates
  accountStates := h.accountStates

theorem Knows.nil (db : Database) : Knows [] db where
  keys _ he := by cases he
  routes _ he := by cases he
  fallbacks _ he := by cases he
  routeStates _ he := by cases he
  accountStates _ he := by cases he

/-- A query that fails tells nothing. -/
theorem Knows.failed {past : List (Event snapshotQueries)} {db : Database} (h : Knows past db)
    (query : SnapshotQuery) (error : String) : Knows (past ++ [⟨query, .error error⟩]) db := by
  have hmem : ∀ (query' : SnapshotQuery) rows, (⟨query', .ok rows⟩ : Event snapshotQueries) ∈
      past ++ [⟨query, .error error⟩] → ⟨query', .ok rows⟩ ∈ past := by
    intro query' rows he
    rcases List.mem_append.mp he with hearlier | hnow
    · exact hearlier
    · cases List.mem_singleton.mp hnow
  refine ⟨fun hashes he => h.keys hashes (hmem _ _ he), fun rows he => h.routes rows (hmem _ _ he),
    fun pairs he => h.fallbacks pairs (hmem _ _ he), ?_, ?_⟩
  · intro states he
    obtain ⟨hretries, hstates⟩ := h.routeStates states (hmem _ _ he)
    exact ⟨hretries, fun rows he => hstates rows (hmem _ _ he)⟩
  · intro states he
    obtain ⟨hretries, hstates⟩ := h.accountStates states (hmem _ _ he)
    exact ⟨hretries, fun rows he => hstates rows (hmem _ _ he)⟩

theorem mem_answered {past : List (Event snapshotQueries)} {db : Database}
    {query query' : SnapshotQuery} {rows : query'.Rows}
    (h : ⟨query', .ok rows⟩ ∈ past ++ [(⟨query, .ok (db.select query)⟩ : Event snapshotQueries)]) :
    ⟨query', .ok rows⟩ ∈ past ∨ query' = query ∧ rows = db.select query' := by
  rcases List.mem_append.mp h with hearlier | hnow
  · exact Or.inl hearlier
  · cases List.mem_singleton.mp hnow
    exact Or.inr ⟨rfl, rfl⟩

/-- The states of a table that has a state for each row of another one. -/
theorem selected_states {ν : Type} {table : KeyedTable String ν}
    {states : KeyedTable String StateRow}
    (hretries : ∀ row ∈ states.rows, ∀ retryAt ∈ row.2.retryAt, IsI64 retryAt)
    (hstates : ∀ row ∈ table.rows, states.get? row.1 ≠ none) :
    (∀ row ∈ (states.mapValues fun row => (row.state, row.retryAt)).rows,
      ∀ retryAt ∈ row.2.2, IsI64 retryAt) ∧
    ∀ row ∈ table.rows,
      (states.mapValues fun row => (row.state, row.retryAt)).get? row.1 ≠ none := by
  constructor
  · intro row hrow
    obtain ⟨source, hsource, rfl⟩ := List.mem_map.mp hrow
    exact hretries source hsource
  · intro row hrow
    rw [KeyedTable.get?_mapValues, Ne, Option.map_eq_none_iff]
    exact hstates row hrow

/-- An answer is true when it is given, and there is a state for each route that was read
before. -/
theorem Knows.answered {past : List (Event snapshotQueries)} {db : Database} (h : Knows past db)
    (hstored : db.Stored) {query : SnapshotQuery} (hfirst : RoutesFirst past query) :
    Knows (past ++ [⟨query, .ok (db.select query)⟩]) db := by
  have hroutes := selected_states hstored.routeRetries hstored.routeStates
  have haccounts := selected_states hstored.accountRetries hstored.accountStates
  have hknown : ∀ rows, (⟨.routes, .ok rows⟩ : Event snapshotQueries) ∈
      past ++ [⟨query, .ok (db.select query)⟩] → ∀ row ∈ rows, row ∈ db.snapshotRows := by
    intro rows he
    rcases mem_answered he with hearlier | ⟨-, rfl⟩
    · exact h.routes rows hearlier
    · exact fun row hrow => hrow
  -- the routes are not read any more once states are
  have hearlier : ∀ query', query' ≠ .gatewayKeys → ∀ answer : Except String query'.Rows,
      ⟨query', answer⟩ ∈ past → ∀ rows, (⟨.routes, .ok rows⟩ : Event snapshotQueries) ∈
        past ++ [⟨query, .ok (db.select query)⟩] → ⟨.routes, .ok rows⟩ ∈ past := by
    intro query' hne answer hread rows he
    rcases mem_answered he with hearlier | ⟨rfl, -⟩
    · exact hearlier
    · exact absurd (hfirst rfl _ hread) hne
  refine ⟨?_, hknown, ?_, ?_, ?_⟩
  · intro hashes he keyHash hkey
    rcases mem_answered he with hearlier | ⟨-, rfl⟩
    · exact h.keys hashes hearlier keyHash hkey
    · obtain ⟨row, hrow, rfl⟩ := List.mem_map.mp hkey
      obtain ⟨hmem, henabled⟩ := List.mem_filter.mp hrow
      exact List.any_eq_true.mpr ⟨row, hmem, by simpa using henabled⟩
  · intro pairs he pair hpair
    rcases mem_answered he with hearlier | ⟨-, rfl⟩
    · exact h.fallbacks pairs hearlier pair hpair
    · exact ControlPlane.fallbackEdge_iff.mpr (ControlPlane.mem_fallbackRows.mp hpair)
  · intro states he
    rcases mem_answered he with hread | ⟨-, rfl⟩
    · obtain ⟨hretries, hstates⟩ := h.routeStates states hread
      exact ⟨hretries, fun rows hrows => hstates rows (hearlier _ (by simp) _ hread rows hrows)⟩
    · refine ⟨hroutes.1, fun rows hrows row hrow => ?_⟩
      exact hroutes.2 _ (Database.mem_snapshotRows (hknown rows hrows row hrow))
  · intro states he
    rcases mem_answered he with hread | ⟨-, rfl⟩
    · obtain ⟨hretries, hstates⟩ := h.accountStates states hread
      exact ⟨hretries, fun rows hrows => hstates rows (hearlier _ (by simp) _ hread rows hrows)⟩
    · refine ⟨haccounts.1, fun rows hrows row hrow => ?_⟩
      exact haccounts.2 _ (Database.mem_snapshotRows_iff.mp (hknown rows hrows row hrow)).2.1

/-- A process that reads relies on the tables growing. -/
theorem owned_reading : reading.Owned (fun _ => True) (fun _ => (none : Option Empty))
    (fun _ _ => True) (fun db => history.Reachable db) (fun _ => Knows) (fun _ => RoutesFirst) where
  body _ _ := ⟨_, always_readControlSnapshot⟩
  start _ db _ _ := .nil db
  fresh := by
    rintro name query db answer db' ⟨rfl, -⟩
    refine ⟨fun _ _ => trivial, ?_⟩
    intro t ht
    cases ht
  effect := by
    rintro name past query db answer db' - hreachable hknows - hfirst ⟨rfl, hanswer⟩
    refine ⟨hreachable, ?_⟩
    rcases hanswer with rfl | ⟨error, rfl⟩
    · exact hknows.answered (stored_of_reachable hreachable) hfirst
    · exact hknows.failed query error
  apart := by
    rintro name past query db answer db' name' past' - - - - - ⟨rfl, -⟩ hknows -
    exact hknows
  ambient := by
    rintro db ended db' hreachable ⟨⟨step, hstep⟩, -⟩
    exact ⟨hreachable.step hstep, fun _ _ => trivial,
      fun name past _ _ hknows => hknows.grows hstep.grows⟩

/-! ## The data of a finished read -/

/-- What is in the data is in the database, and there is a state for each of its routes. -/
structure ControlSnapshotData.Reflects (data : ControlSnapshotData) (db : Database) : Prop where
  keys : ∀ keyHash ∈ data.gatewayKeyHashes, db.keyEnabled keyHash = true
  routes : ∀ route ∈ data.routes, ∃ row ∈ db.snapshotRows, route = row.candidate
  fallbacks : ∀ source target, target ∈ nextModels data.fallbacks source →
    db.FallbackEdge source target
  states : ∀ route ∈ data.routes, data.routeStates.get? route.routeId ≠ none ∧
    data.accountStates.get? route.providerAccountId ≠ none
  retries : (∀ row ∈ data.routeStates.rows, ∀ retryAt ∈ row.2.2, IsI64 retryAt) ∧
    ∀ row ∈ data.accountStates.rows, ∀ retryAt ∈ row.2.2, IsI64 retryAt

theorem ControlSnapshotData.Reflects.grows {data : ControlSnapshotData} {db db' : Database}
    (h : data.Reflects db) (hgrows : db.Grows db'.toControlPlane) : data.Reflects db' where
  keys keyHash hkey := hgrows.keyEnabled (h.keys keyHash hkey)
  routes route hroute := by
    obtain ⟨row, hrow, heq⟩ := h.routes route hroute
    exact ⟨row, Database.mem_snapshotRows_of_grows hgrows hrow, heq⟩
  fallbacks source target htarget := hgrows.fallbackEdge (h.fallbacks source target htarget)
  states := h.states
  retries := h.retries

theorem Knows.reflects {past : List (Event snapshotQueries)} {db : Database} (h : Knows past db)
    {data : ControlSnapshotData} (hdata : ReadFrom past data) : data.Reflects db := by
  obtain ⟨rows, hrows, hroutes⟩ := hdata.routes
  obtain ⟨pairs, hpairs, hfallbacks⟩ := hdata.fallbacks
  have hmem : ∀ route ∈ data.routes, ∃ row ∈ rows, row.candidate = route := by
    intro route hroute
    rw [hroutes] at hroute
    exact List.mem_map.mp hroute
  refine ⟨h.keys _ hdata.keys, ?_, ?_, ?_, (h.routeStates _ hdata.routeStates).1,
    (h.accountStates _ hdata.accountStates).1⟩
  · intro route hroute
    obtain ⟨row, hrow, rfl⟩ := hmem route hroute
    exact ⟨row, h.routes rows hrows row hrow, rfl⟩
  · intro source target htarget
    rw [hfallbacks, nextModels, KeyedTable.getD_group, KeyedTable.mem_valuesAt] at htarget
    exact h.fallbacks pairs hpairs _ htarget
  · intro route hroute
    obtain ⟨row, hrow, rfl⟩ := hmem route hroute
    exact ⟨(h.routeStates _ hdata.routeStates).2 rows hrows row hrow,
      (h.accountStates _ hdata.accountStates).2 rows hrows row hrow⟩

/-! ## What a read finds at the least -/

/-- What the database had when a process started to read is in an answer. -/
def FoundIn (db : Database) : Event snapshotQueries → Prop
  | ⟨.gatewayKeys, .ok hashes⟩ => ∀ keyHash, db.keyEnabled keyHash = true → keyHash ∈ hashes
  | ⟨.routes, .ok rows⟩ => ∀ row ∈ db.snapshotRows, row ∈ rows
  | ⟨.fallbacks, .ok pairs⟩ => ∀ source target, db.FallbackEdge source target →
    (source, target) ∈ pairs
  | _ => True

theorem foundIn_select {db db' : Database} (h : db.Grows db'.toControlPlane)
    (query : SnapshotQuery) : FoundIn db ⟨query, .ok (db'.select query)⟩ := by
  cases query with
  | gatewayKeys =>
    intro keyHash hkey
    obtain ⟨row, hrow, hmatch⟩ := List.any_eq_true.mp (h.keyEnabled hkey)
    obtain ⟨hhash, henabled⟩ := (Bool.and_eq_true _ _).mp hmatch
    exact List.mem_map.mpr
      ⟨row, List.mem_filter.mpr ⟨hrow, henabled⟩, of_decide_eq_true hhash⟩
  | routes => exact fun row hrow => Database.mem_snapshotRows_of_grows h hrow
  | fallbacks =>
    intro source target hedge
    exact ControlPlane.mem_fallbackRows.mpr
      (ControlPlane.fallbackEdge_iff.mp (h.fallbackEdge hedge))
  | _ => exact trivial

/-- One process finds what was there when it started, whatever the others do. -/
theorem guarantee_reading (id : ℕ) (db : Database) :
    reading.Guarantee (fun _ => True) (fun _ _ _ => True) (fun db' => db.Grows db'.toControlPlane)
      (fun id' _ e _ => id' = id → FoundIn db e) (fun _ => RoutesFirst) where
  body _ _ := ⟨_, always_readControlSnapshot⟩
  effect := by
    rintro id' name past query s answer s' hgrows - - ⟨rfl, hanswer⟩ -
    refine ⟨hgrows, fun _ => ?_, fun _ _ _ h => h⟩
    rcases hanswer with rfl | ⟨error, rfl⟩
    · exact foundIn_select hgrows query
    · cases query <;> exact trivial
  ambient := by
    rintro s ended s' hgrows ⟨⟨step, hstep⟩, -⟩
    exact ⟨hgrows.trans hstep.grows, fun _ _ _ _ h => h⟩

/-- What is in the database is in the data. -/
structure ControlSnapshotData.Covers (data : ControlSnapshotData) (db : Database) : Prop where
  keys : ∀ keyHash, db.keyEnabled keyHash = true → keyHash ∈ data.gatewayKeyHashes
  routes : ∀ row ∈ db.snapshotRows, row.candidate ∈ data.routes
  fallbacks : ∀ source target, db.FallbackEdge source target →
    target ∈ nextModels data.fallbacks source

theorem ReadFrom.covers {past : List (Event snapshotQueries)} {data : ControlSnapshotData}
    {db : Database} (hdata : ReadFrom past data) (h : ∀ e ∈ past, FoundIn db e) :
    data.Covers db := by
  obtain ⟨rows, hrows, hroutes⟩ := hdata.routes
  obtain ⟨pairs, hpairs, hfallbacks⟩ := hdata.fallbacks
  refine ⟨h _ hdata.keys, ?_, ?_⟩
  · intro row hrow
    rw [hroutes]
    exact List.mem_map_of_mem (h _ hrows row hrow)
  · intro source target hedge
    rw [hfallbacks, nextModels, KeyedTable.getD_group, KeyedTable.mem_valuesAt]
    exact h _ hpairs source target hedge

theorem grows_of_read {w w' : Concurrent.World reading}
    {l : Concurrent.Label reading} (h : reading.Step w l w') :
    w.shared.Grows w'.shared.toControlPlane := by
  cases h with
  | call _ heffect =>
    obtain ⟨rfl, -⟩ := heffect
    exact .refl _
  | ambient hambient =>
    obtain ⟨⟨step, hstep⟩, -⟩ := hambient
    exact hstep.grows
  | _ => exact .refl _

/-- What holds while processes read and others work with the database. -/
abbrev SeparateReads (w : Concurrent.World reading) : Prop :=
  reading.Separate (fun _ => True) (fun _ => (none : Option Empty)) (fun _ _ => True)
    (fun db => history.Reachable db) (fun _ => Knows) w

/-- The data of a read is true of the database when the read ends. -/
theorem reflects_of_finish {w w' : Concurrent.World reading} (hw : SeparateReads w) {id : ℕ}
    {data : ControlSnapshotData} (hstep : reading.Step w (.finish id () (.ok data)) w') :
    data.Reflects w.shared := by
  cases hstep with
  | finish hflight =>
    have hread := always_readControlSnapshot.path (hw.path _ _ hflight)
    rw [List.nil_append] at hread
    exact (hw.known _ _ hflight).reflects (hread _ rfl)

def reads : Transition (Concurrent.World reading) (Concurrent.Label reading) :=
  reading.toTransition (· = .empty)

variable {w₀ w₁ w : Concurrent.World reading} {ls ls' : List (Concurrent.Label reading)}

theorem grows_of_reads (hrun : reads.Steps w ls w₁) : w.shared.Grows w₁.shared.toControlPlane := by
  induction hrun with
  | refl => exact .refl _
  | tail _ hstep ih => exact ih.trans (grows_of_read hstep)

theorem separate_of_reads (hinit : reads.Init w₀) (hrun : reads.Steps w₀ ls w) :
    SeparateReads w :=
  owned_reading.steps hrun (fun _ _ _ => trivial) (.of_idle (.init hinit.1) hinit.2.2)

/-- What a process reads lies between the database when it starts to read and the database ever
after, whatever other processes do in the meantime. -/
theorem read_between (hinit : reads.Init w₀) (hbefore : reads.Steps w₀ ls w₁) {id : ℕ}
    {data : ControlSnapshotData} (hafter : reads.Steps w₁ (.start id () :: ls') w)
    (hfinish : .finish id () (.ok data) ∈ ls') :
    data.Covers w₁.shared ∧ data.Reflects w.shared := by
  have hseparate := separate_of_reads hinit hbefore
  obtain ⟨w₂, hstart, hrest⟩ := hafter.uncons
  constructor
  · -- the process knows nothing yet, and what it is answered from now on covers the database
    have hconsistent : reading.Consistent (fun db' => w₁.shared.Grows db'.toControlPlane)
        (fun id' _ e _ => id' = id → FoundIn w₁.shared e) w₂ := by
      cases hstart with
      | start =>
        refine ⟨.refl _, ?_, ?_⟩
        · intro id' f hf
          rcases Concurrent.update_cases hf with ⟨-, rfl⟩ | ⟨-, hold⟩
          · exact .refl _
          · exact hseparate.path id' f hold
        · rintro id' f hf e he rfl
          rcases Concurrent.update_cases hf with ⟨-, rfl⟩ | ⟨hne, -⟩
          · cases he
          · exact absurd rfl hne
    obtain ⟨past, hdata, hfound⟩ := (guarantee_reading id w₁.shared).finished hrest
      (fun _ _ _ => trivial) hconsistent (fun _ _ _ => trivial)
      (fun _ _ _ hambient => hambient.2 ()) hfinish fun _ => always_readControlSnapshot
    exact (hdata data rfl).covers fun e he => hfound e he rfl
  · obtain ⟨middle, later, rfl⟩ := List.append_of_mem hfinish
    obtain ⟨t, t', hmiddle, hlast, hlater⟩ := hrest.split
    have hrun := (hbefore.tail hstart).append hmiddle
    have hreflects := reflects_of_finish (separate_of_reads hinit hrun) hlast
    exact hreflects.grows ((grows_of_read hlast).trans (grows_of_reads hlater))

/-! A key and a route are created while the control plane is read. -/

def idleReads : Concurrent.World reading := ⟨.empty, 0, fun _ => none⟩

theorem init_idleReads : reads.Init idleReads := ⟨rfl, rfl, fun _ => rfl⟩

/-- A database is configured while nothing is read. -/
theorem steps_configure (ops : List ConfigurationOp) :
    ∃ ls, reads.Steps idleReads ls ⟨configurable.run ops, 0, fun _ => none⟩ ∧
      ∀ l ∈ ls, l = .ambient := by
  induction ops using List.reverseRecOn with
  | nil => exact ⟨[], .refl _, fun l hl => absurd hl List.not_mem_nil⟩
  | append_singleton ops op ih =>
    obtain ⟨ls, hsteps, hls⟩ := ih
    have hambient : reading.Ambient (configurable.run ops) (fun _ => False)
        (configurable.run (ops ++ [op])) := by
      rw [ConfigurableStore.run_snoc]
      exact ⟨⟨_, .configure _ op⟩, fun _ => not_false⟩
    have hstep : reads.Step ⟨configurable.run ops, 0, fun _ => none⟩ .ambient
        ⟨configurable.run (ops ++ [op]), 0, fun _ => none⟩ := by
      refine .ambient hambient rfl ?_
      intro id f hf
      cases hf
    refine ⟨ls ++ [.ambient], hsteps.tail hstep, ?_⟩
    intro l hl
    rcases List.mem_append.mp hl with hearlier | hlast
    · exact hls l hearlier
    · exact List.mem_singleton.mp hlast

/-- A model with one route, and a key, which is stored as its digest. -/
def oneRoute : Database :=
  configurable.run [.createModel "model", .createAccount "account" "openai" "env:KEY" "https://host",
    .createRoute "first" "model" "account" "upstream" 1]

def firstHash : String := "3bd59d24e372a8558630c96647c913ec304d205065519b26ee8820212a8dd899"

def laterHash : String := "67f4a513e4bf3b1902800174213ae79a3b1b64cc2de64f040014b65a2e6f9688"

theorem first_free : oneRoute.KeyFree "key" firstHash := ⟨rfl, List.not_mem_nil⟩

def oneKey : Database := oneRoute.addGatewayKey "key" firstHash first_free

theorem exists_oneKey : ∃ ls, reads.Steps idleReads ls ⟨oneKey, 0, fun _ => none⟩ ∧
    ∀ l ∈ ls, l = .ambient := by
  obtain ⟨ls, hsteps, hls⟩ : ∃ ls, reads.Steps idleReads ls ⟨oneRoute, 0, fun _ => none⟩ ∧
      ∀ l ∈ ls, l = .ambient :=
    steps_configure _
  have hambient : reading.Ambient oneRoute (fun _ => False) oneKey :=
    ⟨⟨_, .createGatewayKey oneRoute "key" firstHash first_free⟩, fun _ => not_false⟩
  have hstep : reads.Step ⟨oneRoute, 0, fun _ => none⟩ .ambient ⟨oneKey, 0, fun _ => none⟩ := by
    refine .ambient hambient rfl ?_
    intro id f hf
    cases hf
  refine ⟨ls ++ [.ambient], hsteps.tail hstep, ?_⟩
  intro l hl
  rcases List.mem_append.mp hl with hearlier | hlast
  · exact hls l hearlier
  · exact List.mem_singleton.mp hlast

theorem later_free : oneKey.KeyFree "later" laterHash := ⟨rfl, by decide +kernel⟩

def twoKeys : Database := oneKey.addGatewayKey "later" laterHash later_free

/-- The database with a second key and a second route. -/
def twoRoutes : Database :=
  (configure (.createRoute "second" "model" "account" "upstream" 2) twoKeys).2

theorem quietly_twoRoutes : reading.Quietly oneKey twoRoutes :=
  .tail (.single ⟨⟨_, .createGatewayKey oneKey "later" laterHash later_free⟩, fun _ => not_false⟩)
    ⟨⟨_, .configure twoKeys _⟩, fun _ => not_false⟩

/-- What is read when both come after the first query: the second route without the second key,
which the database never had. -/
def mixedData : ControlSnapshotData :=
  { twoRoutes.snapshotData with gatewayKeyHashes := [firstHash] }

theorem runs_mixed : Program.Runs (reading.Amid ()) (reading.body ()) oneKey (.ok mixedData)
    twoRoutes := by
  show Program.Runs _ readControlSnapshot oneKey _ twoRoutes
  unfold readControlSnapshot
  simp only [mapM_read]
  exact .call ⟨_, .refl, rfl, Or.inl rfl⟩ (.call ⟨_, quietly_twoRoutes, rfl, Or.inl rfl⟩
    (.call ⟨_, .refl, rfl, Or.inl rfl⟩ (.call ⟨_, .refl, rfl, Or.inl rfl⟩
      (.call ⟨_, .refl, rfl, Or.inl rfl⟩ (.pure _ _)))))

theorem exists_mixed : ∃ ls w, reads.Steps ⟨oneKey, 0, fun _ => none⟩ (.start 0 () :: ls) w ∧
    w.shared = twoRoutes ∧ .finish 0 () (.ok mixedData) ∈ ls ∧
      ∀ l ∈ ls, @Concurrent.IsStepOf _ _ _ reading 0 () (.ok mixedData) l ∨ l = .ambient :=
  @Concurrent.exists_steps_of_amid _ _ _ reading _ ⟨oneKey, 0, fun _ => none⟩ _ _ _ runs_mixed

theorem mixed_between : ∃ ls w, reads.Steps ⟨oneKey, 0, fun _ => none⟩ (.start 0 () :: ls) w ∧
    .finish 0 () (.ok mixedData) ∈ ls ∧ w.shared = twoRoutes ∧
    mixedData.gatewayKeyHashes = [firstHash] ∧
    mixedData.routes.map RouteCandidate.routeId = ["first", "second"] ∧
    twoRoutes.snapshotData.gatewayKeyHashes = [firstHash, laterHash] ∧
    mixedData.Covers oneKey ∧ mixedData.Reflects twoRoutes := by
  obtain ⟨before, hbefore, -⟩ := exists_oneKey
  obtain ⟨ls, w, hsteps, hshared, hfinish, -⟩ := exists_mixed
  obtain ⟨hcovers, hreflects⟩ := read_between init_idleReads hbefore hsteps hfinish
  exact ⟨ls, w, hsteps, hfinish, hshared, rfl, by decide +kernel, by decide +kernel, hcovers,
    hshared ▸ hreflects⟩

end Postgres

end SmartGateway
