import SmartGateway.Lib.Program
import SmartGateway.Storage.Configuration

/-! # Configuration, statement by statement

The SQLite store runs no transaction: each statement of `create_account` and `create_route`
commits by itself, so the two inserts of such a call are two writes. Run without a failure one
after the other they are the operation of `Configuration`.
-/

namespace SmartGateway

namespace ControlPlane

/-! ## Rows and their state rows -/

/-- A row that a state row belongs to. -/
inductive Entity where
  | account (id : String)
  | route (id : String)
deriving DecidableEq

/-- The row is there. -/
def HasRow (db : ControlPlane) : Entity → Prop
  | .account id => db.providerAccounts.get? id ≠ none
  | .route id => db.providerRoutes.get? id ≠ none

/-- Its state row is there. -/
def HasState (db : ControlPlane) : Entity → Prop
  | .account id => db.providerAccountState.get? id ≠ none
  | .route id => db.providerRouteState.get? id ≠ none

instance (db : ControlPlane) (entity : Entity) : Decidable (db.HasRow entity) := by
  cases entity <;> exact inferInstanceAs (Decidable (_ ≠ none))

instance (db : ControlPlane) (entity : Entity) : Decidable (db.HasState entity) := by
  cases entity <;> exact inferInstanceAs (Decidable (_ ≠ none))

/-- Every account and every route has its state row. -/
def Complete (db : ControlPlane) : Prop := ∀ entity, db.HasRow entity → db.HasState entity

/-- A state row refers to its row. -/
theorem HasState.hasRow {db : ControlPlane} {entity : Entity} (h : db.HasState entity) :
    db.HasRow entity := by
  cases entity with
  | account id =>
    obtain ⟨state, hstate⟩ := Option.ne_none_iff_exists'.mp h
    exact db.accountStateReferences (id, state) (KeyedTable.get?_eq_some.mp hstate)
  | route id =>
    obtain ⟨state, hstate⟩ := Option.ne_none_iff_exists'.mp h
    exact db.routeStateReferences (id, state) (KeyedTable.get?_eq_some.mp hstate)

theorem complete_empty : empty.Complete := by
  intro entity h
  cases entity with
  | account id => exact absurd rfl h
  | route id => exact absurd rfl h

/-! ## Single inserts -/

/-- A reference of the key column to a row that is there survives a new row. -/
theorem references_upsert {ν ω : Type} {table : KeyedTable String ν}
    {referenced : KeyedTable String ω} {key : String} {v : ν} (merge : ν → ν)
    (h : ∀ row ∈ table.rows, referenced.get? row.1 ≠ none) (hkey : referenced.get? key ≠ none) :
    ∀ row ∈ (table.upsert key v merge).rows, referenced.get? row.1 ≠ none := by
  intro row hrow
  by_cases heq : row.1 = key
  · rwa [heq]
  · have hmem := KeyedTable.mem_keys.mp (List.mem_map_of_mem (f := Prod.fst) hrow)
    rw [KeyedTable.get?_upsert_ne _ _ _ heq] at hmem
    obtain ⟨old, hold⟩ := Option.ne_none_iff_exists'.mp hmem
    exact h (row.1, old) (KeyedTable.get?_eq_some.mp hold)

/-- A reference to a row that is there survives a new row of the table that it refers to. -/
theorem references_row_append {ν ω : Type} {table : KeyedTable String ν}
    {referenced : KeyedTable String ω} {key : String} {v : ω}
    (hfresh : referenced.get? key = none)
    (h : ∀ row ∈ table.rows, referenced.get? row.1 ≠ none) :
    ∀ row ∈ table.rows, (referenced.append key v hfresh).get? row.1 ≠ none := by
  intro row hrow
  exact KeyedTable.get?_append_ne_none (Or.inl (h row hrow))

/-- `INSERT INTO provider_accounts`. -/
def insertAccount (db : ControlPlane) (id : String) (row : AccountRow)
    (h : db.accountViolation id = none) : ControlPlane :=
  { db with
    providerAccounts := db.providerAccounts.append id row (fresh_of_accountViolation h)
    routeReferences := (db.addAccount id row h).routeReferences
    accountStateReferences := references_row_append _ db.accountStateReferences }

/-- `INSERT OR IGNORE INTO provider_account_state`. -/
def insertAccountState (db : ControlPlane) (id : String) (h : db.providerAccounts.get? id ≠ none) :
    ControlPlane :=
  { db with
    providerAccountState := db.providerAccountState.upsert id ⟨"unknown", none, none⟩ fun old => old
    accountStateReferences := references_upsert (fun old => old) db.accountStateReferences h }

theorem fresh_of_routeViolation {db : ControlPlane} {id : String} {row : RouteRow}
    (h : db.routeViolation id row = none) : db.providerRoutes.get? id = none :=
  (fits_of_routeViolation h).1

/-- A route that violates no constraint keeps those of the routes. -/
theorem routePriorityUnique_append {db : ControlPlane} {id : String} {row : RouteRow}
    (h : db.routeViolation id row = none) :
    ((db.providerRoutes.append id row (fresh_of_routeViolation h)).rows.map
      fun old => (old.2.logicalModel, old.2.priority)).Nodup :=
  (db.addRoute id row h).routePriorityUnique

theorem routeReferences_append {db : ControlPlane} {id : String} {row : RouteRow}
    (h : db.routeViolation id row = none) :
    ∀ added ∈ (db.providerRoutes.append id row (fresh_of_routeViolation h)).rows,
      db.logicalModels.get? added.2.logicalModel ≠ none ∧
        db.providerAccounts.get? added.2.providerAccountId ≠ none :=
  (db.addRoute id row h).routeReferences

/-- `INSERT INTO provider_routes`. -/
def insertRoute (db : ControlPlane) (id : String) (row : RouteRow)
    (h : db.routeViolation id row = none) : ControlPlane :=
  { db with
    providerRoutes := db.providerRoutes.append id row (fresh_of_routeViolation h)
    routePriorityUnique := routePriorityUnique_append h
    routeReferences := routeReferences_append h
    routeStateReferences := references_row_append _ db.routeStateReferences }

/-- `INSERT OR IGNORE INTO provider_route_state`. -/
def insertRouteState (db : ControlPlane) (id : String) (h : db.providerRoutes.get? id ≠ none) :
    ControlPlane :=
  { db with
    providerRouteState := db.providerRouteState.upsert id ⟨"closed", none, none⟩ fun old => old
    routeStateReferences := references_upsert (fun old => old) db.routeStateReferences h }

theorem hasRow_insertAccount (db : ControlPlane) (id : String) (row : AccountRow)
    (h : db.accountViolation id = none) :
    (db.insertAccount id row h).providerAccounts.get? id ≠ none := by
  change (db.providerAccounts.append id row (fresh_of_accountViolation h)).get? id ≠ none
  exact KeyedTable.get?_append_ne_none (Or.inr rfl)

theorem hasRow_insertRoute (db : ControlPlane) (id : String) (row : RouteRow)
    (h : db.routeViolation id row = none) :
    (db.insertRoute id row h).providerRoutes.get? id ≠ none := by
  change (db.providerRoutes.append id row (fresh_of_routeViolation h)).get? id ≠ none
  exact KeyedTable.get?_append_ne_none (Or.inr rfl)

/-- Both inserts of an account, one after the other. -/
theorem addAccount_eq (db : ControlPlane) (id : String) (row : AccountRow)
    (h : db.accountViolation id = none) :
    db.addAccount id row h =
      (db.insertAccount id row h).insertAccountState id (db.hasRow_insertAccount id row h) := rfl

/-- Both inserts of a route, one after the other. -/
theorem addRoute_eq (db : ControlPlane) (id : String) (row : RouteRow)
    (h : db.routeViolation id row = none) :
    db.addRoute id row h =
      (db.insertRoute id row h).insertRouteState id (db.hasRow_insertRoute id row h) := rfl

end ControlPlane

namespace Sqlite

open ControlPlane (Entity)

/-! ## Statements -/

/-- The inserts of the configuration calls. -/
inductive Statement where
  | insertModel (name : String)
  | insertAccount (id : String) (row : AccountRow)
  | insertAccountState (id : String)
  | insertRoute (id : String) (row : RouteRow)
  | insertRouteState (id : String)
  | insertFallback (source target : String) (priority : UInt32)

abbrev statements : Signature where
  Op := Statement
  Res _ := Except String Unit

/-- The row a statement inserts, if a state row belongs to it. -/
def Statement.inserts : Statement → Option Entity
  | .insertAccount id _ => some (.account id)
  | .insertRoute id _ => some (.route id)
  | _ => none

/-- The row whose state row a statement inserts. -/
def Statement.states : Statement → Option Entity
  | .insertAccountState id => some (.account id)
  | .insertRouteState id => some (.route id)
  | _ => none

/-- A statement that nothing keeps from being run. -/
def execute : Statement → ControlPlane → Except String Unit × ControlPlane
  | .insertModel name, db => createModel db name
  | .insertAccount id row, db =>
    match h : db.accountViolation id with
    | some violation => (.error (violationMessage violation), db)
    | none => (.ok (), db.insertAccount id row h)
  | .insertAccountState id, db =>
    if h : db.providerAccounts.get? id ≠ none then (.ok (), db.insertAccountState id h)
    else (.error "FOREIGN KEY constraint failed", db)
  | .insertRoute id row, db =>
    match h : db.routeViolation id row with
    | some violation => (.error (routeMessage db row violation), db)
    | none => (.ok (), db.insertRoute id row h)
  | .insertRouteState id, db =>
    if h : db.providerRoutes.get? id ≠ none then (.ok (), db.insertRouteState id h)
    else (.error "FOREIGN KEY constraint failed", db)
  | .insertFallback source target priority, db => addFallback db source target priority

/-- What an accepted statement did to the rows and the state rows. -/
structure Wrote (statement : Statement) (db db' : ControlPlane) : Prop where
  fresh : ∀ entity, statement.inserts = some entity → ¬ db.HasRow entity
  rows : ∀ entity, db'.HasRow entity ↔ db.HasRow entity ∨ statement.inserts = some entity
  states : ∀ entity, db'.HasState entity ↔ db.HasState entity ∨ statement.states = some entity

/-- A statement that inserts none of these rows. -/
theorem Wrote.of_eq {statement : Statement} {db db' : ControlPlane}
    (hinserts : statement.inserts = none) (hstates : statement.states = none)
    (haccounts : db'.providerAccounts = db.providerAccounts)
    (hroutes : db'.providerRoutes = db.providerRoutes)
    (haccountState : db'.providerAccountState = db.providerAccountState)
    (hrouteState : db'.providerRouteState = db.providerRouteState) : Wrote statement db db' := by
  refine ⟨by simp [hinserts], ?_, ?_⟩
  · intro entity
    cases entity <;> simp [ControlPlane.HasRow, haccounts, hroutes, hinserts]
  · intro entity
    cases entity <;> simp [ControlPlane.HasState, haccountState, hrouteState, hstates]

theorem wrote_insertAccount {db : ControlPlane} {id : String} {row : AccountRow}
    (h : db.accountViolation id = none) :
    Wrote (.insertAccount id row) db (db.insertAccount id row h) := by
  refine ⟨?_, ?_, ?_⟩
  · rintro entity ⟨⟩
    exact not_not.mpr (ControlPlane.fresh_of_accountViolation h)
  · intro entity
    cases entity with
    | account key =>
      rw [ControlPlane.insertAccount, ControlPlane.HasRow, KeyedTable.get?_append_ne_none_iff]
      simp [ControlPlane.HasRow, Statement.inserts, eq_comm]
    | route key => simp [ControlPlane.HasRow, ControlPlane.insertAccount, Statement.inserts]
  · intro entity
    cases entity <;> simp [ControlPlane.HasState, ControlPlane.insertAccount, Statement.states]

theorem wrote_insertAccountState {db : ControlPlane} {id : String}
    (h : db.providerAccounts.get? id ≠ none) :
    Wrote (.insertAccountState id) db (db.insertAccountState id h) := by
  refine ⟨by simp [Statement.inserts], ?_, ?_⟩
  · intro entity
    cases entity <;> simp [ControlPlane.HasRow, ControlPlane.insertAccountState, Statement.inserts]
  · intro entity
    cases entity with
    | account key =>
      rw [ControlPlane.insertAccountState, ControlPlane.HasState, KeyedTable.get?_upsert_ne_none_iff]
      simp [ControlPlane.HasState, Statement.states, eq_comm]
    | route key => simp [ControlPlane.HasState, ControlPlane.insertAccountState, Statement.states]

theorem wrote_insertRoute {db : ControlPlane} {id : String} {row : RouteRow}
    (h : db.routeViolation id row = none) :
    Wrote (.insertRoute id row) db (db.insertRoute id row h) := by
  refine ⟨?_, ?_, ?_⟩
  · rintro entity ⟨⟩
    exact not_not.mpr (ControlPlane.fits_of_routeViolation h).1
  · intro entity
    cases entity with
    | account key => simp [ControlPlane.HasRow, ControlPlane.insertRoute, Statement.inserts]
    | route key =>
      rw [ControlPlane.insertRoute, ControlPlane.HasRow, KeyedTable.get?_append_ne_none_iff]
      simp [ControlPlane.HasRow, Statement.inserts, eq_comm]
  · intro entity
    cases entity <;> simp [ControlPlane.HasState, ControlPlane.insertRoute, Statement.states]

theorem wrote_insertRouteState {db : ControlPlane} {id : String}
    (h : db.providerRoutes.get? id ≠ none) :
    Wrote (.insertRouteState id) db (db.insertRouteState id h) := by
  refine ⟨by simp [Statement.inserts], ?_, ?_⟩
  · intro entity
    cases entity <;> simp [ControlPlane.HasRow, ControlPlane.insertRouteState, Statement.inserts]
  · intro entity
    cases entity with
    | account key => simp [ControlPlane.HasState, ControlPlane.insertRouteState, Statement.states]
    | route key =>
      rw [ControlPlane.insertRouteState, ControlPlane.HasState, KeyedTable.get?_upsert_ne_none_iff]
      simp [ControlPlane.HasState, Statement.states, eq_comm]

/-- A statement is refused and does nothing, or is accepted and inserts its row. -/
theorem execute_cases (statement : Statement) (db : ControlPlane) :
    (∃ error, execute statement db = (.error error, db)) ∨
      ∃ db', execute statement db = (.ok (), db') ∧ Wrote statement db db' := by
  cases statement with
  | insertModel name =>
    rw [execute, createModel]
    split
    · exact Or.inl ⟨_, rfl⟩
    · exact Or.inr ⟨_, rfl, .of_eq rfl rfl rfl rfl rfl rfl⟩
  | insertAccount id row =>
    rw [execute]
    split
    · exact Or.inl ⟨_, rfl⟩
    · next hfits => exact Or.inr ⟨_, rfl, wrote_insertAccount hfits⟩
  | insertAccountState id =>
    rw [execute]
    split
    · next hrow => exact Or.inr ⟨_, rfl, wrote_insertAccountState hrow⟩
    · exact Or.inl ⟨_, rfl⟩
  | insertRoute id row =>
    rw [execute]
    split
    · exact Or.inl ⟨_, rfl⟩
    · next hfits => exact Or.inr ⟨_, rfl, wrote_insertRoute hfits⟩
  | insertRouteState id =>
    rw [execute]
    split
    · next hrow => exact Or.inr ⟨_, rfl, wrote_insertRouteState hrow⟩
    · exact Or.inl ⟨_, rfl⟩
  | insertFallback source target priority =>
    rw [execute, addFallback]
    split
    · exact Or.inl ⟨_, rfl⟩
    · exact Or.inr ⟨_, rfl, .of_eq rfl rfl rfl rfl rfl rfl⟩

/-! ## The calls -/

/-- The statement is run, and its error ends the call. -/
def issue (statement : Statement) : Program statements (Except String Unit) :=
  Program.perform (S := statements) statement

/-- `create_account_with_reference`. The lock is released between the statements. -/
def createAccountWithReference (id provider : String) (credentialRef : CredentialReference)
    (baseUrl : String) : Program statements (Except String Unit) :=
  (issue (.insertAccount id (accountRow provider credentialRef baseUrl))).andThen fun _ =>
    issue (.insertAccountState id)

/-- The body of each call. -/
def configureBody : ConfigurationOp → Program statements (Except String Unit)
  | .createModel name => issue (.insertModel name)
  | .createAccount id provider credentialRef baseUrl =>
    match CredentialReference.parse credentialRef with
    | .error error => .pure (.error error.message)
    | .ok credentialRef => createAccountWithReference id provider credentialRef baseUrl
  | .createRoute id logicalModel accountId upstreamModel priority =>
    (issue (.insertRoute id (routeRow logicalModel accountId upstreamModel priority))).andThen
      fun _ => issue (.insertRouteState id)
  | .addFallback source target priority => issue (.insertFallback source target priority)

/-! ### Calls that nothing interrupts -/

theorem execute_insertAccount {db : ControlPlane} {id : String} {row : AccountRow}
    (h : db.accountViolation id = none) :
    execute (.insertAccount id row) db = (.ok (), db.insertAccount id row h) := by
  rw [execute]
  split
  · simp_all
  · rfl

theorem execute_insertAccount_refused {db : ControlPlane} {id : String} {row : AccountRow}
    {violation : ControlPlane.Violation} (h : db.accountViolation id = some violation) :
    execute (.insertAccount id row) db = (.error (violationMessage violation), db) := by
  rw [execute]
  split <;> simp_all

theorem execute_insertRoute {db : ControlPlane} {id : String} {row : RouteRow}
    (h : db.routeViolation id row = none) :
    execute (.insertRoute id row) db = (.ok (), db.insertRoute id row h) := by
  rw [execute]
  split
  · simp_all
  · rfl

theorem execute_insertRoute_refused {db : ControlPlane} {id : String} {row : RouteRow}
    {violation : ControlPlane.Violation} (h : db.routeViolation id row = some violation) :
    execute (.insertRoute id row) db = (.error (routeMessage db row violation), db) := by
  rw [execute]
  split <;> simp_all

section Pair

variable {first second : Statement} {db db' db'' : ControlPlane} {error : String}

theorem run_pair (hfirst : execute first db = (.ok (), db'))
    (hsecond : execute second db' = (.ok (), db'')) :
    ((issue first).andThen fun _ => issue second).run execute db = (.ok (), db'') := by
  have hrun : (issue first).run execute db = (.ok (), db') := hfirst
  rw [Program.run_andThen_ok hrun]
  exact hsecond

theorem run_pair_refused (hfirst : execute first db = (.error error, db)) :
    ((issue first).andThen fun _ => issue second).run execute db = (.error error, db) := by
  have hrun : (issue first).run execute db = (.error error, db) := hfirst
  exact Program.run_andThen_error hrun

end Pair

/-- A call that nothing interrupts is the operation on the tables. -/
theorem run_configureBody (op : ConfigurationOp) (db : ControlPlane) :
    (configureBody op).run execute db = configure op db := by
  cases op with
  | createModel name => rfl
  | createAccount id provider credentialRef baseUrl =>
    rw [configureBody, configure, createAccount]
    cases CredentialReference.parse credentialRef with
    | error error => rfl
    | ok credentialRef =>
      dsimp only
      split
      · next hviolation => exact run_pair_refused (execute_insertAccount_refused hviolation)
      · next hfits =>
        refine run_pair (execute_insertAccount hfits) ?_
        rw [execute, dif_pos (db.hasRow_insertAccount id _ hfits), ← ControlPlane.addAccount_eq]
  | createRoute id logicalModel accountId upstreamModel priority =>
    rw [configureBody, configure, createRoute]
    split
    · next hviolation => exact run_pair_refused (execute_insertRoute_refused hviolation)
    · next hfits =>
      refine run_pair (execute_insertRoute hfits) ?_
      rw [execute, dif_pos (db.hasRow_insertRoute id _ hfits), ← ControlPlane.addRoute_eq]
  | addFallback source target priority => rfl

end Sqlite

end SmartGateway
