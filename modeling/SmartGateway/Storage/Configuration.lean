import SmartGateway.Storage.Sqlite
import SmartGateway.Storage.Postgres

/-! # Configuration

The operations that create models, accounts, routes and fallbacks. Both stores run the same
inserts under the same keys and references, so the tables after an accepted operation are
the same; what an operation refuses, and in which words, differs.

A fallback is one insert. No statement of either store looks at the graph it becomes part of.
-/

namespace SmartGateway

namespace ControlPlane

/-! ## Constraints -/

/-- A key or a reference that an insert can violate. -/
inductive Violation where
  | modelName
  | accountId
  | routeId
  | routePriority
  | routeModel
  | routeAccount
  | fallbackPriority
  | fallbackSource
  | fallbackTarget
deriving DecidableEq

/-- The first constraint that a new model violates. As everywhere below, keys come before
references, and the primary key before other keys; that is the order of PostgreSQL. -/
def modelViolation (db : ControlPlane) (name : String) : Option Violation :=
  if db.logicalModels.get? name ≠ none then some .modelName else none

def accountViolation (db : ControlPlane) (id : String) : Option Violation :=
  if db.providerAccounts.get? id ≠ none then some .accountId else none

def routeViolation (db : ControlPlane) (id : String) (row : RouteRow) : Option Violation :=
  if db.providerRoutes.get? id ≠ none then some .routeId
  else if (row.logicalModel, row.priority) ∈
      db.providerRoutes.rows.map fun row => (row.2.logicalModel, row.2.priority) then
    some .routePriority
  else if db.logicalModels.get? row.logicalModel = none then some .routeModel
  else if db.providerAccounts.get? row.providerAccountId = none then some .routeAccount
  else none

def fallbackViolation (db : ControlPlane) (source target : String) (priority : Nat) :
    Option Violation :=
  if db.modelFallbacks.get? (source, priority) ≠ none then some .fallbackPriority
  else if db.logicalModels.get? source = none then some .fallbackSource
  else if db.logicalModels.get? target = none then some .fallbackTarget
  else none

theorem fresh_of_modelViolation {db : ControlPlane} {name : String}
    (h : db.modelViolation name = none) : db.logicalModels.get? name = none := by
  unfold modelViolation at h
  split at h
  · cases h
  · next hfresh => exact not_not.mp hfresh

theorem fresh_of_accountViolation {db : ControlPlane} {id : String}
    (h : db.accountViolation id = none) : db.providerAccounts.get? id = none := by
  unfold accountViolation at h
  split at h
  · cases h
  · next hfresh => exact not_not.mp hfresh

/-- A route without a violation: its id and its priority are free, its model and its account
are there. -/
theorem fits_of_routeViolation {db : ControlPlane} {id : String} {row : RouteRow}
    (h : db.routeViolation id row = none) :
    db.providerRoutes.get? id = none ∧
    (row.logicalModel, row.priority) ∉
      db.providerRoutes.rows.map (fun row => (row.2.logicalModel, row.2.priority)) ∧
    db.logicalModels.get? row.logicalModel ≠ none ∧
    db.providerAccounts.get? row.providerAccountId ≠ none := by
  unfold routeViolation at h
  split at h
  · cases h
  next hid =>
  split at h
  · cases h
  next hpriority =>
  split at h
  · cases h
  next hmodel =>
  split at h
  · cases h
  next haccount =>
  exact ⟨not_not.mp hid, hpriority, hmodel, haccount⟩

theorem fits_of_fallbackViolation {db : ControlPlane} {source target : String} {priority : Nat}
    (h : db.fallbackViolation source target priority = none) :
    db.modelFallbacks.get? (source, priority) = none ∧
    db.logicalModels.get? source ≠ none ∧ db.logicalModels.get? target ≠ none := by
  unfold fallbackViolation at h
  split at h
  · cases h
  next hpriority =>
  split at h
  · cases h
  next hsource =>
  split at h
  · cases h
  next htarget =>
  exact ⟨not_not.mp hpriority, hsource, htarget⟩

/-! ## Inserts -/

/-- `INSERT INTO logical_models`. -/
def addModel (db : ControlPlane) (name : String) (h : db.modelViolation name = none) :
    ControlPlane :=
  { db with
    logicalModels := db.logicalModels.append name true (fresh_of_modelViolation h)
    routeReferences := by
      intro row hrow
      obtain ⟨hmodel, haccount⟩ := db.routeReferences row hrow
      exact ⟨KeyedTable.get?_append_ne_none (Or.inl hmodel), haccount⟩
    fallbackReferences := by
      intro row hrow
      obtain ⟨hsource, htarget⟩ := db.fallbackReferences row hrow
      exact ⟨KeyedTable.get?_append_ne_none (Or.inl hsource),
        KeyedTable.get?_append_ne_none (Or.inl htarget)⟩ }

/-- A reference of the key column survives a new row on either side. -/
theorem references_append {ν ω : Type} {table : KeyedTable String ν}
    {referenced : KeyedTable String ω} {key : String} {v : ν} {w : ω}
    {fresh : referenced.get? key = none} (merge : ν → ν)
    (h : ∀ row ∈ table.rows, referenced.get? row.1 ≠ none) :
    ∀ row ∈ (table.upsert key v merge).rows, (referenced.append key w fresh).get? row.1 ≠ none := by
  intro row hrow
  apply KeyedTable.get?_append_ne_none
  by_cases hkey : row.1 = key
  · exact Or.inr hkey
  · left
    have hmem := KeyedTable.mem_keys.mp (List.mem_map_of_mem (f := Prod.fst) hrow)
    rw [KeyedTable.get?_upsert_ne _ _ _ hkey] at hmem
    obtain ⟨old, hold⟩ := Option.ne_none_iff_exists'.mp hmem
    exact h (row.1, old) (KeyedTable.get?_eq_some.mp hold)

/-- `INSERT INTO provider_accounts`, then `INSERT [OR IGNORE] INTO provider_account_state`: a
state row that is there already stays. -/
def addAccount (db : ControlPlane) (id : String) (row : AccountRow)
    (h : db.accountViolation id = none) : ControlPlane :=
  { db with
    providerAccounts := db.providerAccounts.append id row (fresh_of_accountViolation h)
    providerAccountState := db.providerAccountState.upsert id ⟨"unknown", none, none⟩ fun old => old
    routeReferences := by
      intro row hrow
      obtain ⟨hmodel, haccount⟩ := db.routeReferences row hrow
      exact ⟨hmodel, KeyedTable.get?_append_ne_none (Or.inl haccount)⟩
    accountStateReferences := references_append (fun old => old) db.accountStateReferences }

/-- `INSERT INTO provider_routes`, then `INSERT [OR IGNORE] INTO provider_route_state`. -/
def addRoute (db : ControlPlane) (id : String) (row : RouteRow)
    (h : db.routeViolation id row = none) : ControlPlane :=
  { db with
    providerRoutes := db.providerRoutes.append id row (fits_of_routeViolation h).1
    providerRouteState := db.providerRouteState.upsert id ⟨"closed", none, none⟩ fun old => old
    routePriorityUnique := by
      have hfree := (fits_of_routeViolation h).2.1
      simp only [KeyedTable.append, List.map_append, List.map_cons, List.map_nil]
      refine List.nodup_append.mpr ⟨db.routePriorityUnique, List.nodup_singleton _, ?_⟩
      intro a ha b hb hab
      rw [List.mem_singleton] at hb
      rw [hab, hb] at ha
      exact hfree ha
    routeReferences := by
      intro added hadded
      rcases KeyedTable.mem_append hadded with hold | rfl
      · exact db.routeReferences added hold
      · exact (fits_of_routeViolation h).2.2
    routeStateReferences := references_append (fun old => old) db.routeStateReferences }

/-- `INSERT INTO model_fallbacks`. -/
def addFallback (db : ControlPlane) (source target : String) (priority : Nat)
    (h : db.fallbackViolation source target priority = none) : ControlPlane :=
  { db with
    modelFallbacks :=
      db.modelFallbacks.append (source, priority) target (fits_of_fallbackViolation h).1
    fallbackReferences := by
      intro row hrow
      rcases KeyedTable.mem_append hrow with hold | rfl
      · exact db.fallbackReferences row hold
      · exact (fits_of_fallbackViolation h).2 }

/-- The tables right after the schema was created. -/
def empty : ControlPlane where
  gatewayKeys := .empty
  logicalModels := .empty
  providerAccounts := .empty
  providerRoutes := .empty
  modelFallbacks := .empty
  providerRouteState := .empty
  providerAccountState := .empty
  usageAttempts := .empty
  keyHashUnique := List.nodup_nil
  routePriorityUnique := List.nodup_nil
  routeReferences := by simp [KeyedTable.empty]
  fallbackReferences := by simp [KeyedTable.empty]
  routeStateReferences := by simp [KeyedTable.empty]
  accountStateReferences := by simp [KeyedTable.empty]

end ControlPlane

/-! ## The operations -/

/-- The calls that configure a store. -/
inductive ConfigurationOp where
  | createModel (name : String)
  | createAccount (id provider credentialRef baseUrl : String)
  | createRoute (id logicalModel accountId upstreamModel : String) (priority : UInt32)
  | addFallback (source target : String) (priority : UInt32)
deriving DecidableEq

/-- `base_url.trim_end_matches('/')`. -/
def trimEndSlashes (text : String) : String :=
  String.ofList (text.toList.reverse.dropWhile (· = '/')).reverse

/-- The row of a new account. -/
def accountRow (provider : String) (credentialRef : CredentialReference) (baseUrl : String) :
    AccountRow where
  provider := provider
  credentialRef := credentialRef.text
  baseUrl := trimEndSlashes baseUrl
  enabled := true
  credentialRefCheck := credentialRef.wellFormed

/-- The row of a new route. -/
def routeRow (logicalModel accountId upstreamModel : String) (priority : UInt32) : RouteRow where
  logicalModel := logicalModel
  providerAccountId := accountId
  upstreamModel := upstreamModel
  priority := priority.toNat
  enabled := true

namespace Sqlite

def violationMessage : ControlPlane.Violation → String
  | .modelName => "UNIQUE constraint failed: logical_models.name"
  | .accountId => "UNIQUE constraint failed: provider_accounts.id"
  | .routeId => "UNIQUE constraint failed: provider_routes.id"
  | .routePriority =>
    "UNIQUE constraint failed: provider_routes.logical_model, provider_routes.priority"
  | .fallbackPriority =>
    "UNIQUE constraint failed: model_fallbacks.source_model, model_fallbacks.priority"
  | .routeModel | .routeAccount | .fallbackSource | .fallbackTarget =>
    "FOREIGN KEY constraint failed"

/-- What SQLite reports of a new route. It looks into the newest index of a table first, and that
of the `UNIQUE` constraint is newer than that of the primary key. -/
def routeMessage (db : ControlPlane) (row : RouteRow) (violation : ControlPlane.Violation) :
    String :=
  if (row.logicalModel, row.priority) ∈
      db.providerRoutes.rows.map fun row => (row.2.logicalModel, row.2.priority) then
    violationMessage .routePriority
  else violationMessage violation

def createModel (db : ControlPlane) (name : String) : Except String Unit × ControlPlane :=
  match h : db.modelViolation name with
  | some violation => (.error (violationMessage violation), db)
  | none => (.ok (), db.addModel name h)

def createAccount (db : ControlPlane) (id provider credentialRef baseUrl : String) :
    Except String Unit × ControlPlane :=
  match CredentialReference.parse credentialRef with
  | .error error => (.error error.message, db)
  | .ok credentialRef =>
    match h : db.accountViolation id with
    | some violation => (.error (violationMessage violation), db)
    | none => (.ok (), db.addAccount id (accountRow provider credentialRef baseUrl) h)

def createRoute (db : ControlPlane) (id logicalModel accountId upstreamModel : String)
    (priority : UInt32) : Except String Unit × ControlPlane :=
  let row := routeRow logicalModel accountId upstreamModel priority
  match h : db.routeViolation id row with
  | some violation => (.error (routeMessage db row violation), db)
  | none => (.ok (), db.addRoute id row h)

def addFallback (db : ControlPlane) (source target : String) (priority : UInt32) :
    Except String Unit × ControlPlane :=
  match h : db.fallbackViolation source target priority.toNat with
  | some violation => (.error (violationMessage violation), db)
  | none => (.ok (), db.addFallback source target priority.toNat h)

def configure : ConfigurationOp → ControlPlane → Except String Unit × ControlPlane
  | .createModel name, db => createModel db name
  | .createAccount id provider credentialRef baseUrl, db =>
    createAccount db id provider credentialRef baseUrl
  | .createRoute id logicalModel accountId upstreamModel priority, db =>
    createRoute db id logicalModel accountId upstreamModel priority
  | .addFallback source target priority, db => addFallback db source target priority

end Sqlite

namespace Postgres

def violationMessage : ControlPlane.Violation → String
  | .modelName => duplicateKey "logical_models_pkey"
  | .accountId => duplicateKey "provider_accounts_pkey"
  | .routeId => duplicateKey "provider_routes_pkey"
  | .routePriority => duplicateKey "provider_routes_model_priority_unique"
  | .fallbackPriority => duplicateKey "model_fallbacks_source_priority_unique"
  | .routeModel => foreignKey "provider_routes" "provider_routes_logical_model_fkey"
  | .routeAccount => foreignKey "provider_routes" "provider_routes_provider_account_id_fkey"
  | .fallbackSource => foreignKey "model_fallbacks" "model_fallbacks_source_model_fkey"
  | .fallbackTarget => foreignKey "model_fallbacks" "model_fallbacks_target_model_fkey"
where
  duplicateKey (constraint : String) : String :=
    "db error: ERROR: duplicate key value violates unique constraint \"" ++ constraint ++ "\""
  foreignKey (table constraint : String) : String :=
    "db error: ERROR: insert or update on table \"" ++ table ++
      "\" violates foreign key constraint \"" ++ constraint ++ "\""

/-- A parameter that PostgreSQL can store: no text holds the character NUL. -/
def storable (texts : List String) : Bool := texts.all fun text => !text.toList.contains '\x00'

def invalidText : String :=
  "db error: ERROR: invalid byte sequence for encoding \"UTF8\": 0x00"

/-- `i32::try_from(priority)`. -/
def fitsInteger (priority : UInt32) : Bool := priority < 0x80000000

namespace Database

theorem check_upsert {table : KeyedTable String StateRow} {allowed : List String} {key : String}
    {v : StateRow} (hv : v.state ∈ allowed) (h : ∀ row ∈ table.rows, row.2.state ∈ allowed) :
    ∀ row ∈ (table.upsert key v fun old => old).rows, row.2.state ∈ allowed := by
  rintro ⟨name, state⟩ hrow
  have hget := KeyedTable.get?_eq_some.mpr hrow
  rw [KeyedTable.get?_upsert] at hget
  split at hget
  · cases hkey : table.get? key with
    | none =>
      rw [hkey] at hget
      cases hget
      exact hv
    | some old =>
      rw [hkey] at hget
      cases hget
      exact h (key, _) (KeyedTable.get?_eq_some.mp hkey)
  · exact h (name, state) (KeyedTable.get?_eq_some.mp hget)

def addModel (db : Database) (name : String) (h : db.modelViolation name = none) : Database :=
  { db with
    toControlPlane := db.toControlPlane.addModel name h
    routeStateCheck := db.routeStateCheck
    accountStateCheck := db.accountStateCheck
    leaseReferences := db.leaseReferences }

def addAccount (db : Database) (id : String) (row : AccountRow)
    (h : db.accountViolation id = none) : Database :=
  { db with
    toControlPlane := db.toControlPlane.addAccount id row h
    routeStateCheck := db.routeStateCheck
    accountStateCheck := check_upsert (by simp) db.accountStateCheck
    leaseReferences := db.leaseReferences }

def addRoute (db : Database) (id : String) (row : RouteRow)
    (h : db.routeViolation id row = none) : Database :=
  { db with
    toControlPlane := db.toControlPlane.addRoute id row h
    routeStateCheck := check_upsert (by simp) db.routeStateCheck
    accountStateCheck := db.accountStateCheck
    leaseReferences := by
      intro lease hlease
      show (db.providerRoutes.append id row
        (ControlPlane.fits_of_routeViolation h).1).get? lease.1 ≠ none
      exact KeyedTable.get?_append_ne_none (Or.inl (db.leaseReferences lease hlease)) }

def addFallback (db : Database) (source target : String) (priority : Nat)
    (h : db.fallbackViolation source target priority = none) : Database :=
  { db with
    toControlPlane := db.toControlPlane.addFallback source target priority h
    routeStateCheck := db.routeStateCheck
    accountStateCheck := db.accountStateCheck
    leaseReferences := db.leaseReferences }

/-- The database right after the migration. -/
def empty : Database :=
  { ControlPlane.empty with
    probeLeases := .empty
    routeStateCheck := by simp [ControlPlane.empty, KeyedTable.empty]
    accountStateCheck := by simp [ControlPlane.empty, KeyedTable.empty]
    leaseReferences := by simp [KeyedTable.empty] }

end Database

def createModel (db : Database) (name : String) : Except String Unit × Database :=
  if storable [name] then
    match h : db.modelViolation name with
    | some violation => (.error (violationMessage violation), db)
    | none => (.ok (), db.addModel name h)
  else (.error invalidText, db)

/-- One transaction: an error rolls both inserts back. -/
def createAccount (db : Database) (id provider credentialRef baseUrl : String) :
    Except String Unit × Database :=
  match CredentialReference.parse credentialRef with
  | .error _ => (.error "invalid credential reference in PostgreSQL configuration", db)
  | .ok credentialRef =>
    if storable [id, provider, credentialRef.text, trimEndSlashes baseUrl] then
      match h : db.accountViolation id with
      | some violation => (.error (violationMessage violation), db)
      | none => (.ok (), db.addAccount id (accountRow provider credentialRef baseUrl) h)
    else (.error invalidText, db)

/-- One transaction: an error rolls both inserts back. -/
def createRoute (db : Database) (id logicalModel accountId upstreamModel : String)
    (priority : UInt32) : Except String Unit × Database :=
  if fitsInteger priority then
    if storable [id, logicalModel, accountId, upstreamModel] then
      match h : db.routeViolation id (routeRow logicalModel accountId upstreamModel priority) with
      | some violation => (.error (violationMessage violation), db)
      | none => (.ok (), db.addRoute id (routeRow logicalModel accountId upstreamModel priority) h)
    else (.error invalidText, db)
  else (.error "route priority exceeds PostgreSQL INTEGER", db)

def addFallback (db : Database) (source target : String) (priority : UInt32) :
    Except String Unit × Database :=
  if fitsInteger priority then
    if storable [source, target] then
      match h : db.fallbackViolation source target priority.toNat with
      | some violation => (.error (violationMessage violation), db)
      | none => (.ok (), db.addFallback source target priority.toNat h)
    else (.error invalidText, db)
  else (.error "fallback priority exceeds PostgreSQL INTEGER", db)

def configure : ConfigurationOp → Database → Except String Unit × Database
  | .createModel name, db => createModel db name
  | .createAccount id provider credentialRef baseUrl, db =>
    createAccount db id provider credentialRef baseUrl
  | .createRoute id logicalModel accountId upstreamModel priority, db =>
    createRoute db id logicalModel accountId upstreamModel priority
  | .addFallback source target priority, db => addFallback db source target priority

end Postgres

end SmartGateway
