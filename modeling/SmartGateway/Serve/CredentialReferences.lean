import SmartGateway.Serve.SnapshotFile
import SmartGateway.Storage.PostgresMethods
import SmartGateway.Storage.SchemaPatterns

/-! # Credential references from the command line to the routes

A credential reference is checked four times: by the command that creates an account, by the
constructor of the domain type, by the schema on insert, and by the constructor again when the
route queries read the column back. The four accept one language, so what a schema admitted is
read back without an error.
-/

namespace SmartGateway

/-! ## The command line -/

/-- `validate_environment_reference`. -/
def validateEnvironmentReference (value : String) : Except String String :=
  match stripEnvPrefix value.toList with
  | none => .error "credential reference must use the explicit env:NAME format"
  | some [] => .error "credential reference must include an environment variable name"
  | some (first :: rest) =>
    if !(first == '_' || first.isAlpha) ||
        !rest.all fun character => character == '_' || character.isAlphanum then
      .error "credential reference must use env:NAME with a valid environment variable name"
    else .ok value

/-- The command passes on exactly the well-formed texts, as they are. -/
theorem validateEnvironmentReference_eq_ok {text value : String} :
    validateEnvironmentReference text = .ok value ↔ value = text ∧ WellFormedReference text := by
  constructor
  · intro h
    unfold validateEnvironmentReference at h
    split at h
    · cases h
    · cases h
    · next first rest hname =>
      split at h
      · cases h
      · next hvalid =>
        rw [← Bool.not_and, Bool.not_eq_true', Bool.not_eq_false] at hvalid
        cases h
        exact ⟨rfl, first :: rest, hname, hvalid⟩
  · rintro ⟨rfl, name, hname, hvalid⟩
    unfold validateEnvironmentReference
    rw [hname]
    cases name with
    | nil => cases hvalid
    | cons first rest =>
      rw [validEnvironmentName] at hvalid
      dsimp only
      rw [← Bool.not_and, hvalid]
      rfl

/-! ## The domain type -/

theorem parse_isOk_iff {text : String} :
    (∃ reference, CredentialReference.parse text = .ok reference) ↔ WellFormedReference text := by
  constructor
  · rintro ⟨reference, hparse⟩
    rw [← CredentialReference.parse_eq_ok.mp hparse]
    exact reference.wellFormed
  · intro h
    exact ⟨⟨text, h⟩, CredentialReference.parse_text ⟨text, h⟩⟩

namespace CredentialReference

/-- A reference is `env:` with its name after it, and the name is one of a variable. -/
theorem text_eq (reference : CredentialReference) :
    reference.text = "env:" ++ reference.environmentName ∧
      reference.environmentName.toList ∈ environmentNames := by
  rcases reference with ⟨text, name, hname, hvalid⟩
  have henvironment : environmentName ⟨text, name, hname, hvalid⟩ = String.ofList name := by
    rw [environmentName, hname]
    rfl
  have hlist : (String.ofList name).toList = name := String.toList_ofList
  rw [henvironment, hlist]
  exact ⟨stripEnvPrefix_eq_some.mp hname, validEnvironmentName_iff.mp hvalid⟩

end CredentialReference

/-! ## The schemas -/

/-- The accounts of the tables are the ones with a well-formed reference. -/
theorem exists_accountRow_iff {text : String} :
    (∃ row : AccountRow, row.credentialRef = text) ↔ WellFormedReference text := by
  constructor
  · rintro ⟨row, rfl⟩
    exact row.credentialRefCheck
  · intro h
    exact ⟨⟨"", text, "", true, h⟩, rfl⟩

/-! ## Reading a column back -/

/-- The columns of a route as both route queries select them. -/
structure RouteColumns where
  routeId : String
  logicalModel : String
  providerAccountId : String
  provider : String
  credentialRef : String
  baseUrl : String
  upstreamModel : String
  priority : Nat

/-- The row mapping of a route query, with the error that it has for a bad reference. -/
def RouteColumns.read (message : CredentialReferenceError → String) (row : RouteColumns) :
    Except String RouteCandidate :=
  match CredentialReference.parse row.credentialRef with
  | .error error => .error (message error)
  | .ok credentialRef => .ok {
      routeId := row.routeId
      logicalModel := row.logicalModel
      providerAccountId := row.providerAccountId
      provider := row.provider
      credentialRef
      baseUrl := row.baseUrl
      upstreamModel := row.upstreamModel
      priority := row.priority }

/-- The columns of a route and its account. -/
def routeColumns (routeId : String) (route : RouteRow) (account : AccountRow) : RouteColumns where
  routeId
  logicalModel := route.logicalModel
  providerAccountId := route.providerAccountId
  provider := account.provider
  credentialRef := account.credentialRef
  baseUrl := account.baseUrl
  upstreamModel := route.upstreamModel
  priority := route.priority

def ControlPlane.JoinedRoute.columns (row : ControlPlane.JoinedRoute) : RouteColumns :=
  routeColumns row.routeId row.route row.account

def Postgres.SnapshotRow.columns (row : Postgres.SnapshotRow) : RouteColumns :=
  routeColumns row.routeId row.route row.account

def Sqlite.readColumns : RouteColumns → Except String RouteCandidate :=
  RouteColumns.read fun error => "Conversion error from type Text at index: 4, " ++ error.message

def Postgres.readColumns : RouteColumns → Except String RouteCandidate :=
  RouteColumns.read fun _ => "invalid credential reference in PostgreSQL configuration"

theorem Sqlite.readCandidate_columns (row : ControlPlane.JoinedRoute) :
    Sqlite.readCandidate row = Sqlite.readColumns row.columns := rfl

theorem Postgres.readCandidate_columns (row : ControlPlane.JoinedRoute) :
    Postgres.readCandidate row = Postgres.readColumns row.columns := rfl

theorem Postgres.SnapshotRow.read_columns (row : Postgres.SnapshotRow) :
    row.read = Postgres.readColumns row.columns := by
  rw [readColumns, RouteColumns.read, columns, routeColumns]
  unfold SnapshotRow.read credentialReference
  cases CredentialReference.parse row.account.credentialRef with
  | error error => rfl
  | ok reference => rfl

theorem RouteColumns.read_of_wellFormed (message : CredentialReferenceError → String)
    {row : RouteColumns} (h : WellFormedReference row.credentialRef) :
    ∃ route, row.read message = .ok route ∧ route.credentialRef.text = row.credentialRef := by
  rcases parse_isOk_iff.mpr h with ⟨reference, hparse⟩
  have htext := CredentialReference.parse_eq_ok.mp hparse
  unfold read
  rw [hparse]
  exact ⟨_, rfl, htext⟩

/-- A query reads all its rows back if its row mapping reads each of them. -/
theorem RouteColumns.mapM_read (message : CredentialReferenceError → String)
    {rows : List RouteColumns} (h : ∀ row ∈ rows, WellFormedReference row.credentialRef) :
    ∃ routes, rows.mapM (RouteColumns.read message) = .ok routes ∧
      (routes.map fun route => route.credentialRef.text) =
        rows.map fun row => row.credentialRef := by
  induction rows with
  | nil => exact ⟨[], rfl, rfl⟩
  | cons row rows ih =>
    rw [List.forall_mem_cons] at h
    rcases read_of_wellFormed message h.1 with ⟨route, hread, htext⟩
    rcases ih h.2 with ⟨routes, hrest, htexts⟩
    refine ⟨route :: routes, ?_, ?_⟩
    · rw [List.mapM_cons, hread, hrest]
      rfl
    · rw [List.map_cons, List.map_cons, htext, htexts]

/-! ## One language -/

/-- The four checks and the tables take the texts of one language. -/
structure ChecksAgree (text : String) : Prop where
  parse : (∃ reference, CredentialReference.parse text = .ok reference) ↔
    text.toList ∈ credentialReferences
  commandLine : (∃ value, validateEnvironmentReference text = .ok value) ↔
    text.toList ∈ credentialReferences
  sqlite : Sqlite.credentialRefCheck text = true ↔ text.toList ∈ credentialReferences
  postgres : Postgres.credentialRefCheck text = true ↔ text.toList ∈ credentialReferences
  accountRow : (∃ row : AccountRow, row.credentialRef = text) ↔
    text.toList ∈ credentialReferences

/-- Rows whose references a `CHECK` admitted are read back with these references. -/
def ReadsBack (check : String → Bool) (read : RouteColumns → Except String RouteCandidate) : Prop :=
  ∀ rows : List RouteColumns,
    (∀ row ∈ rows, '\x00' ∉ row.credentialRef.toList ∧ check row.credentialRef = true) →
    ∃ routes, rows.mapM read = .ok routes ∧
      (routes.map fun route => route.credentialRef.text) = rows.map fun row => row.credentialRef

theorem checksAgree {text : String} (hnul : '\x00' ∉ text.toList) : ChecksAgree text where
  parse := parse_isOk_iff.trans wellFormedReference_iff
  commandLine := by
    simp only [validateEnvironmentReference_eq_ok, exists_eq_left]
    exact wellFormedReference_iff
  sqlite := Sqlite.credentialRefCheck_iff hnul
  postgres := Postgres.credentialRefCheck_iff
  accountRow := exists_accountRow_iff.trans wellFormedReference_iff

theorem Sqlite.readsBack : ReadsBack Sqlite.credentialRefCheck Sqlite.readColumns := by
  intro rows hrows
  apply RouteColumns.mapM_read
  intro row hrow
  rcases hrows row hrow with ⟨hnul, hcheck⟩
  exact wellFormedReference_iff.mpr ((Sqlite.credentialRefCheck_iff hnul).mp hcheck)

theorem Postgres.readsBack : ReadsBack Postgres.credentialRefCheck Postgres.readColumns := by
  intro rows hrows
  apply RouteColumns.mapM_read
  intro row hrow
  exact wellFormedReference_iff.mpr (Postgres.credentialRefCheck_iff.mp (hrows row hrow).2)

/-- The four checks of a credential reference accept the same texts, `env:` with the name of a
variable after it, and parsing keeps them. So the routes of a table that a schema admits are
read back, by the route query of either store and by the query for the snapshot. -/
theorem credential_reference_checks_agree :
    (∀ text : String, '\x00' ∉ text.toList → ChecksAgree text) ∧
    (∀ text reference, CredentialReference.parse text = .ok reference →
      reference.text = text ∧ text = "env:" ++ reference.environmentName ∧
        reference.environmentName.toList ∈ environmentNames) ∧
    (ReadsBack Sqlite.credentialRefCheck Sqlite.readColumns ∧
      ReadsBack Postgres.credentialRefCheck Postgres.readColumns) ∧
    (∀ row : ControlPlane.JoinedRoute,
      Sqlite.readCandidate row = Sqlite.readColumns row.columns ∧
      Postgres.readCandidate row = Postgres.readColumns row.columns) ∧
    (∀ row : Postgres.SnapshotRow, row.read = Postgres.readColumns row.columns) ∧
    (∀ (db : ControlPlane) (now : Int) (logicalModel : String), ∃ routes,
      (db.joinedRoutes.filter (Sqlite.eligible now)).mapM Sqlite.readCandidate = .ok routes ∧
      Sqlite.candidates db now logicalModel =
        (candidatePlan logicalModel routes db.fallbackMap).mapError DomainError.message) ∧
    (∀ rows : List ControlPlane.JoinedRoute, ∃ routes,
      rows.mapM Postgres.readCandidate = .ok routes) ∧
    ∀ db : Postgres.Database, ∃ data, db.controlSnapshotData = .ok data := by
  refine ⟨fun text => checksAgree, ?_, ⟨Sqlite.readsBack, Postgres.readsBack⟩, ?_,
    Postgres.SnapshotRow.read_columns, ?_, ?_, ?_⟩
  · intro text reference hparse
    have htext := CredentialReference.parse_eq_ok.mp hparse
    rcases reference.text_eq with ⟨hformat, hname⟩
    exact ⟨htext, htext.symm.trans hformat, hname⟩
  · intro row
    exact ⟨Sqlite.readCandidate_columns row, Postgres.readCandidate_columns row⟩
  · intro db now logicalModel
    refine ⟨Sqlite.eligibleRoutes db now, ?_, Sqlite.candidates_eq db now logicalModel⟩
    exact ControlPlane.mapM_toCandidate Sqlite.readCandidate_eq _
  · intro rows
    exact ⟨_, ControlPlane.mapM_toCandidate Postgres.readCandidate_eq rows⟩
  · intro db
    exact ⟨db.snapshotData, Postgres.Database.controlSnapshotData_eq db⟩

/-- A route whose account has the reference to the variable `KEY`. -/
def keyColumns : RouteColumns where
  routeId := "route"
  logicalModel := "model"
  providerAccountId := "account"
  provider := "openai-compatible"
  credentialRef := "env:KEY"
  baseUrl := "https://provider.test"
  upstreamModel := "upstream"
  priority := 1

theorem credential_reference_checks_agree_key :
    ChecksAgree "env:KEY" ∧ Sqlite.credentialRefCheck "env:KEY" = true ∧
      ∃ routes, [keyColumns].mapM Sqlite.readColumns = .ok routes ∧
        (routes.map fun route => route.credentialRef.text) = ["env:KEY"] :=
  ⟨credential_reference_checks_agree.1 "env:KEY" (by decide), by decide,
    credential_reference_checks_agree.2.2.1.1 [keyColumns]
      (List.forall_mem_singleton.mpr ⟨by decide, by decide⟩)⟩

end SmartGateway
