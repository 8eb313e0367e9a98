import SmartGateway.Storage.LedgerHistory

/-! # Inspecting the accounting evidence

`accounting quota` and `accounting billing` print the stored facts of an account with a status:
whether there are any, and whether one is still fresh. Over every history of the ledger the
status says just that, and each entry holds its fact but for the identities: with these put back,
the derived reader of the fact's type reads the fact (`inspections_of_history`).
-/

namespace SmartGateway

open StructReader

/-! ## The commands -/

/-- `unix_timestamp`, at a clock that shows the seconds since the epoch. -/
def unixTimestamp (clock : Option Nat) : Except String Int :=
  match clock with
  | none => .error "system clock is before the Unix epoch"
  | some seconds => .ok (min seconds i64Max)

/-- The loop of `accounting_status`, after facts of which none was fresh. -/
def accountingStatusFrom (anyEvidence : Bool) (evaluatedAtUnix : Int) : List Int → String
  | [] => if anyEvidence then "expired" else "absent"
  | freshUntilUnix :: rest =>
    if freshUntilUnix ≥ evaluatedAtUnix then "current"
    else accountingStatusFrom true evaluatedAtUnix rest

def accountingStatus (freshUntilTimestamps : List Int) (evaluatedAtUnix : Int) : String :=
  accountingStatusFrom false evaluatedAtUnix freshUntilTimestamps

def statusSemantics : Json :=
  .object <|
    member "absent"
      (.string "no persisted provider-authoritative evidence matched this query") ++
    member "current"
      (.string "at least one persisted fresh_until_unix timestamp is at or after evaluated_at_unix")
      ++
    member "expired"
      (.string <| "persisted evidence exists, but every fresh_until_unix timestamp precedes " ++
        "evaluated_at_unix")

def evidenceStatus (freshUntilUnix evaluatedAtUnix : Int) : String :=
  if freshUntilUnix ≥ evaluatedAtUnix then "current" else "expired"

def unitJson (unit : ProviderUnit) : Json :=
  .object <|
    member "currency_code" (.ofOption .string unit.currencyCode) ++
    member "custom_name" (.ofOption .string unit.customName) ++
    member "kind" (.string (unitKindName unit.kind))

def fixedDecimalJson (value : FixedDecimal) : Json :=
  .object <|
    member "scale" (.ofU8 (.ofNat value.scale)) ++
    member "unscaled" (.ofI64 value.unscaled)

def decimalJson (value : Option FixedDecimal) : Json :=
  .ofOption fixedDecimalJson value

def quantityJson (quantity : ProviderReportedQuantity) : Json :=
  .object <|
    member "unit" (unitJson quantity.unit) ++
    member "value" (decimalJson (some quantity.value))

def sourceJson (source : AuthoritativeSource) : Json :=
  .object <|
    member "evidence_version" (.ofOption .string source.evidenceVersion) ++
    member "source_id" (.string source.sourceId)

def quotaSnapshotMembers (snapshot : ProviderQuotaSnapshot) (evaluatedAtUnix : Int) :
    List (String × Json) :=
  member "allowance" (decimalJson snapshot.allowance) ++
  member "constraint_id" (.string snapshot.constraintId) ++
  member "consumed" (decimalJson snapshot.consumed) ++
  member "evidence_status" (.string (evidenceStatus snapshot.freshUntilUnix evaluatedAtUnix)) ++
  member "fresh_until_unix" (.ofI64 snapshot.freshUntilUnix) ++
  member "observed_at_unix" (.ofI64 snapshot.observedAtUnix) ++
  member "remaining" (decimalJson snapshot.remaining) ++
  member "reset_at_unix" (.ofOption .ofI64 snapshot.resetAtUnix) ++
  member "source" (sourceJson snapshot.source) ++
  member "unit" (unitJson snapshot.unit)

def quotaSnapshotJson (snapshot : ProviderQuotaSnapshot) (evaluatedAtUnix : Int) : Json :=
  .object (quotaSnapshotMembers snapshot evaluatedAtUnix)

def billingRecordMembers (record : ProviderBillingRecord) (evaluatedAtUnix : Int) :
    List (String × Json) :=
  member "billed_units" (.ofVec quantityJson record.billedUnits) ++
  member "charge" (.ofOption quantityJson record.charge) ++
  member "evidence_status" (.string (evidenceStatus record.freshUntilUnix evaluatedAtUnix)) ++
  member "fresh_until_unix" (.ofI64 record.freshUntilUnix) ++
  member "observed_at_unix" (.ofI64 record.observedAtUnix) ++
  member "source" (sourceJson record.source)

def billingRecordJson (record : ProviderBillingRecord) (evaluatedAtUnix : Int) : Json :=
  .object (billingRecordMembers record evaluatedAtUnix)

/-- What both commands print: the facts of an account, under a name of their own. -/
def inspectionReport (providerAccount : String) (evaluatedAtUnix : Int) (freshUntil : List Int)
    (name : String) (entries : List Json) : Json :=
  .object <|
    member "evaluated_at_unix" (.ofI64 evaluatedAtUnix) ++
    member "evidence_status" (.string (accountingStatus freshUntil evaluatedAtUnix)) ++
    member "provider_account_id" (.string providerAccount) ++
    member name (.array entries) ++
    member "status_semantics" statusSemantics

/-- The attempt of `inspect_billing`. -/
def attemptArgument (attempt : String) : Except String AttemptId :=
  match AttemptId.parse attempt with
  | none => .error "attempt must be a valid gateway attempt UUID"
  | some attemptId => .ok attemptId

namespace Dialect

/-- `inspect_quota`, on a store that is open. -/
def inspectQuota (d : Dialect) (ledger : Ledger) (clock : Option Nat) (providerAccount : String) :
    Except String Json := do
  let evaluatedAtUnix ← unixTimestamp clock
  let snapshots ← d.quotaSnapshots ledger providerAccount
  return inspectionReport providerAccount evaluatedAtUnix
    (snapshots.map ProviderQuotaSnapshot.freshUntilUnix) "snapshots"
    (snapshots.map fun snapshot => quotaSnapshotJson snapshot evaluatedAtUnix)

/-- `inspect_billing`. -/
def inspectBilling (d : Dialect) (ledger : Ledger) (clock : Option Nat)
    (providerAccount attempt : String) : Except String Json := do
  let attemptId ← attemptArgument attempt
  let evaluatedAtUnix ← unixTimestamp clock
  let all ← d.billingRecords ledger attemptId
  let records := all.filter fun record => record.providerAccountId = providerAccount
  return inspectionReport providerAccount evaluatedAtUnix
    (records.map ProviderBillingRecord.freshUntilUnix) "records"
    (records.map fun record => billingRecordJson record evaluatedAtUnix)

end Dialect

/-! ## The derived readers -/

def ProviderUnit.ofValue : Json → Option ProviderUnit :=
  fromValue do
    let kind ← required "kind" fun json => json.asStr.bind providerUnitKind
    let currencyCode ← optional "currency_code" Json.asStr
    let customName ← optional "custom_name" Json.asStr
    return { kind, currencyCode, customName }

def FixedDecimal.ofValue : Json → Option FixedDecimal :=
  fromValue do
    let unscaled ← required "unscaled" Json.asI64
    let scale ← required "scale" Json.asU8
    return { unscaled, scale := scale.toNat }

def ProviderReportedQuantity.ofValue : Json → Option ProviderReportedQuantity :=
  fromValue do
    let unit ← required "unit" ProviderUnit.ofValue
    let value ← required "value" FixedDecimal.ofValue
    return { unit, value }

def AuthoritativeSource.ofValue : Json → Option AuthoritativeSource :=
  fromValue do
    let sourceId ← required "source_id" Json.asStr
    let evidenceVersion ← optional "evidence_version" Json.asStr
    return { sourceId, evidenceVersion }

def ProviderQuotaSnapshot.ofValue : Json → Option ProviderQuotaSnapshot :=
  fromValue do
    let snapshotId ← required "snapshot_id" Json.asStr
    let providerAccountId ← required "provider_account_id" Json.asStr
    let constraintId ← required "constraint_id" Json.asStr
    let unit ← required "unit" ProviderUnit.ofValue
    let allowance ← optional "allowance" FixedDecimal.ofValue
    let consumed ← optional "consumed" FixedDecimal.ofValue
    let remaining ← optional "remaining" FixedDecimal.ofValue
    let resetAtUnix ← optional "reset_at_unix" Json.asI64
    let observedAtUnix ← required "observed_at_unix" Json.asI64
    let freshUntilUnix ← required "fresh_until_unix" Json.asI64
    let source ← required "source" AuthoritativeSource.ofValue
    return { snapshotId, providerAccountId, constraintId, unit, allowance, consumed, remaining,
             resetAtUnix, observedAtUnix, freshUntilUnix, source }

def ProviderBillingRecord.ofValue : Json → Option ProviderBillingRecord :=
  fromValue do
    let recordId ← required "record_id" Json.asStr
    let attemptId ← required "attempt_id" fun json => json.asStr.bind AttemptId.parse
    let providerAccountId ← required "provider_account_id" Json.asStr
    let providerRequestId ← optional "provider_request_id" Json.asStr
    let billedUnits ← required "billed_units" (Json.asVec ProviderReportedQuantity.ofValue)
    let charge ← optional "charge" ProviderReportedQuantity.ofValue
    let observedAtUnix ← required "observed_at_unix" Json.asI64
    let freshUntilUnix ← required "fresh_until_unix" Json.asI64
    let source ← required "source" AuthoritativeSource.ofValue
    return { recordId, attemptId, providerAccountId, providerRequestId, billedUnits, charge,
             observedAtUnix, freshUntilUnix, source }

/-! ## Values are read back -/

theorem ProviderUnit.reads (unit : ProviderUnit) : Reads unitJson ProviderUnit.ofValue unit := by
  have hkind : (Json.string (unitKindName unit.kind)).asStr.bind providerUnitKind =
      some unit.kind := providerUnitKind_name unit.kind
  exact ReadsFields.reads <|
    .value (by simp [List.lookup_append]) hkind <|
    .nullable (by simp [List.lookup_append]) (fun _ _ => reads_string _) <|
    .nullable (by simp [List.lookup_append]) (fun _ _ => reads_string _) <|
    .pure _ _

theorem AuthoritativeSource.reads (source : AuthoritativeSource) :
    Reads sourceJson AuthoritativeSource.ofValue source :=
  ReadsFields.reads <|
    .required (by simp [List.lookup_append]) (reads_string _) <|
    .nullable (by simp [List.lookup_append]) (fun _ _ => reads_string _) <|
    .pure _ _

theorem FixedDecimal.Typed.reads {value : FixedDecimal} (h : value.Typed) :
    Reads fixedDecimalJson FixedDecimal.ofValue value := by
  have hscale : (UInt8.ofNat value.scale).toNat = value.scale := by
    rw [UInt8.toNat_ofNat', Nat.mod_eq_of_lt h.scale]
  have hread : Json.asU8 (.ofU8 (.ofNat value.scale)) = some (.ofNat value.scale) :=
    (reads_u8 _).2
  refine ReadsFields.reads <|
    .required (by simp [List.lookup_append]) (reads_i64 h.unscaled) <|
    .value (by simp [List.lookup_append]) hread ?_
  rw [hscale]
  exact .pure _ _

theorem ProviderReportedQuantity.reads {quantity : ProviderReportedQuantity}
    (h : quantity.value.Typed) : Reads quantityJson ProviderReportedQuantity.ofValue quantity := by
  have hvalue : (member "unit" (unitJson quantity.unit) ++
      member "value" (decimalJson (some quantity.value))).lookup "value" =
        some (fixedDecimalJson quantity.value) := by
    simp [List.lookup_append, decimalJson, Json.ofOption]
  exact ReadsFields.reads <|
    .required (by simp [List.lookup_append]) (ProviderUnit.reads _) <|
    .required hvalue h.reads <|
    .pure _ _

/-- What the report leaves out of a snapshot: the account is that of the report. -/
def ProviderQuotaSnapshot.identities (snapshot : ProviderQuotaSnapshot) : List (String × Json) :=
  member "provider_account_id" (.string snapshot.providerAccountId) ++
  member "snapshot_id" (.string snapshot.snapshotId)

def ProviderBillingRecord.identities (record : ProviderBillingRecord) : List (String × Json) :=
  member "attempt_id" (.string record.attemptId.text) ++
  member "provider_account_id" (.string record.providerAccountId) ++
  member "provider_request_id" (.ofOption .string record.providerRequestId) ++
  member "record_id" (.string record.recordId)

/-- With its identities, an entry is read as its snapshot. -/
theorem ProviderQuotaSnapshot.Typed.reads {snapshot : ProviderQuotaSnapshot} (h : snapshot.Typed)
    (evaluatedAtUnix : Int) :
    ofValue (.object (quotaSnapshotMembers snapshot evaluatedAtUnix ++ snapshot.identities)) =
      some snapshot := by
  refine (ReadsFields.reads ?_).2
  unfold quotaSnapshotMembers identities decimalJson
  exact
    .required (by simp [List.lookup_append]) (reads_string _) <|
    .required (by simp [List.lookup_append]) (reads_string _) <|
    .required (by simp [List.lookup_append]) (reads_string _) <|
    .required (by simp [List.lookup_append]) (ProviderUnit.reads _) <|
    .nullable (by simp [List.lookup_append]) (fun value hvalue => (h.allowance value hvalue).reads) <|
    .nullable (by simp [List.lookup_append]) (fun value hvalue => (h.consumed value hvalue).reads) <|
    .nullable (by simp [List.lookup_append]) (fun value hvalue => (h.remaining value hvalue).reads) <|
    .nullable (by simp [List.lookup_append]) (fun time htime => reads_i64 (h.resetAtUnix time htime)) <|
    .required (by simp [List.lookup_append]) (reads_i64 h.observedAtUnix) <|
    .required (by simp [List.lookup_append]) (reads_i64 h.freshUntilUnix) <|
    .required (by simp [List.lookup_append]) (AuthoritativeSource.reads _) <|
    .pure _ _

theorem ProviderBillingRecord.Typed.reads {record : ProviderBillingRecord} (h : record.Typed)
    (evaluatedAtUnix : Int) :
    ofValue (.object (billingRecordMembers record evaluatedAtUnix ++ record.identities)) =
      some record := by
  have hattempt : (Json.string record.attemptId.text).asStr.bind AttemptId.parse =
      some record.attemptId := AttemptId.parse_text h.attemptId
  refine (ReadsFields.reads ?_).2
  unfold billingRecordMembers identities
  exact
    .required (by simp [List.lookup_append]) (reads_string _) <|
    .value (by simp [List.lookup_append]) hattempt <|
    .required (by simp [List.lookup_append]) (reads_string _) <|
    .nullable (by simp [List.lookup_append]) (fun _ _ => reads_string _) <|
    .required (by simp [List.lookup_append])
      (reads_vec fun quantity hquantity => ProviderReportedQuantity.reads
        (h.billedUnits quantity hquantity)) <|
    .nullable (by simp [List.lookup_append])
      (fun charge hcharge => ProviderReportedQuantity.reads (h.charge charge hcharge)) <|
    .required (by simp [List.lookup_append]) (reads_i64 h.observedAtUnix) <|
    .required (by simp [List.lookup_append]) (reads_i64 h.freshUntilUnix) <|
    .required (by simp [List.lookup_append]) (AuthoritativeSource.reads _) <|
    .pure _ _

/-! ## The status -/

/-- The loop stops at the first fact that is fresh. -/
theorem accountingStatusFrom_eq (anyEvidence : Bool) (evaluatedAtUnix : Int)
    (freshUntil : List Int) :
    accountingStatusFrom anyEvidence evaluatedAtUnix freshUntil =
      if ∃ time ∈ freshUntil, evaluatedAtUnix ≤ time then "current"
      else if anyEvidence = true ∨ freshUntil ≠ [] then "expired" else "absent" := by
  induction freshUntil generalizing anyEvidence with
  | nil => simp [accountingStatusFrom]
  | cons freshUntilUnix rest ih =>
    rw [accountingStatusFrom]
    by_cases hfresh : freshUntilUnix ≥ evaluatedAtUnix
    · rw [if_pos hfresh, if_pos ⟨freshUntilUnix, List.mem_cons_self, hfresh⟩]
    · have hrest : (∃ time ∈ freshUntilUnix :: rest, evaluatedAtUnix ≤ time) ↔
          ∃ time ∈ rest, evaluatedAtUnix ≤ time := by
        rw [List.exists_mem_cons_iff, or_iff_right hfresh]
      rw [if_neg hfresh, ih true]
      simp only [hrest, true_or, ne_eq, reduceCtorEq, not_false_eq_true, or_true]

/-- What the semantics of the status promise. -/
structure StatusHolds (evaluatedAtUnix : Int) (freshUntil : List Int) (status : String) : Prop where
  absent : status = "absent" ↔ freshUntil = []
  expired : status = "expired" ↔ freshUntil ≠ [] ∧ ∀ time ∈ freshUntil, time < evaluatedAtUnix
  current : status = "current" ↔ ∃ time ∈ freshUntil, evaluatedAtUnix ≤ time

theorem statusHolds (evaluatedAtUnix : Int) (freshUntil : List Int) :
    StatusHolds evaluatedAtUnix freshUntil (accountingStatus freshUntil evaluatedAtUnix) := by
  have hpast : (∀ time ∈ freshUntil, time < evaluatedAtUnix) ↔
      ¬ ∃ time ∈ freshUntil, evaluatedAtUnix ≤ time := by
    simp only [not_exists, not_and, not_le]
  rw [accountingStatus, accountingStatusFrom_eq]
  by_cases hcurrent : ∃ time ∈ freshUntil, evaluatedAtUnix ≤ time
  · have hsome : freshUntil ≠ [] := by
      obtain ⟨time, htime, -⟩ := hcurrent
      exact List.ne_nil_of_mem htime
    rw [if_pos hcurrent]
    constructor <;> simp [hpast, hcurrent, hsome]
  · rw [if_neg hcurrent]
    by_cases hempty : freshUntil = []
    · subst hempty
      constructor <;> simp
    · rw [if_pos (Or.inr hempty)]
      constructor <;> simp [hpast, hcurrent, hempty]

/-! ## The reports -/

/-- What a report of facts says: its status and its instant, and one entry for each fact, in
order. -/
structure Reported (providerAccount : String) (evaluatedAtUnix : Int) (freshUntil : List Int)
    (name : String) (entries : List Json) (report : Json) : Prop where
  account : report.get "provider_account_id" = some (.string providerAccount)
  evaluatedAt : report.get "evaluated_at_unix" = some (.ofI64 evaluatedAtUnix)
  status : ∃ status, report.get "evidence_status" = some (.string status) ∧
    StatusHolds evaluatedAtUnix freshUntil status
  entries : report.get name = some (.array entries)

theorem reported {name : String}
    (hname : name ≠ "evaluated_at_unix" ∧ name ≠ "evidence_status" ∧ name ≠ "provider_account_id")
    (providerAccount : String) (evaluatedAtUnix : Int) (freshUntil : List Int)
    (entries : List Json) :
    Reported providerAccount evaluatedAtUnix freshUntil name entries
      (inspectionReport providerAccount evaluatedAtUnix freshUntil name entries) := by
  obtain ⟨hevaluated, hstatus, haccount⟩ := hname
  constructor
  · simp [inspectionReport, Json.get, Json.asObject, List.lookup_append]
  · simp [inspectionReport, Json.get, Json.asObject, List.lookup_append]
  · refine ⟨accountingStatus freshUntil evaluatedAtUnix, ?_, statusHolds _ _⟩
    simp [inspectionReport, Json.get, Json.asObject, List.lookup_append]
  · simp [inspectionReport, Json.get, Json.asObject, List.lookup_append, hevaluated, hstatus,
      haccount]

/-- An entry is the object of a fact: it has the fact's own status, and with the identities that
the report leaves out, it is read as the fact. -/
structure Shows {α : Type} (identities : α → List (String × Json)) (ofValue : Json → Option α)
    (freshUntil : α → Int) (evaluatedAtUnix : Int) (fact : α) (entry : Json) : Prop where
  status : entry.get "evidence_status" = some (.string (evidenceStatus (freshUntil fact) evaluatedAtUnix))
  read : ∃ members, entry = .object members ∧
    ofValue (.object (members ++ identities fact)) = some fact

theorem shows_quota {snapshot : ProviderQuotaSnapshot} (h : snapshot.Typed) (evaluatedAtUnix : Int) :
    Shows ProviderQuotaSnapshot.identities ProviderQuotaSnapshot.ofValue
      ProviderQuotaSnapshot.freshUntilUnix evaluatedAtUnix snapshot
      (quotaSnapshotJson snapshot evaluatedAtUnix) where
  status := by
    simp [quotaSnapshotJson, quotaSnapshotMembers, Json.get, Json.asObject, List.lookup_append]
  read := ⟨_, rfl, h.reads evaluatedAtUnix⟩

theorem shows_billing {record : ProviderBillingRecord} (h : record.Typed) (evaluatedAtUnix : Int) :
    Shows ProviderBillingRecord.identities ProviderBillingRecord.ofValue
      ProviderBillingRecord.freshUntilUnix evaluatedAtUnix record
      (billingRecordJson record evaluatedAtUnix) where
  status := by
    simp [billingRecordJson, billingRecordMembers, Json.get, Json.asObject, List.lookup_append]
  read := ⟨_, rfl, h.reads evaluatedAtUnix⟩

section Histories

variable {d : Dialect} {ledger ledger' : Ledger} {history : List LedgerEvent}

/-- The records of an attempt that belong to an account, oldest first. -/
def Facts.accountRecords (facts : Facts) (d : Dialect) (attemptId : AttemptId)
    (providerAccount : String) : List ProviderBillingRecord :=
  (facts.billingRecords d attemptId).filter fun record =>
    record.providerAccountId = providerAccount

/-- What `inspect_quota` prints of a ledger that stands for the facts. -/
theorem Ledger.Represents.inspectQuota {facts : Facts} (h : ledger.Represents facts)
    {providerAccount : String} (hstorable : d.storable [providerAccount] = true) (seconds : Nat) :
    d.inspectQuota ledger (some seconds) providerAccount =
      .ok (inspectionReport providerAccount (min seconds i64Max)
        ((facts.quotaSnapshots d providerAccount).map ProviderQuotaSnapshot.freshUntilUnix)
        "snapshots" ((facts.quotaSnapshots d providerAccount).map fun snapshot =>
          quotaSnapshotJson snapshot (min seconds i64Max))) := by
  rw [Dialect.inspectQuota, h.quotaSnapshots hstorable]
  rfl

theorem Ledger.Represents.inspectBilling {facts : Facts} (h : ledger.Represents facts)
    {attempt : String} {attemptId : AttemptId} (hparse : AttemptId.parse attempt = some attemptId)
    (providerAccount : String) (seconds : Nat) :
    d.inspectBilling ledger (some seconds) providerAccount attempt =
      .ok (inspectionReport providerAccount (min seconds i64Max)
        ((facts.accountRecords d attemptId providerAccount).map
          ProviderBillingRecord.freshUntilUnix)
        "records" ((facts.accountRecords d attemptId providerAccount).map fun record =>
          billingRecordJson record (min seconds i64Max))) := by
  have hplain := (AttemptId.isUuid_of_parse hparse).plain
  have hstorable : d.storable [attemptId.text] = true :=
    d.storable_plain _ (by simpa using hplain)
  rw [Dialect.inspectBilling, attemptArgument, hparse]
  show (d.billingRecords ledger attemptId >>= fun all => _) = _
  rw [h.billingRecords hstorable]
  rfl

/-- Over every history of a store, a report has one entry for each fact of the account that was
taken, from which the fact can be read, and its status is what its semantics say of them. -/
theorem inspections_of_history (hinit : d.ledgers.Init ledger)
    (hrun : d.ledgers.Steps ledger history ledger') (seconds : Nat) (providerAccount : String) :
    (d.storable [providerAccount] = true → ∃ report entries,
      d.inspectQuota ledger' (some seconds) providerAccount = .ok report ∧
      Reported providerAccount (min seconds i64Max)
        (((Facts.of history).quotaSnapshots d providerAccount).map
          ProviderQuotaSnapshot.freshUntilUnix) "snapshots" entries report ∧
      List.Forall₂ (Shows ProviderQuotaSnapshot.identities ProviderQuotaSnapshot.ofValue
          ProviderQuotaSnapshot.freshUntilUnix (min seconds i64Max))
        ((Facts.of history).quotaSnapshots d providerAccount) entries) ∧
    ∀ attempt attemptId, AttemptId.parse attempt = some attemptId → ∃ report entries,
      d.inspectBilling ledger' (some seconds) providerAccount attempt = .ok report ∧
      Reported providerAccount (min seconds i64Max)
        (((Facts.of history).accountRecords d attemptId providerAccount).map
          ProviderBillingRecord.freshUntilUnix) "records" entries report ∧
      List.Forall₂ (Shows ProviderBillingRecord.identities ProviderBillingRecord.ofValue
          ProviderBillingRecord.freshUntilUnix (min seconds i64Max))
        ((Facts.of history).accountRecords d attemptId providerAccount) entries := by
  -- what is read back are the facts of the history, each shown as itself
  have hrepresents := represents_run hinit hrun
  constructor
  · intro hstorable
    refine ⟨_, _, hrepresents.inspectQuota hstorable seconds, reported (by simp) _ _ _ _, ?_⟩
    · rw [List.forall₂_map_right_iff, List.forall₂_same]
      intro snapshot hsnapshot
      have hmem := List.mem_of_mem_filter ((List.mem_insertionSort _).mp hsnapshot)
      exact shows_quota (hrepresents.valid snapshot hmem).2 _
  · intro attempt attemptId hparse
    refine ⟨_, _, hrepresents.inspectBilling hparse providerAccount seconds,
      reported (by simp) _ _ _ _, ?_⟩
    · rw [List.forall₂_map_right_iff, List.forall₂_same]
      intro record hrecord
      have hall := List.mem_of_mem_filter hrecord
      have hmem := List.mem_of_mem_filter ((List.mem_insertionSort _).mp hall)
      exact shows_billing (hrepresents.typed record hmem) _

end Histories

/-- A record whose freshness ends at second 310, at second 300. -/
theorem inspections_of_history_charges :
    ∃ report, Dialect.sqlite.inspectBilling .chargedAgain (some 300) "account"
        AttemptId.least.text = .ok report ∧
      report.get "evidence_status" = some (.string "current") := by
  obtain ⟨history, hrun, hfacts⟩ := exists_run_chargedAgain
  have hinit : Dialect.sqlite.ledgers.Init .oneAttempt := ⟨rfl, rfl, rfl⟩
  have hparse : AttemptId.parse AttemptId.least.text = some .least :=
    AttemptId.parse_text AttemptId.isUuid_least
  obtain ⟨report, entries, hreport, hreported, -⟩ :=
    (inspections_of_history hinit hrun 300 "account").2 _ _ hparse
  obtain ⟨status, hget, hstatus⟩ := hreported.status
  refine ⟨report, hreport, ?_⟩
  have hcurrent : status = "current" := by
    apply hstatus.current.mpr
    rw [hfacts]
    exact ⟨310, by decide, by decide⟩
  rw [hget, hcurrent]

end SmartGateway
