import SmartGateway.Lib.OrderedRows
import SmartGateway.Storage.Ledger

/-! # Recording and reading evidence

The four methods of `AuthoritativeAccountingRepository`, for both stores: a dialect says what
they do differently. A quota snapshot is one statement, a billing record is a transaction
of one statement for its header and one for each billed unit.
-/

namespace SmartGateway

/-! ## Facts as rows -/

def quotaRow (snapshot : ProviderQuotaSnapshot) : QuotaRow where
  providerAccountId := snapshot.providerAccountId
  constraintId := snapshot.constraintId
  unitKind := unitKindName snapshot.unit.kind
  currencyCode := snapshot.unit.currencyCode
  customName := snapshot.unit.customName
  allowanceUnscaled := snapshot.allowance.map FixedDecimal.unscaled
  allowanceScale := snapshot.allowance.map fun value => (value.scale : Int)
  consumedUnscaled := snapshot.consumed.map FixedDecimal.unscaled
  consumedScale := snapshot.consumed.map fun value => (value.scale : Int)
  remainingUnscaled := snapshot.remaining.map FixedDecimal.unscaled
  remainingScale := snapshot.remaining.map fun value => (value.scale : Int)
  resetAt := snapshot.resetAtUnix
  observedAt := snapshot.observedAtUnix
  freshUntil := snapshot.freshUntilUnix
  sourceId := snapshot.source.sourceId
  evidenceVersion := snapshot.source.evidenceVersion

def billingRow (record : ProviderBillingRecord) : BillingRow where
  attemptId := record.attemptId.text
  providerAccountId := record.providerAccountId
  providerRequestId := record.providerRequestId
  chargeUnitKind := record.charge.map fun charge => unitKindName charge.unit.kind
  chargeCurrencyCode := record.charge.bind fun charge => charge.unit.currencyCode
  chargeCustomName := record.charge.bind fun charge => charge.unit.customName
  chargeUnscaled := record.charge.map fun charge => charge.value.unscaled
  chargeScale := record.charge.map fun charge => (charge.value.scale : Int)
  observedAt := record.observedAtUnix
  freshUntil := record.freshUntilUnix
  sourceId := record.source.sourceId
  evidenceVersion := record.source.evidenceVersion

def unitRow (quantity : ProviderReportedQuantity) : UnitRow where
  unitKind := unitKindName quantity.unit.kind
  currencyCode := quantity.unit.currencyCode
  customName := quantity.unit.customName
  valueUnscaled := quantity.value.unscaled
  valueScale := quantity.value.scale

/-- The texts a statement binds. -/
def QuotaRow.texts (id : String) (row : QuotaRow) : List String :=
  [id, row.providerAccountId, row.constraintId, row.unitKind, row.sourceId] ++
    row.currencyCode.toList ++ row.customName.toList ++ row.evidenceVersion.toList

def BillingRow.texts (id : String) (row : BillingRow) : List String :=
  [id, row.attemptId, row.providerAccountId, row.sourceId] ++ row.providerRequestId.toList ++
    row.chargeUnitKind.toList ++ row.chargeCurrencyCode.toList ++ row.chargeCustomName.toList ++
    row.evidenceVersion.toList

def UnitRow.texts (id : String) (row : UnitRow) : List String :=
  [id, row.unitKind] ++ row.currencyCode.toList ++ row.customName.toList

/-! ## Rows as facts -/

def providerUnitKind : String → Option ProviderUnitKind
  | "requests" => some .requests
  | "input_tokens" => some .inputTokens
  | "cached_input_tokens" => some .cachedInputTokens
  | "output_tokens" => some .outputTokens
  | "reasoning_tokens" => some .reasoningTokens
  | "total_tokens" => some .totalTokens
  | "concurrent_requests" => some .concurrentRequests
  | "currency" => some .currency
  | "custom" => some .custom
  | _ => none

def providerUnit (kind : String) (currencyCode customName : Option String) :
    Except String ProviderUnit :=
  match providerUnitKind kind with
  | none => .error "invalid stored provider unit"
  | some kind =>
    let unit : ProviderUnit := { kind, currencyCode, customName }
    match unit.validate with
    | .error error => .error error.message
    | .ok () => .ok unit

def fixedDecimal : Option Int → Option Int → Except String (Option FixedDecimal)
  | none, none => .ok none
  | some unscaled, some scale =>
    -- `u8::try_from(scale)`
    if 0 ≤ scale ∧ scale < 256 then .ok (some { unscaled, scale := scale.toNat })
    else .error "invalid stored decimal scale"
  | _, _ => .error "invalid stored decimal value"

/-- A decimal that has to be there. -/
def requiredDecimal (missing : String) (unscaled scale : Option Int) : Except String FixedDecimal :=
  (fixedDecimal unscaled scale).bind fun
    | none => .error missing
    | some value => .ok value

def readQuota (row : String × QuotaRow) : Except String ProviderQuotaSnapshot := do
  let unit ← providerUnit row.2.unitKind row.2.currencyCode row.2.customName
  let allowance ← fixedDecimal row.2.allowanceUnscaled row.2.allowanceScale
  let consumed ← fixedDecimal row.2.consumedUnscaled row.2.consumedScale
  let remaining ← fixedDecimal row.2.remainingUnscaled row.2.remainingScale
  let snapshot : ProviderQuotaSnapshot :=
    { snapshotId := row.1
      providerAccountId := row.2.providerAccountId
      constraintId := row.2.constraintId
      unit, allowance, consumed, remaining
      resetAtUnix := row.2.resetAt
      observedAtUnix := row.2.observedAt
      freshUntilUnix := row.2.freshUntil
      source := { sourceId := row.2.sourceId, evidenceVersion := row.2.evidenceVersion } }
  snapshot.validate.mapError AuthoritativeDataError.message
  return snapshot

def readUnit (row : (String × Int) × UnitRow) : Except String ProviderReportedQuantity := do
  let unit ← providerUnit row.2.unitKind row.2.currencyCode row.2.customName
  let value ← requiredDecimal "missing billing unit value" (some row.2.valueUnscaled)
    (some row.2.valueScale)
  return { unit, value }

/-- The charge columns of a header. -/
def readCharge (row : BillingRow) : Except String (Option ProviderReportedQuantity) :=
  match row.chargeUnitKind with
  | none => .ok none
  | some kind => do
    let unit ← providerUnit kind row.chargeCurrencyCode row.chargeCustomName
    let value ← requiredDecimal "missing provider-reported charge" row.chargeUnscaled row.chargeScale
    return some { unit, value }

namespace Ledger

/-- The units of a record, in the order they are stored. -/
def unitRows (ledger : Ledger) (id : String) : List ((String × Int) × UnitRow) :=
  ledger.billingUnits.rows.filter fun row => row.1.1 = id

/-- `SELECT … FROM provider_billing_units WHERE billing_record_id = … ORDER BY unit_index`. -/
def loadBilledUnits (ledger : Ledger) (id : String) :
    Except String (List ProviderReportedQuantity) :=
  ((ledger.unitRows id).insertionSort fun a b => a.1.2 ≤ b.1.2).mapM readUnit

def readRecord (ledger : Ledger) (row : String × BillingRow) :
    Except String ProviderBillingRecord := do
  let billedUnits ← ledger.loadBilledUnits row.1
  let charge ← readCharge row.2
  match AttemptId.parse row.2.attemptId with
  | none => throw "invalid stored attempt identifier"
  | some attemptId =>
    let record : ProviderBillingRecord :=
      { recordId := row.1
        attemptId
        providerAccountId := row.2.providerAccountId
        providerRequestId := row.2.providerRequestId
        billedUnits, charge
        observedAtUnix := row.2.observedAt
        freshUntilUnix := row.2.freshUntil
        source := { sourceId := row.2.sourceId, evidenceVersion := row.2.evidenceVersion } }
    record.validate.mapError AuthoritativeDataError.message
    return record

end Ledger

/-! ## The methods -/

namespace Dialect

/-- Newest first. -/
abbrev quotaOrder (d : Dialect) (a b : String × QuotaRow) : Prop :=
  d.collation.Ordered (b.2.observedAt, b.1) (a.2.observedAt, a.1)

/-- Oldest first. -/
abbrev recordOrder (d : Dialect) (a b : String × BillingRow) : Prop :=
  d.collation.Ordered (a.2.observedAt, a.1) (b.2.observedAt, b.1)

/-- `quota_snapshots`. -/
def quotaSnapshots (d : Dialect) (ledger : Ledger) (providerAccountId : String) :
    Except String (List ProviderQuotaSnapshot) :=
  if d.storable [providerAccountId] then
    ((ledger.quotaSnapshots.rows.filter fun row =>
      row.2.providerAccountId = providerAccountId).insertionSort d.quotaOrder).mapM readQuota
  else .error d.quotaUnreadable

/-- `billing_records`. -/
def billingRecords (d : Dialect) (ledger : Ledger) (attemptId : AttemptId) :
    Except String (List ProviderBillingRecord) :=
  if d.storable [attemptId.text] then
    ((ledger.billingRecords.rows.filter fun row =>
      row.2.attemptId = attemptId.text).insertionSort d.recordOrder).mapM ledger.readRecord
  else .error d.billingUnreadable

/-- `record_quota_snapshot`. -/
def recordQuotaSnapshot (d : Dialect) (snapshot : ProviderQuotaSnapshot) (ledger : Ledger) :
    Except String Unit × Ledger :=
  match snapshot.validate with
  | .error error => (.error error.message, ledger)
  | .ok () =>
    let row := quotaRow snapshot
    if d.storable (row.texts snapshot.snapshotId) then
      match ledger.insertQuota snapshot.snapshotId row with
      | .error refusal => (.error (d.quotaRefused refusal), ledger)
      | .ok ledger => (.ok (), ledger)
    else (.error (d.quotaRefused .text), ledger)

/-- The loop over the billed units, from `index` on. -/
def storeUnits (d : Dialect) (id : String) :
    Nat → List ProviderReportedQuantity → Ledger → Except String Ledger
  | _, [], ledger => .ok ledger
  | index, quantity :: quantities, ledger =>
    if index < d.indexLimit then
      if d.storable ((unitRow quantity).texts id) then
        match ledger.insertUnit id index (unitRow quantity) with
        | .error refusal => .error (d.unitRefused refusal)
        | .ok ledger => d.storeUnits id (index + 1) quantities ledger
      else .error (d.unitRefused .text)
    else .error "too many provider-reported billing units"

/-- The statements of the transaction. -/
def storeRecord (d : Dialect) (record : ProviderBillingRecord) (ledger : Ledger) :
    Except String Ledger :=
  if d.storable ((billingRow record).texts record.recordId) then
    match ledger.insertRecord record.recordId (billingRow record) with
    | .error refusal => .error (d.recordRefused refusal)
    | .ok ledger => d.storeUnits record.recordId 0 record.billedUnits ledger
  else .error (d.recordRefused .text)

/-- `record_billing_record`: an error rolls the transaction back. -/
def recordBillingRecord (d : Dialect) (record : ProviderBillingRecord) (ledger : Ledger) :
    Except String Unit × Ledger :=
  match record.validate with
  | .error error => (.error error.message, ledger)
  | .ok () =>
    match d.storeRecord record ledger with
    | .error error => (.error error, ledger)
    | .ok ledger => (.ok (), ledger)

end Dialect

end SmartGateway
