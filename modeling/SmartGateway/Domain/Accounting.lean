import SmartGateway.Lib.OrderedRows
import SmartGateway.Domain.Text
import SmartGateway.Ports

/-! # Provider-authoritative accounting

Facts a provider reports about capacity and billing, with the checks they pass before the
application hands them to storage.
-/

namespace SmartGateway

/-- Exact decimal reported by a provider, represented without floating point. -/
structure FixedDecimal where
  unscaled : Int
  scale : Nat
deriving DecidableEq

/-- The kind of capacity or billing unit a provider reported. -/
inductive ProviderUnitKind where
  | requests
  | inputTokens
  | cachedInputTokens
  | outputTokens
  | reasoningTokens
  | totalTokens
  | concurrentRequests
  | currency
  | custom
deriving DecidableEq

inductive AuthoritativeDataError where
  | missingIdentifier
  | missingSource
  | invalidUnit
  | missingReportedValue
  | invalidFreshness
  | chargeMustUseCurrency
  | mismatchedProviderAccount
deriving DecidableEq

def AuthoritativeDataError.message : AuthoritativeDataError → String
  | .missingIdentifier => "authoritative provider data requires a non-empty identifier"
  | .missingSource => "authoritative provider data requires a source identifier"
  | .invalidUnit => "provider-reported unit metadata is invalid"
  | .missingReportedValue => "authoritative provider data requires at least one reported value"
  | .invalidFreshness => "authoritative provider data has an invalid freshness window"
  | .chargeMustUseCurrency => "a provider-reported charge must use an explicit currency unit"
  | .mismatchedProviderAccount =>
    "provider-authoritative evidence belongs to a different provider account"

/-- An explicit provider-reported unit. -/
structure ProviderUnit where
  kind : ProviderUnitKind
  currencyCode : Option String
  customName : Option String
deriving DecidableEq

/-- A code of three capital letters. -/
def validCurrency (currencyCode : Option String) : Bool :=
  currencyCode.any fun code => code.utf8ByteSize == 3 && code.toList.all Char.isUpper

def ProviderUnit.validate (unit : ProviderUnit) : Except AuthoritativeDataError Unit :=
  match unit.kind with
  | .currency =>
    if !validCurrency unit.currencyCode || unit.customName.isSome then .error .invalidUnit
    else .ok ()
  | .custom =>
    if !(unit.customName.any fun name => !Text.isBlank name) || unit.currencyCode.isSome then
      .error .invalidUnit
    else .ok ()
  | _ =>
    if unit.currencyCode.isNone && unit.customName.isNone then .ok () else .error .invalidUnit

/-- The provider response, export, or API version that reported a fact. -/
structure AuthoritativeSource where
  sourceId : String
  evidenceVersion : Option String
deriving DecidableEq

def AuthoritativeSource.validate (source : AuthoritativeSource) :
    Except AuthoritativeDataError Unit :=
  if Text.isBlank source.sourceId then .error .missingSource else .ok ()

/-- One exact provider-reported quantity and its explicit unit. -/
structure ProviderReportedQuantity where
  unit : ProviderUnit
  value : FixedDecimal
deriving DecidableEq

def ProviderReportedQuantity.validate (quantity : ProviderReportedQuantity) :
    Except AuthoritativeDataError Unit :=
  quantity.unit.validate

def nonEmptyIdentifiers (identifiers : List String) : Except AuthoritativeDataError Unit :=
  if identifiers.all fun identifier => !Text.isBlank identifier then .ok ()
  else .error .missingIdentifier

/-- Immutable authoritative capacity evidence for one provider constraint. -/
structure ProviderQuotaSnapshot where
  snapshotId : String
  providerAccountId : String
  constraintId : String
  unit : ProviderUnit
  allowance : Option FixedDecimal
  consumed : Option FixedDecimal
  remaining : Option FixedDecimal
  resetAtUnix : Option Int
  observedAtUnix : Int
  freshUntilUnix : Int
  source : AuthoritativeSource
deriving DecidableEq

def ProviderQuotaSnapshot.validate (snapshot : ProviderQuotaSnapshot) :
    Except AuthoritativeDataError Unit := do
  nonEmptyIdentifiers [snapshot.snapshotId, snapshot.providerAccountId, snapshot.constraintId]
  snapshot.unit.validate
  snapshot.source.validate
  if snapshot.allowance.isNone && snapshot.consumed.isNone && snapshot.remaining.isNone then
    throw .missingReportedValue
  if snapshot.freshUntilUnix ≥ snapshot.observedAtUnix then pure ()
  else throw .invalidFreshness

/-- Provider-supplied billing facts from a single inference response. -/
structure ProviderBillingEvidence where
  providerRequestId : Option String
  billedUnits : List ProviderReportedQuantity
  charge : Option ProviderReportedQuantity
  source : AuthoritativeSource
deriving DecidableEq

def ProviderBillingEvidence.validate (billing : ProviderBillingEvidence) :
    Except AuthoritativeDataError Unit := do
  billing.source.validate
  if billing.billedUnits.isEmpty && billing.charge.isNone then
    throw .missingReportedValue
  billing.billedUnits.forM ProviderReportedQuantity.validate
  match billing.charge with
  | none => pure ()
  | some charge =>
    charge.validate
    if charge.unit.kind ≠ .currency then
      throw .chargeMustUseCurrency

/-- Immutable billing evidence reconciled to one gateway attempt. -/
structure ProviderBillingRecord where
  recordId : String
  attemptId : AttemptId
  providerAccountId : String
  providerRequestId : Option String
  billedUnits : List ProviderReportedQuantity
  charge : Option ProviderReportedQuantity
  observedAtUnix : Int
  freshUntilUnix : Int
  source : AuthoritativeSource
deriving DecidableEq

/-- A condition of a validator. -/
def require (condition : Bool) (error : AuthoritativeDataError) :
    Except AuthoritativeDataError Unit :=
  if condition then .ok () else .error error

/-- The checks of a charge. -/
def ProviderReportedQuantity.validateCharge (charge : ProviderReportedQuantity) :
    Except AuthoritativeDataError Unit := do
  charge.validate
  require (charge.unit.kind = .currency) .chargeMustUseCurrency

def ProviderBillingRecord.validate (record : ProviderBillingRecord) :
    Except AuthoritativeDataError Unit := do
  nonEmptyIdentifiers [record.recordId, record.providerAccountId]
  record.source.validate
  require (!(record.billedUnits.isEmpty && record.charge.isNone)) .missingReportedValue
  record.billedUnits.forM ProviderReportedQuantity.validate
  record.charge.forM ProviderReportedQuantity.validateCharge
  require (record.observedAtUnix ≤ record.freshUntilUnix) .invalidFreshness

/-- Optional facts supplied by one provider inference response. -/
structure ProviderAuthoritativeEvidence where
  quotaSnapshots : List ProviderQuotaSnapshot
  billing : Option ProviderBillingEvidence
deriving DecidableEq

namespace ProviderAuthoritativeEvidence

def validateForAccount (evidence : ProviderAuthoritativeEvidence) (providerAccountId : String) :
    Except AuthoritativeDataError Unit := do
  evidence.quotaSnapshots.forM fun snapshot => do
    snapshot.validate
    if snapshot.providerAccountId ≠ providerAccountId then
      throw .mismatchedProviderAccount
  match evidence.billing with
  | none => pure ()
  | some billing => billing.validate

def isEmpty (evidence : ProviderAuthoritativeEvidence) : Bool :=
  evidence.quotaSnapshots.isEmpty && evidence.billing.isNone

end ProviderAuthoritativeEvidence

/-! ## What a validated fact satisfies -/

open OrderedRows (ok_of_bind)

theorem require_eq_ok {condition : Bool} {error : AuthoritativeDataError} :
    require condition error = .ok () ↔ condition = true := by
  cases condition <;> simp [require]

/-- A list passes when each of its members does. -/
theorem forM_eq_ok {ε α : Type} {items : List α} {check : α → Except ε Unit} :
    items.forM check = .ok () ↔ ∀ item ∈ items, check item = .ok () := by
  induction items with
  | nil =>
    constructor
    · intro _ item hitem
      cases hitem
    · intro _
      rfl
  | cons item items ih =>
    constructor
    · intro h
      obtain ⟨⟨⟩, hitem, hitems⟩ := ok_of_bind h
      intro other hother
      rcases List.mem_cons.mp hother with rfl | hother
      · exact hitem
      · exact ih.mp hitems other hother
    · intro h
      show check item >>= (fun _ => items.forM check) = .ok ()
      rw [h item List.mem_cons_self]
      exact ih.mpr fun other hother => h other (List.mem_cons_of_mem _ hother)

theorem AuthoritativeSource.not_blank {source : AuthoritativeSource}
    (h : source.validate = .ok ()) : Text.isBlank source.sourceId = false := by
  unfold AuthoritativeSource.validate at h
  split at h
  · cases h
  · next hblank => simpa using hblank

/-- What a validated unit is: a currency with its code, a custom unit with its name, or a unit
without either. -/
theorem ProviderUnit.cases_of_validate {unit : ProviderUnit} (h : unit.validate = .ok ()) :
    (unit.kind = .currency ∧ validCurrency unit.currencyCode = true ∧ unit.customName = none) ∨
    (unit.kind = .custom ∧ (∃ name, unit.customName = some name ∧ Text.isBlank name = false) ∧
      unit.currencyCode = none) ∨
    (unit.kind ≠ .currency ∧ unit.kind ≠ .custom ∧ unit.currencyCode = none ∧
      unit.customName = none) := by
  unfold ProviderUnit.validate at h
  split at h
  · next hkind =>
    split at h
    · cases h
    · next hvalid =>
      left
      simp only [Bool.or_eq_true, Bool.not_eq_true', not_or] at hvalid
      exact ⟨hkind, by simpa using hvalid.1, by simpa using hvalid.2⟩
  · next hkind =>
    split at h
    · cases h
    · next hvalid =>
      right
      left
      simp only [Bool.or_eq_true, Bool.not_eq_true', not_or] at hvalid
      have hname : (unit.customName.any fun name => !Text.isBlank name) = true := by
        simpa using hvalid.1
      obtain ⟨name, hname, hblank⟩ := (Option.any_eq_true _ _).mp hname
      exact ⟨hkind, ⟨name, hname, by simpa using hblank⟩, by simpa using hvalid.2⟩
  · next hcurrency hcustom =>
    split at h
    · next hnone =>
      right
      right
      simp only [Bool.and_eq_true, Option.isNone_iff_eq_none] at hnone
      exact ⟨hcurrency, hcustom, hnone.1, hnone.2⟩
    · cases h

/-- What a validated snapshot satisfies. -/
theorem ProviderQuotaSnapshot.facts_of_validate {snapshot : ProviderQuotaSnapshot}
    (h : snapshot.validate = .ok ()) :
    snapshot.unit.validate = .ok () ∧ snapshot.source.validate = .ok () ∧
    (snapshot.allowance.isSome ∨ snapshot.consumed.isSome ∨ snapshot.remaining.isSome) ∧
    snapshot.observedAtUnix ≤ snapshot.freshUntilUnix := by
  unfold ProviderQuotaSnapshot.validate at h
  obtain ⟨⟨⟩, -, h⟩ := ok_of_bind h
  obtain ⟨⟨⟩, hunit, h⟩ := ok_of_bind h
  obtain ⟨⟨⟩, hsource, h⟩ := ok_of_bind h
  change (if _ then _ else _) = _ at h
  split at h
  · cases h
  next hsome =>
  change (if _ then _ else _) = _ at h
  split at h
  · next hfresh =>
    refine ⟨hunit, hsource, ?_, hfresh⟩
    cases hallowance : snapshot.allowance <;> cases hconsumed : snapshot.consumed <;>
      cases hremaining : snapshot.remaining <;> simp_all
  · cases h

/-- What a validated record satisfies. -/
theorem ProviderBillingRecord.facts_of_validate {record : ProviderBillingRecord}
    (h : record.validate = .ok ()) :
    record.source.validate = .ok () ∧
    (∀ quantity ∈ record.billedUnits, quantity.unit.validate = .ok ()) ∧
    (∀ charge ∈ record.charge, charge.unit.validate = .ok () ∧ charge.unit.kind = .currency) ∧
    record.observedAtUnix ≤ record.freshUntilUnix := by
  obtain ⟨⟨⟩, -, h⟩ := ok_of_bind h
  obtain ⟨⟨⟩, hsource, h⟩ := ok_of_bind h
  obtain ⟨⟨⟩, -, h⟩ := ok_of_bind h
  obtain ⟨⟨⟩, hunits, h⟩ := ok_of_bind h
  obtain ⟨⟨⟩, hcharge, hfresh⟩ := ok_of_bind h
  refine ⟨hsource, forM_eq_ok.mp hunits, ?_, by simpa using require_eq_ok.mp hfresh⟩
  intro charge hmem
  rw [Option.mem_def.mp hmem] at hcharge
  have hvalid : charge.validateCharge = .ok () := hcharge
  obtain ⟨⟨⟩, hunit, hkind⟩ := ok_of_bind hvalid
  exact ⟨hunit, by simpa using require_eq_ok.mp hkind⟩

/-- More units of the same kind leave a validated record valid. -/
theorem ProviderBillingRecord.validate_append {record : ProviderBillingRecord}
    (h : record.validate = .ok ()) {more : List ProviderReportedQuantity}
    (hmore : ∀ quantity ∈ more, quantity.unit.validate = .ok ()) :
    { record with billedUnits := record.billedUnits ++ more }.validate = .ok () := by
  obtain ⟨⟨⟩, hids, h⟩ := ok_of_bind h
  obtain ⟨⟨⟩, hsource, h⟩ := ok_of_bind h
  obtain ⟨⟨⟩, hvalue, h⟩ := ok_of_bind h
  obtain ⟨⟨⟩, hunits, hrest⟩ := ok_of_bind h
  have hvalue' : require (!((record.billedUnits ++ more).isEmpty && record.charge.isNone))
      .missingReportedValue = .ok () := by
    rw [require_eq_ok] at hvalue ⊢
    cases hunits : record.billedUnits with
    | nil =>
      rw [hunits] at hvalue
      have hsome : record.charge.isNone = false := by simpa using hvalue
      simp [hsome]
    | cons _ _ => simp
  have hunits' : (record.billedUnits ++ more).forM ProviderReportedQuantity.validate = .ok () := by
    rw [forM_eq_ok]
    intro quantity hquantity
    rcases List.mem_append.mp hquantity with hold | hnew
    · exact forM_eq_ok.mp hunits quantity hold
    · exact hmore quantity hnew
  unfold validate
  rw [hids, hsource, hvalue', hunits']
  exact hrest

end SmartGateway
