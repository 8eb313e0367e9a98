import Mathlib.Data.String.Basic
import SmartGateway.Lib.SqlLogic
import SmartGateway.Domain.Accounting
import SmartGateway.Domain.AttemptIdentity
import SmartGateway.Storage.ControlPlane

/-! # The accounting ledger

The tables of provider evidence with their `CHECK`s and references, the statements that
write a fact into them and the queries that read it back. Both stores flatten a fact into
the same columns under the same conditions; their dialects differ in the texts they can
store, the words of an error, the order of texts and the range of an index.
-/

namespace SmartGateway

open Sql (Check Truth)

/-! ## Columns -/

def unitKindName : ProviderUnitKind → String
  | .requests => "requests"
  | .inputTokens => "input_tokens"
  | .cachedInputTokens => "cached_input_tokens"
  | .outputTokens => "output_tokens"
  | .reasoningTokens => "reasoning_tokens"
  | .totalTokens => "total_tokens"
  | .concurrentRequests => "concurrent_requests"
  | .currency => "currency"
  | .custom => "custom"

structure QuotaRow where
  providerAccountId : String
  constraintId : String
  unitKind : String
  currencyCode : Option String
  customName : Option String
  allowanceUnscaled : Option Int
  allowanceScale : Option Int
  consumedUnscaled : Option Int
  consumedScale : Option Int
  remainingUnscaled : Option Int
  remainingScale : Option Int
  resetAt : Option Int
  observedAt : Int
  freshUntil : Int
  sourceId : String
  evidenceVersion : Option String
deriving DecidableEq

structure BillingRow where
  attemptId : String
  providerAccountId : String
  providerRequestId : Option String
  chargeUnitKind : Option String
  chargeCurrencyCode : Option String
  chargeCustomName : Option String
  chargeUnscaled : Option Int
  chargeScale : Option Int
  observedAt : Int
  freshUntil : Int
  sourceId : String
  evidenceVersion : Option String
deriving DecidableEq

structure UnitRow where
  unitKind : String
  currencyCode : Option String
  customName : Option String
  valueUnscaled : Int
  valueScale : Int
deriving DecidableEq

/-! ## Checks -/

/-- A text as far as the functions of SQLite see it; PostgreSQL stores no text with a NUL. -/
def untilNul (text : List Char) : List Char := text.takeWhile (· ≠ '\x00')

/-- `length(trim(text)) > 0`: only blanks are trimmed. -/
def nonBlank (text : String) : Bool :=
  !(untilNul ((text.toList.dropWhile (· = ' ')).reverse.dropWhile (· = ' ')).reverse).isEmpty

/-- `code GLOB '[A-Z][A-Z][A-Z]'`. -/
def threeCapitals (code : String) : Bool :=
  (untilNul code.toList).length = 3 && (untilNul code.toList).all Char.isUpper

/-- The condition on the three columns of a unit. -/
def unitCondition (unitKind : String) (currencyCode customName : Option String) : Truth :=
  (((Sql.equals (some unitKind) (some "currency")).and (Sql.holds currencyCode threeCapitals)).and
    (Sql.isNull customName)).or
  ((((Sql.equals (some unitKind) (some "custom")).and (Sql.holds customName nonBlank)).and
    (Sql.isNull currencyCode)).or
  (((Sql.isOneOf (some unitKind) ["requests", "input_tokens", "cached_input_tokens",
    "output_tokens", "reasoning_tokens", "total_tokens", "concurrent_requests"]).and
    (Sql.isNull currencyCode)).and (Sql.isNull customName)))

def unitConditionText : String :=
  "(unit_kind = 'currency' AND currency_code GLOB '[A-Z][A-Z][A-Z]' AND custom_name IS NULL) " ++
  "OR (unit_kind = 'custom' AND length(trim(custom_name)) > 0 AND currency_code IS NULL) " ++
  "OR (unit_kind IN ('requests', 'input_tokens', 'cached_input_tokens', 'output_tokens', " ++
  "'reasoning_tokens', 'total_tokens', 'concurrent_requests') " ++
  "AND currency_code IS NULL AND custom_name IS NULL)"

/-- Both columns of a decimal are null, or neither is. -/
def pairedCondition (unscaled scale : Option Int) : Truth :=
  Sql.equals (Sql.isNull unscaled) (Sql.isNull scale)

def QuotaRow.checks (row : QuotaRow) : List Check :=
  [⟨"length(trim(source_id)) > 0", some (nonBlank row.sourceId)⟩,
    ⟨"fresh_until >= observed_at", some (decide (row.observedAt ≤ row.freshUntil))⟩,
    ⟨"allowance_unscaled IS NOT NULL OR consumed_unscaled IS NOT NULL OR " ++
      "remaining_unscaled IS NOT NULL",
      ((Sql.isNotNull row.allowanceUnscaled).or (Sql.isNotNull row.consumedUnscaled)).or
        (Sql.isNotNull row.remainingUnscaled)⟩,
    ⟨"(allowance_unscaled IS NULL) = (allowance_scale IS NULL)",
      pairedCondition row.allowanceUnscaled row.allowanceScale⟩,
    ⟨"(consumed_unscaled IS NULL) = (consumed_scale IS NULL)",
      pairedCondition row.consumedUnscaled row.consumedScale⟩,
    ⟨"(remaining_unscaled IS NULL) = (remaining_scale IS NULL)",
      pairedCondition row.remainingUnscaled row.remainingScale⟩,
    ⟨unitConditionText, unitCondition row.unitKind row.currencyCode row.customName⟩]

def BillingRow.checks (row : BillingRow) : List Check :=
  [⟨"length(trim(source_id)) > 0", some (nonBlank row.sourceId)⟩,
    ⟨"fresh_until >= observed_at", some (decide (row.observedAt ≤ row.freshUntil))⟩,
    ⟨"(charge_unscaled IS NULL) = (charge_scale IS NULL)",
      pairedCondition row.chargeUnscaled row.chargeScale⟩,
    ⟨"(charge_unscaled IS NULL AND charge_unit_kind IS NULL AND charge_currency_code IS NULL " ++
      "AND charge_custom_name IS NULL) OR (charge_unscaled IS NOT NULL AND " ++
      "charge_unit_kind = 'currency' AND charge_currency_code GLOB '[A-Z][A-Z][A-Z]' " ++
      "AND charge_custom_name IS NULL)",
      ((((Sql.isNull row.chargeUnscaled).and (Sql.isNull row.chargeUnitKind)).and
        (Sql.isNull row.chargeCurrencyCode)).and (Sql.isNull row.chargeCustomName)).or
      ((((Sql.isNotNull row.chargeUnscaled).and
        (Sql.equals row.chargeUnitKind (some "currency"))).and
        (Sql.holds row.chargeCurrencyCode threeCapitals)).and
        (Sql.isNull row.chargeCustomName))⟩]

def UnitRow.checks (unitIndex : Int) (row : UnitRow) : List Check :=
  [⟨"unit_index >= 0", some (decide (0 ≤ unitIndex))⟩,
    ⟨unitConditionText, unitCondition row.unitKind row.currencyCode row.customName⟩]

/-! ## Tables -/

/-- The evidence tables next to the control plane they refer to. -/
structure Ledger where
  plane : ControlPlane
  quotaSnapshots : KeyedTable String QuotaRow
  billingRecords : KeyedTable String BillingRow
  billingUnits : KeyedTable (String × Int) UnitRow
  quotaChecks : ∀ row ∈ quotaSnapshots.rows, Sql.Passes row.2.checks
  billingChecks : ∀ row ∈ billingRecords.rows, Sql.Passes row.2.checks
  unitChecks : ∀ row ∈ billingUnits.rows, Sql.Passes (row.2.checks row.1.2)
  quotaReferences : ∀ row ∈ quotaSnapshots.rows,
    plane.providerAccounts.get? row.2.providerAccountId ≠ none
  billingReferences : ∀ row ∈ billingRecords.rows,
    plane.usageAttempts.get? row.2.attemptId ≠ none ∧
      plane.providerAccounts.get? row.2.providerAccountId ≠ none
  unitReferences : ∀ row ∈ billingUnits.rows, billingRecords.get? row.1.1 ≠ none

/-- Why a statement fails. -/
inductive Refusal where
  | text
  | check (text : String)
  | reference
deriving DecidableEq

namespace Ledger

/-- `INSERT INTO provider_quota_snapshots … ON CONFLICT (id) DO NOTHING`. The checks come before
the conflict, the references after it. -/
def insertQuota (ledger : Ledger) (id : String) (row : QuotaRow) : Except Refusal Ledger :=
  match hchecks : Sql.firstRefusal row.checks with
  | some text => .error (.check text)
  | none =>
    if fresh : ledger.quotaSnapshots.get? id = none then
      if account : ledger.plane.providerAccounts.get? row.providerAccountId ≠ none then
        .ok { ledger with
          quotaSnapshots := ledger.quotaSnapshots.append id row fresh
          quotaChecks := by
            intro added hadded
            rcases KeyedTable.mem_append hadded with hold | rfl
            · exact ledger.quotaChecks added hold
            · exact Sql.firstRefusal_eq_none.mp hchecks
          quotaReferences := by
            intro added hadded
            rcases KeyedTable.mem_append hadded with hold | rfl
            · exact ledger.quotaReferences added hold
            · exact account }
      else .error .reference
    else .ok ledger

/-- `INSERT INTO provider_billing_records … ON CONFLICT (id) DO NOTHING`. -/
def insertRecord (ledger : Ledger) (id : String) (row : BillingRow) : Except Refusal Ledger :=
  match hchecks : Sql.firstRefusal row.checks with
  | some text => .error (.check text)
  | none =>
    if fresh : ledger.billingRecords.get? id = none then
      if references : ledger.plane.usageAttempts.get? row.attemptId ≠ none ∧
          ledger.plane.providerAccounts.get? row.providerAccountId ≠ none then
        .ok { ledger with
          billingRecords := ledger.billingRecords.append id row fresh
          billingChecks := by
            intro added hadded
            rcases KeyedTable.mem_append hadded with hold | rfl
            · exact ledger.billingChecks added hold
            · exact Sql.firstRefusal_eq_none.mp hchecks
          billingReferences := by
            intro added hadded
            rcases KeyedTable.mem_append hadded with hold | rfl
            · exact ledger.billingReferences added hold
            · exact references
          unitReferences := by
            intro unit hunit
            exact KeyedTable.get?_append_ne_none (Or.inl (ledger.unitReferences unit hunit)) }
      else .error .reference
    else .ok ledger

/-- `INSERT INTO provider_billing_units … ON CONFLICT (billing_record_id, unit_index) DO
NOTHING`. -/
def insertUnit (ledger : Ledger) (id : String) (unitIndex : Int) (row : UnitRow) :
    Except Refusal Ledger :=
  match hchecks : Sql.firstRefusal (row.checks unitIndex) with
  | some text => .error (.check text)
  | none =>
    if fresh : ledger.billingUnits.get? (id, unitIndex) = none then
      if record : ledger.billingRecords.get? id ≠ none then
        .ok { ledger with
          billingUnits := ledger.billingUnits.append (id, unitIndex) row fresh
          unitChecks := by
            intro added hadded
            rcases KeyedTable.mem_append hadded with hold | rfl
            · exact ledger.unitChecks added hold
            · exact Sql.firstRefusal_eq_none.mp hchecks
          unitReferences := by
            intro added hadded
            rcases KeyedTable.mem_append hadded with hold | rfl
            · exact ledger.unitReferences added hold
            · exact record }
      else .error .reference
    else .ok ledger

end Ledger

/-! ## Dialects -/

/-- How a database orders texts. -/
structure Collation where
  le : String → String → Prop
  decidable : DecidableRel le
  total : ∀ a b, le a b ∨ le b a
  trans : ∀ a b c, le a b → le b c → le a c
  antisymm : ∀ a b, le a b → le b a → a = b

/-- `ORDER BY observed_at, id`. -/
def Collation.Ordered (collation : Collation) (a b : Int × String) : Prop :=
  a.1 < b.1 ∨ (a.1 = b.1 ∧ collation.le a.2 b.2)

instance (collation : Collation) : DecidableRel collation.Ordered :=
  have := collation.decidable
  fun _ _ => inferInstanceAs (Decidable (_ ∨ _))

/-- What the two databases do differently: the texts they can store, the range of a unit's
index, the order of texts, and the errors of the statements. Both store every text without
a NUL, and both count at least up to an `i32`. -/
structure Dialect where
  collation : Collation
  storable : List String → Bool
  storable_plain : ∀ texts, (∀ text ∈ texts, '\x00' ∉ text.toList) → storable texts = true
  indexLimit : Nat
  indexLimit_ge : 2 ^ 31 ≤ indexLimit
  quotaRefused : Refusal → String
  recordRefused : Refusal → String
  unitRefused : Refusal → String
  quotaUnreadable : String
  billingUnreadable : String

/-- Texts are compared byte by byte, which is the order of their code points. -/
def Collation.binary : Collation where
  le a b := a ≤ b
  decidable := fun a b => inferInstanceAs (Decidable (a ≤ b))
  total := le_total
  trans := fun _ _ _ => le_trans
  antisymm := fun _ _ => le_antisymm

def sqliteRefusal : Refusal → String
  | .text => "string contains a null byte"
  | .check text => "CHECK constraint failed: " ++ text
  | .reference => "FOREIGN KEY constraint failed"

/-- An index is an `i64`. Every text can be stored. -/
def Dialect.sqlite : Dialect where
  collation := .binary
  storable := fun _ => true
  storable_plain := fun _ _ => rfl
  indexLimit := 2 ^ 63
  indexLimit_ge := by omega
  quotaRefused := sqliteRefusal
  recordRefused := sqliteRefusal
  unitRefused := sqliteRefusal
  quotaUnreadable := sqliteRefusal .text
  billingUnreadable := sqliteRefusal .text

/-- An index is an `i32`. No text holds a NUL. -/
def Dialect.postgres (collation : Collation) : Dialect where
  collation := collation
  storable := fun texts => texts.all fun text => !text.toList.contains '\x00'
  storable_plain := by
    intro texts h
    rw [List.all_eq_true]
    intro text htext
    simpa using h text htext
  indexLimit := 2 ^ 31
  indexLimit_ge := Nat.le_refl _
  quotaRefused := fun _ => "PostgreSQL authoritative quota persistence failed"
  recordRefused := fun _ => "PostgreSQL authoritative billing persistence failed"
  unitRefused := fun _ => "PostgreSQL authoritative billing unit persistence failed"
  quotaUnreadable := "PostgreSQL authoritative quota inspection failed"
  billingUnreadable := "PostgreSQL authoritative billing inspection failed"

end SmartGateway
