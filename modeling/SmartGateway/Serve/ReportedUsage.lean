import SmartGateway.Application.Gateway
import SmartGateway.Storage.LedgerWrites
import SmartGateway.Upstream.Executor

/-! # Reported usage reaches the ledger

What `openai_usage_evidence` reads out of a response passes everything that could drop it
silently on its way: the validator of the evidence, the one of the record the gateway builds, and
the checks of both stores.
-/

namespace SmartGateway

open Sql (Passes)
open Upstream (openaiUsageEvidence addUsageQuantity)

/-! ## What a body reports -/

namespace Usage

/-- A member that is an integer in `0..=i64::MAX`. -/
def count : Option Json → Option Nat
  | some (.number (.posInt value)) => if value.toNat ≤ i64Max then some value.toNat else none
  | _ => none

/-- The usage members of a body in their fixed order, each with the unit it counts. -/
def members (body : Json) : List (ProviderUnitKind × Option Json) :=
  let member (name : String) := (body.get "usage").bind fun usage => usage.get name
  let detail (name part : String) := (member name).bind fun value => value.get part
  [(.inputTokens, member "prompt_tokens"),
    (.cachedInputTokens, detail "prompt_tokens_details" "cached_tokens"),
    (.outputTokens, member "completion_tokens"),
    (.reasoningTokens, detail "completion_tokens_details" "reasoning_tokens"),
    (.totalTokens, member "total_tokens")]

/-- An exact count of a unit. -/
def quantity (kind : ProviderUnitKind) (value : Nat) : ProviderReportedQuantity where
  unit := { kind, currencyCode := none, customName := none }
  value := { unscaled := value, scale := 0 }

/-- The exact quantities of the members that count something. -/
def quantities (body : Json) : List ProviderReportedQuantity :=
  (members body).filterMap fun member => (count member.2).map (quantity member.1)

/-- The billing part of the evidence. -/
def billing (body : Json) : ProviderBillingEvidence where
  providerRequestId := none
  billedUnits := quantities body
  charge := none
  source :=
    { sourceId := "openai-compatible.chat-completions.usage"
      evidenceVersion := none }

/-- The record the gateway builds from a billing part. -/
def record (providerAccountId : String) (attemptId : AttemptId) (seconds : Option Nat)
    (billing : ProviderBillingEvidence) : ProviderBillingRecord where
  recordId := attemptId.text
  attemptId := attemptId
  providerAccountId := providerAccountId
  providerRequestId := billing.providerRequestId
  billedUnits := billing.billedUnits
  charge := billing.charge
  observedAtUnix := Gateway.observedAtUnix seconds
  freshUntilUnix := Gateway.observedAtUnix seconds
  source := billing.source

end Usage

open Usage

/-! ## Extraction -/

/-- A member adds its quantity if it counts something. -/
theorem addUsageQuantity_eq (billedUnits : List ProviderReportedQuantity) (value : Option Json)
    (kind : ProviderUnitKind) :
    addUsageQuantity billedUnits value kind =
      billedUnits ++ ((count value).map (quantity kind)).toList := by
  unfold addUsageQuantity
  rcases value with _ | value
  · exact (List.append_nil _).symm
  · cases value with
    | number number =>
      cases number with
      | posInt value =>
        dsimp only [Option.bind_some, Json.asU64, count]
        split
        · rfl
        · exact (List.append_nil _).symm
      | _ => exact (List.append_nil _).symm
    | _ => exact (List.append_nil _).symm

theorem toList_filterMap {α β : Type} (f : α → Option β) (a : α) (items : List α) :
    (a :: items).filterMap f = (f a).toList ++ items.filterMap f := by
  rw [List.filterMap_cons]
  cases f a <;> rfl

/-- The extraction gives the quantities of the members, if there are any. -/
theorem openaiUsageEvidence_eq (body : Json) :
    openaiUsageEvidence body =
      if quantities body = [] then none
      else some { quotaSnapshots := [], billing := some (billing body) } := by
  cases husage : body.get "usage" with
  | none =>
    have hnone : quantities body = [] := by
      rw [quantities, members, husage]
      rfl
    rw [openaiUsageEvidence, husage, if_pos hnone]
    rfl
  | some usage =>
    -- the five calls append what the five members count
    have hunits : addUsageQuantity (addUsageQuantity (addUsageQuantity (addUsageQuantity
        (addUsageQuantity [] (usage.get "prompt_tokens") .inputTokens)
        ((usage.get "prompt_tokens_details").bind fun value => value.get "cached_tokens")
          .cachedInputTokens) (usage.get "completion_tokens") .outputTokens)
        ((usage.get "completion_tokens_details").bind fun value => value.get "reasoning_tokens")
          .reasoningTokens) (usage.get "total_tokens") .totalTokens = quantities body := by
      rw [quantities, members, husage]
      simp only [addUsageQuantity_eq, toList_filterMap, List.filterMap_nil, List.append_nil,
        List.nil_append, List.append_assoc, Option.bind_some]
    rw [openaiUsageEvidence, husage]
    dsimp only [Option.bind_eq_bind, Option.bind_some]
    rw [hunits]
    by_cases hempty : quantities body = []
    · rw [if_pos hempty, hempty]
      rfl
    · rw [if_neg hempty, if_neg (by simpa using hempty)]
      rfl

/-- Something is extracted exactly when a member counts something. -/
theorem quantities_ne_nil_iff {body : Json} :
    quantities body ≠ [] ↔ ∃ member ∈ members body, count member.2 ≠ none := by
  rw [quantities, ne_eq, List.filterMap_eq_nil_iff]
  constructor
  · intro h
    by_contra hnone
    apply h
    intro member hmember
    have hcount : count member.2 = none := by
      by_contra hcount
      exact hnone ⟨member, hmember, hcount⟩
    rw [hcount]
    rfl
  · rintro ⟨member, hmember, hcount⟩ hall
    exact hcount (Option.map_eq_none_iff.mp (hall member hmember))

/-! ## Validation -/

/-- The units of the members take neither a currency nor a name. -/
theorem validate_quantity {body : Json} {quantity : ProviderReportedQuantity}
    (h : quantity ∈ quantities body) : quantity.unit.validate = .ok () ∧
      quantity.unit.currencyCode = none ∧ quantity.unit.customName = none ∧
      0 ≤ quantity.value.unscaled ∧ quantity.value.unscaled ≤ i64Max ∧ quantity.value.scale = 0 := by
  obtain ⟨member, hmember, hcounted⟩ := List.mem_filterMap.mp h
  obtain ⟨value, hcount, rfl⟩ := Option.map_eq_some_iff.mp hcounted
  have hvalue : value ≤ i64Max := by
    unfold count at hcount
    split at hcount
    · split at hcount
      · cases hcount
        assumption
      · cases hcount
    · cases hcount
  refine ⟨?_, rfl, rfl, ?_, ?_, rfl⟩
  · simp only [members, List.mem_cons, List.not_mem_nil, or_false] at hmember
    rcases hmember with rfl | rfl | rfl | rfl | rfl <;> rfl
  · show (0 : Int) ≤ value
    omega
  · show (value : Int) ≤ i64Max
    omega

theorem length_quantities_le (body : Json) : (quantities body).length ≤ 5 := by
  rw [quantities]
  exact List.length_filterMap_le _ _

/-- The source every evidence of usage names. -/
theorem validate_source (body : Json) : (billing body).source.validate = .ok () := by
  show AuthoritativeSource.validate ⟨"openai-compatible.chat-completions.usage", none⟩ = .ok ()
  decide +kernel

theorem validate_units (body : Json) :
    (quantities body).forM ProviderReportedQuantity.validate = .ok () := by
  rw [forM_eq_ok]
  intro quantity hquantity
  exact (validate_quantity hquantity).1

theorem validate_billing {body : Json} (h : quantities body ≠ []) :
    (billing body).validate = .ok () := by
  have hsome : ((billing body).billedUnits.isEmpty && (billing body).charge.isNone) = false := by
    rw [Bool.and_eq_false_iff, List.isEmpty_eq_false_iff]
    exact Or.inl h
  have hunits : (billing body).billedUnits.forM ProviderReportedQuantity.validate = .ok () :=
    validate_units body
  unfold ProviderBillingEvidence.validate
  rw [validate_source, hsome, hunits]
  rfl

/-- The evidence is valid for every account: it has no snapshots. -/
theorem validateForAccount_billing {body : Json} (h : quantities body ≠ []) (accountId : String) :
    ProviderAuthoritativeEvidence.validateForAccount
      { quotaSnapshots := [], billing := some (billing body) } accountId = .ok () :=
  validate_billing h

/-- A text with a character that is no white space is not blank. -/
theorem not_blank_of_mem {text : String} {c : Char} (hc : c ∈ text.toList)
    (hw : Text.isWhitespace c = false) : Text.isBlank text = false := by
  have hmem : c ∈ Text.trim text.toList := by
    rw [Text.trim, List.mem_reverse]
    apply mem_dropWhile Text.isWhitespace _ hw
    rw [List.mem_reverse]
    exact mem_dropWhile Text.isWhitespace hc hw
  rw [Text.isBlank, List.isEmpty_eq_false_iff]
  exact List.ne_nil_of_mem hmem

/-- An identity is not blank: it has hyphens. -/
theorem AttemptId.IsUuid.not_blank {attemptId : AttemptId} (h : attemptId.IsUuid) :
    Text.isBlank attemptId.text = false := by
  obtain ⟨digits, -, -, htext⟩ := h
  apply not_blank_of_mem (c := '-')
  · rw [htext, String.toList_ofList, AttemptId.printDigits]
    simp
  · decide

theorem validate_record {body : Json} (h : quantities body ≠ []) {accountId : String}
    (haccount : Text.isBlank accountId = false) {attemptId : AttemptId} (hattempt : attemptId.IsUuid)
    (seconds : Option Nat) : (record accountId attemptId seconds (billing body)).validate = .ok () := by
  have hids : nonEmptyIdentifiers [attemptId.text, accountId] = .ok () := by
    unfold nonEmptyIdentifiers
    simp [hattempt.not_blank, haccount]
  have hsome : require (!((quantities body).isEmpty && (none : Option ProviderReportedQuantity).isNone))
      .missingReportedValue = .ok () := by
    rw [require_eq_ok, Bool.not_eq_true', Bool.and_eq_false_iff, List.isEmpty_eq_false_iff]
    exact Or.inl h
  have hfresh : require (decide (Gateway.observedAtUnix seconds ≤ Gateway.observedAtUnix seconds))
      .invalidFreshness = .ok () := by
    rw [require_eq_ok]
    exact decide_eq_true le_rfl
  have hsource := validate_source body
  unfold ProviderBillingRecord.validate
  dsimp only [record, billing] at hsource ⊢
  rw [hids, hsource, hsome, validate_units]
  exact hfresh

/-! ## The checks of the stores -/

theorem billingRow_record_passes (body : Json) (accountId : String) (attemptId : AttemptId)
    (seconds : Option Nat) :
    Passes (billingRow (record accountId attemptId seconds (billing body))).checks := by
  apply Sql.passes_of_true
  intro check hcheck
  simp only [BillingRow.checks, List.mem_cons, List.not_mem_nil, or_false] at hcheck
  rcases hcheck with rfl | rfl | rfl | rfl
  · show some (nonBlank "openai-compatible.chat-completions.usage") = some true
    decide +kernel
  · exact congrArg some (decide_eq_true le_rfl)
  · rfl
  · rfl

theorem unitRow_quantity_passes {body : Json} {quantity : ProviderReportedQuantity}
    (h : quantity ∈ quantities body) (index : Nat) :
    Passes ((unitRow quantity).checks index) := by
  obtain ⟨hvalid, -, hname, -⟩ := validate_quantity h
  have hplain : ∀ name ∈ quantity.unit.customName, '\x00' ∉ name.toList := by
    intro name hmem
    rw [hname] at hmem
    cases hmem
  apply Sql.passes_of_true
  intro check hcheck
  simp only [UnitRow.checks, List.mem_cons, List.not_mem_nil, or_false] at hcheck
  rcases hcheck with rfl | rfl
  · simp
  · exact unitCondition_written hvalid hplain

/-! ## From the response to the ledger -/

/-- With an accounting repository configured, the gateway hands over the record of what was
extracted, stamped with the clock. -/
theorem persistAuthoritativeEvidence_billing {Body : Type} {gateway : Gateway}
    (haccounting : gateway.accounting = true) {body : Json} (h : quantities body ≠ [])
    (accountId : String) (attemptId : AttemptId) :
    (gateway.persistAuthoritativeEvidence accountId attemptId
        { quotaSnapshots := [], billing := some (billing body) } : UseCase Body Unit) =
      (ask .unixTime).bind fun seconds =>
        (ask (.recordBillingRecord (record accountId attemptId seconds (billing body)))).bind
          fun _ => .pure () := by
  unfold Gateway.persistAuthoritativeEvidence
  rw [haccounting, validateForAccount_billing h]
  rfl

theorem plain_record {body : Json} {accountId : String} (hplain : '\x00' ∉ accountId.toList)
    {attemptId : AttemptId} (hattempt : attemptId.IsUuid) (seconds : Option Nat) :
    (record accountId attemptId seconds (billing body)).Plain where
  header := by
    intro text htext
    simp only [BillingRow.texts, billingRow, record, billing, Option.toList_none, Option.map_none,
      Option.bind_none, List.append_nil, List.mem_cons, List.not_mem_nil, or_false] at htext
    rcases htext with rfl | rfl | rfl | rfl
    · exact hattempt.plain
    · exact hattempt.plain
    · exact hplain
    · decide +kernel
  units := by
    intro quantity hquantity text htext
    obtain ⟨-, hcode, hname, -⟩ := validate_quantity hquantity
    simp only [UnitRow.texts, unitRow, hcode, hname, Option.toList_none, List.append_nil,
      List.mem_cons, List.not_mem_nil, or_false] at htext
    rcases htext with rfl | rfl
    · exact hattempt.plain
    · cases quantity.unit.kind <;> decide +kernel

theorem inRange_record {body : Json} (accountId : String) {attemptId : AttemptId}
    (hattempt : attemptId.IsUuid) (seconds : Option Nat) :
    (record accountId attemptId seconds (billing body)).InRange where
  billedUnits := by
    intro quantity hquantity
    obtain ⟨-, -, -, -, -, hscale⟩ := validate_quantity hquantity
    rw [FixedDecimal.InRange, hscale]
    omega
  charge := by
    intro charge hcharge
    cases hcharge
  attemptId := hattempt

/-- What becomes of the evidence of a body with usage: it is valid for the account, the gateway
hands its record over, the record is valid and passes the checks of both stores, and a store that
knows the attempt and the account keeps it and gives it back. -/
structure Survives (body : Json) (evidence : ProviderAuthoritativeEvidence) (accountId : String)
    (attemptId : AttemptId) (seconds : Option Nat) (handed : ProviderBillingRecord) : Prop where
  /-- Exactly the counts of the members, in their order, at scale 0. -/
  extracted : ∃ billing, evidence.billing = some billing ∧ billing.billedUnits =
    (members body).filterMap fun member => (count member.2).map (quantity member.1)
  billedUnits : handed.billedUnits =
    (members body).filterMap fun member => (count member.2).map (quantity member.1)
  /-- They fit their columns. -/
  columns : ∀ quantity ∈ handed.billedUnits, 0 ≤ quantity.value.unscaled ∧
    quantity.value.unscaled ≤ i64Max ∧ quantity.value.scale = 0
  account : handed.providerAccountId = accountId
  attempt : handed.attemptId = attemptId
  evidenceValid : evidence.validateForAccount accountId = .ok ()
  handedOver : ∀ (Body : Type) (gateway : Gateway), gateway.accounting = true →
    ∃ next : Option Nat → UseCase Body Unit,
      gateway.persistAuthoritativeEvidence accountId attemptId evidence = (ask .unixTime).bind next ∧
      next seconds = (ask (.recordBillingRecord handed)).bind fun _ => .pure ()
  recordValid : handed.validate = .ok ()
  headerChecks : Passes (billingRow handed).checks
  unitChecks : ∀ quantity ∈ handed.billedUnits, ∀ index : Nat,
    Passes ((unitRow quantity).checks index)
  stored : ∀ (d : Dialect) (ledger : Ledger), '\x00' ∉ accountId.toList →
    ledger.plane.usageAttempts.get? attemptId.text ≠ none →
    ledger.plane.providerAccounts.get? accountId ≠ none →
    ledger.billingRecords.get? attemptId.text = none →
    ∃ ledger', d.recordBillingRecord handed ledger = (.ok (), ledger') ∧
      ∀ items, d.billingRecords ledger attemptId = .ok items →
        ∃ first last, items = first ++ last ∧
          d.billingRecords ledger' attemptId = .ok (first ++ handed :: last)

/-- Evidence is extracted exactly when a usage member is an integer in `0..=i64::MAX`, and then
nothing drops it on its way to the ledger. -/
theorem reported_usage_survives (body : Json) {accountId : String}
    (haccount : Text.isBlank accountId = false) :
    (openaiUsageEvidence body ≠ none ↔ ∃ member ∈ members body, count member.2 ≠ none) ∧
      ∀ evidence, openaiUsageEvidence body = some evidence →
        ∀ attemptId : AttemptId, attemptId.IsUuid → ∀ seconds,
          ∃ handed, Survives body evidence accountId attemptId seconds handed := by
  rw [openaiUsageEvidence_eq, ← quantities_ne_nil_iff]
  constructor
  · by_cases hnone : quantities body = []
    · simp [hnone]
    · simp [hnone]
  · intro evidence hextracted attemptId hattempt seconds
    have hsome : quantities body ≠ [] := by
      intro hnone
      rw [if_pos hnone] at hextracted
      cases hextracted
    rw [if_neg hsome, Option.some.injEq] at hextracted
    subst hextracted
    have hvalid := validate_record hsome haccount hattempt seconds
    refine ⟨record accountId attemptId seconds (billing body), ?_⟩
    constructor
    · exact ⟨billing body, rfl, rfl⟩
    · rfl
    · intro quantity hquantity
      exact (validate_quantity hquantity).2.2.2
    · rfl
    · rfl
    · exact validateForAccount_billing hsome accountId
    · intro Body gateway haccounting
      exact ⟨_, persistAuthoritativeEvidence_billing haccounting hsome accountId attemptId, rfl⟩
    · exact hvalid
    · exact billingRow_record_passes body accountId attemptId seconds
    · intro quantity hquantity index
      exact unitRow_quantity_passes hquantity index
    · intro d ledger hplain hknown haccountRow hfresh
      have hcount : (quantities body).length < 2 ^ 31 := by
        have hlength := length_quantities_le body
        omega
      have hkept := d.recordBillingRecord_kept ledger hvalid
        (inRange_record accountId hattempt seconds) (plain_record hplain hattempt seconds) hcount
        hknown haccountRow hfresh
      obtain ⟨ledger', hrecorded, -, -, hread, -⟩ := hkept
      exact ⟨ledger', hrecorded, hread⟩

/-- `{"usage": {"prompt_tokens": 9, "completion_tokens": -1, "total_tokens": "9"}}`: a count, a
negative number and a text. -/
def nineTokens : Json :=
  .object [("usage", .object [("prompt_tokens", .number (.posInt 9)),
    ("completion_tokens", .number (.negInt (-1))), ("total_tokens", .string "9")])]

/-- Of the three members the count is extracted, and it is stored. -/
theorem reported_usage_survives_nine :
    ∃ handed, handed.billedUnits = [quantity .inputTokens 9] ∧
      Survives nineTokens { quotaSnapshots := [], billing := some (billing nineTokens) } "account"
        .least (some 0) handed := by
  have haccount : Text.isBlank "account" = false := by
    decide +kernel
  obtain ⟨handed, hsurvives⟩ := (reported_usage_survives nineTokens haccount).2 _ rfl .least
    AttemptId.isUuid_least (some 0)
  refine ⟨handed, ?_, hsurvives⟩
  rw [hsurvives.billedUnits]
  rfl

end SmartGateway
