import Mathlib.Data.List.TakeWhile
import SmartGateway.Storage.LedgerMethods

/-! # What is recorded is read back

The encoder, the checks, the decoder and the validator agree: a validated fact passes every
check of its rows, and its rows are read as the fact.
-/

namespace SmartGateway

open Sql (Passes)

/-! ## Texts -/

theorem mem_dropWhile {α : Type} (p : α → Bool) {items : List α} {x : α} (h : x ∈ items)
    (hx : p x = false) : x ∈ items.dropWhile p := by
  induction items with
  | nil => cases h
  | cons first items ih =>
    rw [List.dropWhile_cons]
    split
    · next hfirst =>
      rcases List.mem_cons.mp h with rfl | h
      · rw [hx] at hfirst
        cases hfirst
      · exact ih h
    · exact h

/-- A text that is not blank has a character that is no white space. -/
theorem exists_of_not_blank {text : String} (h : Text.isBlank text = false) :
    ∃ c ∈ text.toList, Text.isWhitespace c = false := by
  by_contra hnone
  have hall : ∀ c ∈ text.toList, Text.isWhitespace c = true := by
    intro c hc
    cases hw : Text.isWhitespace c with
    | true => rfl
    | false => exact absurd ⟨c, hc, hw⟩ hnone
  have hblank : Text.isBlank text = true := by
    rw [Text.isBlank, Text.trim, List.dropWhile_eq_nil_iff.mpr hall]
    rfl
  rw [hblank] at h
  cases h

theorem untilNul_eq {text : List Char} (h : '\x00' ∉ text) : untilNul text = text := by
  rw [untilNul, List.takeWhile_eq_self_iff]
  intro c hc
  simp only [ne_eq, decide_not, Bool.not_eq_true', decide_eq_false_iff_not]
  rintro rfl
  exact h hc

/-- What the validator does not call blank, the check does not either. -/
theorem nonBlank_of_not_blank {text : String} (h : Text.isBlank text = false)
    (hnul : '\x00' ∉ text.toList) : nonBlank text = true := by
  obtain ⟨c, hc, hw⟩ := exists_of_not_blank h
  have hblank : (fun x : Char => decide (x = ' ')) c = false := by
    apply decide_eq_false
    rintro rfl
    cases hw
  have hkept : c ∈ ((text.toList.dropWhile (· = ' ')).reverse.dropWhile (· = ' ')).reverse := by
    rw [List.mem_reverse]
    apply mem_dropWhile (· = ' ') _ hblank
    rw [List.mem_reverse]
    exact mem_dropWhile (· = ' ') hc hblank
  have hplain : '\x00' ∉ ((text.toList.dropWhile (· = ' ')).reverse.dropWhile (· = ' ')).reverse := by
    intro hmem
    rw [List.mem_reverse] at hmem
    have hmem := (List.dropWhile_suffix _).subset hmem
    rw [List.mem_reverse] at hmem
    exact hnul ((List.dropWhile_suffix _).subset hmem)
  rw [nonBlank, untilNul_eq hplain]
  cases hresult : ((text.toList.dropWhile (· = ' ')).reverse.dropWhile (· = ' ')).reverse with
  | nil =>
    rw [hresult] at hkept
    cases hkept
  | cons _ _ => rfl

theorem threeCapitals_of_valid {currencyCode : Option String}
    (h : validCurrency currencyCode = true) : ∃ code, currencyCode = some code ∧
      threeCapitals code = true := by
  obtain ⟨code, hcode, hvalid⟩ := (Option.any_eq_true _ _).mp h
  refine ⟨code, hcode, ?_⟩
  obtain ⟨hsize, hupper⟩ := Bool.and_eq_true_iff.mp hvalid
  have hcapitals := List.all_eq_true.mp hupper
  have hplain : '\x00' ∉ code.toList := fun hmem => by cases hcapitals _ hmem
  have hbytes := Text.utf8ByteSize_of_isUpper hcapitals
  rw [String.ofList_toList, eq_of_beq hsize] at hbytes
  rw [threeCapitals, untilNul_eq hplain, ← hbytes, hupper]
  rfl

/-! ## Reading what was written -/

theorem providerUnitKind_name (kind : ProviderUnitKind) :
    providerUnitKind (unitKindName kind) = some kind := by
  cases kind <;> rfl

theorem providerUnit_written {unit : ProviderUnit} (h : unit.validate = .ok ()) :
    providerUnit (unitKindName unit.kind) unit.currencyCode unit.customName = .ok unit := by
  rw [providerUnit, providerUnitKind_name]
  dsimp only
  rw [h]

/-- A decimal that fits its columns: its scale is a `u8`. -/
def FixedDecimal.InRange (value : FixedDecimal) : Prop := value.scale < 256

theorem fixedDecimal_written {value : Option FixedDecimal} (h : ∀ v ∈ value, v.InRange) :
    fixedDecimal (value.map FixedDecimal.unscaled) (value.map fun v => (v.scale : Int)) =
      .ok value := by
  cases value with
  | none => rfl
  | some value =>
    have hrange : value.scale < 256 := h value rfl
    have hscale : 0 ≤ (value.scale : Int) ∧ (value.scale : Int) < 256 := by omega
    simp only [Option.map_some, fixedDecimal]
    rw [if_pos hscale, Int.toNat_natCast]

theorem requiredDecimal_written {value : FixedDecimal} (h : value.InRange) (missing : String) :
    requiredDecimal missing (some value.unscaled) (some (value.scale : Int)) = .ok value := by
  have hwritten := @fixedDecimal_written (some value) (by
    intro v hv
    cases hv
    exact h)
  rw [Option.map_some, Option.map_some] at hwritten
  rw [requiredDecimal, hwritten]
  rfl

/-- What the types of the source hold of a snapshot: its scales are `u8`, and its texts are
without NUL. -/
structure ProviderQuotaSnapshot.Plain (snapshot : ProviderQuotaSnapshot) : Prop where
  allowance : ∀ value ∈ snapshot.allowance, value.InRange
  consumed : ∀ value ∈ snapshot.consumed, value.InRange
  remaining : ∀ value ∈ snapshot.remaining, value.InRange
  texts : ∀ text ∈ (quotaRow snapshot).texts snapshot.snapshotId, '\x00' ∉ text.toList

/-- What the types of the source hold of a record: its scales are `u8` and its attempt is a UUID. -/
structure ProviderBillingRecord.InRange (record : ProviderBillingRecord) : Prop where
  billedUnits : ∀ quantity ∈ record.billedUnits, quantity.value.InRange
  charge : ∀ charge ∈ record.charge, charge.value.InRange
  attemptId : record.attemptId.IsUuid

/-- The texts of a record and of its units are without NUL. -/
structure ProviderBillingRecord.Plain (record : ProviderBillingRecord) : Prop where
  header : ∀ text ∈ (billingRow record).texts record.recordId, '\x00' ∉ text.toList
  units : ∀ quantity ∈ record.billedUnits, ∀ text ∈ (unitRow quantity).texts record.recordId,
    '\x00' ∉ text.toList

theorem readQuota_written {snapshot : ProviderQuotaSnapshot} (hvalid : snapshot.validate = .ok ())
    (hplain : snapshot.Plain) : readQuota (snapshot.snapshotId, quotaRow snapshot) = .ok snapshot := by
  obtain ⟨hunit, -, -, -⟩ := ProviderQuotaSnapshot.facts_of_validate hvalid
  simp only [readQuota, quotaRow, providerUnit_written hunit, fixedDecimal_written hplain.allowance,
    fixedDecimal_written hplain.consumed, fixedDecimal_written hplain.remaining]
  show ((snapshot.validate.mapError AuthoritativeDataError.message) >>= fun _ => pure snapshot) = _
  rw [hvalid]
  rfl

theorem readUnit_written {quantity : ProviderReportedQuantity} (hvalid : quantity.unit.validate = .ok ())
    (hrange : quantity.value.InRange) (key : String × Int) :
    readUnit (key, unitRow quantity) = .ok quantity := by
  simp only [readUnit, unitRow, providerUnit_written hvalid, requiredDecimal_written hrange]
  rfl

theorem readCharge_written {record : ProviderBillingRecord}
    (hvalid : ∀ charge ∈ record.charge, charge.unit.validate = .ok ())
    (hrange : ∀ charge ∈ record.charge, charge.value.InRange) :
    readCharge (billingRow record) = .ok record.charge := by
  unfold readCharge billingRow
  cases hcharge : record.charge with
  | none => rfl
  | some charge =>
    simp only [Option.map_some, Option.bind_some, providerUnit_written (hvalid charge hcharge),
      requiredDecimal_written (hrange charge hcharge)]
    rfl

/-- A header is read as its record once its units are read. -/
theorem readRecord_written {ledger : Ledger} {record : ProviderBillingRecord}
    (hvalid : record.validate = .ok ()) (hrange : record.InRange)
    (hunits : ledger.loadBilledUnits record.recordId = .ok record.billedUnits) :
    ledger.readRecord (record.recordId, billingRow record) = .ok record := by
  obtain ⟨-, -, hcharge, -⟩ := ProviderBillingRecord.facts_of_validate hvalid
  have hread := readCharge_written (fun charge hmem => (hcharge charge hmem).1) hrange.charge
  have hparse : AttemptId.parse (billingRow record).attemptId = some record.attemptId :=
    AttemptId.parse_text hrange.attemptId
  simp only [Ledger.readRecord, hunits, hread, hparse]
  show ((record.validate.mapError AuthoritativeDataError.message) >>= fun _ => pure record) = _
  rw [hvalid]
  rfl

/-! ## Passing the checks -/

/-- A validated unit meets the condition on its columns. -/
theorem unitCondition_written {unit : ProviderUnit} (h : unit.validate = .ok ())
    (hplain : ∀ name ∈ unit.customName, '\x00' ∉ name.toList) :
    unitCondition (unitKindName unit.kind) unit.currencyCode unit.customName = some true := by
  unfold unitCondition
  rw [Sql.or_eq_true, Sql.or_eq_true]
  rcases unit.cases_of_validate h with
    ⟨hkind, hcode, hnone⟩ | ⟨hkind, ⟨name, hname, hblank⟩, hnone⟩ | ⟨hcurrency, hcustom, hcode, hname⟩
  · left
    simp [hkind, hnone, unitKindName, threeCapitals_of_valid hcode]
  · right
    left
    simp [hkind, hnone, hname, unitKindName, nonBlank_of_not_blank hblank (hplain name hname)]
  · right
    right
    simp only [Sql.and_eq_true, Sql.isNull_eq_true, Sql.isOneOf_some_eq_true]
    refine ⟨⟨?_, hcode⟩, hname⟩
    cases hkind : unit.kind <;> simp_all [unitKindName]

theorem pairedCondition_written (value : Option FixedDecimal) :
    pairedCondition (value.map FixedDecimal.unscaled) (value.map fun v => (v.scale : Int)) =
      some true := by
  cases value <;> rfl

theorem quotaRow_passes {snapshot : ProviderQuotaSnapshot} (hvalid : snapshot.validate = .ok ())
    (hplain : snapshot.Plain) : Passes (quotaRow snapshot).checks := by
  obtain ⟨hunit, hsource, hsome, hfresh⟩ := ProviderQuotaSnapshot.facts_of_validate hvalid
  have hname : ∀ name ∈ snapshot.unit.customName, '\x00' ∉ name.toList := by
    intro name hmem
    apply hplain.texts name
    simp [QuotaRow.texts, quotaRow, Option.mem_def.mp hmem]
  have hsourceId : nonBlank snapshot.source.sourceId = true := by
    apply nonBlank_of_not_blank (AuthoritativeSource.not_blank hsource)
    apply hplain.texts
    simp [QuotaRow.texts, quotaRow]
  apply Sql.passes_of_true
  intro check hcheck
  simp only [QuotaRow.checks, List.mem_cons, List.not_mem_nil, or_false] at hcheck
  rcases hcheck with rfl | rfl | rfl | rfl | rfl | rfl | rfl
  · simpa [quotaRow] using hsourceId
  · exact congrArg some (decide_eq_true hfresh)
  · simpa [quotaRow, or_assoc] using hsome
  · exact pairedCondition_written snapshot.allowance
  · exact pairedCondition_written snapshot.consumed
  · exact pairedCondition_written snapshot.remaining
  · exact unitCondition_written hunit hname

theorem billingRow_passes {record : ProviderBillingRecord} (hvalid : record.validate = .ok ())
    (hplain : record.Plain) : Passes (billingRow record).checks := by
  obtain ⟨hsource, -, hcharge, hfresh⟩ := ProviderBillingRecord.facts_of_validate hvalid
  have hsourceId : nonBlank record.source.sourceId = true := by
    apply nonBlank_of_not_blank (AuthoritativeSource.not_blank hsource)
    apply hplain.header
    simp [BillingRow.texts, billingRow]
  apply Sql.passes_of_true
  intro check hcheck
  simp only [BillingRow.checks, List.mem_cons, List.not_mem_nil, or_false] at hcheck
  rcases hcheck with rfl | rfl | rfl | rfl
  · simpa [billingRow] using hsourceId
  · exact congrArg some (decide_eq_true hfresh)
  · cases hnone : record.charge <;> simp [billingRow, hnone, pairedCondition, Sql.isNull, Sql.equals]
  · -- no charge column is set, or all of a currency are
    rw [Sql.or_eq_true]
    cases hsome : record.charge with
    | none =>
      left
      simp [billingRow, hsome]
    | some charge =>
      right
      obtain ⟨hunit, hkind⟩ := hcharge charge hsome
      rcases charge.unit.cases_of_validate hunit with
        ⟨-, hcode, hnone⟩ | ⟨hcustom, -⟩ | ⟨hcurrency, -⟩
      · simp [billingRow, hsome, hkind, hnone, unitKindName, threeCapitals_of_valid hcode]
      · rw [hkind] at hcustom
        cases hcustom
      · exact absurd hkind hcurrency

theorem unitRow_passes {quantity : ProviderReportedQuantity} (hvalid : quantity.unit.validate = .ok ())
    {id : String} (hplain : ∀ text ∈ (unitRow quantity).texts id, '\x00' ∉ text.toList)
    (index : Nat) : Passes ((unitRow quantity).checks index) := by
  have hname : ∀ name ∈ quantity.unit.customName, '\x00' ∉ name.toList := by
    intro name hmem
    apply hplain name
    simp [UnitRow.texts, unitRow, Option.mem_def.mp hmem]
  apply Sql.passes_of_true
  intro check hcheck
  simp only [UnitRow.checks, List.mem_cons, List.not_mem_nil, or_false] at hcheck
  rcases hcheck with rfl | rfl
  · simp
  · exact unitCondition_written hvalid hname

end SmartGateway
