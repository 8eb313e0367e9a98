import SmartGateway.Storage.LedgerWrites

/-! # Recording a billing record again

The header and the units of a record are inserted under two rules: a header that is stored
stays, and so does each unit that is stored, but a unit whose index is free is added to
the record that owns the id. A record that comes back with more units than are stored
therefore changes what `billing_records` returns, and only such a record does
(`recorded_again_iff`).

The ledger is one the store itself has written (`Ledger.Written`), so every header is read
as a record (`Written.readable`).
-/

namespace SmartGateway

open Sql (Passes)

namespace Dialect

/-! ## What a record that is taken looks like -/

theorem takesUnit_of_checks {d : Dialect} {id : String} {quantity : ProviderReportedQuantity}
    (hstorable : d.storable ((unitRow quantity).texts id) = true) {index : Nat}
    (hchecks : Passes ((unitRow quantity).checks index)) : d.TakesUnit id quantity := by
  refine ⟨hstorable, fun other => ?_⟩
  intro check hcheck
  simp only [UnitRow.checks, List.mem_cons, List.not_mem_nil, or_false] at hcheck
  rcases hcheck with rfl | rfl
  · simp
  · exact hchecks ⟨unitConditionText, _⟩ (by simp [UnitRow.checks])

/-- A loop that ends well was over units the store takes. -/
theorem takes_of_storeUnits {d : Dialect} {id : String} {quantities : List ProviderReportedQuantity}
    {index : Nat} {ledger ledger' : Ledger} (hindex : index ≤ d.indexLimit)
    (h : d.storeUnits id index quantities ledger = .ok ledger') :
    (∀ quantity ∈ quantities, d.TakesUnit id quantity) ∧
      index + quantities.length ≤ d.indexLimit := by
  induction quantities generalizing index ledger with
  | nil => exact ⟨by simp, by simpa using hindex⟩
  | cons quantity quantities ih =>
    rw [storeUnits] at h
    split at h
    · next hlimit =>
      split at h
      · next hstorable =>
        cases hinsert : ledger.insertUnit id index (unitRow quantity) with
        | error refusal =>
          rw [hinsert] at h
          cases h
        | ok next =>
          rw [hinsert] at h
          obtain ⟨hrest, hcount⟩ := ih (show index + 1 ≤ d.indexLimit from hlimit) h
          -- the checks come first, also where the row is stored already
          have hchecks : Passes ((unitRow quantity).checks index) := by
            unfold Ledger.insertUnit at hinsert
            split at hinsert
            · cases hinsert
            · next hnone => exact Sql.firstRefusal_eq_none.mp hnone
          refine ⟨?_, ?_⟩
          · intro other hother
            rcases List.mem_cons.mp hother with rfl | hother
            · exact takesUnit_of_checks hstorable hchecks
            · exact hrest other hother
          · rw [List.length_cons]
            omega
      · cases h
    · cases h

/-- A transaction that ends well was for a record the store takes. -/
theorem takes_of_storeRecord {d : Dialect} {record : ProviderBillingRecord}
    {ledger ledger' : Ledger} (h : d.storeRecord record ledger = .ok ledger') :
    d.TakesRecord record := by
  rw [storeRecord] at h
  split at h
  · next hstorable =>
    cases hinsert : ledger.insertRecord record.recordId (billingRow record) with
    | error refusal =>
      rw [hinsert] at h
      cases h
    | ok next =>
      rw [hinsert] at h
      obtain ⟨hunits, hcount⟩ := takes_of_storeUnits (Nat.zero_le _) h
      refine ⟨hstorable, ?_, hunits, by simpa using hcount⟩
      unfold Ledger.insertRecord at hinsert
      split at hinsert
      · cases hinsert
      · next hnone => exact Sql.firstRefusal_eq_none.mp hnone
  · cases h

/-- A recording that succeeds was of a valid record the store takes. -/
theorem recordBillingRecord_ok {d : Dialect} {record : ProviderBillingRecord} {ledger : Ledger}
    (h : (d.recordBillingRecord record ledger).1 = .ok ()) :
    record.validate = .ok () ∧ d.TakesRecord record := by
  unfold recordBillingRecord at h
  cases hvalid : record.validate with
  | error _ =>
    rw [hvalid] at h
    cases h
  | ok _ =>
    rw [hvalid] at h
    dsimp only at h
    cases hstore : d.storeRecord record ledger with
    | error _ =>
      rw [hstore] at h
      cases h
    | ok _ => exact ⟨rfl, takes_of_storeRecord hstore⟩

end Dialect

/-! ## A ledger the store has written -/

/-- The ledgers a store can hold: evidence tables that its own methods have filled, next to
control tables that anything may have changed. -/
inductive Ledger.Written (d : Dialect) : Ledger → Prop where
  | empty {ledger : Ledger} (hrecords : ledger.billingRecords = .empty)
      (hunits : ledger.billingUnits = .empty) : Written d ledger
  | recordQuotaSnapshot {ledger : Ledger} (h : Written d ledger)
      (snapshot : ProviderQuotaSnapshot) : Written d (d.recordQuotaSnapshot snapshot ledger).2
  | recordBillingRecord {ledger : Ledger} (h : Written d ledger) (record : ProviderBillingRecord)
      (hrange : record.InRange) : Written d (d.recordBillingRecord record ledger).2
  | control {ledger ledger' : Ledger} (h : Written d ledger)
      (hrecords : ledger'.billingRecords = ledger.billingRecords)
      (hunits : ledger'.billingUnits = ledger.billingUnits) : Written d ledger'

/-- The header stands for the record: it is its row, and the units stored for it are the
record's. -/
structure Ledger.Holds (ledger : Ledger) (row : String × BillingRow)
    (record : ProviderBillingRecord) : Prop where
  valid : record.validate = .ok ()
  inRange : record.InRange
  recordId : record.recordId = row.1
  header : billingRow record = row.2
  units : ledger.unitRows row.1 = unitRowsFrom row.1 0 record.billedUnits

/-- Every header stands for a record. -/
def Ledger.Readable (ledger : Ledger) : Prop :=
  ∀ row ∈ ledger.billingRecords.rows, ∃ record, ledger.Holds row record

theorem length_unitRowsFrom (id : String) (index : Nat)
    (quantities : List ProviderReportedQuantity) :
    (unitRowsFrom id index quantities).length = quantities.length := by
  induction quantities generalizing index with
  | nil => rfl
  | cons quantity quantities ih => rw [unitRowsFrom, List.length_cons, List.length_cons, ih]

theorem unitRowsFrom_append (id : String) (index : Nat)
    (first last : List ProviderReportedQuantity) :
    unitRowsFrom id index (first ++ last) =
      unitRowsFrom id index first ++ unitRowsFrom id (index + first.length) last := by
  induction first generalizing index with
  | nil => rfl
  | cons quantity first ih =>
    have hindex : index + (quantity :: first).length = index + 1 + first.length := by
      rw [List.length_cons]
      omega
    rw [List.cons_append, unitRowsFrom, unitRowsFrom, ih, hindex, List.cons_append]

theorem mem_unitRowsFrom_iff (id : String) (index : Nat)
    (quantities : List ProviderReportedQuantity) (key : Int) :
    (∃ row ∈ unitRowsFrom id index quantities, row.1.2 = key) ↔
      (index : Int) ≤ key ∧ key < index + quantities.length := by
  induction quantities generalizing index with
  | nil =>
    simp only [unitRowsFrom, List.not_mem_nil, false_and, exists_false, List.length_nil, false_iff]
    omega
  | cons quantity quantities ih =>
    have hrest := ih (index + 1)
    rw [unitRowsFrom, List.exists_mem_cons_iff, hrest, List.length_cons]
    dsimp only
    omega

namespace Ledger

/-- The units of a record occupy the indices from 0 on. -/
theorem Holds.hasUnits {ledger : Ledger} {row : String × BillingRow}
    {record : ProviderBillingRecord} (h : ledger.Holds row record) :
    ledger.HasUnits row.1 record.billedUnits.length := by
  intro index
  have hkeys := mem_unitRowsFrom_iff row.1 0 record.billedUnits index
  rw [← h.units] at hkeys
  constructor
  · intro hnone
    by_contra hlt
    obtain ⟨unit, hunit, hindex⟩ := hkeys.mpr (by omega)
    obtain ⟨hmem, hid⟩ := List.mem_filter.mp hunit
    have hkey : unit.1 = (row.1, (index : Int)) := Prod.ext (of_decide_eq_true hid) hindex
    exact KeyedTable.mem_keys.mp (hkey ▸ List.mem_map_of_mem hmem) hnone
  · intro hle
    by_contra hsome
    obtain ⟨unit, hunit⟩ := Option.ne_none_iff_exists'.mp hsome
    have hmem := KeyedTable.get?_eq_some.mp hunit
    have hfiltered : ((row.1, (index : Int)), unit) ∈ ledger.unitRows row.1 :=
      List.mem_filter.mpr ⟨hmem, decide_eq_true rfl⟩
    have hrange := hkeys.mp ⟨_, hfiltered, rfl⟩
    omega

/-- A header that stands for a record is read as it. -/
theorem Holds.readRecord {ledger : Ledger} {row : String × BillingRow}
    {record : ProviderBillingRecord} (h : ledger.Holds row record) :
    ledger.readRecord row = .ok record := by
  have hload : ledger.loadBilledUnits record.recordId = .ok record.billedUnits := by
    have hsorted := Dialect.pairwise_unitRowsFrom row.1 0 record.billedUnits
    rw [loadBilledUnits, h.recordId, h.units, hsorted.insertionSort_eq]
    exact Dialect.mapM_readUnit (ProviderBillingRecord.facts_of_validate h.valid).2.1
      h.inRange.billedUnits 0
  have hrow : row = (record.recordId, billingRow record) := Prod.ext h.recordId.symm h.header.symm
  rw [hrow]
  exact readRecord_written h.valid h.inRange hload

/-- A header is held as long as its units are the same. -/
theorem Holds.of_units {ledger ledger' : Ledger} {row : String × BillingRow}
    {record : ProviderBillingRecord} (h : ledger.Holds row record)
    (hunits : ledger'.unitRows row.1 = ledger.unitRows row.1) : ledger'.Holds row record :=
  ⟨h.valid, h.inRange, h.recordId, h.header, hunits.trans h.units⟩

/-- A header whose record got more units stands for the record with them. -/
theorem Holds.append {ledger ledger' : Ledger} {row : String × BillingRow}
    {record : ProviderBillingRecord} (h : ledger.Holds row record)
    {more : List ProviderReportedQuantity}
    (hvalid : ∀ quantity ∈ more, quantity.unit.validate = .ok ())
    (hrange : ∀ quantity ∈ more, quantity.value.InRange)
    (hunits : ledger'.unitRows row.1 =
      ledger.unitRows row.1 ++ unitRowsFrom row.1 record.billedUnits.length more) :
    ledger'.Holds row { record with billedUnits := record.billedUnits ++ more } where
  valid := ProviderBillingRecord.validate_append h.valid hvalid
  inRange := by
    refine ⟨?_, h.inRange.charge, h.inRange.attemptId⟩
    intro quantity hquantity
    rcases List.mem_append.mp hquantity with hold | hnew
    · exact h.inRange.billedUnits quantity hold
    · exact hrange quantity hnew
  recordId := h.recordId
  header := h.header
  units := by rw [hunits, h.units, unitRowsFrom_append, Nat.zero_add]

end Ledger

namespace Dialect

variable {d : Dialect}

/-- A record the store takes, with an id that is stored, leaves the header and appends the units
after those that are stored. -/
theorem recordBillingRecord_stored {ledger : Ledger} {record stored : ProviderBillingRecord}
    {row : BillingRow} (hvalid : record.validate = .ok ()) (htakes : d.TakesRecord record)
    (hrow : (record.recordId, row) ∈ ledger.billingRecords.rows)
    (hholds : ledger.Holds (record.recordId, row) stored) :
    ∃ ledger', d.recordBillingRecord record ledger = (.ok (), ledger') ∧
      ledger.SameQuotas ledger' ∧ ledger'.billingRecords = ledger.billingRecords ∧
      ledger'.billingUnits.rows = ledger.billingUnits.rows ++ unitRowsFrom record.recordId
        stored.billedUnits.length (record.billedUnits.drop stored.billedUnits.length) := by
  have hstored : ledger.billingRecords.get? record.recordId ≠ none := by
    rw [KeyedTable.get?_eq_some.mpr hrow]
    simp
  have hinsert := Ledger.insertRecord_stored htakes.headerChecks hstored
  obtain ⟨ledger', hstore, hsame, hrecords, hrows⟩ := d.storeUnits_rows htakes.units
    (show 0 + record.billedUnits.length ≤ d.indexLimit by simpa using htakes.count) hstored
    hholds.hasUnits (Nat.zero_le _)
  refine ⟨ledger', ?_, hsame, hrecords, hrows⟩
  rw [recordBillingRecord, hvalid]
  dsimp only
  rw [storeRecord, if_pos htakes.header, hinsert]
  dsimp only
  rw [hstore]

/-- A record that is taken under a new id names an attempt and an account that are stored. -/
theorem references_of_recordBillingRecord {ledger : Ledger} {record : ProviderBillingRecord}
    (hresult : (d.recordBillingRecord record ledger).1 = .ok ())
    (hget : ledger.billingRecords.get? record.recordId = none) :
    ledger.plane.usageAttempts.get? record.attemptId.text ≠ none ∧
      ledger.plane.providerAccounts.get? record.providerAccountId ≠ none := by
  obtain ⟨hvalid, htakes⟩ := recordBillingRecord_ok hresult
  by_contra hmissing
  have hinsert : ledger.insertRecord record.recordId (billingRow record) =
      .error .reference := by
    unfold Ledger.insertRecord
    split
    · next text hrefused =>
      rw [Sql.firstRefusal_eq_none.mpr htakes.headerChecks] at hrefused
      cases hrefused
    · rw [dif_pos hget]
      exact dif_neg hmissing
  rw [recordBillingRecord, hvalid] at hresult
  dsimp only at hresult
  rw [storeRecord, if_pos htakes.header, hinsert] at hresult
  cases hresult

/-- Recording under a new id keeps every header readable, and the new one is. -/
theorem readable_of_new {ledger : Ledger} (h : ledger.Readable) {record : ProviderBillingRecord}
    (hrange : record.InRange) (hresult : (d.recordBillingRecord record ledger).1 = .ok ())
    (hget : ledger.billingRecords.get? record.recordId = none) :
    (d.recordBillingRecord record ledger).2.Readable := by
  obtain ⟨hvalid, htakes⟩ := recordBillingRecord_ok hresult
  obtain ⟨hattempt, haccount⟩ := references_of_recordBillingRecord hresult hget
  obtain ⟨ledger', hrecord, -, hrecords, hrows⟩ :=
    d.recordBillingRecord_new hvalid htakes hattempt haccount hget
  rw [hrecord]
  intro row hrow
  rw [hrecords] at hrow
  rcases List.mem_append.mp hrow with hold | hnew
  · obtain ⟨stored, hholds⟩ := h row hold
    refine ⟨stored, hholds.of_units ?_⟩
    have hne : ¬ row.1 = record.recordId := by
      intro hid
      exact KeyedTable.mem_keys.mp (hid ▸ List.mem_map_of_mem hold) hget
    rw [unitRows_append hrows, if_neg hne, List.append_nil]
  · rw [List.mem_singleton] at hnew
    subst hnew
    refine ⟨record, hvalid, hrange, rfl, rfl, ?_⟩
    rw [unitRows_append hrows, unitRows_of_fresh hget, if_pos rfl, List.nil_append]

/-- Recording under an id that is stored keeps every header readable: its own is read with the
units that are appended. -/
theorem readable_of_stored {ledger : Ledger} (h : ledger.Readable)
    {record : ProviderBillingRecord} (hrange : record.InRange)
    (hresult : (d.recordBillingRecord record ledger).1 = .ok ()) {row : BillingRow}
    (hget : ledger.billingRecords.get? record.recordId = some row) :
    (d.recordBillingRecord record ledger).2.Readable := by
  obtain ⟨hvalid, htakes⟩ := recordBillingRecord_ok hresult
  have hunits := (ProviderBillingRecord.facts_of_validate hvalid).2.1
  have hmem := KeyedTable.get?_eq_some.mp hget
  obtain ⟨stored, hholds⟩ := h _ hmem
  obtain ⟨ledger', hrecord, -, hrecords, hrows⟩ :=
    recordBillingRecord_stored hvalid htakes hmem hholds
  rw [hrecord]
  intro other hother
  rw [hrecords] at hother
  by_cases hid : other.1 = record.recordId
  · have hsame : other = (record.recordId, row) := KeyedTable.eq_of_key hother hmem hid
    subst hsame
    have happended := hholds.append
      (fun quantity hquantity => hunits quantity (List.mem_of_mem_drop hquantity))
      (fun quantity hquantity => hrange.billedUnits quantity (List.mem_of_mem_drop hquantity))
      (show ledger'.unitRows record.recordId = _ by rw [unitRows_append hrows, if_pos rfl])
    exact ⟨_, happended⟩
  · obtain ⟨other', hother'⟩ := h other hother
    refine ⟨other', hother'.of_units ?_⟩
    rw [unitRows_append hrows, if_neg hid, List.append_nil]

/-- Recording keeps every header readable. -/
theorem readable_recordBillingRecord {ledger : Ledger} (h : ledger.Readable)
    {record : ProviderBillingRecord} (hrange : record.InRange) :
    (d.recordBillingRecord record ledger).2.Readable := by
  cases hresult : (d.recordBillingRecord record ledger).1 with
  | error error =>
    rw [d.recordBillingRecord_error hresult]
    exact h
  | ok _ =>
    cases hget : ledger.billingRecords.get? record.recordId with
    | none => exact readable_of_new h hrange hresult hget
    | some row => exact readable_of_stored h hrange hresult hget

/-- A ledger with the same billing tables is as readable. -/
theorem readable_congr {ledger ledger' : Ledger} (h : ledger.Readable)
    (hrecords : ledger'.billingRecords = ledger.billingRecords)
    (hunits : ledger'.billingUnits = ledger.billingUnits) : ledger'.Readable := by
  intro row hrow
  rw [hrecords] at hrow
  obtain ⟨record, hholds⟩ := h row hrow
  exact ⟨record, hholds.of_units (by rw [Ledger.unitRows, Ledger.unitRows, hunits])⟩

/-- Recording a snapshot touches no billing table. -/
theorem recordQuotaSnapshot_billing (snapshot : ProviderQuotaSnapshot) (ledger : Ledger) :
    (d.recordQuotaSnapshot snapshot ledger).2.billingRecords = ledger.billingRecords ∧
    (d.recordQuotaSnapshot snapshot ledger).2.billingUnits = ledger.billingUnits := by
  unfold recordQuotaSnapshot Ledger.insertQuota
  split
  · exact ⟨rfl, rfl⟩
  dsimp only
  split
  · split
    · exact ⟨rfl, rfl⟩
    · next hinsert =>
      split at hinsert
      · cases hinsert
      split at hinsert
      · split at hinsert
        · cases hinsert
          exact ⟨rfl, rfl⟩
        · cases hinsert
      · cases hinsert
        exact ⟨rfl, rfl⟩
  · exact ⟨rfl, rfl⟩

/-- Every header of a ledger the store has written stands for a record. -/
theorem readable_of_written {ledger : Ledger} (h : Ledger.Written d ledger) : ledger.Readable := by
  induction h with
  | empty hrecords _ =>
    intro row hrow
    rw [hrecords] at hrow
    cases hrow
  | recordQuotaSnapshot _ snapshot ih =>
    obtain ⟨hrecords, hunits⟩ := recordQuotaSnapshot_billing (d := d) snapshot _
    exact readable_congr ih hrecords hunits
  | recordBillingRecord _ record hrange ih => exact readable_recordBillingRecord ih hrange
  | control _ hrecords hunits ih => exact readable_congr ih hrecords hunits

/-! ## The second recording -/

/-- A readable ledger answers every query it can be asked. -/
theorem exists_billingRecords {ledger : Ledger} (h : ledger.Readable) {attemptId : AttemptId}
    (hstorable : d.storable [attemptId.text] = true) :
    ∃ items, d.billingRecords ledger attemptId = .ok items := by
  rw [billingRecords, if_pos hstorable]
  apply OrderedRows.exists_mapM
  intro row hrow
  obtain ⟨record, hholds⟩ := h row (List.mem_of_mem_filter ((List.mem_insertionSort _).mp hrow))
  exact ⟨record, hholds.readRecord⟩

/-- Two ledgers with the same headers that answer a query alike read each header of it alike. -/
theorem readRecord_of_billingRecords {ledger ledger' : Ledger} (h : ledger.Readable)
    {attemptId : AttemptId} (hstorable : d.storable [attemptId.text] = true)
    (hrecords : ledger'.billingRecords = ledger.billingRecords)
    (hsame : d.billingRecords ledger' attemptId = d.billingRecords ledger attemptId)
    {row : String × BillingRow} (hrow : row ∈ ledger.billingRecords.rows)
    (hattempt : row.2.attemptId = attemptId.text) :
    ledger'.readRecord row = ledger.readRecord row := by
  obtain ⟨items, hitems⟩ := exists_billingRecords h hstorable
  rw [hitems] at hsame
  rw [billingRecords, if_pos hstorable] at hitems hsame
  rw [hrecords] at hsame
  apply OrderedRows.eq_of_mapM hsame hitems
  rw [List.mem_insertionSort, List.mem_filter]
  exact ⟨hrow, decide_eq_true hattempt⟩

/-- Recording a valid record under an id that is stored leaves what every query of billing
records returns as it was exactly when the record has no more units than are stored under
the id, or the store does not take it. -/
theorem recorded_again_iff {ledger : Ledger} (h : Ledger.Written d ledger)
    {record : ProviderBillingRecord} (hvalid : record.validate = .ok ()) (hrange : record.InRange)
    (hstored : ledger.billingRecords.get? record.recordId ≠ none) :
    (∀ attemptId, d.billingRecords (d.recordBillingRecord record ledger).2 attemptId =
      d.billingRecords ledger attemptId) ↔
    record.billedUnits.length ≤ (ledger.unitRows record.recordId).length ∨
      ¬ d.TakesRecord record := by
  have hreadable := readable_of_written h
  obtain ⟨row, hget⟩ := Option.ne_none_iff_exists'.mp hstored
  have hmem := KeyedTable.get?_eq_some.mp hget
  obtain ⟨stored, hholds⟩ := hreadable _ hmem
  have hcount : (ledger.unitRows record.recordId).length = stored.billedUnits.length := by
    rw [show ledger.unitRows record.recordId = _ from hholds.units, length_unitRowsFrom]
  rw [hcount]
  by_cases htakes : d.TakesRecord record
  · obtain ⟨ledger', hrecord, -, hrecords, hrows⟩ :=
      recordBillingRecord_stored hvalid htakes hmem hholds
    rw [hrecord]
    constructor
    · intro hsame
      by_contra hmore
      rw [not_or, Nat.not_le] at hmore
      -- the record owns more units than before, and it is read with them
      have hunits := (ProviderBillingRecord.facts_of_validate hvalid).2.1
      have happended := hholds.append
        (fun quantity hquantity => hunits quantity (List.mem_of_mem_drop hquantity))
        (fun quantity hquantity => hrange.billedUnits quantity (List.mem_of_mem_drop hquantity))
        (show ledger'.unitRows record.recordId = _ by rw [unitRows_append hrows, if_pos rfl])
      have hplain : d.storable [stored.attemptId.text] = true := by
        apply d.storable_plain
        intro text htext
        rw [List.mem_singleton] at htext
        subst htext
        exact hholds.inRange.attemptId.plain
      have hattempt : row.attemptId = stored.attemptId.text := by
        rw [show row = _ from hholds.header.symm]
        rfl
      have hread := readRecord_of_billingRecords hreadable hplain hrecords
        (hsame stored.attemptId) hmem hattempt
      rw [happended.readRecord, hholds.readRecord, Except.ok.injEq] at hread
      have hlength := congrArg (fun r => r.billedUnits.length) hread
      simp only [List.length_append, List.length_drop] at hlength
      omega
    · intro hle attemptId
      have hle := hle.resolve_right (not_not.mpr htakes)
      rw [List.drop_eq_nil_of_le hle] at hrows
      apply d.billingRecords_congr (by rw [hrecords])
      intro other _ _
      rw [Ledger.unitRows, Ledger.unitRows, hrows, unitRowsFrom, List.append_nil]
  · -- a record that is not taken fails, and the transaction is rolled back
    refine ⟨fun _ => Or.inr htakes, fun _ attemptId => ?_⟩
    cases hresult : (d.recordBillingRecord record ledger).1 with
    | error error => rw [d.recordBillingRecord_error hresult]
    | ok _ => exact absurd (recordBillingRecord_ok hresult).2 htakes

end Dialect

/-- The ledger after a record with a charge and one unit. -/
def Ledger.charged : Ledger :=
  (Dialect.sqlite.recordBillingRecord (chargedRecord [inputTokens 1]) .oneAttempt).2

theorem Ledger.written_charged : Ledger.Written .sqlite .charged :=
  .recordBillingRecord (.empty rfl rfl) _
    ⟨by unfold FixedDecimal.InRange; decide, by unfold FixedDecimal.InRange; decide,
      AttemptId.isUuid_least⟩

/-- The same id with fewer units changes nothing. -/
theorem recorded_again_without_units :
    Dialect.sqlite.billingRecords
      (Dialect.sqlite.recordBillingRecord (chargedRecord []) .charged).2 .least =
        Dialect.sqlite.billingRecords .charged .least :=
  (Dialect.recorded_again_iff Ledger.written_charged (by decide)
    ⟨by unfold FixedDecimal.InRange; decide, by unfold FixedDecimal.InRange; decide,
      AttemptId.isUuid_least⟩ (by decide +kernel)).mpr (Or.inl (Nat.zero_le _)) .least

/-- The same id with another unit changes the stored record. -/
theorem recorded_again_with_more_units :
    Dialect.sqlite.billingRecords .charged .least = .ok [chargedRecord [inputTokens 1]] ∧
    (Dialect.sqlite.recordBillingRecord (chargedRecord [inputTokens 5, inputTokens 7])
      .charged).1 = .ok () ∧
    Dialect.sqlite.billingRecords (Dialect.sqlite.recordBillingRecord
      (chargedRecord [inputTokens 5, inputTokens 7]) .charged).2 .least =
        .ok [chargedRecord [inputTokens 1, inputTokens 7]] := by
  refine ⟨?_, ?_, ?_⟩ <;> decide +kernel

end SmartGateway
