import SmartGateway.Storage.LedgerRoundTrip

/-! # What recording does to the ledger

Each statement either appends its row or finds it stored, so a snapshot adds one row and a
record its header and the units that are not stored yet (`storeUnits_rows`). A new fact
thereby appears in what the queries return, at its place, and nothing else changes
(`recorded_losslessly`).
-/

namespace SmartGateway

open Sql (Passes)

/-! ## What the statements do -/

namespace Ledger

/-- A new quota row is appended, and nothing else changes. -/
theorem insertQuota_new {ledger : Ledger} {id : String} {row : QuotaRow}
    (hchecks : Passes row.checks) (hfresh : ledger.quotaSnapshots.get? id = none)
    (haccount : ledger.plane.providerAccounts.get? row.providerAccountId ≠ none) :
    ∃ ledger', ledger.insertQuota id row = .ok ledger' ∧
      ledger'.quotaSnapshots.rows = ledger.quotaSnapshots.rows ++ [(id, row)] ∧
      ledger'.billingRecords = ledger.billingRecords ∧
      ledger'.billingUnits = ledger.billingUnits := by
  unfold insertQuota
  split
  · next text hrefused =>
    rw [Sql.firstRefusal_eq_none.mpr hchecks] at hrefused
    cases hrefused
  · rw [dif_pos hfresh, dif_pos haccount]
    exact ⟨_, rfl, rfl, rfl, rfl⟩

/-- What a statement of a billing transaction leaves alone. -/
structure SameQuotas (ledger ledger' : Ledger) : Prop where
  plane : ledger'.plane = ledger.plane
  quotaSnapshots : ledger'.quotaSnapshots = ledger.quotaSnapshots

theorem insertRecord_new {ledger : Ledger} {id : String} {row : BillingRow}
    (hchecks : Passes row.checks) (hfresh : ledger.billingRecords.get? id = none)
    (hattempt : ledger.plane.usageAttempts.get? row.attemptId ≠ none)
    (haccount : ledger.plane.providerAccounts.get? row.providerAccountId ≠ none) :
    ∃ ledger', ledger.insertRecord id row = .ok ledger' ∧ ledger.SameQuotas ledger' ∧
      ledger'.billingRecords.rows = ledger.billingRecords.rows ++ [(id, row)] ∧
      ledger'.billingUnits = ledger.billingUnits := by
  unfold insertRecord
  split
  · next text hrefused =>
    rw [Sql.firstRefusal_eq_none.mpr hchecks] at hrefused
    cases hrefused
  · rw [dif_pos hfresh, dif_pos ⟨hattempt, haccount⟩]
    exact ⟨_, rfl, ⟨rfl, rfl⟩, rfl, rfl⟩

/-- A header that is stored already is left as it is. -/
theorem insertRecord_stored {ledger : Ledger} {id : String} {row : BillingRow}
    (hchecks : Passes row.checks) (hstored : ledger.billingRecords.get? id ≠ none) :
    ledger.insertRecord id row = .ok ledger := by
  unfold insertRecord
  split
  · next text hrefused =>
    rw [Sql.firstRefusal_eq_none.mpr hchecks] at hrefused
    cases hrefused
  · rw [dif_neg hstored]

theorem insertUnit_new {ledger : Ledger} {id : String} {index : Int} {row : UnitRow}
    (hchecks : Passes (row.checks index)) (hfresh : ledger.billingUnits.get? (id, index) = none)
    (hrecord : ledger.billingRecords.get? id ≠ none) :
    ∃ ledger', ledger.insertUnit id index row = .ok ledger' ∧ ledger.SameQuotas ledger' ∧
      ledger'.billingRecords = ledger.billingRecords ∧
      ledger'.billingUnits = ledger.billingUnits.append (id, index) row hfresh := by
  unfold insertUnit
  split
  · next text hrefused =>
    rw [Sql.firstRefusal_eq_none.mpr hchecks] at hrefused
    cases hrefused
  · rw [dif_pos hfresh, dif_pos hrecord]
    exact ⟨_, rfl, ⟨rfl, rfl⟩, rfl, rfl⟩

/-- A unit that is stored already is left as it is. -/
theorem insertUnit_stored {ledger : Ledger} {id : String} {index : Int} {row : UnitRow}
    (hchecks : Passes (row.checks index)) (hstored : ledger.billingUnits.get? (id, index) ≠ none) :
    ledger.insertUnit id index row = .ok ledger := by
  unfold insertUnit
  split
  · next text hrefused =>
    rw [Sql.firstRefusal_eq_none.mpr hchecks] at hrefused
    cases hrefused
  · rw [dif_neg hstored]

/-- The record has `count` units, stored from index 0 on. -/
def HasUnits (ledger : Ledger) (id : String) (count : Nat) : Prop :=
  ∀ index : Nat, ledger.billingUnits.get? (id, (index : Int)) = none ↔ count ≤ index

/-- One more unit at the first index that is free. -/
theorem HasUnits.append {ledger ledger' : Ledger} {id : String} {count : Nat} {row : UnitRow}
    (h : ledger.HasUnits id count)
    (hfresh : ledger.billingUnits.get? (id, (count : Int)) = none)
    (hunits : ledger'.billingUnits = ledger.billingUnits.append (id, (count : Int)) row hfresh) :
    ledger'.HasUnits id (count + 1) := by
  intro index
  rw [hunits, KeyedTable.get?_append]
  by_cases hindex : index = count
  · subst hindex
    simp
  · have hne : ¬ ((id, (index : Int)) = (id, (count : Int))) := by
      intro hkey
      have hcast : (index : Int) = (count : Int) := congrArg Prod.snd hkey
      omega
    rw [if_neg hne, h index]
    omega

end Ledger

/-- The rows of units from `index` on. -/
def unitRowsFrom (id : String) :
    Nat → List ProviderReportedQuantity → List ((String × Int) × UnitRow)
  | _, [] => []
  | index, quantity :: quantities =>
    ((id, (index : Int)), unitRow quantity) :: unitRowsFrom id (index + 1) quantities

namespace Dialect

/-- The store takes the unit: it can store its texts, and its row passes the checks. -/
def TakesUnit (d : Dialect) (id : String) (quantity : ProviderReportedQuantity) : Prop :=
  d.storable ((unitRow quantity).texts id) = true ∧
    ∀ index : Nat, Passes ((unitRow quantity).checks index)

/-- The loop over units the store takes: it passes over the indices that are stored and appends
the others. The induction is on the units; `count` grows with each unit that is appended. -/
theorem storeUnits_rows (d : Dialect) {id : String} {quantities : List ProviderReportedQuantity}
    {index count : Nat} {ledger : Ledger} (htakes : ∀ quantity ∈ quantities, d.TakesUnit id quantity)
    (hlimit : index + quantities.length ≤ d.indexLimit)
    (hrecord : ledger.billingRecords.get? id ≠ none) (hunits : ledger.HasUnits id count)
    (hindex : index ≤ count) :
    ∃ ledger', d.storeUnits id index quantities ledger = .ok ledger' ∧ ledger.SameQuotas ledger' ∧
      ledger'.billingRecords = ledger.billingRecords ∧
      ledger'.billingUnits.rows = ledger.billingUnits.rows ++
        unitRowsFrom id count (quantities.drop (count - index)) := by
  induction quantities generalizing index count ledger with
  | nil => exact ⟨ledger, rfl, ⟨rfl, rfl⟩, rfl, by simp [unitRowsFrom]⟩
  | cons quantity quantities ih =>
    obtain ⟨hstorable, hchecks⟩ := htakes quantity List.mem_cons_self
    have hrest : ∀ other ∈ quantities, d.TakesUnit id other :=
      fun other hother => htakes other (List.mem_cons_of_mem _ hother)
    rw [List.length_cons] at hlimit
    have hbelow : index < d.indexLimit := by omega
    rw [storeUnits, if_pos hbelow, if_pos hstorable]
    by_cases hstored : index < count
    · -- stored already
      have hsome : ledger.billingUnits.get? (id, (index : Int)) ≠ none := by
        rw [ne_eq, hunits index]
        omega
      rw [Ledger.insertUnit_stored (hchecks index) hsome]
      obtain ⟨ledger', hstore, hsame, hrecords, hrows⟩ :=
        ih hrest (by omega) hrecord hunits (show index + 1 ≤ count from hstored)
      refine ⟨ledger', hstore, hsame, hrecords, ?_⟩
      have hdrop : count - index = (count - (index + 1)) + 1 := by omega
      rw [hrows, hdrop, List.drop_succ_cons]
    · -- the first index that is free
      have heq : index = count := by omega
      subst heq
      have hfresh : ledger.billingUnits.get? (id, (index : Int)) = none :=
        (hunits index).mpr (Nat.le_refl _)
      obtain ⟨next, hinsert, hsame, hrecords, hunitsNext⟩ :=
        Ledger.insertUnit_new (hchecks index) hfresh hrecord
      rw [hinsert]
      have hcount : next.HasUnits id (index + 1) := hunits.append hfresh hunitsNext
      obtain ⟨ledger', hstore, hsame', hrecords', hrows⟩ :=
        ih hrest (by omega) (by rw [hrecords]; exact hrecord) hcount (Nat.le_refl _)
      refine ⟨ledger', hstore, ⟨hsame'.plane.trans hsame.plane,
        hsame'.quotaSnapshots.trans hsame.quotaSnapshots⟩, hrecords'.trans hrecords, ?_⟩
      rw [hrows, hunitsNext, Nat.sub_self, Nat.sub_self, List.drop_zero, List.drop_zero]
      simp [KeyedTable.append, unitRowsFrom]

end Dialect

/-! ## The order of the queries -/

namespace Collation

variable (collation : Collation)

instance : Std.Total collation.Ordered where
  total a b := by
    rcases lt_trichotomy a.1 b.1 with h | h | h
    · exact Or.inl (Or.inl h)
    · rcases collation.total a.2 b.2 with hle | hle
      · exact Or.inl (Or.inr ⟨h, hle⟩)
      · exact Or.inr (Or.inr ⟨h.symm, hle⟩)
    · exact Or.inr (Or.inl h)

instance : IsTrans (Int × String) collation.Ordered where
  trans a b c := by
    rintro (hab | ⟨hab, hle⟩) (hbc | ⟨hbc, hle'⟩)
    · exact Or.inl (lt_trans hab hbc)
    · exact Or.inl (hbc ▸ hab)
    · exact Or.inl (hab ▸ hbc)
    · exact Or.inr ⟨hab.trans hbc, collation.trans _ _ _ hle hle'⟩

theorem Ordered.antisymm {collation : Collation} {a b : Int × String}
    (h : collation.Ordered a b) (h' : collation.Ordered b a) : a = b := by
  rcases h with h | ⟨htime, hle⟩
  · rcases h' with h' | ⟨htime, -⟩
    · exact absurd (lt_trans h h') (lt_irrefl _)
    · exact absurd (htime ▸ h) (lt_irrefl _)
  · rcases h' with h' | ⟨-, hle'⟩
    · exact absurd (htime ▸ h') (lt_irrefl _)
    · exact Prod.ext htime (collation.antisymm _ _ hle hle')

end Collation

namespace Dialect

variable (d : Dialect)

instance : Std.Total d.quotaOrder := ⟨fun _ _ => Std.Total.total (r := d.collation.Ordered) _ _⟩

instance : IsTrans (String × QuotaRow) d.quotaOrder :=
  ⟨fun _ _ _ hab hbc => IsTrans.trans (r := d.collation.Ordered) _ _ _ hbc hab⟩

instance : Std.Total d.recordOrder := ⟨fun _ _ => Std.Total.total (r := d.collation.Ordered) _ _⟩

instance : IsTrans (String × BillingRow) d.recordOrder :=
  ⟨fun _ _ _ hab hbc => IsTrans.trans (r := d.collation.Ordered) _ _ _ hab hbc⟩

/-! ## What the queries return after a write -/

/-- A new quota row appears among those of its account, at its place. -/
theorem quotaSnapshots_append {ledger ledger' : Ledger} {snapshot : ProviderQuotaSnapshot}
    (hrows : ledger'.quotaSnapshots.rows =
      ledger.quotaSnapshots.rows ++ [(snapshot.snapshotId, quotaRow snapshot)])
    (hread : readQuota (snapshot.snapshotId, quotaRow snapshot) = .ok snapshot)
    {items : List ProviderQuotaSnapshot}
    (h : d.quotaSnapshots ledger snapshot.providerAccountId = .ok items) :
    ∃ first last, items = first ++ last ∧
      d.quotaSnapshots ledger' snapshot.providerAccountId = .ok (first ++ snapshot :: last) := by
  unfold quotaSnapshots at h ⊢
  split at h
  · next hstorable =>
    have hfilter : ledger'.quotaSnapshots.rows.filter
        (fun row => row.2.providerAccountId = snapshot.providerAccountId) =
        ledger.quotaSnapshots.rows.filter
          (fun row => row.2.providerAccountId = snapshot.providerAccountId) ++
          [(snapshot.snapshotId, quotaRow snapshot)] := by
      rw [hrows, List.filter_append]
      congr 1
      exact List.filter_cons_of_pos (by simp [quotaRow])
    rw [if_pos hstorable, hfilter]
    refine OrderedRows.read_insert d.quotaOrder ?_ h hread
    -- the order tells rows apart, since a key has one row
    have hmem : ∀ row ∈ (snapshot.snapshotId, quotaRow snapshot) :: ledger.quotaSnapshots.rows.filter
        (fun row => row.2.providerAccountId = snapshot.providerAccountId),
        row ∈ ledger'.quotaSnapshots.rows := by
      intro row hrow
      rw [hrows]
      rcases List.mem_cons.mp hrow with rfl | hrow
      · exact List.mem_append_right _ List.mem_cons_self
      · exact List.mem_append_left _ (List.mem_of_mem_filter hrow)
    intro a ha b hb hab hba
    have hkey := Collation.Ordered.antisymm hba hab
    exact KeyedTable.eq_of_key (hmem a ha) (hmem b hb) (congrArg Prod.snd hkey)
  · cases h

/-- A quota row of another account is not seen. -/
theorem quotaSnapshots_append_ne {ledger ledger' : Ledger} {id accountId : String} {row : QuotaRow}
    (hrows : ledger'.quotaSnapshots.rows = ledger.quotaSnapshots.rows ++ [(id, row)])
    (haccount : row.providerAccountId ≠ accountId) :
    d.quotaSnapshots ledger' accountId = d.quotaSnapshots ledger accountId := by
  have hfilter : ledger'.quotaSnapshots.rows.filter (fun row => row.2.providerAccountId = accountId) =
      ledger.quotaSnapshots.rows.filter (fun row => row.2.providerAccountId = accountId) := by
    rw [hrows, List.filter_append, List.filter_cons_of_neg (by simpa using haccount),
      List.filter_nil, List.append_nil]
  unfold quotaSnapshots
  rw [hfilter]

/-! ## Units -/

theorem key_of_mem_unitRowsFrom {id : String} {quantities : List ProviderReportedQuantity}
    {index : Nat} {row : (String × Int) × UnitRow} (h : row ∈ unitRowsFrom id index quantities) :
    row.1.1 = id ∧ (index : Int) ≤ row.1.2 := by
  induction quantities generalizing index with
  | nil => cases h
  | cons quantity quantities ih =>
    rcases List.mem_cons.mp h with rfl | h
    · exact ⟨rfl, le_refl _⟩
    · obtain ⟨hid, hle⟩ := ih h
      refine ⟨hid, ?_⟩
      omega

theorem pairwise_unitRowsFrom (id : String) (index : Nat)
    (quantities : List ProviderReportedQuantity) :
    (unitRowsFrom id index quantities).Pairwise fun a b => a.1.2 ≤ b.1.2 := by
  induction quantities generalizing index with
  | nil => exact .nil
  | cons quantity quantities ih =>
    refine List.pairwise_cons.mpr ⟨?_, ih (index + 1)⟩
    intro row hrow
    have hle := (key_of_mem_unitRowsFrom hrow).2
    show (index : Int) ≤ row.1.2
    omega

theorem mapM_readUnit {id : String} {quantities : List ProviderReportedQuantity}
    (hvalid : ∀ quantity ∈ quantities, quantity.unit.validate = .ok ())
    (hrange : ∀ quantity ∈ quantities, quantity.value.InRange) (index : Nat) :
    (unitRowsFrom id index quantities).mapM readUnit = .ok quantities := by
  induction quantities generalizing index with
  | nil => rfl
  | cons quantity quantities ih =>
    have hread := readUnit_written (hvalid quantity List.mem_cons_self)
      (hrange quantity List.mem_cons_self) (id, (index : Int))
    have hrest := ih (fun other hother => hvalid other (List.mem_cons_of_mem _ hother))
      (fun other hother => hrange other (List.mem_cons_of_mem _ hother)) (index + 1)
    rw [unitRowsFrom, List.mapM_cons, hread, hrest]
    rfl

/-- Units that are appended are the last ones of their record, and no other record sees them. -/
theorem unitRows_append {ledger ledger' : Ledger} {id : String} {index : Nat}
    {quantities : List ProviderReportedQuantity}
    (hrows : ledger'.billingUnits.rows =
      ledger.billingUnits.rows ++ unitRowsFrom id index quantities) (other : String) :
    ledger'.unitRows other =
      ledger.unitRows other ++ if other = id then unitRowsFrom id index quantities else [] := by
  unfold Ledger.unitRows
  rw [hrows, List.filter_append]
  congr 1
  split
  · next heq =>
    rw [List.filter_eq_self]
    intro row hrow
    rw [(key_of_mem_unitRowsFrom hrow).1, heq]
    simp
  · next hne =>
    rw [List.filter_eq_nil_iff]
    intro row hrow
    rw [(key_of_mem_unitRowsFrom hrow).1]
    simpa using Ne.symm hne

/-- A record that is not stored has no units. -/
theorem unitRows_of_fresh {ledger : Ledger} {id : String}
    (h : ledger.billingRecords.get? id = none) : ledger.unitRows id = [] := by
  rw [Ledger.unitRows, List.filter_eq_nil_iff]
  intro row hrow hid
  rw [decide_eq_true_eq] at hid
  exact ledger.unitReferences row hrow (hid ▸ h)

theorem hasUnits_of_fresh {ledger : Ledger} {id : String}
    (h : ledger.billingRecords.get? id = none) : ledger.HasUnits id 0 := by
  intro index
  simp only [Nat.zero_le, iff_true]
  rw [KeyedTable.get?_eq_none]
  intro row hrow
  exact ledger.unitReferences _ hrow h

theorem readRecord_congr {ledger ledger' : Ledger} {row : String × BillingRow}
    (h : ledger'.unitRows row.1 = ledger.unitRows row.1) :
    ledger'.readRecord row = ledger.readRecord row := by
  unfold Ledger.readRecord Ledger.loadBilledUnits
  rw [h]

/-! ## What the queries return after a billing record -/

/-- A new header whose units are read with it appears among the records of its attempt. -/
theorem billingRecords_append {ledger ledger' : Ledger} {record : ProviderBillingRecord}
    (hfresh : ledger.billingRecords.get? record.recordId = none)
    (hrows : ledger'.billingRecords.rows =
      ledger.billingRecords.rows ++ [(record.recordId, billingRow record)])
    (hothers : ∀ other, other ≠ record.recordId → ledger'.unitRows other = ledger.unitRows other)
    (hread : ledger'.readRecord (record.recordId, billingRow record) = .ok record)
    {items : List ProviderBillingRecord} (h : d.billingRecords ledger record.attemptId = .ok items) :
    ∃ first last, items = first ++ last ∧
      d.billingRecords ledger' record.attemptId = .ok (first ++ record :: last) := by
  unfold billingRecords at h ⊢
  split at h
  · next hstorable =>
    have hfilter : ledger'.billingRecords.rows.filter
        (fun row => row.2.attemptId = record.attemptId.text) =
        ledger.billingRecords.rows.filter (fun row => row.2.attemptId = record.attemptId.text) ++
          [(record.recordId, billingRow record)] := by
      rw [hrows, List.filter_append]
      congr 1
      exact List.filter_cons_of_pos (by simp [billingRow])
    -- the records that were stored before are read as before
    have hsame : ((ledger.billingRecords.rows.filter fun row =>
        row.2.attemptId = record.attemptId.text).insertionSort d.recordOrder).mapM
          ledger'.readRecord = .ok items := by
      rw [← h]
      apply OrderedRows.mapM_congr
      intro row hrow
      apply readRecord_congr
      apply hothers
      rintro hid
      have hmem := List.mem_of_mem_filter ((List.mem_insertionSort _).mp hrow)
      exact KeyedTable.mem_keys.mp (hid ▸ List.mem_map_of_mem hmem) hfresh
    rw [if_pos hstorable, hfilter]
    refine OrderedRows.read_insert d.recordOrder ?_ hsame hread
    have hmem : ∀ row ∈ (record.recordId, billingRow record) :: ledger.billingRecords.rows.filter
        (fun row => row.2.attemptId = record.attemptId.text),
        row ∈ ledger'.billingRecords.rows := by
      intro row hrow
      rw [hrows]
      rcases List.mem_cons.mp hrow with rfl | hrow
      · exact List.mem_append_right _ List.mem_cons_self
      · exact List.mem_append_left _ (List.mem_of_mem_filter hrow)
    intro a ha b hb hab hba
    have hkey := Collation.Ordered.antisymm hab hba
    exact KeyedTable.eq_of_key (hmem a ha) (hmem b hb) (congrArg Prod.snd hkey)
  · cases h

/-- A query sees neither a header of another attempt nor the units of a record it does not
list. -/
theorem billingRecords_congr {ledger ledger' : Ledger} {attemptId : AttemptId}
    (hrows : ledger'.billingRecords.rows.filter (fun row => row.2.attemptId = attemptId.text) =
      ledger.billingRecords.rows.filter (fun row => row.2.attemptId = attemptId.text))
    (hunits : ∀ row ∈ ledger.billingRecords.rows, row.2.attemptId = attemptId.text →
      ledger'.unitRows row.1 = ledger.unitRows row.1) :
    d.billingRecords ledger' attemptId = d.billingRecords ledger attemptId := by
  unfold billingRecords
  rw [hrows]
  congr 1
  apply OrderedRows.mapM_congr
  intro row hrow
  obtain ⟨hmem, hattempt⟩ := List.mem_filter.mp ((List.mem_insertionSort _).mp hrow)
  exact readRecord_congr (hunits row hmem (of_decide_eq_true hattempt))

/-! ## Recording -/

/-- A validated snapshot with a new id adds its row. -/
theorem recordQuotaSnapshot_new {ledger : Ledger} {snapshot : ProviderQuotaSnapshot}
    (hvalid : snapshot.validate = .ok ()) (hplain : snapshot.Plain)
    (haccount : ledger.plane.providerAccounts.get? snapshot.providerAccountId ≠ none)
    (hfresh : ledger.quotaSnapshots.get? snapshot.snapshotId = none) :
    ∃ ledger', d.recordQuotaSnapshot snapshot ledger = (.ok (), ledger') ∧
      ledger'.quotaSnapshots.rows =
        ledger.quotaSnapshots.rows ++ [(snapshot.snapshotId, quotaRow snapshot)] ∧
      ledger'.billingRecords = ledger.billingRecords ∧
      ledger'.billingUnits = ledger.billingUnits := by
  obtain ⟨ledger', hinsert, hrows⟩ :=
    Ledger.insertQuota_new (quotaRow_passes hvalid hplain) hfresh haccount
  have hstorable := d.storable_plain _ hplain.texts
  refine ⟨ledger', ?_, hrows⟩
  rw [recordQuotaSnapshot, hvalid]
  dsimp only
  rw [if_pos hstorable, hinsert]

/-- What the store takes of a record: its header, its units, and their number. -/
structure TakesRecord (record : ProviderBillingRecord) : Prop where
  header : d.storable ((billingRow record).texts record.recordId) = true
  headerChecks : Passes (billingRow record).checks
  units : ∀ quantity ∈ record.billedUnits, d.TakesUnit record.recordId quantity
  count : record.billedUnits.length ≤ d.indexLimit

/-- A store takes every validated record without NUL whose units an `i32` can count. -/
theorem takesRecord_of_plain {record : ProviderBillingRecord} (hvalid : record.validate = .ok ())
    (hplain : record.Plain) (hcount : record.billedUnits.length < 2 ^ 31) :
    d.TakesRecord record where
  header := d.storable_plain _ hplain.header
  headerChecks := billingRow_passes hvalid hplain
  units := by
    intro quantity hquantity
    have hunit := (ProviderBillingRecord.facts_of_validate hvalid).2.1 quantity hquantity
    exact ⟨d.storable_plain _ (hplain.units quantity hquantity),
      unitRow_passes hunit (hplain.units quantity hquantity)⟩
  count := Nat.le_trans (Nat.le_of_lt hcount) d.indexLimit_ge

/-- A record the store takes, with a new id, adds its header and all its units. -/
theorem recordBillingRecord_new {ledger : Ledger} {record : ProviderBillingRecord}
    (hvalid : record.validate = .ok ()) (htakes : d.TakesRecord record)
    (hattempt : ledger.plane.usageAttempts.get? record.attemptId.text ≠ none)
    (haccount : ledger.plane.providerAccounts.get? record.providerAccountId ≠ none)
    (hfresh : ledger.billingRecords.get? record.recordId = none) :
    ∃ ledger', d.recordBillingRecord record ledger = (.ok (), ledger') ∧
      ledger.SameQuotas ledger' ∧
      ledger'.billingRecords.rows =
        ledger.billingRecords.rows ++ [(record.recordId, billingRow record)] ∧
      ledger'.billingUnits.rows =
        ledger.billingUnits.rows ++ unitRowsFrom record.recordId 0 record.billedUnits := by
  obtain ⟨headed, hinsert, hsame, hrecords, hunits⟩ :=
    Ledger.insertRecord_new htakes.headerChecks hfresh hattempt haccount
  have hrecord : headed.billingRecords.get? record.recordId ≠ none := by
    apply KeyedTable.mem_keys.mp
    rw [hrecords]
    simp
  -- a unit refers to its record, so a new record has none
  have hnone : headed.HasUnits record.recordId 0 := by
    intro index
    rw [hunits]
    exact hasUnits_of_fresh hfresh index
  obtain ⟨ledger', hstore, hsame', hrecords', hrows⟩ := d.storeUnits_rows htakes.units
    (show 0 + record.billedUnits.length ≤ d.indexLimit by simpa using htakes.count) hrecord hnone
    (Nat.le_refl 0)
  refine ⟨ledger', ?_, ⟨hsame'.plane.trans hsame.plane,
    hsame'.quotaSnapshots.trans hsame.quotaSnapshots⟩, by rw [hrecords', hrecords], ?_⟩
  · rw [recordBillingRecord, hvalid]
    dsimp only
    rw [storeRecord, if_pos htakes.header, hinsert]
    dsimp only
    rw [hstore]
  · rw [hrows, hunits, List.drop_zero]

/-- A recording that fails changes nothing. -/
theorem recordQuotaSnapshot_error {ledger : Ledger} {snapshot : ProviderQuotaSnapshot}
    {error : String} (h : (d.recordQuotaSnapshot snapshot ledger).1 = .error error) :
    (d.recordQuotaSnapshot snapshot ledger).2 = ledger := by
  unfold recordQuotaSnapshot at h ⊢
  cases hvalid : snapshot.validate with
  | error _ => rfl
  | ok _ =>
    rw [hvalid] at h
    dsimp only at h ⊢
    split
    · next hstorable =>
      rw [if_pos hstorable] at h
      cases hinsert : ledger.insertQuota snapshot.snapshotId (quotaRow snapshot) with
      | error _ => rfl
      | ok _ =>
        rw [hinsert] at h
        cases h
    · rfl

theorem recordBillingRecord_error {ledger : Ledger} {record : ProviderBillingRecord}
    {error : String} (h : (d.recordBillingRecord record ledger).1 = .error error) :
    (d.recordBillingRecord record ledger).2 = ledger := by
  unfold recordBillingRecord at h ⊢
  cases hvalid : record.validate with
  | error _ => rfl
  | ok _ =>
    rw [hvalid] at h
    dsimp only at h ⊢
    cases hstore : d.storeRecord record ledger with
    | error _ => rfl
    | ok _ =>
      rw [hstore] at h
      cases h

/-- The units of a record under a new id are loaded as its own, in their order. -/
theorem loadBilledUnits_new {ledger ledger' : Ledger} {record : ProviderBillingRecord}
    (hvalid : record.validate = .ok ()) (hrange : record.InRange)
    (hfresh : ledger.billingRecords.get? record.recordId = none)
    (hrows : ledger'.billingUnits.rows =
      ledger.billingUnits.rows ++ unitRowsFrom record.recordId 0 record.billedUnits) :
    ledger'.loadBilledUnits record.recordId = .ok record.billedUnits := by
  obtain ⟨-, hunits, -, -⟩ := ProviderBillingRecord.facts_of_validate hvalid
  have hsorted := pairwise_unitRowsFrom record.recordId 0 record.billedUnits
  rw [Ledger.loadBilledUnits, unitRows_append hrows, unitRows_of_fresh hfresh, if_pos rfl,
    List.nil_append, hsorted.insertionSort_eq]
  exact mapM_readUnit hunits hrange.billedUnits 0

/-- A snapshot of a known account under a new id is stored and read back. -/
theorem recordQuotaSnapshot_kept (ledger : Ledger) {snapshot : ProviderQuotaSnapshot}
    (hvalid : snapshot.validate = .ok ()) (hplain : snapshot.Plain)
    (haccount : ledger.plane.providerAccounts.get? snapshot.providerAccountId ≠ none)
    (hfresh : ledger.quotaSnapshots.get? snapshot.snapshotId = none) :
    ∃ ledger', d.recordQuotaSnapshot snapshot ledger = (.ok (), ledger') ∧
      Passes (quotaRow snapshot).checks ∧
      (∀ items, d.quotaSnapshots ledger snapshot.providerAccountId = .ok items →
        ∃ first last, items = first ++ last ∧
          d.quotaSnapshots ledger' snapshot.providerAccountId =
            .ok (first ++ snapshot :: last)) ∧
      (∀ accountId, accountId ≠ snapshot.providerAccountId →
        d.quotaSnapshots ledger' accountId = d.quotaSnapshots ledger accountId) ∧
      ∀ attemptId, d.billingRecords ledger' attemptId = d.billingRecords ledger attemptId := by
  obtain ⟨ledger', hrecord, hrows, hrecords, hunits⟩ :=
    d.recordQuotaSnapshot_new hvalid hplain haccount hfresh
  refine ⟨ledger', hrecord, quotaRow_passes hvalid hplain, ?_, ?_, ?_⟩
  · intro items hitems
    exact d.quotaSnapshots_append hrows (readQuota_written hvalid hplain) hitems
  · intro accountId hother
    exact d.quotaSnapshots_append_ne hrows (Ne.symm hother)
  · intro attemptId
    apply d.billingRecords_congr (by rw [hrecords])
    intro row _ _
    rw [Ledger.unitRows, Ledger.unitRows, hunits]

/-- A record of a known attempt and account under a new id is stored and read back. -/
theorem recordBillingRecord_kept (ledger : Ledger) {record : ProviderBillingRecord}
    (hvalid : record.validate = .ok ()) (hrange : record.InRange) (hplain : record.Plain)
    (hcount : record.billedUnits.length < 2 ^ 31)
    (hattempt : ledger.plane.usageAttempts.get? record.attemptId.text ≠ none)
    (haccount : ledger.plane.providerAccounts.get? record.providerAccountId ≠ none)
    (hfresh : ledger.billingRecords.get? record.recordId = none) :
    ∃ ledger', d.recordBillingRecord record ledger = (.ok (), ledger') ∧
      Passes (billingRow record).checks ∧
      (∀ quantity ∈ record.billedUnits, ∀ index : Nat, Passes ((unitRow quantity).checks index)) ∧
      (∀ items, d.billingRecords ledger record.attemptId = .ok items →
        ∃ first last, items = first ++ last ∧
          d.billingRecords ledger' record.attemptId = .ok (first ++ record :: last)) ∧
      (∀ attemptId : AttemptId, attemptId ≠ record.attemptId →
        d.billingRecords ledger' attemptId = d.billingRecords ledger attemptId) ∧
      ∀ accountId, d.quotaSnapshots ledger' accountId = d.quotaSnapshots ledger accountId := by
  have htakes := d.takesRecord_of_plain hvalid hplain hcount
  obtain ⟨ledger', hrecord, hsame, hrecords, hrows⟩ :=
    d.recordBillingRecord_new hvalid htakes hattempt haccount hfresh
  -- the new rows belong to the new record only
  have hothers : ∀ other, other ≠ record.recordId →
      ledger'.unitRows other = ledger.unitRows other := by
    intro other hother
    rw [unitRows_append hrows, if_neg hother, List.append_nil]
  have hload := loadBilledUnits_new hvalid hrange hfresh hrows
  refine ⟨ledger', hrecord, htakes.headerChecks, fun quantity hquantity =>
    (htakes.units quantity hquantity).2, ?_, ?_, ?_⟩
  · intro items hitems
    exact d.billingRecords_append hfresh hrecords hothers
      (readRecord_written hvalid hrange hload) hitems
  · intro attemptId hother
    have htext : ¬ record.attemptId.text = attemptId.text :=
      fun h => hother (AttemptId.ext h).symm
    apply d.billingRecords_congr
    · rw [hrecords, List.filter_append,
        List.filter_cons_of_neg (by simp [billingRow, htext]), List.filter_nil,
        List.append_nil]
    · intro row hrow _
      apply hothers
      rintro hid
      exact KeyedTable.mem_keys.mp (hid ▸ List.mem_map_of_mem hrow) hfresh
  · intro accountId
    rw [quotaSnapshots, quotaSnapshots, hsame.quotaSnapshots]

/-- A validated fact whose account and attempt exist and whose id is new is stored and read back:
the query returns what it returned before and the fact, its units in their order, and every
other query returns what it did. A recording that fails changes nothing. -/
theorem recorded_losslessly (ledger : Ledger) :
    (∀ snapshot : ProviderQuotaSnapshot, snapshot.validate = .ok () → snapshot.Plain →
      ledger.plane.providerAccounts.get? snapshot.providerAccountId ≠ none →
      ledger.quotaSnapshots.get? snapshot.snapshotId = none →
      ∃ ledger', d.recordQuotaSnapshot snapshot ledger = (.ok (), ledger') ∧
        Passes (quotaRow snapshot).checks ∧
        (∀ items, d.quotaSnapshots ledger snapshot.providerAccountId = .ok items →
          ∃ first last, items = first ++ last ∧
            d.quotaSnapshots ledger' snapshot.providerAccountId =
              .ok (first ++ snapshot :: last)) ∧
        (∀ accountId, accountId ≠ snapshot.providerAccountId →
          d.quotaSnapshots ledger' accountId = d.quotaSnapshots ledger accountId) ∧
        ∀ attemptId, d.billingRecords ledger' attemptId = d.billingRecords ledger attemptId) ∧
    (∀ record : ProviderBillingRecord, record.validate = .ok () → record.InRange →
      record.Plain → record.billedUnits.length < 2 ^ 31 →
      ledger.plane.usageAttempts.get? record.attemptId.text ≠ none →
      ledger.plane.providerAccounts.get? record.providerAccountId ≠ none →
      ledger.billingRecords.get? record.recordId = none →
      ∃ ledger', d.recordBillingRecord record ledger = (.ok (), ledger') ∧
        Passes (billingRow record).checks ∧
        (∀ quantity ∈ record.billedUnits, ∀ index : Nat, Passes ((unitRow quantity).checks index)) ∧
        (∀ items, d.billingRecords ledger record.attemptId = .ok items →
          ∃ first last, items = first ++ last ∧
            d.billingRecords ledger' record.attemptId = .ok (first ++ record :: last)) ∧
        (∀ attemptId : AttemptId, attemptId ≠ record.attemptId →
          d.billingRecords ledger' attemptId = d.billingRecords ledger attemptId) ∧
        ∀ accountId, d.quotaSnapshots ledger' accountId = d.quotaSnapshots ledger accountId) ∧
    (∀ snapshot error, (d.recordQuotaSnapshot snapshot ledger).1 = .error error →
      (d.recordQuotaSnapshot snapshot ledger).2 = ledger) ∧
    ∀ record error, (d.recordBillingRecord record ledger).1 = .error error →
      (d.recordBillingRecord record ledger).2 = ledger := by
  refine ⟨?_, ?_, fun _ _ => d.recordQuotaSnapshot_error, fun _ _ => d.recordBillingRecord_error⟩
  · intro snapshot hvalid hplain haccount hfresh
    exact d.recordQuotaSnapshot_kept ledger hvalid hplain haccount hfresh
  · intro record hvalid hrange hplain hcount hattempt haccount hfresh
    exact d.recordBillingRecord_kept ledger hvalid hrange hplain hcount hattempt haccount hfresh

end Dialect

/-! ## A record in SQLite -/

/-- A ledger without evidence, with one account and one attempt. -/
def Ledger.oneAttempt : Ledger where
  plane := (ControlPlane.oneRoute ⟨"closed", none, none⟩).upsertAttempt 0
    ⟨.least, "request", "route", .succeeded, none⟩
  quotaSnapshots := .empty
  billingRecords := .empty
  billingUnits := .empty
  quotaChecks := by simp [KeyedTable.empty]
  billingChecks := by simp [KeyedTable.empty]
  unitChecks := by simp [KeyedTable.empty]
  quotaReferences := by simp [KeyedTable.empty]
  billingReferences := by simp [KeyedTable.empty]
  unitReferences := by simp [KeyedTable.empty]

def inputTokens (count : Int) : ProviderReportedQuantity :=
  ⟨⟨.inputTokens, none, none⟩, ⟨count, 0⟩⟩

/-- A record of that attempt with a charge and with the units given. -/
def chargedRecord (billedUnits : List ProviderReportedQuantity) : ProviderBillingRecord where
  recordId := "record"
  attemptId := .least
  providerAccountId := "account"
  providerRequestId := none
  billedUnits := billedUnits
  charge := some ⟨⟨.currency, some "USD", none⟩, ⟨1234, 4⟩⟩
  observedAtUnix := 10
  freshUntilUnix := 310
  source := ⟨"provider-billing-export", some "v3"⟩

theorem AttemptId.isUuid_least : AttemptId.least.IsUuid :=
  ⟨['0', '0', '0', '0', '0', '0', '0', '0', '0', '0', '0', '0', '4', '0', '0', '0',
    '8', '0', '0', '0', '0', '0', '0', '0', '0', '0', '0', '0', '0', '0', '0', '0'],
    by decide, by decide, by decide⟩

theorem recorded_losslessly_charge :
    ∃ ledger', Dialect.sqlite.recordBillingRecord (chargedRecord [inputTokens 321]) .oneAttempt =
        (.ok (), ledger') ∧
      Dialect.sqlite.billingRecords ledger' .least = .ok [chargedRecord [inputTokens 321]] := by
  obtain ⟨ledger', hrecord, -, -, hread, -⟩ :=
    (Dialect.sqlite.recorded_losslessly .oneAttempt).2.1 (chargedRecord [inputTokens 321])
      (by decide) ⟨by unfold FixedDecimal.InRange; decide, by unfold FixedDecimal.InRange; decide,
        AttemptId.isUuid_least⟩
      ⟨by decide, by decide⟩ (by decide) (by decide) (by decide) (by decide)
  obtain ⟨first, last, hitems, hresult⟩ := hread [] rfl
  obtain ⟨rfl, rfl⟩ := List.append_eq_nil_iff.mp hitems.symm
  exact ⟨ledger', hrecord, hresult⟩

end SmartGateway
