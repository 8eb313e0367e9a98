import SmartGateway.Domain.JsonMap
import SmartGateway.Lib.Transition
import SmartGateway.Storage.LedgerReplay

/-! # What a ledger stands for

A ledger keeps provider facts as rows. Here is what these rows stand for, over every history of
recordings: the facts in the order in which they were first taken, one for each id. A snapshot
stays as it was taken; a billing record does too, but later records with its id can add units
to it. What the queries return is what they return for these facts.
-/

namespace SmartGateway

/-! ## Facts -/

/-- What the types of the source hold of a decimal: an `i64` and a scale of type `u8`. -/
structure FixedDecimal.Typed (value : FixedDecimal) : Prop where
  unscaled : IsI64 value.unscaled
  scale : value.InRange

structure ProviderQuotaSnapshot.Typed (snapshot : ProviderQuotaSnapshot) : Prop where
  allowance : ∀ value ∈ snapshot.allowance, value.Typed
  consumed : ∀ value ∈ snapshot.consumed, value.Typed
  remaining : ∀ value ∈ snapshot.remaining, value.Typed
  resetAtUnix : ∀ time ∈ snapshot.resetAtUnix, IsI64 time
  observedAtUnix : IsI64 snapshot.observedAtUnix
  freshUntilUnix : IsI64 snapshot.freshUntilUnix

structure ProviderBillingRecord.Typed (record : ProviderBillingRecord) : Prop where
  attemptId : record.attemptId.IsUuid
  billedUnits : ∀ quantity ∈ record.billedUnits, quantity.value.Typed
  charge : ∀ charge ∈ record.charge, charge.value.Typed
  observedAtUnix : IsI64 record.observedAtUnix
  freshUntilUnix : IsI64 record.freshUntilUnix

theorem ProviderBillingRecord.Typed.inRange {record : ProviderBillingRecord} (h : record.Typed) :
    record.InRange where
  billedUnits quantity hquantity := (h.billedUnits quantity hquantity).scale
  charge charge hcharge := (h.charge charge hcharge).scale
  attemptId := h.attemptId

/-- A fact that is handed to a store. -/
inductive Fact where
  | quota (snapshot : ProviderQuotaSnapshot) (h : snapshot.Typed)
  | billing (record : ProviderBillingRecord) (h : record.Typed)

/-- The facts a ledger stands for. -/
structure Facts where
  quotas : List ProviderQuotaSnapshot
  records : List ProviderBillingRecord

/-- The record with the units of another one that lie beyond its own. -/
def ProviderBillingRecord.extend (stored more : ProviderBillingRecord) : ProviderBillingRecord :=
  { stored with
    billedUnits := stored.billedUnits ++ more.billedUnits.drop stored.billedUnits.length }

theorem ProviderBillingRecord.Typed.extend {stored more : ProviderBillingRecord}
    (hstored : stored.Typed) (hmore : more.Typed) : (stored.extend more).Typed where
  attemptId := hstored.attemptId
  billedUnits := by
    intro quantity hquantity
    rcases List.mem_append.mp hquantity with hown | hdrop
    · exact hstored.billedUnits quantity hown
    · exact hmore.billedUnits quantity (List.mem_of_mem_drop hdrop)
  charge := hstored.charge
  observedAtUnix := hstored.observedAtUnix
  freshUntilUnix := hstored.freshUntilUnix

namespace Facts

def empty : Facts := ⟨[], []⟩

/-- What a fact that is taken adds. -/
def add (facts : Facts) : Fact → Facts
  | .quota snapshot _ =>
    if snapshot.snapshotId ∈ facts.quotas.map ProviderQuotaSnapshot.snapshotId then facts
    else { facts with quotas := facts.quotas ++ [snapshot] }
  | .billing record _ =>
    if record.recordId ∈ facts.records.map ProviderBillingRecord.recordId then
      { facts with
        records := facts.records.map fun stored =>
          if stored.recordId = record.recordId then stored.extend record else stored }
    else { facts with records := facts.records ++ [record] }

/-- The snapshots of an account, newest first. -/
def quotaSnapshots (facts : Facts) (d : Dialect) (providerAccountId : String) :
    List ProviderQuotaSnapshot :=
  (facts.quotas.filter fun snapshot =>
    snapshot.providerAccountId = providerAccountId).insertionSort fun a b =>
      d.collation.Ordered (b.observedAtUnix, b.snapshotId) (a.observedAtUnix, a.snapshotId)

/-- The records of an attempt, oldest first. -/
def billingRecords (facts : Facts) (d : Dialect) (attemptId : AttemptId) :
    List ProviderBillingRecord :=
  (facts.records.filter fun record =>
    record.attemptId.text = attemptId.text).insertionSort fun a b =>
      d.collation.Ordered (a.observedAtUnix, a.recordId) (b.observedAtUnix, b.recordId)

end Facts

/-- The rows of a ledger are those of the facts. -/
structure Ledger.Represents (ledger : Ledger) (facts : Facts) : Prop where
  quotas : ledger.quotaSnapshots.rows =
    facts.quotas.map fun snapshot => (snapshot.snapshotId, quotaRow snapshot)
  valid : ∀ snapshot ∈ facts.quotas, snapshot.validate = .ok () ∧ snapshot.Typed
  records : ledger.billingRecords.rows =
    facts.records.map fun record => (record.recordId, billingRow record)
  typed : ∀ record ∈ facts.records, record.Typed
  holds : ∀ record ∈ facts.records, ledger.Holds (record.recordId, billingRow record) record

/-! ## Reading -/

theorem readQuota_of_typed {snapshot : ProviderQuotaSnapshot} (hvalid : snapshot.validate = .ok ())
    (htyped : snapshot.Typed) :
    readQuota (snapshot.snapshotId, quotaRow snapshot) = .ok snapshot := by
  obtain ⟨hunit, -, -, -⟩ := ProviderQuotaSnapshot.facts_of_validate hvalid
  have hallowance := fixedDecimal_written fun value hvalue => (htyped.allowance value hvalue).scale
  have hconsumed := fixedDecimal_written fun value hvalue => (htyped.consumed value hvalue).scale
  have hremaining := fixedDecimal_written fun value hvalue => (htyped.remaining value hvalue).scale
  simp only [readQuota, quotaRow, providerUnit_written hunit, hallowance, hconsumed, hremaining]
  show ((snapshot.validate.mapError AuthoritativeDataError.message) >>= fun _ => pure snapshot) = _
  rw [hvalid]
  rfl

namespace Ledger.Represents

variable {ledger : Ledger} {facts : Facts} {d : Dialect}

theorem quotaSnapshots (h : ledger.Represents facts) {providerAccountId : String}
    (hstorable : d.storable [providerAccountId] = true) :
    d.quotaSnapshots ledger providerAccountId = .ok (facts.quotaSnapshots d providerAccountId) := by
  rw [Dialect.quotaSnapshots, if_pos hstorable, h.quotas]
  exact OrderedRows.read_written (fun snapshot hsnapshot =>
    readQuota_of_typed (h.valid snapshot hsnapshot).1 (h.valid snapshot hsnapshot).2) _ _

theorem billingRecords (h : ledger.Represents facts) {attemptId : AttemptId}
    (hstorable : d.storable [attemptId.text] = true) :
    d.billingRecords ledger attemptId = .ok (facts.billingRecords d attemptId) := by
  rw [Dialect.billingRecords, if_pos hstorable, h.records]
  exact OrderedRows.read_written (fun record hrecord => (h.holds record hrecord).readRecord) _ _

end Ledger.Represents

/-! ## Recording -/

/-- A quota row that is taken is stored already or appended. -/
theorem Ledger.insertQuota_ok {ledger ledger' : Ledger} {id : String} {row : QuotaRow}
    (h : ledger.insertQuota id row = .ok ledger') :
    (ledger.quotaSnapshots.get? id ≠ none ∧ ledger' = ledger) ∨
      (ledger.quotaSnapshots.get? id = none ∧
        ledger'.quotaSnapshots.rows = ledger.quotaSnapshots.rows ++ [(id, row)]) := by
  unfold insertQuota at h
  split at h
  · cases h
  split at h
  · next hfresh =>
    split at h
    · cases h
      exact Or.inr ⟨hfresh, rfl⟩
    · cases h
  · next hstored =>
    cases h
    exact Or.inl ⟨hstored, rfl⟩

namespace Dialect

variable {d : Dialect}

def record (d : Dialect) : Fact → Ledger → Except String Unit × Ledger
  | .quota snapshot _, ledger => d.recordQuotaSnapshot snapshot ledger
  | .billing record _, ledger => d.recordBillingRecord record ledger

/-- A snapshot that is taken is valid, and stored already or appended. -/
theorem recordQuotaSnapshot_ok {snapshot : ProviderQuotaSnapshot} {ledger : Ledger}
    (h : (d.recordQuotaSnapshot snapshot ledger).1 = .ok ()) :
    snapshot.validate = .ok () ∧
      ledger.insertQuota snapshot.snapshotId (quotaRow snapshot) =
        .ok (d.recordQuotaSnapshot snapshot ledger).2 := by
  unfold recordQuotaSnapshot at h ⊢
  cases hvalid : snapshot.validate with
  | error _ =>
    rw [hvalid] at h
    cases h
  | ok _ =>
    rw [hvalid] at h
    refine ⟨rfl, ?_⟩
    dsimp only at h ⊢
    split at h
    · next hstorable =>
      rw [if_pos hstorable]
      cases hinsert : ledger.insertQuota snapshot.snapshotId (quotaRow snapshot) with
      | error refusal =>
        rw [hinsert] at h
        cases h
      | ok ledger' => rfl
    · cases h

/-- A recording that fails changes nothing. -/
theorem record_error {fact : Fact} {ledger : Ledger} {error : String}
    (h : (d.record fact ledger).1 = .error error) : (d.record fact ledger).2 = ledger := by
  cases fact with
  | quota snapshot _ => exact d.recordQuotaSnapshot_error h
  | billing record _ => exact d.recordBillingRecord_error h

end Dialect

namespace Ledger.Represents

variable {ledger ledger' : Ledger} {facts : Facts} {d : Dialect}

/-- An id is stored exactly if a snapshot has it. -/
theorem quota_stored (h : ledger.Represents facts) (id : String) :
    ledger.quotaSnapshots.get? id ≠ none ↔
      id ∈ facts.quotas.map ProviderQuotaSnapshot.snapshotId := by
  rw [← KeyedTable.mem_keys, h.quotas, List.map_map]
  rfl

theorem record_stored (h : ledger.Represents facts) (id : String) :
    ledger.billingRecords.get? id ≠ none ↔
      id ∈ facts.records.map ProviderBillingRecord.recordId := by
  rw [← KeyedTable.mem_keys, h.records, List.map_map]
  rfl

/-- The same facts, where the evidence tables are the same. -/
theorem congr (h : ledger.Represents facts)
    (hquotas : ledger'.quotaSnapshots = ledger.quotaSnapshots)
    (hrecords : ledger'.billingRecords = ledger.billingRecords)
    (hunits : ledger'.billingUnits = ledger.billingUnits) : ledger'.Represents facts where
  quotas := by rw [hquotas, h.quotas]
  valid := h.valid
  records := by rw [hrecords, h.records]
  typed := h.typed
  holds := by
    intro record hrecord
    exact (h.holds record hrecord).of_units (by rw [unitRows, unitRows, hunits])

theorem recordQuota (h : ledger.Represents facts) {snapshot : ProviderQuotaSnapshot}
    (htyped : snapshot.Typed) (hresult : (d.recordQuotaSnapshot snapshot ledger).1 = .ok ()) :
    (d.recordQuotaSnapshot snapshot ledger).2.Represents (facts.add (.quota snapshot htyped)) := by
  obtain ⟨hvalid, hinsert⟩ := Dialect.recordQuotaSnapshot_ok hresult
  obtain ⟨hrecords, hunits⟩ := Dialect.recordQuotaSnapshot_billing (d := d) snapshot ledger
  rw [Facts.add]
  rcases insertQuota_ok hinsert with ⟨hstored, hsame⟩ | ⟨hfresh, hrows⟩
  · rw [if_pos ((h.quota_stored _).mp hstored), hsame]
    exact h
  · have hnew : snapshot.snapshotId ∉ facts.quotas.map ProviderQuotaSnapshot.snapshotId :=
      fun hmem => (h.quota_stored _).mpr hmem hfresh
    rw [if_neg hnew]
    constructor
    · rw [hrows, h.quotas, List.map_append]
      rfl
    · intro other hother
      rcases List.mem_append.mp hother with hold | hlast
      · exact h.valid other hold
      · rw [List.mem_singleton.mp hlast]
        exact ⟨hvalid, htyped⟩
    · rw [hrecords, h.records]
    · exact h.typed
    · intro record hrecord
      exact (h.holds record hrecord).of_units (by rw [unitRows, unitRows, hunits])

/-- A record under a new id. -/
theorem recordNew (h : ledger.Represents facts) {record : ProviderBillingRecord}
    (htyped : record.Typed) (hresult : (d.recordBillingRecord record ledger).1 = .ok ())
    (hget : ledger.billingRecords.get? record.recordId = none) :
    (d.recordBillingRecord record ledger).2.Represents
      { facts with records := facts.records ++ [record] } := by
  obtain ⟨hvalid, htakes⟩ := Dialect.recordBillingRecord_ok hresult
  obtain ⟨hattempt, haccount⟩ := Dialect.references_of_recordBillingRecord hresult hget
  obtain ⟨ledger', hrecord, hsame, hrecords, hrows⟩ :=
    d.recordBillingRecord_new hvalid htakes hattempt haccount hget
  rw [hrecord]
  constructor
  · rw [hsame.quotaSnapshots, h.quotas]
  · exact h.valid
  · rw [hrecords, h.records, List.map_append]
    rfl
  · intro other hother
    rcases List.mem_append.mp hother with hold | hlast
    · exact h.typed other hold
    · rw [List.mem_singleton.mp hlast]
      exact htyped
  · intro other hother
    rcases List.mem_append.mp hother with hold | hlast
    · -- an earlier record keeps its units
      have hne : ¬ other.recordId = record.recordId := by
        intro hid
        exact (h.record_stored _).mpr (hid ▸ List.mem_map_of_mem hold) hget
      refine (h.holds other hold).of_units ?_
      rw [Dialect.unitRows_append hrows, if_neg hne, List.append_nil]
    · rw [List.mem_singleton] at hlast
      subst hlast
      refine ⟨hvalid, htyped.inRange, rfl, rfl, ?_⟩
      rw [Dialect.unitRows_append hrows, Dialect.unitRows_of_fresh hget, if_pos rfl,
        List.nil_append]

/-- A record under an id that is stored extends the record that owns it. -/
theorem recordAgain (h : ledger.Represents facts) {record stored : ProviderBillingRecord}
    (htyped : record.Typed) (hresult : (d.recordBillingRecord record ledger).1 = .ok ())
    (hstored : stored ∈ facts.records) (hid : stored.recordId = record.recordId) :
    (d.recordBillingRecord record ledger).2.Represents
      { facts with
        records := facts.records.map fun other =>
          if other.recordId = record.recordId then other.extend record else other } := by
  obtain ⟨hvalid, htakes⟩ := Dialect.recordBillingRecord_ok hresult
  obtain ⟨-, hunits, -⟩ := ProviderBillingRecord.facts_of_validate hvalid
  -- what the recording does, told by any record with the id
  have hstep : ∀ other ∈ facts.records, other.recordId = record.recordId →
      ∃ ledger', d.recordBillingRecord record ledger = (.ok (), ledger') ∧
        ledger.SameQuotas ledger' ∧ ledger'.billingRecords = ledger.billingRecords ∧
        ledger'.billingUnits.rows = ledger.billingUnits.rows ++ unitRowsFrom record.recordId
          other.billedUnits.length (record.billedUnits.drop other.billedUnits.length) := by
    intro other hother hsame
    have hholds := h.holds other hother
    have hrow : (other.recordId, billingRow other) ∈ ledger.billingRecords.rows := by
      rw [h.records]
      exact List.mem_map_of_mem hother
    rw [hsame] at hholds hrow
    exact Dialect.recordBillingRecord_stored hvalid htakes hrow hholds
  obtain ⟨ledger', hrecord, hsame, hrecords, hrows⟩ := hstep stored hstored hid
  rw [hrecord]
  constructor
  · rw [hsame.quotaSnapshots, h.quotas]
  · exact h.valid
  · rw [hrecords, h.records, List.map_map]
    refine List.map_congr_left fun other _ => ?_
    dsimp only [Function.comp]
    split <;> rfl
  · intro other' hother'
    obtain ⟨other, hother, rfl⟩ := List.mem_map.mp hother'
    split
    · exact (h.typed other hother).extend htyped
    · exact h.typed other hother
  · intro other' hother'
    obtain ⟨other, hother, rfl⟩ := List.mem_map.mp hother'
    have hholds := h.holds other hother
    by_cases hown : other.recordId = record.recordId
    · obtain ⟨ledger'', hrecord', -, -, hrows'⟩ := hstep other hother hown
      obtain rfl : ledger'' = ledger' := by
        have hboth := hrecord'.symm.trans hrecord
        exact congrArg Prod.snd hboth
      rw [if_pos hown]
      refine hholds.append (fun quantity hquantity => ?_) (fun quantity hquantity => ?_) ?_
      · exact hunits quantity (List.mem_of_mem_drop hquantity)
      · exact (htyped.billedUnits quantity (List.mem_of_mem_drop hquantity)).scale
      · rw [Dialect.unitRows_append hrows', if_pos hown, hown]
    · rw [if_neg hown]
      refine hholds.of_units ?_
      rw [Dialect.unitRows_append hrows, if_neg hown, List.append_nil]

theorem recordBilling (h : ledger.Represents facts) {record : ProviderBillingRecord}
    (htyped : record.Typed) (hresult : (d.recordBillingRecord record ledger).1 = .ok ()) :
    (d.recordBillingRecord record ledger).2.Represents (facts.add (.billing record htyped)) := by
  rw [Facts.add]
  by_cases hmem : record.recordId ∈ facts.records.map ProviderBillingRecord.recordId
  · rw [if_pos hmem]
    obtain ⟨stored, hstored, hid⟩ := List.mem_map.mp hmem
    exact h.recordAgain htyped hresult hstored hid
  · rw [if_neg hmem]
    apply h.recordNew htyped hresult
    by_contra hget
    exact hmem ((h.record_stored _).mp hget)

/-- A fact that is taken is added to those the ledger stands for. -/
theorem record (h : ledger.Represents facts) {fact : Fact}
    (hresult : (d.record fact ledger).1 = .ok ()) :
    (d.record fact ledger).2.Represents (facts.add fact) := by
  cases fact with
  | quota snapshot htyped => exact h.recordQuota htyped hresult
  | billing record htyped => exact h.recordBilling htyped hresult

end Ledger.Represents

/-! ## Histories -/

/-- What happens to a ledger: a fact is handed to the store, which answers, or something else
happens to the control tables. -/
inductive LedgerEvent where
  | recorded (fact : Fact) (answer : Except String Unit)
  | control

inductive Dialect.LedgerStep (d : Dialect) : Ledger → LedgerEvent → Ledger → Prop where
  | record {ledger : Ledger} (fact : Fact) :
      LedgerStep d ledger (.recorded fact (d.record fact ledger).1) (d.record fact ledger).2
  | control {ledger ledger' : Ledger} (hquotas : ledger'.quotaSnapshots = ledger.quotaSnapshots)
      (hrecords : ledger'.billingRecords = ledger.billingRecords)
      (hunits : ledger'.billingUnits = ledger.billingUnits) : LedgerStep d ledger .control ledger'

/-- The histories of a store that starts without evidence. -/
def Dialect.ledgers (d : Dialect) : Transition Ledger LedgerEvent where
  Init ledger := ledger.quotaSnapshots = .empty ∧ ledger.billingRecords = .empty ∧
    ledger.billingUnits = .empty
  Step := d.LedgerStep

/-- The facts that were taken. -/
def LedgerEvent.taken : LedgerEvent → Option Fact
  | .recorded fact (.ok ()) => some fact
  | _ => none

/-- The facts of a history. -/
def Facts.of (history : List LedgerEvent) : Facts :=
  (history.filterMap LedgerEvent.taken).foldl add empty

theorem Facts.of_snoc (history : List LedgerEvent) (event : LedgerEvent) :
    Facts.of (history ++ [event]) = event.taken.elim (Facts.of history) (Facts.of history).add := by
  unfold Facts.of
  rw [List.filterMap_append, List.foldl_append]
  cases htaken : event.taken with
  | none => rw [List.filterMap_cons_none htaken, List.filterMap_nil]; rfl
  | some fact => rw [List.filterMap_cons_some htaken, List.filterMap_nil]; rfl

section Histories

variable {d : Dialect} {ledger ledger' : Ledger} {history : List LedgerEvent}

theorem represents_init (h : d.ledgers.Init ledger) : ledger.Represents .empty := by
  obtain ⟨hquotas, hrecords, -⟩ := h
  constructor
  · rw [hquotas]
    rfl
  · intro snapshot hsnapshot
    cases hsnapshot
  · rw [hrecords]
    rfl
  · intro record hrecord
    cases hrecord
  · intro record hrecord
    cases hrecord

/-- A ledger stands for the facts of its history. -/
theorem represents_run (hinit : d.ledgers.Init ledger)
    (hrun : d.ledgers.Steps ledger history ledger') : ledger'.Represents (Facts.of history) := by
  induction hrun with
  | refl => exact represents_init hinit
  | @tail before after events event _ hstep ih =>
    rw [Facts.of_snoc]
    cases hstep with
    | record fact =>
      cases hanswer : (d.record fact before).1 with
      | ok _ => exact ih.record hanswer
      | error error =>
        rw [Dialect.record_error hanswer]
        exact ih
    | control hquotas hrecords hunits => exact ih.congr hquotas hrecords hunits

/-- Over every history of a store, its queries return what the facts that were taken amount to:
each snapshot as it was first taken, each record with the units later ones added to it. -/
theorem readings_of_history (hinit : d.ledgers.Init ledger)
    (hrun : d.ledgers.Steps ledger history ledger') :
    (∀ providerAccountId, d.storable [providerAccountId] = true →
      d.quotaSnapshots ledger' providerAccountId =
        .ok ((Facts.of history).quotaSnapshots d providerAccountId)) ∧
    ∀ attemptId : AttemptId, d.storable [attemptId.text] = true →
      d.billingRecords ledger' attemptId =
        .ok ((Facts.of history).billingRecords d attemptId) := by
  have hrepresents := represents_run hinit hrun
  constructor
  · intro providerAccountId hstorable
    exact hrepresents.quotaSnapshots hstorable
  · intro attemptId hstorable
    exact hrepresents.billingRecords hstorable

end Histories

theorem ProviderBillingRecord.typed_charged {counts : List Int}
    (h : ∀ count ∈ counts, IsI64 count) : (chargedRecord (counts.map inputTokens)).Typed := by
  constructor
  · exact AttemptId.isUuid_least
  · intro quantity hquantity
    rcases List.mem_map.mp hquantity with ⟨count, hcount, rfl⟩
    refine ⟨h count hcount, ?_⟩
    show (0 : Nat) < 256
    omega
  · intro charge hcharge
    obtain rfl := Option.some.inj hcharge
    refine ⟨⟨by decide, by decide⟩, ?_⟩
    show (4 : Nat) < 256
    omega
  · show IsI64 10
    exact ⟨by decide, by decide⟩
  · show IsI64 310
    exact ⟨by decide, by decide⟩

/-- The ledger after the same id again with two units. -/
def Ledger.chargedAgain : Ledger :=
  (Dialect.sqlite.recordBillingRecord (chargedRecord [inputTokens 5, inputTokens 7]) .charged).2

theorem exists_run_chargedAgain :
    ∃ history, Dialect.sqlite.ledgers.Steps .oneAttempt history .chargedAgain ∧
      Facts.of history = ⟨[], [chargedRecord [inputTokens 1, inputTokens 7]]⟩ := by
  have hone : (chargedRecord ([1].map inputTokens)).Typed :=
    ProviderBillingRecord.typed_charged (by unfold IsI64; decide)
  have htwo : (chargedRecord ([5, 7].map inputTokens)).Typed :=
    ProviderBillingRecord.typed_charged (by unfold IsI64; decide)
  have hfirst : Dialect.sqlite.ledgers.Step .oneAttempt
      (.recorded (.billing _ hone) (.ok ())) .charged := .record (.billing _ hone)
  have hagain : Dialect.sqlite.ledgers.Step .charged (.recorded (.billing _ htwo) (.ok ()))
      .chargedAgain := .record (.billing _ htwo)
  exact ⟨_, ((Transition.Steps.refl Ledger.oneAttempt).tail hfirst).tail hagain, rfl⟩

theorem readings_of_history_charges :
    Dialect.sqlite.billingRecords .chargedAgain .least =
      .ok [chargedRecord [inputTokens 1, inputTokens 7]] := by
  obtain ⟨history, hrun, hfacts⟩ := exists_run_chargedAgain
  have hinit : Dialect.sqlite.ledgers.Init .oneAttempt := ⟨rfl, rfl, rfl⟩
  have hread := (readings_of_history hinit hrun).2 .least rfl
  rw [hread, hfacts]
  decide

end SmartGateway
