import SmartGateway.Storage.ControlPlane

/-! # The durable usage spool

A local table of the attempt records the primary store did not take. The payload of a row is
the printed entry; an entry is what reading it back gives, so the row keeps the entry.
-/

namespace SmartGateway

structure SpoolEntry where
  id : String
  attempt : AttemptRecord
deriving DecidableEq

/-- A row of `usage_spool`. -/
structure SpoolRow where
  payload : SpoolEntry
  queuedAt : Int
deriving DecidableEq

/-- The table `usage_spool`. -/
abbrev DurableUsageSpool := KeyedTable String SpoolRow

namespace DurableUsageSpool

/-- `format!("{}:{transition}", attempt.attempt_id)`. -/
def entryId (attempt : AttemptRecord) : String :=
  attempt.attemptId.text ++ ":" ++ attempt.outcome.asStr

/-- `INSERT … ON CONFLICT (id) DO NOTHING`. -/
def append (spool : DurableUsageSpool) (now : Int) (attempt : AttemptRecord) :
    DurableUsageSpool :=
  let entry : SpoolEntry := { id := entryId attempt, attempt }
  spool.upsert entry.id { payload := entry, queuedAt := now } fun row => row

/-- `SELECT payload … ORDER BY queued_at, id LIMIT …`. -/
def pending (spool : DurableUsageSpool) (limit : Nat) : List SpoolEntry :=
  ((spool.rows.insertionSort fun a b =>
    a.2.queuedAt < b.2.queuedAt ∨ (a.2.queuedAt = b.2.queuedAt ∧ a.1 ≤ b.1)).take limit).map
      fun row => row.2.payload

/-- `DELETE … WHERE id = …` for each id, in one transaction. -/
def acknowledge (spool : DurableUsageSpool) (entryIds : List String) : DurableUsageSpool :=
  entryIds.foldl (fun spool id => spool.erase id) spool

/-! ## Entry ids -/

/-- An entry id determines the attempt and the transition it was written for. -/
theorem entryId_injective {a b : AttemptRecord} (h : entryId a = entryId b) :
    a.attemptId = b.attemptId ∧ a.outcome = b.outcome := by
  have hchars := congrArg String.toList h
  simp only [entryId, String.toList_append] at hchars
  rw [List.append_assoc, List.append_assoc] at hchars
  have hlength : a.attemptId.text.toList.length = b.attemptId.text.toList.length := by
    rw [String.length_toList, String.length_toList, a.attemptId.length_eq, b.attemptId.length_eq]
  obtain ⟨hid, hrest⟩ := List.append_inj hchars hlength
  have houtcome := List.append_cancel_left hrest
  constructor
  · exact AttemptId.ext (String.toList_inj.mp hid)
  · exact AttemptOutcome.asStr_injective (String.toList_inj.mp houtcome)

/-! ## What the operations do to an entry -/

theorem get?_append (spool : DurableUsageSpool) (now : Int) (attempt : AttemptRecord)
    (id : String) :
    (append spool now attempt).get? id =
      if id = entryId attempt then
        some ((spool.get? id).getD { payload := { id, attempt }, queuedAt := now })
      else spool.get? id := by
  unfold append
  rw [KeyedTable.get?_upsert]
  by_cases hid : id = entryId attempt
  · subst hid
    rw [if_pos rfl, if_pos rfl]
    cases spool.get? (entryId attempt) <;> rfl
  · rw [if_neg hid, if_neg hid]

theorem get?_acknowledge (spool : DurableUsageSpool) (entryIds : List String) (id : String) :
    (acknowledge spool entryIds).get? id = if id ∈ entryIds then none else spool.get? id := by
  unfold acknowledge
  induction entryIds generalizing spool with
  | nil => simp
  | cons first entryIds ih =>
    rw [List.foldl_cons, ih, KeyedTable.get?_erase]
    by_cases hid : id = first
    · subst hid
      simp
    · simp [hid]

/-- Every pending entry is stored, under the key of its row. -/
theorem mem_pending {spool : DurableUsageSpool} {limit : Nat} {entry : SpoolEntry}
    (h : entry ∈ pending spool limit) : ∃ key row, spool.get? key = some row ∧
      row.payload = entry := by
  unfold pending at h
  obtain ⟨row, hrow, rfl⟩ := List.mem_map.mp h
  have hmem := (List.mem_insertionSort _).mp (List.mem_of_mem_take hrow)
  exact ⟨row.1, row.2, KeyedTable.get?_eq_some.mpr hmem, rfl⟩

end DurableUsageSpool

end SmartGateway
