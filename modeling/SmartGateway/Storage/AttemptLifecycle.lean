import SmartGateway.Storage.Sqlite
import SmartGateway.Storage.PostgresMethods

/-! # The lifecycle of stored attempts

Both stores take a record with one conditional upsert and one identity query. `Records`
says what that amounts to on the table; everything else follows from it, for one
delivery first (`follows_deliver`) and then for whole runs of deliveries.

The relation that carries the runs is `AttemptRow.Follows`: a stored row keeps its
identity, and may leave `committed` once, for a stream-terminal outcome.
-/

namespace SmartGateway

/-! ## One row -/

/-- The record names the request and the route of the row. -/
def AttemptRow.Identifies (row : AttemptRow) (attempt : AttemptRecord) : Prop :=
  row.requestId = attempt.requestId ∧ row.routeId = attempt.routeId

instance (row : AttemptRow) (attempt : AttemptRecord) : Decidable (row.Identifies attempt) :=
  inferInstanceAs (Decidable (_ ∧ _))

/-- What a row can become: itself, or the end of its stream. -/
def AttemptRow.Follows (old new : AttemptRow) : Prop :=
  new = old ∨
    (old.outcome = .committed ∧ new.outcome.isStreamTerminal = true ∧
      new.requestId = old.requestId ∧ new.routeId = old.routeId ∧
      new.observedAt = old.observedAt)

namespace AttemptRow.Follows

theorem refl (row : AttemptRow) : row.Follows row := Or.inl rfl

theorem identity {old new : AttemptRow} (h : old.Follows new) :
    new.requestId = old.requestId ∧ new.routeId = old.routeId := by
  rcases h with rfl | ⟨-, -, hrequest, hroute, -⟩
  · exact ⟨rfl, rfl⟩
  · exact ⟨hrequest, hroute⟩

/-- A row that has left `committed` stays as it is. -/
theorem eq_of_ne_committed {old new : AttemptRow} (h : old.Follows new)
    (hold : old.outcome ≠ .committed) : new = old := by
  rcases h with rfl | ⟨hcommitted, -⟩
  · rfl
  · exact absurd hcommitted hold

theorem trans {a b c : AttemptRow} (hab : a.Follows b) (hbc : b.Follows c) : a.Follows c := by
  rcases hab with rfl | ⟨hcommitted, hterminal, hrequest, hroute, hobserved⟩
  · exact hbc
  · have hb := AttemptOutcome.ne_committed_of_isStreamTerminal hterminal
    have hc : c = b := hbc.eq_of_ne_committed hb
    subst hc
    exact Or.inr ⟨hcommitted, hterminal, hrequest, hroute, hobserved⟩

end AttemptRow.Follows

namespace ControlPlane

theorem isStreamTerminal_iff {outcome : AttemptOutcome} :
    outcome ∈ [AttemptOutcome.succeeded, .partialFailed, .cancelled] ↔
      outcome.isStreamTerminal = true := by
  cases outcome <;> simp [AttemptOutcome.isStreamTerminal]

theorem follows_mergeAttempt (attempt : AttemptRecord) (row : AttemptRow) :
    row.Follows (mergeAttempt attempt row) := by
  unfold mergeAttempt
  split
  · next h =>
    obtain ⟨-, -, hcommitted, hterminal⟩ := h
    exact Or.inr ⟨hcommitted, isStreamTerminal_iff.mp hterminal, rfl, rfl, rfl⟩
  · exact .refl row

/-- A row changes only to the outcome and the category of the record. -/
theorem mergeAttempt_cases (attempt : AttemptRecord) (row : AttemptRow) :
    mergeAttempt attempt row = row ∨
      (row.outcome = .committed ∧ attempt.outcome.isStreamTerminal = true ∧
        (mergeAttempt attempt row).outcome = attempt.outcome ∧
        (mergeAttempt attempt row).failureCategory = attempt.failureCategory) := by
  unfold mergeAttempt
  split
  · next h =>
    obtain ⟨-, -, hcommitted, hterminal⟩ := h
    exact Or.inr ⟨hcommitted, isStreamTerminal_iff.mp hterminal, rfl, rfl⟩
  · exact Or.inl rfl

theorem mergeAttempt_of_not_identifies {attempt : AttemptRecord} {row : AttemptRow}
    (h : ¬ row.Identifies attempt) : mergeAttempt attempt row = row := by
  unfold mergeAttempt
  rw [if_neg]
  rintro ⟨hrequest, hroute, -⟩
  exact h ⟨hrequest, hroute⟩

/-- A record has no effect on a row it was merged into, nor on one that follows it. -/
theorem mergeAttempt_eq_self {attempt : AttemptRecord} {old new : AttemptRow}
    (h : (mergeAttempt attempt old).Follows new) : mergeAttempt attempt new = new := by
  by_cases hid : new.Identifies attempt
  · rcases mergeAttempt_cases attempt new with hsame | ⟨hcommitted, hterminal, -, -⟩
    · exact hsame
    · -- the row would still be committed, although the record ended it
      exfalso
      have hmerged : (mergeAttempt attempt old).outcome ≠ .committed := by
        intro hm
        have hsame : mergeAttempt attempt old = old := by
          rcases mergeAttempt_cases attempt old with hsame | ⟨-, -, hout, -⟩
          · exact hsame
          · rw [hout] at hm
            exact absurd hm (AttemptOutcome.ne_committed_of_isStreamTerminal hterminal)
        have hidentity := h.identity
        rw [hsame] at hm hidentity
        have hends : (mergeAttempt attempt old).outcome = attempt.outcome := by
          unfold mergeAttempt
          rw [if_pos ⟨by rw [← hidentity.1]; exact hid.1, by rw [← hidentity.2]; exact hid.2, hm,
            isStreamTerminal_iff.mpr hterminal⟩]
        rw [hsame, hm] at hends
        exact AttemptOutcome.ne_committed_of_isStreamTerminal hterminal hends.symm
      have hnew := h.eq_of_ne_committed hmerged
      rw [hnew] at hcommitted
      exact hmerged hcommitted
  · exact mergeAttempt_of_not_identifies hid

end ControlPlane

/-! ## Stores -/

/-- A store of attempts: its table, and how it takes a record at an instant. -/
structure AttemptStore (σ : Type) where
  table : σ → KeyedTable String AttemptRow
  record : σ → Int → AttemptRecord → Except String Unit × σ

namespace AttemptStore

variable {σ : Type} (store : AttemptStore σ)

/-- The state after a run of deliveries, each with its instant. -/
def deliver (s : σ) (calls : List (Int × AttemptRecord)) : σ :=
  calls.foldl (fun s call => (store.record s call.1 call.2).2) s

/-- What one delivery does: the conditional upsert, and a verdict on the identity of the row
that is there afterwards. -/
structure Records : Prop where
  table_record : ∀ s now attempt, store.table (store.record s now attempt).2 =
    (store.table s).upsert attempt.attemptId.text
      ⟨attempt.requestId, attempt.routeId, attempt.outcome, attempt.failureCategory, now⟩
      (ControlPlane.mergeAttempt attempt)
  verdict : ∀ s now attempt row,
    (store.table (store.record s now attempt).2).get? attempt.attemptId.text = some row →
    (store.record s now attempt).1 =
      if row.Identifies attempt then .ok ()
      else .error "attempt identity does not match the persisted attempt"

variable {store}

/-- The row under an id after one delivery. -/
theorem Records.get?_record (h : store.Records) (s : σ) (now : Int) (attempt : AttemptRecord)
    (id : String) :
    (store.table (store.record s now attempt).2).get? id =
      if id = attempt.attemptId.text then
        some (((store.table s).get? attempt.attemptId.text).elim
          ⟨attempt.requestId, attempt.routeId, attempt.outcome, attempt.failureCategory, now⟩
          (ControlPlane.mergeAttempt attempt))
      else (store.table s).get? id := by
  rw [h.table_record, KeyedTable.get?_upsert]

/-- A stored row is followed by the row under its id after one delivery, and a change is the
record's outcome and category. -/
theorem Records.follows_record (h : store.Records) {s : σ} {id : String} {row : AttemptRow}
    (hrow : (store.table s).get? id = some row) (now : Int) (attempt : AttemptRecord) :
    ∃ new, (store.table (store.record s now attempt).2).get? id = some new ∧ row.Follows new ∧
      (new = row ∨ (attempt.attemptId.text = id ∧ new.outcome = attempt.outcome ∧
        new.failureCategory = attempt.failureCategory)) := by
  by_cases hid : id = attempt.attemptId.text
  · subst hid
    refine ⟨ControlPlane.mergeAttempt attempt row, ?_,
      ControlPlane.follows_mergeAttempt attempt row, ?_⟩
    · rw [h.get?_record, if_pos rfl, hrow, Option.elim_some]
    · rcases ControlPlane.mergeAttempt_cases attempt row with hsame | ⟨-, -, hout, hcat⟩
      · exact Or.inl hsame
      · exact Or.inr ⟨rfl, hout, hcat⟩
  · refine ⟨row, ?_, .refl row, Or.inl rfl⟩
    rw [h.get?_record, if_neg hid, hrow]

/-- The same over a run: a changed row has the outcome and the category of one of the records
delivered under its id. -/
theorem Records.follows_deliver (h : store.Records) {s : σ} {id : String} {row : AttemptRow}
    (hrow : (store.table s).get? id = some row) (calls : List (Int × AttemptRecord)) :
    ∃ new, (store.table (store.deliver s calls)).get? id = some new ∧ row.Follows new ∧
      (new = row ∨ ∃ call ∈ calls, call.2.attemptId.text = id ∧
        new.outcome = call.2.outcome ∧ new.failureCategory = call.2.failureCategory) := by
  induction calls generalizing s row with
  | nil => exact ⟨row, hrow, .refl row, Or.inl rfl⟩
  | cons call calls ih =>
    obtain ⟨mid, hmid, hfollows, hchange⟩ := h.follows_record hrow call.1 call.2
    obtain ⟨new, hnew, hfollows', hchange'⟩ := ih hmid
    refine ⟨new, hnew, hfollows.trans hfollows', ?_⟩
    rcases hchange' with rfl | ⟨later, hlater, hcause⟩
    · rcases hchange with hsame | hcause
      · exact Or.inl hsame
      · exact Or.inr ⟨call, by simp, hcause⟩
    · exact Or.inr ⟨later, List.mem_cons_of_mem _ hlater, hcause⟩

/-- Once a record was delivered, there is a row under its id that the record was merged into
or that it was inserted as, and that the row now there follows. -/
theorem Records.delivered (h : store.Records) {s : σ} {calls : List (Int × AttemptRecord)}
    {call : Int × AttemptRecord} (hcall : call ∈ calls) :
    ∃ row, (store.table (store.deliver s calls)).get? call.2.attemptId.text = some row ∧
      ControlPlane.mergeAttempt call.2 row = row := by
  induction calls generalizing s with
  | nil => cases hcall
  | cons first calls ih =>
    rcases List.mem_cons.mp hcall with rfl | hlater
    · have hget := h.get?_record s call.1 call.2 call.2.attemptId.text
      rw [if_pos rfl] at hget
      obtain ⟨row, hrow, hfollows, -⟩ := h.follows_deliver hget calls
      refine ⟨row, hrow, ?_⟩
      cases hold : (store.table s).get? call.2.attemptId.text with
      | none =>
        -- the record itself was inserted: merged into its own row it has no effect
        rw [hold, Option.elim_none] at hfollows
        have hself : ControlPlane.mergeAttempt call.2 ⟨call.2.requestId, call.2.routeId,
            call.2.outcome, call.2.failureCategory, call.1⟩ =
            ⟨call.2.requestId, call.2.routeId, call.2.outcome, call.2.failureCategory,
              call.1⟩ := by
          unfold ControlPlane.mergeAttempt
          split <;> rfl
        rw [← hself] at hfollows
        exact ControlPlane.mergeAttempt_eq_self hfollows
      | some old =>
        rw [hold, Option.elim_some] at hfollows
        exact ControlPlane.mergeAttempt_eq_self hfollows
    · exact ih hlater

/-- A record that changes no row leaves the whole table as it is. -/
theorem Records.table_unchanged (h : store.Records) {s : σ} (now : Int) {attempt : AttemptRecord}
    {row : AttemptRow} (hrow : (store.table s).get? attempt.attemptId.text = some row)
    (hmerge : ControlPlane.mergeAttempt attempt row = row) :
    store.table (store.record s now attempt).2 = store.table s := by
  rw [h.table_record, KeyedTable.upsert_of_some hrow]
  apply KeyedTable.modify_eq_self
  intro v hv
  rw [hrow, Option.some.injEq] at hv
  rw [← hv, hmerge]

end AttemptStore

/-! ## The lifecycle -/

/-- The lifecycle of the attempts in a store, over every run of deliveries from every state. -/
structure AttemptLifecycle {σ : Type} (store : AttemptStore σ) : Prop where
  /-- At most one row per attempt id. -/
  unique : ∀ s calls, ((store.table (store.deliver s calls)).rows.map Prod.fst).Nodup
  /-- A row stays, with its request and its route. -/
  identity : ∀ s calls id row, (store.table s).get? id = some row →
    ∃ new, (store.table (store.deliver s calls)).get? id = some new ∧
      new.requestId = row.requestId ∧ new.routeId = row.routeId
  /-- The outcome changes only from `committed` to the end of a stream, by a record that sets
  the category with it, and the row never changes again. -/
  outcome_once : ∀ s calls later id row new last,
    (store.table s).get? id = some row →
    (store.table (store.deliver s calls)).get? id = some new →
    (store.table (store.deliver s (calls ++ later))).get? id = some last →
    new.outcome ≠ row.outcome →
      row.outcome = .committed ∧ new.outcome ∈ [.succeeded, .partialFailed, .cancelled] ∧
      (∃ call ∈ calls, call.2.attemptId.text = id ∧ new.outcome = call.2.outcome ∧
        new.failureCategory = call.2.failureCategory) ∧
      last = new
  /-- As long as the outcome is the same, so is the row, the category included. -/
  together : ∀ s calls id row new, (store.table s).get? id = some row →
    (store.table (store.deliver s calls)).get? id = some new →
    new.outcome = row.outcome → new = row
  /-- Delivering an earlier record again leaves the table as it is. -/
  redelivery : ∀ s calls call now, call ∈ calls →
    store.table (store.record (store.deliver s calls) now call.2).2 =
      store.table (store.deliver s calls)
  /-- A call succeeds exactly when it names the identity of the row that is then stored. -/
  ok_iff : ∀ s now attempt, (store.record s now attempt).1 = .ok () ↔
    ∃ row, (store.table (store.record s now attempt).2).get? attempt.attemptId.text = some row ∧
      row.requestId = attempt.requestId ∧ row.routeId = attempt.routeId
  /-- A call that names another identity than the stored one fails and writes nothing. -/
  mismatch : ∀ s now attempt row, (store.table s).get? attempt.attemptId.text = some row →
    ¬ (row.requestId = attempt.requestId ∧ row.routeId = attempt.routeId) →
      (store.record s now attempt).1 =
        .error "attempt identity does not match the persisted attempt" ∧
      store.table (store.record s now attempt).2 = store.table s

namespace AttemptStore

variable {σ : Type} {store : AttemptStore σ}

theorem deliver_append (s : σ) (calls later : List (Int × AttemptRecord)) :
    store.deliver s (calls ++ later) = store.deliver (store.deliver s calls) later :=
  List.foldl_append

theorem Records.outcome_once (h : store.Records) {s : σ} {calls later : List (Int × AttemptRecord)}
    {id : String} {row new last : AttemptRow} (hrow : (store.table s).get? id = some row)
    (hnew : (store.table (store.deliver s calls)).get? id = some new)
    (hlast : (store.table (store.deliver s (calls ++ later))).get? id = some last)
    (hchange : new.outcome ≠ row.outcome) :
    row.outcome = .committed ∧ new.outcome ∈ [.succeeded, .partialFailed, .cancelled] ∧
      (∃ call ∈ calls, call.2.attemptId.text = id ∧ new.outcome = call.2.outcome ∧
        new.failureCategory = call.2.failureCategory) ∧
      last = new := by
  obtain ⟨new', hnew', hfollows, hcause⟩ := h.follows_deliver hrow calls
  rw [hnew, Option.some.injEq] at hnew'
  subst hnew'
  rcases hfollows with rfl | ⟨hcommitted, hterminal, -⟩
  · exact absurd rfl hchange
  have hcall := hcause.resolve_left fun hsame => hchange (by rw [hsame])
  refine ⟨hcommitted, ControlPlane.isStreamTerminal_iff.mpr hterminal, hcall, ?_⟩
  -- the row has left `committed`, so the rest of the run leaves it
  obtain ⟨last', hlast', hfollows', -⟩ := h.follows_deliver hnew later
  rw [← deliver_append, hlast, Option.some.injEq] at hlast'
  subst hlast'
  exact hfollows'.eq_of_ne_committed
    (AttemptOutcome.ne_committed_of_isStreamTerminal hterminal)

theorem Records.ok_iff (h : store.Records) (s : σ) (now : Int) (attempt : AttemptRecord) :
    (store.record s now attempt).1 = .ok () ↔
    ∃ row, (store.table (store.record s now attempt).2).get? attempt.attemptId.text = some row ∧
      row.requestId = attempt.requestId ∧ row.routeId = attempt.routeId := by
  have hstored : ∃ row,
      (store.table (store.record s now attempt).2).get? attempt.attemptId.text = some row := by
    rw [h.get?_record, if_pos rfl]
    exact ⟨_, rfl⟩
  obtain ⟨row, hrow⟩ := hstored
  rw [h.verdict s now attempt row hrow]
  constructor
  · intro hok
    by_cases hid : row.Identifies attempt
    · exact ⟨row, hrow, hid.1, hid.2⟩
    · rw [if_neg hid] at hok
      cases hok
  · rintro ⟨row', hrow', hid⟩
    rw [hrow, Option.some.injEq] at hrow'
    subst hrow'
    exact if_pos hid

theorem Records.mismatch (h : store.Records) {s : σ} (now : Int) {attempt : AttemptRecord}
    {row : AttemptRow} (hrow : (store.table s).get? attempt.attemptId.text = some row)
    (hid : ¬ row.Identifies attempt) :
    (store.record s now attempt).1 =
        .error "attempt identity does not match the persisted attempt" ∧
      store.table (store.record s now attempt).2 = store.table s := by
  have hmerge := ControlPlane.mergeAttempt_of_not_identifies hid
  have htable := h.table_unchanged now hrow hmerge
  refine ⟨?_, htable⟩
  rw [h.verdict s now attempt row (by rw [htable, hrow]), if_neg hid]

/-- Everything a store with these two statements guarantees about its attempts. -/
theorem Records.lifecycle (h : store.Records) : AttemptLifecycle store where
  unique := fun s calls => (store.table (store.deliver s calls)).nodupKeys
  identity := by
    intro s calls id row hrow
    obtain ⟨new, hnew, hfollows, -⟩ := h.follows_deliver hrow calls
    exact ⟨new, hnew, hfollows.identity⟩
  outcome_once := fun _ _ _ _ _ _ _ hrow hnew hlast hchange =>
    h.outcome_once hrow hnew hlast hchange
  together := by
    intro s calls id row new hrow hnew hsame
    obtain ⟨new', hnew', hfollows, -⟩ := h.follows_deliver hrow calls
    rw [hnew, Option.some.injEq] at hnew'
    subst hnew'
    rcases hfollows with hsame' | ⟨hcommitted, hterminal, -⟩
    · exact hsame'
    · rw [hsame] at hterminal
      exact absurd hcommitted (AttemptOutcome.ne_committed_of_isStreamTerminal hterminal)
  redelivery := by
    intro s calls call now hcall
    obtain ⟨row, hrow, hmerge⟩ := h.delivered hcall
    exact h.table_unchanged _ hrow hmerge
  ok_iff := h.ok_iff
  mismatch := fun _ now _ _ hrow hid => h.mismatch now hrow hid

end AttemptStore

/-! ## The two stores -/

theorem ControlPlane.attemptIdentity_eq (db : ControlPlane) (attempt : AttemptRecord) :
    db.attemptIdentity attempt =
      (db.usageAttempts.get? attempt.attemptId.text).map
        fun row => decide (row.Identifies attempt) := by
  have hidentity : ∀ row : AttemptRow,
      (row.requestId = attempt.requestId && row.routeId = attempt.routeId) =
        decide (row.Identifies attempt) := fun row => (Bool.decide_and _ _).symm
  unfold attemptIdentity
  rw [funext hidentity]

/-- The attempts of a SQLite store. -/
def Sqlite.attempts : AttemptStore ControlPlane where
  table := ControlPlane.usageAttempts
  record := Sqlite.recordAttempt

theorem Sqlite.records_attempts : Sqlite.attempts.Records where
  table_record := by
    intro db now attempt
    change (Sqlite.recordAttempt db now attempt).2.usageAttempts = _
    rw [Sqlite.recordAttempt_tables]
    rfl
  verdict := by
    intro db now attempt row hrow
    change (Sqlite.recordAttempt db now attempt).2.usageAttempts.get? _ = _ at hrow
    rw [Sqlite.recordAttempt_tables] at hrow
    have hidentity := ControlPlane.attemptIdentity_eq (db.upsertAttempt now attempt) attempt
    rw [hrow, Option.map_some] at hidentity
    change (Sqlite.recordAttempt db now attempt).1 = _
    unfold Sqlite.recordAttempt
    dsimp only
    rw [hidentity]
    by_cases hid : row.Identifies attempt
    · rw [if_pos hid, decide_eq_true hid]
    · rw [if_neg hid, decide_eq_false hid]

/-- The attempts of a PostgreSQL store, taken by one process without interruption. -/
def Postgres.attempts (digest : String → String) (leaseId : String) :
    AttemptStore Postgres.Session where
  table s := s.db.usageAttempts
  record s now attempt := Postgres.handle digest now leaseId (.recordAttempt attempt) s

/-- The method, run without interruption: one upsert, and the verdict on the row it left. -/
theorem Postgres.handle_recordAttempt (digest : String → String) (now : Int) (leaseId : String)
    (attempt : AttemptRecord) (s : Postgres.Session) {row : AttemptRow}
    (hrow : (s.db.upsertUsageAttempt now attempt).usageAttempts.get? attempt.attemptId.text =
      some row) :
    Postgres.handle digest now leaseId (.recordAttempt attempt) s =
      (if row.Identifies attempt then .ok ()
        else .error "attempt identity does not match the persisted attempt",
        { s with db := s.db.upsertUsageAttempt now attempt }) := by
  have hupsert : (Postgres.step (.upsertAttempt attempt)).run (Postgres.exec now leaseId) s =
      (.ok (), { s with db := s.db.upsertUsageAttempt now attempt }) := rfl
  have hidentity := ControlPlane.attemptIdentity_eq
    (s.db.upsertUsageAttempt now attempt).toControlPlane attempt
  rw [hrow, Option.map_some] at hidentity
  change (Postgres.recordAttempt attempt).run (Postgres.exec now leaseId) s = _
  rw [Postgres.recordAttempt, Program.run_andThen_ok hupsert,
    Program.run_andThen_ok (Postgres.run_attemptIdentity_some hidentity)]
  by_cases hid : row.Identifies attempt
  · rw [if_pos hid, if_pos (decide_eq_true hid), Program.run_pure]
  · rw [if_neg hid, if_neg (by simpa using hid), Program.run_pure]

theorem Postgres.records_attempts (digest : String → String) (leaseId : String) :
    (Postgres.attempts digest leaseId).Records := by
  have hstored : ∀ (s : Postgres.Session) now attempt, ∃ row,
      (s.db.upsertUsageAttempt now attempt).usageAttempts.get? attempt.attemptId.text =
        some row := fun s now attempt => ⟨_, KeyedTable.get?_upsert_self _ _ _ _⟩
  constructor
  · intro s now attempt
    obtain ⟨row, hrow⟩ := hstored s now attempt
    change (Postgres.handle digest now leaseId (.recordAttempt attempt) s).2.db.usageAttempts = _
    rw [Postgres.handle_recordAttempt digest now leaseId attempt s hrow]
    rfl
  · intro s now attempt row hrow
    obtain ⟨row', hrow'⟩ := hstored s now attempt
    change (Postgres.handle digest now leaseId (.recordAttempt attempt) s).2.db.usageAttempts.get? _
      = _ at hrow
    change (Postgres.handle digest now leaseId (.recordAttempt attempt) s).1 = _
    rw [Postgres.handle_recordAttempt digest now leaseId attempt s hrow'] at hrow ⊢
    have hsame : row' = row := Option.some.inj (hrow'.symm.trans hrow)
    rw [hsame]

/-- Attempts have one lifecycle, in whichever store they are kept. -/
theorem attempt_lifecycle :
    AttemptLifecycle Sqlite.attempts ∧
      ∀ digest leaseId, AttemptLifecycle (Postgres.attempts digest leaseId) :=
  ⟨Sqlite.records_attempts.lifecycle,
    fun digest leaseId => (Postgres.records_attempts digest leaseId).lifecycle⟩

/-! ## The attempt of a stream -/

namespace StreamRow

/-- A record of the attempt. -/
def record (requestId : String) (outcome : AttemptOutcome) : AttemptRecord where
  attemptId := .least
  requestId := requestId
  routeId := "route"
  outcome := outcome
  failureCategory := none

/-- The row of the attempt. -/
def row (outcome : AttemptOutcome) : AttemptRow := ⟨"request", "route", outcome, none, 0⟩

/-- The stores once the stream is committed. -/
def sqlite : ControlPlane :=
  Sqlite.attempts.deliver (.oneRoute ⟨"closed", none, none⟩) [(0, record "request" .committed)]

def postgres : Postgres.Session :=
  (Postgres.attempts id "lease").deliver .closedRoute [(0, record "request" .committed)]

/-- A committed stream succeeds, and a cancellation comes too late; the end is delivered once more,
and another request uses the identity. -/
theorem stream_succeeds_once :
    ((row .succeeded).outcome ∈ [.succeeded, .partialFailed, .cancelled] ∧
      (Sqlite.attempts.table (Sqlite.attempts.deliver sqlite
        [(1, record "request" .succeeded), (2, record "request" .cancelled)])).get?
          AttemptId.least.text = some (row .succeeded)) ∧
    Sqlite.attempts.table (Sqlite.attempts.record
        (Sqlite.attempts.deliver sqlite [(1, record "request" .succeeded)]) 3
          (record "request" .succeeded)).2 =
      Sqlite.attempts.table (Sqlite.attempts.deliver sqlite [(1, record "request" .succeeded)]) ∧
    ((Postgres.attempts id "lease").record postgres 1 (record "stray" .succeeded)).1 =
      .error "attempt identity does not match the persisted attempt" := by
  have hlast := attempt_lifecycle.1.outcome_once sqlite [(1, record "request" .succeeded)]
    [(2, record "request" .cancelled)] AttemptId.least.text (row .committed) (row .succeeded)
    (row .succeeded) rfl rfl rfl (by decide)
  refine ⟨⟨hlast.2.1, rfl⟩, ?_, ?_⟩
  · exact attempt_lifecycle.1.redelivery sqlite _ (1, record "request" .succeeded) 3
      List.mem_cons_self
  · exact ((attempt_lifecycle.2 id "lease").mismatch postgres 1 (record "stray" .succeeded)
      (row .committed) rfl (by decide)).1

end StreamRow

end SmartGateway
