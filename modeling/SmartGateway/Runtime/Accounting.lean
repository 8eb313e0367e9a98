import SmartGateway.Runtime.Delivery
import SmartGateway.Storage.AttemptLifecycle

/-! # Exactly-once accounting

Delivery is at least once and in any order. That every accepted record still counts exactly once
rests on two things: the conditional upsert of the primary ends with the same row in whichever
order the records of an attempt arrive (`reflects_mergeAttempt`, `Reflects.mergeAttempt`), and
the spool deletes nothing that the primary has not taken (`Orderly.acknowledge`).
-/

namespace SmartGateway

/-! ## What attempts emit -/

/-- Each attempt emits one terminal record, or `Committed` and at most one stream-terminal
record, all of them for one request on one route. -/
structure Disciplined (emitted : AttemptRecord → Prop) : Prop where
  identity : ∀ {a b}, emitted a → emitted b → a.attemptId = b.attemptId →
    a.requestId = b.requestId ∧ a.routeId = b.routeId
  once : ∀ {a b}, emitted a → emitted b → a.attemptId = b.attemptId →
    (a.outcome = .committed ↔ b.outcome = .committed) → a = b
  stream : ∀ {a b}, emitted a → emitted b → a.attemptId = b.attemptId →
    a.outcome = .committed → b.outcome ≠ .committed → b.outcome.isStreamTerminal = true

/-! ## Rows and records -/

namespace AttemptRow

/-- The row holds the record. -/
def Holds (row : AttemptRow) (attempt : AttemptRecord) : Prop :=
  row.Identifies attempt ∧ row.outcome = attempt.outcome ∧
    row.failureCategory = attempt.failureCategory

/-- The row holds the record, or the end of the stream that the record committed. -/
def Reflects (row : AttemptRow) (attempt : AttemptRecord) : Prop :=
  row.Holds attempt ∨ (row.Identifies attempt ∧ attempt.outcome = .committed ∧
    row.outcome.isStreamTerminal = true)

variable {row : AttemptRow} {attempt other : AttemptRecord}

/-- A row that reflects a terminal record holds it. -/
theorem Reflects.holds (h : row.Reflects attempt) (hterminal : attempt.outcome ≠ .committed) :
    row.Holds attempt := by
  rcases h with hholds | ⟨-, hcommitted, -⟩
  · exact hholds
  · exact absurd hcommitted hterminal

theorem identifies_mergeAttempt (hid : row.Identifies attempt) :
    (ControlPlane.mergeAttempt other row).Identifies attempt := by
  obtain ⟨hrequest, hroute⟩ := (ControlPlane.follows_mergeAttempt other row).identity
  exact ⟨hrequest.trans hid.1, hroute.trans hid.2⟩

/-- Merging another record keeps a record reflected. -/
theorem Reflects.mergeAttempt (h : row.Reflects attempt) :
    (ControlPlane.mergeAttempt other row).Reflects attempt := by
  rcases ControlPlane.mergeAttempt_cases other row with
    hsame | ⟨hcommitted, hterminal, houtcome, -⟩
  · rw [hsame]
    exact h
  · -- the row was committed, so the record is the one that committed it
    rcases h with ⟨hid, hrecord, -⟩ | ⟨-, -, hended⟩
    · right
      refine ⟨identifies_mergeAttempt hid, by rw [← hrecord, hcommitted], ?_⟩
      rw [houtcome]
      exact hterminal
    · exact absurd hcommitted (AttemptOutcome.ne_committed_of_isStreamTerminal hended)

/-- After a merge the row holds the record it held before, or the merged one. -/
theorem holds_mergeAttempt (h : row.Holds other) (hid : row.Identifies attempt) :
    (ControlPlane.mergeAttempt attempt row).Holds other ∨
      (ControlPlane.mergeAttempt attempt row).Holds attempt := by
  rcases ControlPlane.mergeAttempt_cases attempt row with hsame | ⟨-, -, houtcome, hcategory⟩
  · left
    rw [hsame]
    exact h
  · exact Or.inr ⟨identifies_mergeAttempt hid, houtcome, hcategory⟩

/-- Two records of one attempt: merging one into the row of the other reflects it. -/
theorem reflects_mergeAttempt {emitted : AttemptRecord → Prop} (hemitted : Disciplined emitted)
    (hattempt : emitted attempt) (hother : emitted other)
    (hid : other.attemptId = attempt.attemptId) (h : row.Holds other) :
    (ControlPlane.mergeAttempt attempt row).Reflects attempt := by
  obtain ⟨hrequest, hroute⟩ := hemitted.identity hother hattempt hid
  have hidentifies : row.Identifies attempt := ⟨h.1.1.trans hrequest, h.1.2.trans hroute⟩
  by_cases hsame : other.outcome = .committed ↔ attempt.outcome = .committed
  · obtain rfl := hemitted.once hother hattempt hid hsame
    exact Reflects.mergeAttempt (Or.inl h)
  by_cases hcommitted : attempt.outcome = .committed
  · -- the end of the stream arrived first
    have hended : other.outcome ≠ .committed := fun hother => hsame ⟨fun _ => hcommitted,
      fun _ => hother⟩
    have hterminal := hemitted.stream hattempt hother hid.symm hcommitted hended
    apply Reflects.mergeAttempt
    exact Or.inr ⟨hidentifies, hcommitted, by rw [h.2.1]; exact hterminal⟩
  · have hopen : other.outcome = .committed := by
      by_contra hended
      exact hsame ⟨fun h => absurd h hended, fun h => absurd h hcommitted⟩
    have hterminal := hemitted.stream hother hattempt hid hopen hcommitted
    left
    unfold ControlPlane.mergeAttempt
    rw [if_pos ⟨hidentifies.1, hidentifies.2, h.2.1.trans hopen,
      ControlPlane.isStreamTerminal_iff.mpr hterminal⟩]
    exact ⟨hidentifies, rfl, rfl⟩

end AttemptRow

/-! ## The shared state -/

namespace DeliveryState

open DurableUsageSpool (entryId)

/-- The record is reflected in the primary. -/
def Reflected (attempt : AttemptRecord) (s : DeliveryState) : Prop :=
  ∃ row, s.attempts.get? attempt.attemptId.text = some row ∧ row.Reflects attempt

/-- The record is in the spool. -/
def Spooled (attempt : AttemptRecord) (s : DeliveryState) : Prop :=
  ∃ row, s.spool.get? (entryId attempt) = some row ∧ row.payload.attempt = attempt

def Kept (attempt : AttemptRecord) (s : DeliveryState) : Prop :=
  s.Reflected attempt ∨ s.Spooled attempt

/-- The primary holds emitted records, the spool has them under their own ids, and no others are
on their way. -/
structure Orderly (emitted : AttemptRecord → Prop) (s : DeliveryState) : Prop where
  rows : ∀ {key row}, s.attempts.get? key = some row →
    ∃ attempt, emitted attempt ∧ attempt.attemptId.text = key ∧ row.Holds attempt
  entries : ∀ {key row}, s.spool.get? key = some row → row.payload.id = key ∧
    key = entryId row.payload.attempt ∧ emitted row.payload.attempt
  sent : ∀ {attempt}, .recordAttempt attempt ∈ s.sent → emitted attempt

/-- What steps do not undo. -/
structure Advances (s s' : DeliveryState) : Prop where
  reflected : ∀ {attempt}, s.Reflected attempt → s'.Reflected attempt
  spooled : ∀ {attempt}, s.Spooled attempt → s'.Kept attempt

variable {emitted : AttemptRecord → Prop} {s s' : DeliveryState}

theorem Advances.kept (h : Advances s s') {attempt : AttemptRecord} (hkept : s.Kept attempt) :
    s'.Kept attempt := by
  rcases hkept with hreflected | hspooled
  · exact Or.inl (h.reflected hreflected)
  · exact h.spooled hspooled

theorem Advances.refl (s : DeliveryState) : Advances s s where
  reflected hreflected := hreflected
  spooled hspooled := Or.inr hspooled

theorem Advances.trans {s'' : DeliveryState} (h : Advances s s') (h' : Advances s' s'') :
    Advances s s'' where
  reflected hreflected := h'.reflected (h.reflected hreflected)
  spooled hspooled := h'.kept (h.spooled hspooled)

/-- A step that writes neither table. -/
theorem Orderly.of_eq (h : s.Orderly emitted) (hattempts : s'.attempts = s.attempts)
    (hspool : s'.spool = s.spool) (hsent : ∀ {attempt}, .recordAttempt attempt ∈ s'.sent →
      emitted attempt) : s'.Orderly emitted ∧ Advances s s' := by
  refine ⟨⟨?_, ?_, hsent⟩, ⟨?_, ?_⟩⟩
  · rw [hattempts]
    exact h.rows
  · rw [hspool]
    exact h.entries
  · intro attempt hreflected
    unfold Reflected
    rw [hattempts]
    exact hreflected
  · intro attempt hspooled
    right
    unfold Spooled
    rw [hspool]
    exact hspooled

/-! ### The primary -/

/-- Sending an emitted record writes nothing. -/
theorem Orderly.send (h : s.Orderly emitted) {op : RepositoryOp}
    (hop : ∀ attempt, op = .recordAttempt attempt → emitted attempt) :
    (s.send op).Orderly emitted ∧ Advances s (s.send op) := by
  refine h.of_eq rfl rfl ?_
  intro attempt hsent
  rcases List.mem_cons.mp hsent with hnew | hold
  · exact hop attempt hnew.symm
  · exact h.sent hold

/-- Methods other than `recordAttempt` write no attempts. -/
theorem attempts_takes (s : DeliveryState) (digest : String → String) (now : Int)
    (leaseId : String) {op : RepositoryOp} (hop : ∀ attempt, op ≠ .recordAttempt attempt) :
    (s.takes digest now leaseId op).attempts = s.attempts := by
  unfold takes attempts
  cases op with
  | authenticate rawKey => rfl
  | candidates logicalModel =>
    exact (Postgres.probed_candidates digest now leaseId logicalModel s.primary).attempts
  | recordAttempt attempt => exact absurd rfl (hop attempt)
  | markRouteSuccess routeId =>
    obtain ⟨final, hresult, htables⟩ :=
      Postgres.handle_markRouteSuccess digest now leaseId routeId s.primary
    rw [hresult, htables]
    rfl
  | markRouteFailure routeId failure =>
    obtain ⟨final, hresult, htables⟩ :=
      Postgres.handle_markRouteFailure digest now leaseId routeId failure s.primary
    rw [hresult, htables]
    rfl
  | markAccountFailure accountId failure =>
    obtain ⟨final, hresult, htables⟩ :=
      Postgres.handle_markAccountFailure digest now leaseId accountId failure s.primary
    rw [hresult, htables]
    rfl

theorem get?_attempts_takes (s : DeliveryState) (digest : String → String) (now : Int)
    (leaseId : String) (attempt : AttemptRecord) (key : String) :
    (s.takes digest now leaseId (.recordAttempt attempt)).attempts.get? key =
      if key = attempt.attemptId.text then
        some ((s.attempts.get? attempt.attemptId.text).elim
          ⟨attempt.requestId, attempt.routeId, attempt.outcome, attempt.failureCategory, now⟩
          (ControlPlane.mergeAttempt attempt))
      else s.attempts.get? key :=
  (Postgres.records_attempts digest leaseId).get?_record s.primary now attempt key

/-- The row of a record that the primary takes. -/
theorem Orderly.merged (hemitted : Disciplined emitted) (h : s.Orderly emitted)
    {attempt : AttemptRecord} (hattempt : emitted attempt) (now : Int) {row : AttemptRow}
    (hrow : row = (s.attempts.get? attempt.attemptId.text).elim
      ⟨attempt.requestId, attempt.routeId, attempt.outcome, attempt.failureCategory, now⟩
      (ControlPlane.mergeAttempt attempt)) :
    row.Reflects attempt ∧
      ∃ held, emitted held ∧ held.attemptId = attempt.attemptId ∧ row.Holds held := by
  cases hold : s.attempts.get? attempt.attemptId.text with
  | none =>
    rw [hold, Option.elim_none] at hrow
    have hholds : row.Holds attempt := by
      rw [hrow]
      exact ⟨⟨rfl, rfl⟩, rfl, rfl⟩
    exact ⟨Or.inl hholds, attempt, hattempt, rfl, hholds⟩
  | some old =>
    rw [hold, Option.elim_some] at hrow
    obtain ⟨other, hother, hkey, hholds⟩ := h.rows hold
    have hid : other.attemptId = attempt.attemptId := AttemptId.ext hkey
    obtain ⟨hrequest, hroute⟩ := hemitted.identity hother hattempt hid
    rw [hrow]
    refine ⟨AttemptRow.reflects_mergeAttempt hemitted hattempt hother hid hholds, ?_⟩
    rcases AttemptRow.holds_mergeAttempt hholds
      ⟨hholds.1.1.trans hrequest, hholds.1.2.trans hroute⟩ with hheld | hheld
    · exact ⟨other, hother, hid, hheld⟩
    · exact ⟨attempt, hattempt, rfl, hheld⟩

/-- The primary takes an emitted record. -/
theorem Orderly.takes_record (hemitted : Disciplined emitted) (h : s.Orderly emitted)
    (digest : String → String) (now : Int) (leaseId : String) {attempt : AttemptRecord}
    (hattempt : emitted attempt) :
    let s' := s.takes digest now leaseId (.recordAttempt attempt)
    s'.Orderly emitted ∧ Advances s s' ∧ s'.Reflected attempt := by
  intro s'
  have hget := s.get?_attempts_takes digest now leaseId attempt
  obtain ⟨hreflects, held, hheld, hheldId, hholds⟩ := h.merged hemitted hattempt now rfl
  refine ⟨⟨?_, h.entries, h.sent⟩, ⟨?_, fun hspooled => Or.inr hspooled⟩, ?_⟩
  · intro key row hrow
    rw [hget] at hrow
    by_cases hkey : key = attempt.attemptId.text
    · rw [if_pos hkey, Option.some.injEq] at hrow
      exact ⟨held, hheld, by rw [hheldId, hkey], hrow ▸ hholds⟩
    · rw [if_neg hkey] at hrow
      exact h.rows hrow
  · rintro other ⟨row, hrow, hother⟩
    by_cases hkey : other.attemptId.text = attempt.attemptId.text
    · refine ⟨_, by rw [hget, if_pos hkey], ?_⟩
      rw [hkey] at hrow
      rw [hrow, Option.elim_some]
      exact hother.mergeAttempt
    · exact ⟨row, by rw [hget, if_neg hkey, hrow], hother⟩
  · exact ⟨_, by rw [hget, if_pos rfl], hreflects⟩

/-- The primary takes a call, a record only if it is an emitted one. -/
theorem Orderly.takes (hemitted : Disciplined emitted) (h : s.Orderly emitted)
    (digest : String → String) (now : Int) (leaseId : String) {op : RepositoryOp}
    (hop : ∀ attempt, op = .recordAttempt attempt → emitted attempt) :
    let s' := s.takes digest now leaseId op
    s'.Orderly emitted ∧ Advances s s' ∧
      ∀ attempt, op = .recordAttempt attempt → s'.Reflected attempt := by
  intro s'
  by_cases hrecord : ∃ attempt, op = .recordAttempt attempt
  · obtain ⟨attempt, rfl⟩ := hrecord
    obtain ⟨horderly, hadvances, hreflected⟩ :=
      h.takes_record hemitted digest now leaseId (hop attempt rfl)
    refine ⟨horderly, hadvances, ?_⟩
    rintro other hother
    cases hother
    exact hreflected
  · have hother : ∀ attempt, op ≠ .recordAttempt attempt := fun attempt hop =>
      hrecord ⟨attempt, hop⟩
    obtain ⟨horderly, hadvances⟩ : s'.Orderly emitted ∧ Advances s s' :=
      h.of_eq (s.attempts_takes digest now leaseId hother) rfl h.sent
    exact ⟨horderly, hadvances, fun attempt hop => absurd hop (hother attempt)⟩

/-! ### The spool -/

/-- An emitted record is appended. -/
theorem Orderly.append (hemitted : Disciplined emitted) (h : s.Orderly emitted) (now : Int)
    {attempt : AttemptRecord} (hattempt : emitted attempt) :
    let s' := s.withSpool (s.spool.append now attempt)
    s'.Orderly emitted ∧ Advances s s' ∧ s'.Spooled attempt := by
  intro s'
  have hget : ∀ key, s'.spool.get? key = if key = entryId attempt then
      some ((s.spool.get? key).getD { payload := { id := key, attempt }, queuedAt := now })
      else s.spool.get? key := DurableUsageSpool.get?_append s.spool now attempt
  -- an entry that is there already is never replaced
  have hkeeps : ∀ {key row}, s.spool.get? key = some row → s'.spool.get? key = some row := by
    intro key row hrow
    rw [hget, hrow, Option.getD_some, ite_self]
  refine ⟨⟨h.rows, ?_, h.sent⟩, ⟨fun hreflected => hreflected, ?_⟩, ?_⟩
  · intro key row hrow
    cases hold : s.spool.get? key with
    | some old =>
      rw [hkeeps hold, Option.some.injEq] at hrow
      rw [← hrow]
      exact h.entries hold
    | none =>
      rw [hget, hold, Option.getD_none] at hrow
      by_cases hkey : key = entryId attempt
      · rw [if_pos hkey, Option.some.injEq] at hrow
        rw [← hrow]
        exact ⟨rfl, hkey, hattempt⟩
      · rw [if_neg hkey] at hrow
        cases hrow
  · rintro other ⟨row, hrow, hother⟩
    exact Or.inr ⟨row, hkeeps hrow, hother⟩
  · cases hold : s.spool.get? (entryId attempt) with
    | some old =>
      refine ⟨old, hkeeps hold, ?_⟩
      obtain ⟨-, hkey, hemit⟩ := h.entries hold
      obtain ⟨hid, houtcome⟩ := DurableUsageSpool.entryId_injective hkey
      exact (hemitted.once hattempt hemit hid (by rw [houtcome])).symm
    | none => exact ⟨_, by rw [hget, if_pos rfl, hold, Option.getD_none], rfl⟩

/-- Entries are deleted whose records the primary has taken. -/
theorem Orderly.acknowledge (hemitted : Disciplined emitted) (h : s.Orderly emitted)
    {entryIds : List String} (htaken : ∀ id ∈ entryIds, ∃ attempt, emitted attempt ∧
      id = entryId attempt ∧ s.Reflected attempt) :
    let s' := s.withSpool (s.spool.acknowledge entryIds)
    s'.Orderly emitted ∧ Advances s s' := by
  intro s'
  have hget : ∀ key, s'.spool.get? key = if key ∈ entryIds then none else s.spool.get? key :=
    DurableUsageSpool.get?_acknowledge s.spool entryIds
  refine ⟨⟨h.rows, ?_, h.sent⟩, ⟨fun hreflected => hreflected, ?_⟩⟩
  · intro key row hrow
    rw [hget] at hrow
    by_cases hkey : key ∈ entryIds
    · rw [if_pos hkey] at hrow
      cases hrow
    · rw [if_neg hkey] at hrow
      exact h.entries hrow
  · rintro attempt ⟨row, hrow, rfl⟩
    by_cases hkey : entryId row.payload.attempt ∈ entryIds
    · -- the taken record with this id is the one in the entry
      obtain ⟨taken, htakenEmitted, hid, hreflected⟩ := htaken _ hkey
      obtain ⟨hattemptId, houtcome⟩ := DurableUsageSpool.entryId_injective hid
      obtain ⟨-, -, hemit⟩ := h.entries hrow
      obtain rfl := hemitted.once hemit htakenEmitted hattemptId (by rw [houtcome])
      exact Or.inl hreflected
    · exact Or.inr ⟨row, by rw [hget, if_neg hkey, hrow], rfl⟩

theorem usageSpool_handle (repository : SnapshotRepository) (digest : String → String) (now : Int)
    {op : RepositoryOp} (hop : ∀ attempt, op ≠ .recordAttempt attempt) :
    (SnapshotRepository.handle digest now op repository).2.usageSpool = repository.usageSpool := by
  cases op with
  | candidates logicalModel =>
    change (repository.candidates now logicalModel).2.usageSpool = _
    rcases SnapshotRepository.candidates_state repository now logicalModel with
      hsame | ⟨probe, -, hprobe⟩
    · rw [hsame]
    · rw [hprobe]
      rfl
  | recordAttempt attempt => exact absurd rfl (hop attempt)
  | markRouteFailure routeId failure =>
    change (repository.markRouteFailure routeId failure).usageSpool = _
    unfold SnapshotRepository.markRouteFailure
    split <;> rfl
  | markAccountFailure accountId failure =>
    change (repository.markAccountFailure accountId failure).usageSpool = _
    unfold SnapshotRepository.markAccountFailure
    split <;> rfl
  | _ => rfl

/-- The snapshot takes a call: a record goes into the spool. -/
theorem Orderly.fallback (hemitted : Disciplined emitted) (h : s.Orderly emitted)
    (digest : String → String) (now : Int) {op : RepositoryOp}
    (hop : ∀ attempt, op = .recordAttempt attempt → emitted attempt) :
    let s' := { s with repository := (SnapshotRepository.handle digest now op s.repository).2 }
    s'.Orderly emitted ∧ Advances s s' ∧
      ∀ attempt, op = .recordAttempt attempt → s'.Spooled attempt := by
  intro s'
  by_cases hrecord : ∃ attempt, op = .recordAttempt attempt
  · obtain ⟨attempt, rfl⟩ := hrecord
    obtain ⟨horderly, hadvances, hspooled⟩ := h.append hemitted now (hop attempt rfl)
    refine ⟨horderly, hadvances, ?_⟩
    rintro other hother
    cases hother
    exact hspooled
  · have hother : ∀ attempt, op ≠ .recordAttempt attempt := fun attempt hop =>
      hrecord ⟨attempt, hop⟩
    obtain ⟨horderly, hadvances⟩ : s'.Orderly emitted ∧ Advances s s' :=
      h.of_eq rfl (usageSpool_handle s.repository digest now hother) h.sent
    exact ⟨horderly, hadvances, fun attempt hop => absurd hop (hother attempt)⟩

end DeliveryState

/-! ## What a delivery knows -/

namespace Deliveries

open Concurrent Program DeliveryState

variable (emitted : AttemptRecord → Prop)

/-- What the answer to a call says about the shared state from then on. -/
def Knows : Event delivery → DeliveryState → Prop
  | ⟨.side .primary (.recordAttempt attempt), .ok _⟩, s => s.Reflected attempt
  | ⟨.side .fallback (.recordAttempt attempt), .ok _⟩, s => s.Kept attempt
  | ⟨.append attempt, .ok _⟩, s => s.Kept attempt
  | ⟨.pending _, .ok entries⟩, _ => ∀ entry ∈ entries,
    entry.id = DurableUsageSpool.entryId entry.attempt ∧ emitted entry.attempt
  | _, _ => True

/-- The spool has listed the entry. -/
def Listed (past : List (Event delivery)) (entry : SpoolEntry) : Prop :=
  ∃ limit entries, ⟨.pending limit, .ok entries⟩ ∈ past ∧ entry ∈ entries

/-- The primary has acknowledged the record. -/
def Taken (past : List (Event delivery)) (attempt : AttemptRecord) : Prop :=
  ⟨.side .primary (.recordAttempt attempt), .ok ()⟩ ∈ past

/-- Ids of listed entries whose records the primary has acknowledged. -/
def Acknowledged (past : List (Event delivery)) (entryIds : List String) : Prop :=
  ∀ id ∈ entryIds, ∃ entry, Listed past entry ∧ entry.id = id ∧ Taken past entry.attempt

/-- What a delivery checks before a call: it passes on emitted or listed records, and deletes what
the primary has acknowledged. -/
def Checks (past : List (Event delivery)) : DeliveryOp → Prop
  | .side _ (.recordAttempt attempt) =>
    emitted attempt ∨ ∃ entry, Listed past entry ∧ entry.attempt = attempt
  | .append attempt => emitted attempt
  | .acknowledge entryIds => Acknowledged past entryIds
  | _ => True

variable {emitted} {s s' : DeliveryState} {past : List (Event delivery)}

theorem Knows.advances {event : Event delivery} (h : Knows emitted event s)
    (hadvances : Advances s s') : Knows emitted event s' := by
  unfold Knows at h ⊢
  split at h
  · exact hadvances.reflected h
  · exact hadvances.kept h
  · exact hadvances.kept h
  · exact h
  · trivial

theorem Acknowledged.mono {past' : List (Event delivery)} {entryIds : List String}
    (h : Acknowledged past entryIds) (hpast : past ⊆ past') : Acknowledged past' entryIds := by
  intro id hid
  obtain ⟨entry, ⟨limit, entries, hlisted, hentry⟩, hsame, htaken⟩ := h id hid
  exact ⟨entry, ⟨limit, entries, hpast hlisted, hentry⟩, hsame, hpast htaken⟩

/-! ## Programs -/

/-- A method asks with its own record, and its answer is that of one of the sides. -/
theorem always_method {op : RepositoryOp}
    (hop : ∀ attempt, op = .recordAttempt attempt → emitted attempt) :
    Always (Checks emitted) (fun past result => ∀ value, result = .ok value →
      ∃ side, (⟨.side side op, .ok value⟩ : Event delivery) ∈ past) []
      ((SnapshotFallback.body op).interp onSide) := by
  have hchecks : ∀ past side, Checks emitted past (.side side op) := by
    intro past side
    cases op with
    | recordAttempt attempt => exact Or.inl (hop attempt rfl)
    | _ => trivial
  rw [SnapshotFallback.body_eq_orElse]
  refine ⟨hchecks [] .primary, ?_⟩
  rintro (error | value)
  · refine ⟨hchecks _ .fallback, ?_⟩
    rintro answer value rfl
    exact ⟨.fallback, by simp⟩
  · rintro value' hvalue
    cases hvalue
    exact ⟨.primary, by simp⟩

theorem always_append {attempt : AttemptRecord} (hattempt : emitted attempt) :
    Always (Checks emitted) (fun past result => result = .ok () →
      ∃ id, (⟨.append attempt, .ok id⟩ : Event delivery) ∈ past) []
      (appendAttempt attempt) := by
  refine ⟨hattempt, ?_⟩
  rintro (error | id)
  · intro hok
    cases hok
  · intro _
    exact ⟨id, by simp⟩

/-- The loop collects the ids of the entries the primary acknowledges. -/
theorem always_deliverEntries (entries : List SpoolEntry) (acknowledged : List String)
    (hlisted : ∀ entry ∈ entries, Listed past entry) (hacknowledged : Acknowledged past acknowledged) :
    Always (Checks emitted) Acknowledged past (deliverEntries entries acknowledged) := by
  induction entries generalizing past acknowledged with
  | nil => exact hacknowledged
  | cons entry entries ih =>
    have hentry := hlisted entry List.mem_cons_self
    refine ⟨Or.inr ⟨entry, hentry, rfl⟩, ?_⟩
    rintro (error | value)
    · exact hacknowledged.mono (List.subset_append_left _ _)
    · apply ih
      · intro later hlater
        obtain ⟨limit, listed, hevent, hmem⟩ := hlisted later (List.mem_cons_of_mem _ hlater)
        exact ⟨limit, listed, List.mem_append_left _ hevent, hmem⟩
      · intro id hid
        rcases List.mem_append.mp hid with hid | hid
        · exact hacknowledged.mono (List.subset_append_left _ _) id hid
        · rw [List.mem_singleton] at hid
          obtain ⟨limit, listed, hevent, hmem⟩ := hentry
          exact ⟨entry, ⟨limit, listed, List.mem_append_left _ hevent, hmem⟩, hid.symm,
            List.mem_append_right _ (List.mem_singleton_self _)⟩

theorem always_flush (limit : Nat) :
    Always (Checks emitted) (fun _ _ => True) [] (flushUsageSpool limit) := by
  refine ⟨trivial, ?_⟩
  rintro (error | entries)
  · trivial
  · have hlisted : ∀ entry ∈ entries, Listed [⟨.pending limit, .ok entries⟩] entry :=
      fun entry hentry => ⟨limit, entries, List.mem_singleton_self _, hentry⟩
    have hnone : Acknowledged [⟨.pending limit, .ok entries⟩] [] :=
      fun id hid => absurd hid List.not_mem_nil
    refine (always_deliverEntries entries [] hlisted hnone).bind ?_
    intro past acknowledged hacknowledged
    refine ⟨hacknowledged, ?_⟩
    rintro (error | value) <;> trivial

/-! ## Every step -/

/-- The records of a delivery. -/
def Starts (emitted : AttemptRecord → Prop) (name : Delivery) : Prop :=
  ∀ attempt, name = .method (.recordAttempt attempt) ∨ name = .append attempt → emitted attempt

/-- A record that a delivery passes on is an emitted one. -/
theorem emitted_of_checks {side : Side} {op : RepositoryOp} (h : Checks emitted past (.side side op))
    (hpast : ∀ event ∈ past, Knows emitted event s) :
    ∀ attempt, op = .recordAttempt attempt → emitted attempt := by
  rintro attempt rfl
  rcases h with hemitted | ⟨entry, ⟨limit, entries, hevent, hentry⟩, rfl⟩
  · exact hemitted
  · exact (hpast _ hevent entry hentry).2

theorem knows_primary {op : RepositoryOp} {answer : Except String op.Output}
    (h : ∀ attempt, op = .recordAttempt attempt → s.Reflected attempt) :
    Knows emitted ⟨.side .primary op, answer⟩ s := by
  cases op with
  | recordAttempt attempt =>
    cases answer with
    | error error => trivial
    | ok value => exact h attempt rfl
  | _ => trivial

theorem knows_fallback {op : RepositoryOp} {answer : Except String op.Output}
    (h : ∀ attempt, op = .recordAttempt attempt → s.Spooled attempt) :
    Knows emitted ⟨.side .fallback op, answer⟩ s := by
  cases op with
  | recordAttempt attempt =>
    cases answer with
    | error error => trivial
    | ok value => exact Or.inr (h attempt rfl)
  | _ => trivial

theorem knows_error {side : Side} {op : RepositoryOp} (error : String) :
    Knows emitted ⟨.side side op, .error error⟩ s := by
  cases side <;> cases op <;> trivial

/-- Every step of a delivery keeps the state orderly, undoes nothing, and what its answer says is
true. -/
theorem orderly_delivers (hemitted : Disciplined emitted) {digest : String → String}
    {op : DeliveryOp} {answer : op.Answer} (h : s.Orderly emitted)
    (hpast : ∀ event ∈ past, Knows emitted event s) (hchecks : Checks emitted past op)
    (heffect : Delivers digest op s answer s') :
    s'.Orderly emitted ∧ Knows emitted ⟨op, answer⟩ s' ∧ Advances s s' := by
  cases heffect with
  -- The primary takes the record, whether its answer arrives or not.
  | answered s now leaseId op =>
    have hop := emitted_of_checks hchecks hpast
    obtain ⟨hsent, hsends⟩ := h.send hop
    obtain ⟨horderly, hadvances, hreflected⟩ := hsent.takes hemitted digest now leaseId hop
    exact ⟨horderly, knows_primary hreflected, hsends.trans hadvances⟩
  | refused s op error =>
    obtain ⟨hsent, hsends⟩ := h.send (emitted_of_checks hchecks hpast)
    exact ⟨hsent, knows_error error, hsends⟩
  | answerLost s now leaseId op error =>
    have hop := emitted_of_checks hchecks hpast
    obtain ⟨hsent, hsends⟩ := h.send hop
    obtain ⟨horderly, hadvances, -⟩ := hsent.takes hemitted digest now leaseId hop
    exact ⟨horderly, knows_error error, hsends.trans hadvances⟩
  | fallback s now op =>
    obtain ⟨horderly, hadvances, hspooled⟩ :=
      h.fallback hemitted digest now (emitted_of_checks hchecks hpast)
    exact ⟨horderly, knows_fallback hspooled, hadvances⟩
  | appended s now attempt =>
    obtain ⟨horderly, hadvances, hspooled⟩ := h.append hemitted now hchecks
    exact ⟨horderly, Or.inr hspooled, hadvances⟩
  -- What is read of the spool was put there by an emitter.
  | listed s limit =>
    refine ⟨h, ?_, .refl s⟩
    intro entry hentry
    obtain ⟨key, row, hrow, rfl⟩ := DurableUsageSpool.mem_pending hentry
    obtain ⟨hid, hkey, hemit⟩ := h.entries hrow
    exact ⟨hid.trans hkey, hemit⟩
  -- Only entries the primary has confirmed are acknowledged.
  | acknowledged s entryIds =>
    have htaken : ∀ id ∈ entryIds, ∃ attempt, emitted attempt ∧
        id = DurableUsageSpool.entryId attempt ∧ s.Reflected attempt := by
      intro id hid
      obtain ⟨entry, ⟨limit, entries, hevent, hentry⟩, rfl, htaken⟩ := hchecks id hid
      obtain ⟨hsame, hemit⟩ := hpast _ hevent entry hentry
      exact ⟨entry.attempt, hemit, hsame, hpast _ htaken⟩
    obtain ⟨horderly, hadvances⟩ := h.acknowledge hemitted htaken
    exact ⟨horderly, trivial, hadvances⟩
  | fallbackFailed s op error => exact ⟨h, knows_error error, .refl s⟩
  | appendFailed s attempt error => exact ⟨h, trivial, .refl s⟩
  | listFailed s limit error => exact ⟨h, trivial, .refl s⟩
  | acknowledgeFailed s entryIds error => exact ⟨h, trivial, .refl s⟩

theorem orderly_meanwhile (hemitted : Disciplined emitted) {digest : String → String}
    (h : s.Orderly emitted) (hmeanwhile : Meanwhile digest s s') :
    s'.Orderly emitted ∧ Advances s s' := by
  cases hmeanwhile with
  | late now leaseId hsent =>
    obtain ⟨horderly, hadvances, -⟩ := h.takes hemitted digest now leaseId
      fun attempt hop => h.sent (hop ▸ hsent)
    exact ⟨horderly, hadvances⟩
  | others primary hattempts => exact h.of_eq hattempts rfl h.sent
  | restart snapshot => exact h.of_eq rfl rfl h.sent

theorem guarantee (hemitted : Disciplined emitted) (digest : String → String) :
    Guarantee (deliveries digest) (Starts emitted) (fun _ _ _ => True) (Orderly emitted)
      (fun _ _ => Knows emitted) fun _ => Checks emitted where
  body := by
    intro name hname
    cases name with
    | method op =>
      exact ⟨_, always_method fun attempt hop => hname attempt (Or.inl (by rw [hop]))⟩
    | append attempt => exact ⟨_, always_append (hname attempt (Or.inr rfl))⟩
    | flush limit => exact ⟨_, always_flush limit⟩
  effect := by
    intro id name past op s answer s' h hpast hchecks heffect _
    obtain ⟨horderly, hknows, hadvances⟩ := orderly_delivers hemitted h hpast hchecks heffect
    exact ⟨horderly, hknows, fun _ _ _ hknown => hknown.advances hadvances⟩
  ambient := by
    rintro s ended s' h ⟨hmeanwhile, -⟩
    obtain ⟨horderly, hadvances⟩ := orderly_meanwhile hemitted h hmeanwhile
    exact ⟨horderly, fun _ _ _ _ hknown => hknown.advances hadvances⟩

/-! ## Every run -/

variable {digest : String → String}

/-- A delivery has started with the record. -/
def Emitted (ls : List (Label (deliveries digest))) (attempt : AttemptRecord) : Prop :=
  ∃ id name, .start id name ∈ ls ∧
    (name = .method (.recordAttempt attempt) ∨ name = .append attempt)

/-- `record_attempt` has returned `Ok` for the record, or else the spool of the application. -/
def Accepted (ls : List (Label (deliveries digest))) (attempt : AttemptRecord) : Prop :=
  ∃ id, .finish id (.method (.recordAttempt attempt)) (.ok ()) ∈ ls ∨
    .finish id (.append attempt) (.ok ()) ∈ ls

/-- At the start there is nothing to account for. -/
theorem consistent_init {w : World (deliveries digest)} (h : (accounting digest).Init w) :
    Consistent (deliveries digest) (Orderly emitted) (fun _ _ => Knows emitted) w ∧
      Running (Starts emitted) w := by
  obtain ⟨⟨hattempts, hspool, hsent⟩, -, hidle⟩ := h
  constructor
  · refine .of_idle ⟨?_, ?_, ?_⟩ hidle
    · intro key row hrow
      rw [hattempts, KeyedTable.get?_empty] at hrow
      cases hrow
    · intro key row hrow
      rw [hspool, KeyedTable.get?_empty] at hrow
      cases hrow
    · intro attempt hmem
      rw [hsent] at hmem
      cases hmem
  · intro id f hf
    rw [hidle] at hf
    cases hf

section Run

variable {w₀ w : World (deliveries digest)} {ls : List (Label (deliveries digest))}
  {attempt : AttemptRecord}

theorem starts_emitted : ∀ id name, Label.start id name ∈ ls → Starts (Emitted ls) name :=
  fun id name hstart _ hname => ⟨id, name, hstart, hname⟩

theorem orderly_of_run (hinit : (accounting digest).Init w₀)
    (hrun : (accounting digest).Steps w₀ ls w) (hemitted : Disciplined (Emitted ls)) :
    w.shared.Orderly (Emitted ls) := by
  obtain ⟨hconsistent, hrunning⟩ := consistent_init hinit
  exact ((guarantee hemitted digest).steps_running hrun starts_emitted hconsistent
    hrunning).1.shared

/-- Every accepted record is reflected in the primary or still in the spool. -/
theorem kept_of_accepted (hinit : (accounting digest).Init w₀)
    (hrun : (accounting digest).Steps w₀ ls w) (hemitted : Disciplined (Emitted ls))
    (haccepted : Accepted ls attempt) : w.shared.Kept attempt := by
  obtain ⟨hconsistent, hrunning⟩ := consistent_init hinit
  have hlive : ∀ name s ended s', (deliveries digest).Ambient s ended s' → ¬ ended name := by
    rintro name s ended s' ⟨-, rfl⟩
    exact id
  have hguarantee := guarantee hemitted digest
  obtain ⟨id, hfinish | hfinish⟩ := haccepted
  · obtain ⟨past, hanswered, hknown⟩ := hguarantee.finished hrun starts_emitted hconsistent
      hrunning (hlive _) hfinish fun hname =>
        always_method fun other hop => hname other (Or.inl (by rw [hop]))
    obtain ⟨side, hevent⟩ := hanswered () rfl
    cases side with
    | primary => exact Or.inl (hknown _ hevent)
    | fallback => exact hknown _ hevent
  · obtain ⟨past, hanswered, hknown⟩ := hguarantee.finished hrun starts_emitted hconsistent
      hrunning (hlive _) hfinish fun hname => always_append (hname attempt (Or.inr rfl))
    obtain ⟨entryId, hevent⟩ := hanswered rfl
    exact hknown _ hevent

/-- Once the spool is empty, every accepted record is reflected in the primary. -/
theorem reflected_of_empty (hinit : (accounting digest).Init w₀)
    (hrun : (accounting digest).Steps w₀ ls w) (hemitted : Disciplined (Emitted ls))
    (hempty : w.shared.spool = .empty) (haccepted : Accepted ls attempt) :
    w.shared.Reflected attempt := by
  rcases kept_of_accepted hinit hrun hemitted haccepted with hreflected | ⟨row, hrow, -⟩
  · exact hreflected
  · rw [hempty, KeyedTable.get?_empty] at hrow
    cases hrow

end Run

end Deliveries

open Deliveries

/-- What every run of deliveries guarantees, if each attempt emits what it may. -/
structure ExactlyOnce (digest : String → String) : Prop where
  /-- An accepted record is reflected in the primary or still in the spool. -/
  kept : ∀ {w₀ w ls attempt}, (accounting digest).Init w₀ → (accounting digest).Steps w₀ ls w →
    Disciplined (Emitted ls) → Accepted ls attempt →
      w.shared.Reflected attempt ∨ w.shared.Spooled attempt
  /-- With the spool empty, an attempt with an accepted record has exactly one row, which holds
  its terminal record if that was accepted, and in any case one it emitted. -/
  settled : ∀ {w₀ w ls attempt}, (accounting digest).Init w₀ → (accounting digest).Steps w₀ ls w →
    Disciplined (Emitted ls) → w.shared.spool = .empty → Accepted ls attempt →
      ∃ row, w.shared.attempts.rows.filter (fun stored => stored.1 = attempt.attemptId.text) =
          [(attempt.attemptId.text, row)] ∧
        (∀ terminal, Accepted ls terminal → terminal.attemptId = attempt.attemptId →
          terminal.outcome ≠ .committed → row.outcome = terminal.outcome ∧
            row.failureCategory = terminal.failureCategory) ∧
        ∃ held, Emitted ls held ∧ held.attemptId = attempt.attemptId ∧
          row.outcome = held.outcome ∧ row.failureCategory = held.failureCategory

/-- Exactly-once accounting, over at-least-once delivery. -/
theorem exactly_once_accounting (digest : String → String) : ExactlyOnce digest where
  kept hinit hrun hemitted haccepted := kept_of_accepted hinit hrun hemitted haccepted
  settled := by
    intro w₀ w ls attempt hinit hrun hemitted hempty haccepted
    obtain ⟨row, hrow, -⟩ := reflected_of_empty hinit hrun hemitted hempty haccepted
    refine ⟨row, KeyedTable.filter_key hrow, ?_, ?_⟩
    · intro terminal haccepted' hid hterminal
      obtain ⟨row', hrow', hreflects⟩ :=
        reflected_of_empty hinit hrun hemitted hempty haccepted'
      rw [hid, hrow, Option.some.injEq] at hrow'
      rw [hrow']
      exact (hreflects.holds hterminal).2
    · obtain ⟨held, hheld, hkey, -, hholds⟩ :=
        (orderly_of_run hinit hrun hemitted).rows hrow
      exact ⟨held, hheld, AttemptId.ext hkey, hholds⟩

/-! ## A stream whose end is delivered twice -/

namespace Redelivered

open Program (Runs)
open Concurrent

/-- A record of the attempt of a stream. -/
def attempt (outcome : AttemptOutcome) : AttemptRecord where
  attemptId := .least
  requestId := "request"
  routeId := "route"
  outcome := outcome
  failureCategory := none

def start : DeliveryState where
  primary := Postgres.Session.closedRoute
  repository :=
    .new
      { gatewayKeyHashes := ∅
        routes := []
        fallbacks := .empty
        routeStates := .empty
        accountStates := .empty }
      .empty
  sent := []

/-- The state after the primary has taken a record. -/
def taking (s : DeliveryState) (outcome : AttemptOutcome) : DeliveryState :=
  (s.send (.recordAttempt (attempt outcome))).takes id 0 "lease" (.recordAttempt (attempt outcome))

def committed : DeliveryState := taking start .committed

/-- The primary has taken the end of the stream, but its answer was lost, and the record has gone to
the spool as well. -/
def spooled : DeliveryState :=
  { taking committed .succeeded with
    repository :=
      (SnapshotRepository.handle id 1 (.recordAttempt (attempt .succeeded)) start.repository).2 }

def entryId : String := DurableUsageSpool.entryId (attempt .succeeded)

/-- The entry has been delivered again, and removed. -/
def delivered : DeliveryState :=
  let s := taking spooled .succeeded
  s.withSpool (s.spool.acknowledge [entryId])

theorem runs_committed : Runs (Delivers id)
    ((deliveries id).body (.method (.recordAttempt (attempt .committed)))) start (.ok ())
    committed := by
  refine .call (.answered start 0 "lease" (.recordAttempt (attempt .committed))) ?_
  exact .pure _ _

theorem runs_succeeded : Runs (Delivers id)
    ((deliveries id).body (.method (.recordAttempt (attempt .succeeded)))) committed (.ok ())
    spooled := by
  refine .call (.answerLost committed 0 "lease" (.recordAttempt (attempt .succeeded))
    "connection closed") ?_
  refine .call (.fallback (taking committed .succeeded) 1 (.recordAttempt (attempt .succeeded))) ?_
  exact .pure _ _

theorem runs_flush : Runs (Delivers id) ((deliveries id).body (.flush 100)) spooled (.ok 1)
    delivered := by
  refine .call (.listed spooled 100) ?_
  refine .call (.answered spooled 0 "lease" (.recordAttempt (attempt .succeeded))) ?_
  refine .call (.acknowledged (taking spooled .succeeded) [entryId]) ?_
  exact .pure _ _

def idle : World (deliveries id) := ⟨start, 0, fun _ => none⟩

/-- Each record is one of the attempt, and there are two. -/
theorem disciplined {emitted : AttemptRecord → Prop}
    (h : ∀ record, emitted record → record = attempt .committed ∨ record = attempt .succeeded) :
    Disciplined emitted := by
  constructor
  · intro a b ha hb _
    rcases h a ha with rfl | rfl
    · rcases h b hb with rfl | rfl
      · exact ⟨rfl, rfl⟩
      · exact ⟨rfl, rfl⟩
    · rcases h b hb with rfl | rfl
      · exact ⟨rfl, rfl⟩
      · exact ⟨rfl, rfl⟩
  · intro a b ha hb _ hsame
    rcases h a ha with rfl | rfl
    · rcases h b hb with rfl | rfl
      · rfl
      · cases hsame.mp rfl
    · rcases h b hb with rfl | rfl
      · cases hsame.mpr rfl
      · rfl
  · intro a b _ hb _ _ hends
    rcases h b hb with rfl | rfl
    · exact absurd rfl hends
    · rfl

/-- A delivery is made while nothing else happens. -/
theorem exists_alone {w : World (deliveries id)} {s s' : DeliveryState} {name : Delivery}
    {result : (deliveries id).Ret name} (hshared : w.shared = s)
    (h : Runs (Delivers id) ((deliveries id).body name) s result s') :
    ∃ ls w', (accounting id).Steps w (.start w.next name :: ls) w' ∧ w'.shared = s' ∧
      .finish w.next name result ∈ ls ∧ ∀ id' name', .start id' name' ∉ ls := by
  subst hshared
  obtain ⟨ls, w', hsteps, hshared', hfinish, halone⟩ :=
    @exists_steps_of_runs _ _ _ (deliveries id) _ w name s' result h
  exact ⟨ls, w', hsteps, hshared', hfinish, not_start_of_alone halone⟩

/-- The stream is committed, its end is delivered twice, and the spool is empty then. -/
theorem exists_run : ∃ ls w, (accounting id).Steps idle ls w ∧ w.shared = delivered ∧
    Accepted ls (attempt .committed) ∧ Accepted ls (attempt .succeeded) ∧
    ∀ record, Emitted ls record → record = attempt .committed ∨ record = attempt .succeeded := by
  obtain ⟨ls₁, w₁, hsteps₁, hshared₁, hfinish₁, hstart₁⟩ :=
    exists_alone (rfl : idle.shared = start) runs_committed
  obtain ⟨ls₂, w₂, hsteps₂, hshared₂, hfinish₂, hstart₂⟩ := exists_alone hshared₁ runs_succeeded
  obtain ⟨ls₃, w₃, hsteps₃, hshared₃, -, hstart₃⟩ := exists_alone hshared₂ runs_flush
  refine ⟨_, w₃, (hsteps₁.append hsteps₂).append hsteps₃, hshared₃, ⟨idle.next, Or.inl ?_⟩,
    ⟨w₁.next, Or.inl ?_⟩, ?_⟩
  · simp [hfinish₁]
  · simp [hfinish₂]
  · rintro record ⟨id, name, hstart, hname⟩
    have hnames : name = .method (.recordAttempt (attempt .committed)) ∨
        name = .method (.recordAttempt (attempt .succeeded)) ∨ name = .flush 100 := by
      simp only [List.mem_append, List.mem_cons, hstart₁, hstart₂, hstart₃, or_false,
        Label.start.injEq] at hstart
      rcases hstart with (⟨-, rfl⟩ | ⟨-, rfl⟩) | ⟨-, rfl⟩
      · exact Or.inl rfl
      · exact Or.inr (Or.inl rfl)
      · exact Or.inr (Or.inr rfl)
    rcases hnames with rfl | rfl | rfl
    · rcases hname with hrecord | hrecord
      · cases hrecord
        exact Or.inl rfl
      · cases hrecord
    · rcases hname with hrecord | hrecord
      · cases hrecord
        exact Or.inr rfl
      · cases hrecord
    · rcases hname with hrecord | hrecord
      · cases hrecord
      · cases hrecord

/-- The one row of the attempt holds its end. -/
theorem stream_accounted_once : ∃ ls w, (accounting id).Steps idle ls w ∧
    Accepted ls (attempt .succeeded) ∧ w.shared.spool = .empty ∧
    (w.shared.Reflected (attempt .succeeded) ∨ w.shared.Spooled (attempt .succeeded)) ∧
    ∃ row : AttemptRow,
      w.shared.attempts.rows.filter (fun stored => stored.1 = AttemptId.least.text) =
        [(AttemptId.least.text, row)] ∧
      row.outcome = .succeeded := by
  obtain ⟨ls, w, hrun, hshared, -, haccepted, hemitted⟩ := exists_run
  have hinit : (accounting id).Init idle := ⟨⟨rfl, rfl, rfl⟩, rfl, fun _ => rfl⟩
  have hempty : w.shared.spool = .empty := by
    rw [hshared]
    rfl
  obtain ⟨row, hrow, hterminal, -⟩ :=
    (exactly_once_accounting id).settled hinit hrun (disciplined hemitted) hempty haccepted
  refine ⟨ls, w, hrun, haccepted, hempty,
    (exactly_once_accounting id).kept hinit hrun (disciplined hemitted) haccepted, row, hrow, ?_⟩
  exact (hterminal (attempt .succeeded) haccepted rfl (by simp [attempt])).1

end Redelivered
end SmartGateway
