import SmartGateway.Lib.Precedence
import SmartGateway.Runtime.Flush

/-! # The order of an attempt's transitions in the spool

The spool keeps no counter: `pending` orders by the second a record was queued in, and within a
second by the text of its id, which ends in the name of the outcome. So a `Committed` record
comes before a later `Succeeded` or `PartialFailed` one in any case, and before a later
`Cancelled` one only if a second has passed in between.
-/

namespace SmartGateway

open Precedence

/-! ## Histories of appends -/

/-- Two records of one transition of an attempt. -/
def SameTransition (a b : AttemptRecord) : Prop :=
  a.attemptId = b.attemptId ∧ a.outcome = b.outcome

/-- Appends in the order of their instants. -/
def Timely (history : List (Int × AttemptRecord)) : Prop :=
  history.Pairwise fun a b => a.1 ≤ b.1

/-- In a history of appends, the first one of an attempt's `Committed` record comes before the
first one of a terminal record of that attempt. -/
structure CommittedFirst (history : List (Int × AttemptRecord))
    (committed terminal : Int × AttemptRecord) : Prop where
  sameAttempt : terminal.2.attemptId = committed.2.attemptId
  commits : committed.2.outcome = .committed
  ends : terminal.2.outcome.isStreamTerminal = true
  order : ∃ earlier between later,
    history = earlier ++ committed :: (between ++ terminal :: later) ∧
    (∀ call ∈ earlier, ¬ SameTransition call.2 committed.2 ∧ ¬ SameTransition call.2 terminal.2) ∧
    ∀ call ∈ between, ¬ SameTransition call.2 terminal.2

/-- No record of the terminal transition is listed without the committed record before it. -/
def ListsInOrder (committed terminal : AttemptRecord) (entries : List SpoolEntry) : Prop :=
  Precedes (fun entry => entry.attempt = committed)
    (fun entry => SameTransition entry.attempt terminal) entries

/-- No record of the terminal transition is offered before the committed record was taken. -/
def DeliversInOrder (committed terminal : AttemptRecord) (offered : List (AttemptRecord × Bool)) :
    Prop :=
  Precedes (fun offer => offer = (committed, true)) (fun offer => SameTransition offer.1 terminal)
    offered

/-- A `Cancelled` record was queued in a later second than the `Committed` one. -/
def SecondBetween (committed terminal : Int × AttemptRecord) : Prop :=
  terminal.2.outcome = .cancelled → committed.1 < terminal.1

namespace DurableUsageSpool

theorem entryId_eq_iff {a b : AttemptRecord} : entryId a = entryId b ↔ SameTransition a b := by
  constructor
  · intro h
    exact entryId_injective h
  · rintro ⟨hattempt, houtcome⟩
    rw [entryId, entryId, hattempt, houtcome]

/-! ## What a history leaves in the spool -/

/-- The row an append writes. -/
def rowOf (call : Int × AttemptRecord) : SpoolRow :=
  { payload := { id := entryId call.2, attempt := call.2 }, queuedAt := call.1 }

/-- The first append of a transition writes its row, the others change nothing. -/
theorem get?_appendAll_empty (history : List (Int × AttemptRecord)) (id : String) :
    (appendAll .empty history).get? id =
      (history.find? fun call => entryId call.2 = id).map rowOf := by
  induction history using List.reverseRecOn with
  | nil => rfl
  | append_singleton history call ih =>
    rw [appendAll_append, List.find?_append]
    change (append (appendAll .empty history) call.1 call.2).get? id = _
    rw [get?_append, ih]
    by_cases hid : id = entryId call.2
    · subst hid
      rw [if_pos rfl, List.find?_singleton, if_pos (decide_eq_true rfl)]
      cases history.find? fun other => entryId other.2 = entryId call.2 <;> rfl
    · rw [if_neg hid, List.find?_singleton, if_neg (by simpa using Ne.symm hid), Option.or_none]

/-- Every row has the id of its entry, which is that of its record. -/
def Named (spool : DurableUsageSpool) : Prop :=
  ∀ key row, spool.get? key = some row → row.payload.id = key ∧ entryId row.payload.attempt = key

theorem named_empty : Named .empty := by
  intro key row hrow
  rw [KeyedTable.get?_empty] at hrow
  cases hrow

theorem Named.append {spool : DurableUsageSpool} (h : spool.Named) (now : Int)
    (attempt : AttemptRecord) : (spool.append now attempt).Named := by
  intro key row hrow
  rw [get?_append] at hrow
  split at hrow
  · rename_i hkey
    cases hstored : spool.get? key with
    | none =>
      rw [hstored, Option.getD_none, Option.some.injEq] at hrow
      rw [← hrow]
      exact ⟨rfl, hkey.symm⟩
    | some stored =>
      rw [hstored, Option.getD_some, Option.some.injEq] at hrow
      rw [← hrow]
      exact h key stored hstored
  · exact h key row hrow

theorem Named.appendAll {spool : DurableUsageSpool} (h : spool.Named)
    (appends : List (Int × AttemptRecord)) : (spool.appendAll appends).Named := by
  induction appends generalizing spool with
  | nil => exact h
  | cons call appends ih => exact ih (h.append call.1 call.2)

theorem Named.acknowledge {spool : DurableUsageSpool} (h : spool.Named)
    (entryIds : List String) : (spool.acknowledge entryIds).Named := by
  intro key row hrow
  rw [get?_acknowledge] at hrow
  split at hrow
  · cases hrow
  · exact h key row hrow

/-- A listed entry is stored under its id, which is that of its record. -/
theorem Named.listed {spool : DurableUsageSpool} (h : spool.Named) {limit : Nat}
    {entry : SpoolEntry} (hentry : entry ∈ spool.pending limit) :
    entry.id = entryId entry.attempt ∧ ∃ row, spool.get? entry.id = some row ∧
      row.payload = entry := by
  obtain ⟨key, row, hrow, rfl⟩ := mem_pending hentry
  obtain ⟨hid, hattempt⟩ := h key row hrow
  refine ⟨hid.trans hattempt.symm, row, ?_, rfl⟩
  rw [hid]
  exact hrow

/-! ## The two rows of an attempt -/

/-- Of two records of one attempt, the name of the outcome decides how their ids compare. -/
theorem entryId_lt {a b : AttemptRecord} (hattempt : a.attemptId = b.attemptId)
    (houtcome : ":" ++ a.outcome.asStr < ":" ++ b.outcome.asStr) : entryId a < entryId b := by
  rw [String.lt_iff] at houtcome ⊢
  rw [entryId, entryId, hattempt, String.append_assoc, String.append_assoc,
    String.toList_append, String.toList_append (s := b.attemptId.text)]
  exact List.append_left_lt houtcome

end DurableUsageSpool

open DurableUsageSpool

section History

/-- The first record of its transition is the one that is found. -/
theorem find_first {earlier : List (Int × AttemptRecord)} {call : Int × AttemptRecord}
    (hearlier : ∀ other ∈ earlier, ¬ SameTransition other.2 call.2)
    (later : List (Int × AttemptRecord)) :
    ((earlier ++ call :: later).find? fun other => entryId other.2 = entryId call.2) =
      some call := by
  rw [List.find?_append, List.find?_eq_none.mpr, Option.none_or, List.find?_cons_of_pos]
  · exact decide_eq_true rfl
  · intro other hother
    rw [decide_eq_true_eq, entryId_eq_iff]
    exact hearlier other hother

variable {history : List (Int × AttemptRecord)} {committed terminal : Int × AttemptRecord}

namespace CommittedFirst

/-- The two rows have different ids. -/
theorem ne (h : CommittedFirst history committed terminal) :
    ¬ SameTransition committed.2 terminal.2 := by
  rintro ⟨-, houtcome⟩
  rw [h.commits] at houtcome
  exact AttemptOutcome.ne_committed_of_isStreamTerminal h.ends houtcome.symm

theorem find_committed (h : CommittedFirst history committed terminal) :
    (history.find? fun call => entryId call.2 = entryId committed.2) = some committed := by
  obtain ⟨earlier, between, later, rfl, hearlier, -⟩ := h.order
  exact find_first (fun call hcall => (hearlier call hcall).1) _

theorem find_terminal (h : CommittedFirst history committed terminal) :
    (history.find? fun call => entryId call.2 = entryId terminal.2) = some terminal := by
  have hne := h.ne
  obtain ⟨earlier, between, later, rfl, hearlier, hbetween⟩ := h.order
  have hfresh : ∀ call ∈ earlier ++ committed :: between,
      ¬ SameTransition call.2 terminal.2 := by
    intro call hcall
    rcases List.mem_append.mp hcall with hcall | hcall
    · exact (hearlier call hcall).2
    · rcases List.mem_cons.mp hcall with rfl | hcall
      · exact hne
      · exact hbetween call hcall
  have hsplit : earlier ++ committed :: (between ++ terminal :: later) =
      (earlier ++ committed :: between) ++ terminal :: later := by
    rw [List.append_assoc, List.cons_append]
  rw [hsplit]
  exact find_first hfresh later

variable {sofar : List (Int × AttemptRecord)} {row : SpoolRow}

/-- At any point of the history the committed row is the one of its first append. -/
theorem eq_committed (h : CommittedFirst history committed terminal) (hsofar : sofar <+: history)
    (hrow : (appendAll .empty sofar).get? (entryId committed.2) = some row) :
    row = rowOf committed := by
  rw [get?_appendAll_empty] at hrow
  obtain ⟨call, hcall, rfl⟩ := Option.map_eq_some_iff.mp hrow
  have hwhole := hsofar.find?_eq_some hcall
  rw [h.find_committed, Option.some.injEq] at hwhole
  rw [hwhole]

theorem eq_terminal (h : CommittedFirst history committed terminal) (hsofar : sofar <+: history)
    (hrow : (appendAll .empty sofar).get? (entryId terminal.2) = some row) :
    row = rowOf terminal := by
  rw [get?_appendAll_empty] at hrow
  obtain ⟨call, hcall, rfl⟩ := Option.map_eq_some_iff.mp hrow
  have hwhole := hsofar.find?_eq_some hcall
  rw [h.find_terminal, Option.some.injEq] at hwhole
  rw [hwhole]

/-- At any point of the history a terminal row is not there without the committed one. -/
theorem committed_stored (h : CommittedFirst history committed terminal)
    (hsofar : sofar <+: history)
    (hrow : (appendAll .empty sofar).get? (entryId terminal.2) = some row) :
    (appendAll .empty sofar).get? (entryId committed.2) = some (rowOf committed) := by
  have hne := h.ne
  rw [get?_appendAll_empty] at hrow ⊢
  obtain ⟨call, hcall, -⟩ := Option.map_eq_some_iff.mp hrow
  have hmem : call ∈ sofar := List.mem_of_find?_eq_some hcall
  have hsame : SameTransition call.2 terminal.2 := by
    have hid := List.find?_some hcall
    rw [decide_eq_true_eq] at hid
    exact entryId_eq_iff.mp hid
  obtain ⟨earlier, between, later, hhistory, hearlier, -⟩ := h.order
  have hfront : earlier ++ [committed] <+: history := by
    rw [hhistory]
    refine ⟨between ++ terminal :: later, ?_⟩
    rw [List.append_assoc, List.singleton_append]
  have hreached : earlier ++ [committed] <+: sofar := by
    rcases List.prefix_or_prefix_of_prefix hsofar hfront with hshort | hlong
    · -- no terminal record was appended so far
      rcases List.mem_append.mp (hshort.subset hmem) with hcall | hcall
      · exact absurd hsame (hearlier call hcall).2
      · rw [List.mem_singleton.mp hcall] at hsame
        exact absurd hsame hne
    · exact hlong
  have hfound := find_first (fun call hcall => (hearlier call hcall).1) []
  rw [hreached.find?_eq_some hfound]
  rfl

theorem instants_le (h : CommittedFirst history committed terminal) (htimely : Timely history) :
    committed.1 ≤ terminal.1 := by
  obtain ⟨earlier, between, later, rfl, -⟩ := h.order
  have hrest := (List.pairwise_append.mp htimely).2.1
  exact (List.pairwise_cons.mp hrest).1 terminal (by simp)

/-- The order of the queue, where it is that of the history. -/
theorem before (h : CommittedFirst history committed terminal) (htimely : Timely history)
    (hsecond : SecondBetween committed terminal) :
    Before (entryId committed.2, rowOf committed) (entryId terminal.2, rowOf terminal) := by
  have hle := h.instants_le htimely
  by_cases hlt : committed.1 < terminal.1
  · exact Or.inl hlt
  · -- within a second the ids decide
    right
    constructor
    · show committed.1 = terminal.1
      omega
    · apply entryId_lt h.sameAttempt.symm
      rw [h.commits]
      have hends := h.ends
      cases houtcome : terminal.2.outcome with
      | failed =>
        rw [houtcome] at hends
        cases hends
      | committed =>
        rw [houtcome] at hends
        cases hends
      | succeeded => decide
      | partialFailed => decide
      | cancelled => exact absurd (hsecond houtcome) hlt

/-- A `Cancelled` record of the same second comes before the `Committed` one. -/
theorem before_of_cancelled (h : CommittedFirst history committed terminal)
    (htimely : Timely history) (hsecond : ¬ SecondBetween committed terminal) :
    Before (entryId terminal.2, rowOf terminal) (entryId committed.2, rowOf committed) := by
  rw [SecondBetween, Classical.not_imp] at hsecond
  obtain ⟨houtcome, hlt⟩ := hsecond
  have hle := h.instants_le htimely
  right
  constructor
  · show terminal.1 = committed.1
    omega
  · apply entryId_lt h.sameAttempt
    rw [h.commits, houtcome]
    decide

end CommittedFirst

/-! ## Listing -/

/-- A spool that has, of the rows of two transitions, those that the appends so far wrote. -/
structure HasRows (sofar : List (Int × AttemptRecord)) (committed terminal : AttemptRecord)
    (spool : DurableUsageSpool) : Prop where
  committed : spool.get? (entryId committed) = (appendAll .empty sofar).get? (entryId committed)
  terminal : spool.get? (entryId terminal) = (appendAll .empty sofar).get? (entryId terminal)

variable {sofar : List (Int × AttemptRecord)} {spool : DurableUsageSpool}

/-- A row of the queue is the stored row of its record's transition. -/
theorem DurableUsageSpool.Named.get? (hnamed : spool.Named) {row : String × SpoolRow}
    (hrow : row ∈ spool.queue) {record : AttemptRecord}
    (hsame : SameTransition row.2.payload.attempt record) :
    row.1 = entryId record ∧ spool.get? (entryId record) = some row.2 := by
  have hstored := mem_queue.mp hrow
  have hkey := (hnamed row.1 row.2 hstored).2
  rw [entryId_eq_iff.mpr hsame] at hkey
  rw [hkey]
  exact ⟨rfl, hstored⟩

/-- The two rows come in the order of the history, where the order of the queue is that of the
history. -/
theorem CommittedFirst.lists (h : CommittedFirst history committed terminal)
    (htimely : Timely history) (hsecond : SecondBetween committed terminal)
    (hsofar : sofar <+: history) (hnamed : spool.Named)
    (hrows : HasRows sofar committed.2 terminal.2 spool) (limit : Nat) :
    ListsInOrder committed.2 terminal.2 (spool.pending limit) := by
  have hqueue : Precedes (fun row => row.2.payload.attempt = committed.2)
      (fun row => SameTransition row.2.payload.attempt terminal.2) spool.queue := by
    cases hterminal : spool.get? (entryId terminal.2) with
    | none =>
      apply precedes_of_forall_not
      intro row hrow hsame
      rw [(hnamed.get? hrow hsame).2] at hterminal
      cases hterminal
    | some row =>
      -- the terminal row is stored, so the committed one is too and comes first
      have happended := hrows.terminal.symm.trans hterminal
      have hcommitted := hrows.committed.trans (h.committed_stored hsofar happended)
      have hrow : row = rowOf terminal := h.eq_terminal hsofar happended
      have hmem : (entryId committed.2, rowOf committed) ∈ spool.queue := mem_queue.mpr hcommitted
      refine precedes_of_pairwise (pairwise_queue spool) (fun _ _ => Before.asymm) hmem rfl ?_
      rintro ⟨key, other⟩ hother hsame
      obtain ⟨hkey, hstored⟩ := hnamed.get? hother hsame
      rw [hterminal, Option.some.injEq] at hstored
      dsimp only at hkey hstored
      rw [hkey, ← hstored, hrow]
      exact h.before htimely hsecond
  rw [pending_eq]
  exact precedes_map.mpr (hqueue.front (List.take_prefix limit _))

/-- A `Cancelled` record of the same second is listed first. -/
theorem CommittedFirst.not_lists (h : CommittedFirst history committed terminal)
    (htimely : Timely history) (hsecond : ¬ SecondBetween committed terminal) {limit : Nat}
    (hlimit : (appendAll .empty history).rows.length ≤ limit) :
    ¬ ListsInOrder committed.2 terminal.2 ((appendAll .empty history).pending limit) := by
  have hnamed := named_empty.appendAll history
  have hterminal : (appendAll .empty history).get? (entryId terminal.2) =
      some (rowOf terminal) := by
    rw [get?_appendAll_empty, h.find_terminal]
    rfl
  have hcommitted := h.committed_stored List.prefix_rfl hterminal
  have hmem : (entryId terminal.2, rowOf terminal) ∈ (appendAll .empty history).queue :=
    mem_queue.mpr hterminal
  have hlength := (perm_queue (appendAll .empty history)).length_eq
  rw [pending_eq, List.take_of_length_le (by omega), ListsInOrder, precedes_map]
  refine not_precedes_of_pairwise (pairwise_queue _) (fun _ _ => Before.asymm) hmem ⟨rfl, rfl⟩ ?_
  rintro ⟨key, other⟩ hother hsame
  have htransition : SameTransition other.payload.attempt committed.2 := by
    rw [hsame]
    exact ⟨rfl, rfl⟩
  obtain ⟨hkey, hstored⟩ := hnamed.get? hother htransition
  rw [hcommitted, Option.some.injEq] at hstored
  dsimp only at hkey hstored
  rw [hkey, ← hstored]
  exact h.before_of_cancelled htimely hsecond

end History

end SmartGateway
