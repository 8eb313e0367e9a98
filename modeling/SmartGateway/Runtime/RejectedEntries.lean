import SmartGateway.Runtime.Flush

/-! # Entries the primary never takes

A flush reads its batch from the front of the queue and stops at the first refusal, so an entry
that is refused every time keeps everything behind it in the spool. The entries the primary
would take are all delivered exactly when no refused entry comes before one of them.
-/

namespace SmartGateway

open Program

/-- The entry of a row was handed to the primary, which took it, and is out of the spool. -/
def Delivered (s : FlushState) (row : String × SpoolRow) : Prop :=
  (row.2.payload.attempt, true) ∈ s.offered ∧ s.spool.get? row.1 = none

/-- After enough flushes every entry the primary accepts is delivered. -/
def DeliversAccepted (primary : AttemptRecord → Except String Unit) (limit : Nat)
    (spool : DurableUsageSpool) : Prop :=
  ∃ enough, ∀ calls, enough ≤ calls → ∀ s', Flushes primary limit calls (.start spool) s' →
    ∀ row ∈ spool.rows, Accepts primary row.2.payload = true → Delivered s' row

section Blocking

variable {primary : AttemptRecord → Except String Unit} {limit : Nat}
  {front rest : List (String × SpoolRow)} {s : FlushState}

/-- The front of a queue is delivered. -/
theorem Advanced.delivered {queue : List (String × SpoolRow)}
    (h : Advanced primary queue front rest s) (hnodup : (queue.map Prod.fst).Nodup)
    {row : String × SpoolRow} (hrow : row ∈ front) : Delivered s row := by
  constructor
  · exact (h.offered _).mpr ⟨row, hrow, rfl⟩
  · rw [h.split, List.map_append, List.nodup_append] at hnodup
    obtain ⟨-, -, hdisjoint⟩ := hnodup
    rw [Option.eq_none_iff_forall_ne_some]
    intro stored hstored
    have hleft : (row.1, stored) ∈ s.spool.queue := DurableUsageSpool.mem_queue.mpr hstored
    rw [h.left] at hleft
    have hkey : row.1 ∈ rest.map Prod.fst := List.mem_map.mpr ⟨_, hleft, rfl⟩
    exact hdisjoint row.1 (List.mem_map_of_mem hrow) row.1 hkey rfl

/-- What is left of a queue is not delivered. -/
theorem Advanced.not_delivered {queue : List (String × SpoolRow)}
    (h : Advanced primary queue front rest s) {row : String × SpoolRow} (hrow : row ∈ rest) :
    ¬ Delivered s row := by
  intro hdelivered
  rw [← h.left, DurableUsageSpool.mem_queue, hdelivered.2] at hrow
  cases hrow

/-- Where everything accepted is delivered, nothing refused comes before it. -/
theorem DeliversAccepted.accepts {spool : DurableUsageSpool}
    (h : DeliversAccepted primary limit spool) (hlimit : 0 < limit) (hkeyed : spool.Keyed)
    {a b : String × SpoolRow} (ha : a ∈ spool.rows) (hb : b ∈ spool.rows)
    (hbefore : DurableUsageSpool.Before a b) (haccepted : Accepts primary b.2.payload = true) :
    Accepts primary a.2.payload = true := by
  obtain ⟨enough, hdelivers⟩ := h
  obtain ⟨s', hflushes, -⟩ := existsUnique_flushes primary limit enough (.start spool)
  obtain ⟨front, rest, hadvanced, -⟩ := hflushes.advanced hkeyed hlimit
  have hdelivered := hdelivers enough (Nat.le_refl _) s' hflushes b hb haccepted
  have ha := (DurableUsageSpool.perm_queue spool).mem_iff.mpr ha
  have hb := (DurableUsageSpool.perm_queue spool).mem_iff.mpr hb
  have hordered := DurableUsageSpool.pairwise_queue spool
  rw [hadvanced.split] at ha hb hordered
  rcases List.mem_append.mp ha with ha | ha
  · exact hadvanced.accepted a ha
  · -- what is left comes after what is gone
    rcases List.mem_append.mp hb with hb | hb
    · have hafter := (List.pairwise_append.mp hordered).2.2 b hb a ha
      exact absurd hafter hbefore.asymm
    · exact absurd hdelivered (hadvanced.not_delivered hb)

/-- For any fixed answers of the primary, the entries it accepts are all delivered in the end if
and only if none of those it refuses comes before one of them in the queue. -/
theorem deliversAccepted_iff (primary : AttemptRecord → Except String Unit) (limit : Nat)
    (hlimit : 0 < limit) {spool : DurableUsageSpool} (hkeyed : spool.Keyed) :
    (∀ calls, ∃! s', Flushes primary limit calls (.start spool) s') ∧
    (DeliversAccepted primary limit spool ↔
      ∀ a ∈ spool.rows, ∀ b ∈ spool.rows, DurableUsageSpool.Before a b →
        Accepts primary b.2.payload = true → Accepts primary a.2.payload = true) := by
  have hmem : ∀ {row}, row ∈ spool.queue ↔ row ∈ spool.rows :=
    (DurableUsageSpool.perm_queue spool).mem_iff
  refine ⟨fun calls => existsUnique_flushes primary limit calls _, ?_⟩
  constructor
  · intro hdelivers a ha b hb hbefore haccepted
    exact hdelivers.accepts hlimit hkeyed ha hb hbefore haccepted
  · intro hunblocked
    refine ⟨spool.rows.length, ?_⟩
    intro calls hcalls s' hflushes row hrow haccepted
    obtain ⟨front, rest, hadvanced, hfar⟩ := hflushes.advanced hkeyed hlimit
    have hlength := (DurableUsageSpool.perm_queue spool).length_eq
    have hordered := DurableUsageSpool.pairwise_queue spool
    have hqueued := hmem.mpr hrow
    rw [hadvanced.split, List.length_append] at hlength
    rw [hadvanced.split] at hordered hqueued
    rcases List.mem_append.mp hqueued with hfront | hleft
    · exact hadvanced.delivered (DurableUsageSpool.nodup_queue spool) hfront
    · -- as many flushes as there are entries have come to the end, or to an entry that is refused
      exfalso
      cases rest with
      | nil => cases hleft
      | cons head rest =>
        rw [List.length_cons] at hlength
        rcases hfar with hfar | hstuck
        · omega
        · have hrefused := hstuck head rfl
          have hheadAccepted : Accepts primary head.2.payload = true := by
            rcases List.mem_cons.mp hleft with rfl | hlater
            · exact haccepted
            · have hrest := (List.pairwise_append.mp hordered).2.1
              have hbefore := (List.pairwise_cons.mp hrest).1 row hlater
              have hhead : head ∈ spool.rows := hmem.mp (by
                rw [hadvanced.split]
                exact List.mem_append_right _ List.mem_cons_self)
              exact hunblocked head hhead row hrow hbefore haccepted
          rw [hrefused] at hheadAccepted
          cases hheadAccepted

end Blocking

/-! ## A record of another request -/

/-- A primary that has an attempt of the first request. -/
def persisted : Postgres.Session :=
  (Postgres.handle id 0 "lease" (.recordAttempt (failedAttempt .least "request"))
    Postgres.Session.closedRoute).2

/-- What it answers: the identity of an attempt never changes. -/
def identityCheck (attempt : AttemptRecord) : Except String Unit :=
  (Postgres.handle id 0 "lease" (.recordAttempt attempt) persisted).1

/-- The spool has the same attempt for another request, and behind it an attempt of its own. -/
def twoEntries : DurableUsageSpool :=
  (DurableUsageSpool.append .empty 0 (failedAttempt .least "stray")).append 1 otherAttempt

theorem keyed_twoEntries : twoEntries.Keyed :=
  (DurableUsageSpool.keyed_empty.append 0 _).append 1 otherAttempt

/-- The refused record stays at the head, and however often the spool is flushed, the record
behind it is not delivered. -/
theorem refused_record_blocks :
    identityCheck (failedAttempt .least "stray") =
      .error "attempt identity does not match the persisted attempt" ∧
    identityCheck otherAttempt = .ok () ∧
    ¬ DeliversAccepted identityCheck 100 twoEntries := by
  refine ⟨rfl, rfl, ?_⟩
  intro hdelivers
  have hrefused : Accepts identityCheck ⟨DurableUsageSpool.entryId (failedAttempt .least "stray"),
      failedAttempt .least "stray"⟩ = true :=
    hdelivers.accepts (by decide) keyed_twoEntries List.mem_cons_self
      (List.mem_cons_of_mem _ List.mem_cons_self) (Or.inl (by decide)) rfl
  cases hrefused

/-- The refused record behind the other one. -/
def refusedLast : DurableUsageSpool :=
  (DurableUsageSpool.append .empty 0 otherAttempt).append 1 (failedAttempt .least "stray")

theorem keyed_refusedLast : refusedLast.Keyed :=
  (DurableUsageSpool.keyed_empty.append 0 otherAttempt).append 1 _

/-- Nothing comes before the record that is accepted, so it is delivered. -/
theorem record_before_refused_delivered :
    identityCheck (failedAttempt .least "stray") =
      .error "attempt identity does not match the persisted attempt" ∧
    (∀ calls, ∃! s', Flushes identityCheck 100 calls (.start refusedLast) s') ∧
    DeliversAccepted identityCheck 100 refusedLast := by
  have hflushes := deliversAccepted_iff identityCheck 100 (by decide) keyed_refusedLast
  have hunblocked : ∀ a ∈ refusedLast.rows, ∀ b ∈ refusedLast.rows,
      Accepts identityCheck b.2.payload = true → a.2.queuedAt ≤ b.2.queuedAt →
        Accepts identityCheck a.2.payload = true := by
    decide +kernel
  refine ⟨rfl, hflushes.1, hflushes.2.mpr ?_⟩
  intro a ha b hb hbefore haccepted
  refine hunblocked a ha b hb haccepted ?_
  rcases hbefore with hearlier | ⟨hsame, -⟩
  · omega
  · omega
end SmartGateway
