import SmartGateway.Lib.OrderedRows
import SmartGateway.Runtime.UsageSpool

/-! # The spool as a queue

The rows of a spool in the order of `pending`: by the instant they were queued at, those of
one instant by id. An acknowledgement of the first entries drops them from the queue.
-/

namespace SmartGateway

namespace DurableUsageSpool

/-! ## Rows under the id of their entry -/

/-- Every row has the id of its entry. `append` writes no others. -/
def Keyed (spool : DurableUsageSpool) : Prop :=
  ∀ key row, spool.get? key = some row → row.payload.id = key

theorem keyed_empty : Keyed .empty := by
  intro key row hrow
  rw [KeyedTable.get?_empty] at hrow
  cases hrow

theorem Keyed.append {spool : DurableUsageSpool} (h : spool.Keyed) (now : Int)
    (attempt : AttemptRecord) : (spool.append now attempt).Keyed := by
  intro key row hrow
  rw [get?_append] at hrow
  split at hrow
  · cases hstored : spool.get? key with
    | none =>
      rw [hstored, Option.getD_none, Option.some.injEq] at hrow
      rw [← hrow]
    | some stored =>
      rw [hstored, Option.getD_some, Option.some.injEq] at hrow
      rw [← hrow]
      exact h key stored hstored
  · exact h key row hrow

theorem Keyed.acknowledge {spool : DurableUsageSpool} (h : spool.Keyed)
    (entryIds : List String) : (spool.acknowledge entryIds).Keyed := by
  intro key row hrow
  rw [get?_acknowledge] at hrow
  split at hrow
  · cases hrow
  · exact h key row hrow

/-! ## The queue -/

/-- `ORDER BY queued_at, id` puts `a` before `b`. -/
def Before (a b : String × SpoolRow) : Prop :=
  a.2.queuedAt < b.2.queuedAt ∨ (a.2.queuedAt = b.2.queuedAt ∧ a.1 < b.1)

/-- The order of `pending`, in which a row comes before itself. -/
abbrev Ordered (a b : String × SpoolRow) : Prop :=
  a.2.queuedAt < b.2.queuedAt ∨ (a.2.queuedAt = b.2.queuedAt ∧ a.1 ≤ b.1)

/-- The rows in the order they are delivered in. -/
def queue (spool : DurableUsageSpool) : List (String × SpoolRow) :=
  spool.rows.insertionSort Ordered

theorem pending_eq (spool : DurableUsageSpool) (limit : Nat) :
    spool.pending limit = (spool.queue.take limit).map fun row => row.2.payload :=
  rfl

instance : IsTrans (String × SpoolRow) Ordered := by
  constructor
  intro a b c hab hbc
  rcases hab with hab | ⟨hab, hkey⟩
  · rcases hbc with hbc | ⟨hbc, -⟩
    · exact Or.inl (lt_trans hab hbc)
    · exact Or.inl (lt_of_lt_of_eq hab hbc)
  · rcases hbc with hbc | ⟨hbc, hkey'⟩
    · exact Or.inl (lt_of_eq_of_lt hab hbc)
    · exact Or.inr ⟨hab.trans hbc, String.le_trans hkey hkey'⟩

instance : Std.Total (α := String × SpoolRow) Ordered := by
  constructor
  intro a b
  rcases lt_trichotomy a.2.queuedAt b.2.queuedAt with hlt | heq | hgt
  · exact Or.inl (Or.inl hlt)
  · rcases String.le_total a.1 b.1 with hkey | hkey
    · exact Or.inl (Or.inr ⟨heq, hkey⟩)
    · exact Or.inr (Or.inr ⟨heq.symm, hkey⟩)
  · exact Or.inr (Or.inl hgt)

theorem perm_queue (spool : DurableUsageSpool) : spool.queue.Perm spool.rows :=
  List.perm_insertionSort _ _

theorem mem_queue {spool : DurableUsageSpool} {row : String × SpoolRow} :
    row ∈ spool.queue ↔ spool.get? row.1 = some row.2 := by
  rw [(perm_queue spool).mem_iff, KeyedTable.get?_eq_some]

/-- No two rows of the queue have one id. -/
theorem nodup_queue (spool : DurableUsageSpool) : (spool.queue.map Prod.fst).Nodup :=
  ((perm_queue spool).map Prod.fst).nodup_iff.mpr spool.nodupKeys

/-- The order tells the rows of a spool apart. -/
theorem ordered_antisymm {a b : String × SpoolRow} (hab : Ordered a b) (hba : Ordered b a) :
    a.1 = b.1 := by
  rcases hab with hab | ⟨hab, hkey⟩
  · rcases hba with hba | ⟨hba, -⟩
    · omega
    · omega
  · rcases hba with hba | ⟨-, hkey'⟩
    · omega
    · exact String.le_antisymm hkey hkey'

theorem pairwise_queue (spool : DurableUsageSpool) : spool.queue.Pairwise Before := by
  have hordered : spool.queue.Pairwise Ordered := List.pairwise_insertionSort _ _
  have hkeys := nodup_queue spool
  rw [List.Nodup, List.pairwise_map] at hkeys
  refine hordered.imp₂ ?_ hkeys
  intro a b hab hne
  rcases hab with hab | ⟨hab, hkey⟩
  · exact Or.inl hab
  · have hlt : a.1 < b.1 := String.not_le.mp fun hle => hne (String.le_antisymm hkey hle)
    exact Or.inr ⟨hab, hlt⟩

/-- A row that comes before another does not come after it. -/
theorem Before.asymm {a b : String × SpoolRow} (h : Before a b) : ¬ Before b a := by
  intro h'
  rcases h with h | ⟨h, hkey⟩
  · rcases h' with h' | ⟨h', -⟩
    · omega
    · omega
  · rcases h' with h' | ⟨-, hkey'⟩
    · omega
    · exact String.lt_asymm hkey hkey'

theorem queue_erase (spool : DurableUsageSpool) (id : String) :
    queue (spool.erase id) = spool.queue.filter fun row => row.1 ≠ id := by
  have hanti : ∀ a ∈ spool.rows, ∀ b ∈ spool.rows, Ordered a b → Ordered b a → a = b := by
    intro a ha b hb hab hba
    exact List.inj_on_of_nodup_map spool.nodupKeys ha hb (ordered_antisymm hab hba)
  have hrows : (spool.erase id).rows = spool.rows.filter fun row => row.1 ≠ id := by
    apply List.filter_congr
    intro row _
    simp
  rw [queue, hrows]
  exact OrderedRows.insertionSort_filter Ordered hanti _

theorem queue_acknowledge (spool : DurableUsageSpool) (entryIds : List String) :
    (spool.acknowledge entryIds).queue = spool.queue.filter fun row => row.1 ∉ entryIds := by
  unfold acknowledge
  induction entryIds generalizing spool with
  | nil => simp
  | cons id entryIds ih =>
    rw [List.foldl_cons, ih, queue_erase, List.filter_filter]
    apply List.filter_congr
    intro row _
    simp [Bool.and_comm]

/-- The ids of the entries at the front of the queue are those of their rows. -/
theorem Keyed.ids_eq {spool : DurableUsageSpool} (h : spool.Keyed)
    {rows : List (String × SpoolRow)} (hrows : ∀ row ∈ rows, row ∈ spool.queue) :
    rows.map (fun row => row.2.payload.id) = rows.map Prod.fst := by
  apply List.map_congr_left
  intro row hrow
  exact h row.1 row.2 (mem_queue.mp (hrows row hrow))

/-- Acknowledging the first entries of the queue drops them from it. -/
theorem queue_acknowledge_front {spool : DurableUsageSpool} (h : spool.Keyed)
    {front rest : List (String × SpoolRow)} (hqueue : spool.queue = front ++ rest) :
    (spool.acknowledge (front.map fun row => row.2.payload.id)).queue = rest := by
  have hmem : ∀ row ∈ front, row ∈ spool.queue := by
    intro row hrow
    rw [hqueue]
    exact List.mem_append_left _ hrow
  have hids := h.ids_eq hmem
  have hnodup := nodup_queue spool
  rw [hqueue, List.map_append, List.nodup_append] at hnodup
  obtain ⟨-, -, hdisjoint⟩ := hnodup
  rw [queue_acknowledge, hids, hqueue, List.filter_append]
  have hfront : front.filter (fun row => row.1 ∉ front.map Prod.fst) = [] := by
    rw [List.filter_eq_nil_iff]
    intro row hrow
    have hmem : row.1 ∈ front.map Prod.fst := List.mem_map_of_mem hrow
    simp [hmem]
  have hrest : rest.filter (fun row => row.1 ∉ front.map Prod.fst) = rest := by
    rw [List.filter_eq_self]
    intro row hrow
    have hmem : row.1 ∉ front.map Prod.fst := by
      intro hfront
      exact hdisjoint row.1 hfront row.1 (List.mem_map_of_mem hrow) rfl
    simp [hmem]
  rw [hfront, hrest, List.nil_append]

end DurableUsageSpool

end SmartGateway
