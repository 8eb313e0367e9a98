import SmartGateway.Runtime.Delivery
import SmartGateway.Runtime.SpoolQueue

/-! # Flushing the usage spool

`flush_usage_spool` reads a batch, hands its entries to the primary and removes those that
were taken, in three steps between which others can append. Whatever the primary answers, the
entries it is offered are the first of the batch, up to the first refusal, and those removed
are exactly those it took.
-/

namespace SmartGateway

open Program

/-! ## A flush among appends -/

/-- The spool, the records the primary was offered, each with whether it took it, and the
appends of others. -/
structure FlushState where
  spool : DurableUsageSpool
  offered : List (AttemptRecord × Bool)
  appended : List (Int × AttemptRecord)

/-- Appends at their instants, one after the other. -/
def DurableUsageSpool.appendAll (spool : DurableUsageSpool)
    (appends : List (Int × AttemptRecord)) : DurableUsageSpool :=
  appends.foldl (fun spool call => spool.append call.1 call.2) spool

namespace FlushState

/-- Before a flush of a spool. -/
def start (spool : DurableUsageSpool) : FlushState := ⟨spool, [], []⟩

/-- Others append to the spool. -/
def append (s : FlushState) (appends : List (Int × AttemptRecord)) : FlushState :=
  { s with
    spool := s.spool.appendAll appends
    appended := s.appended ++ appends }

/-- The primary is offered a record. -/
def offer (s : FlushState) (attempt : AttemptRecord) (accepted : Bool) : FlushState :=
  { s with offered := s.offered ++ [(attempt, accepted)] }

def acknowledge (s : FlushState) (entryIds : List String) : FlushState :=
  { s with spool := s.spool.acknowledge entryIds }

end FlushState

/-- How the calls of a flush can be answered: the primary takes a record or fails, and the
local database, which is transactional, works or fails. -/
inductive FlushAnswer : (op : DeliveryOp) → FlushState → op.Answer → FlushState → Prop where
  | listed (s : FlushState) (limit : Nat) :
    FlushAnswer (.pending limit) s (.ok (s.spool.pending limit)) s
  | listFailed (s : FlushState) (limit : Nat) (error : String) :
    FlushAnswer (.pending limit) s (.error error) s
  | accepted (s : FlushState) (attempt : AttemptRecord) :
    FlushAnswer (.side .primary (.recordAttempt attempt)) s (.ok ()) (s.offer attempt true)
  | refused (s : FlushState) (attempt : AttemptRecord) (error : String) :
    FlushAnswer (.side .primary (.recordAttempt attempt)) s (.error error) (s.offer attempt false)
  | acknowledged (s : FlushState) (entryIds : List String) :
    FlushAnswer (.acknowledge entryIds) s (.ok ()) (s.acknowledge entryIds)
  | acknowledgeFailed (s : FlushState) (entryIds : List String) (error : String) :
    FlushAnswer (.acknowledge entryIds) s (.error error) s

/-- A step of a flush, before which others can append any number of records. -/
def FlushStep (op : DeliveryOp) (s : FlushState) (answer : op.Answer) (s' : FlushState) : Prop :=
  ∃ appends, FlushAnswer op (s.append appends) answer s'

/-- How the loop goes down a batch: entries are offered in their order, and those in `taken`
are accepted, up to the end of the batch or the first refusal. -/
inductive Offers : List SpoolEntry → List SpoolEntry → List (AttemptRecord × Bool) → Prop where
  | done : Offers [] [] []
  | accepted (entry : SpoolEntry) {batch taken : List SpoolEntry}
    {offered : List (AttemptRecord × Bool)} (hrest : Offers batch taken offered) :
    Offers (entry :: batch) (entry :: taken) ((entry.attempt, true) :: offered)
  | refused (entry : SpoolEntry) (batch : List SpoolEntry) :
    Offers (entry :: batch) [] [(entry.attempt, false)]

theorem Offers.prefix_batch {batch taken : List SpoolEntry}
    {offered : List (AttemptRecord × Bool)} (h : Offers batch taken offered) : taken <+: batch := by
  induction h with
  | done => exact List.prefix_rfl
  | accepted entry _ ih => exact (List.prefix_cons_inj entry).mpr ih
  | refused entry batch => exact List.nil_prefix

/-- A batch of a spool: its first entries in the order `(queued_at, id)`, each stored under its
id. -/
structure DurableUsageSpool.Heads (spool : DurableUsageSpool) (limit : Nat)
    (batch : List SpoolEntry) : Prop where
  ordered : ∃ rows : List (String × SpoolRow), rows.Perm spool.rows ∧ rows.Pairwise Before ∧
    batch = (rows.take limit).map fun row => row.2.payload
  stored : ∀ entry ∈ batch, ∃ row, spool.get? entry.id = some row ∧ row.payload = entry

/-- What a flush of `spool` comes to when others append `earlier` before it reads its batch and
`later` afterwards. -/
structure FlushOutcome (spool : DurableUsageSpool) (limit : Nat)
    (earlier later : List (Int × AttemptRecord)) (batch taken : List SpoolEntry)
    (result : Except String Nat) (s' : FlushState) : Prop where
  appended : s'.appended = earlier ++ later
  /-- The batch is the front of the queue, unless it could not be read. -/
  listed : (spool.appendAll earlier).Heads limit batch ∨
    batch = [] ∧ ∃ error, result = .error error
  offers : Offers batch taken s'.offered
  /-- A flush that returns `n` removes the first `n` entries of the batch, those that were
  taken, and nothing else. -/
  removed : ∀ n, result = .ok n → n = taken.length ∧ taken = batch.take n ∧
    ∀ id, s'.spool.get? id =
      if id ∈ taken.map SpoolEntry.id then none
      else (spool.appendAll (earlier ++ later)).get? id
  /-- A flush that fails removes nothing. -/
  failed : ∀ error, result = .error error → s'.spool = spool.appendAll (earlier ++ later)
  /-- What was there when the batch was read, or after any append since, is still there, but
  for what was taken. -/
  kept : ∀ before after, later = before ++ after → ∀ id row,
    (spool.appendAll (earlier ++ before)).get? id = some row →
    id ∉ taken.map SpoolEntry.id → s'.spool.get? id = some row

/-! ## Appending while a flush runs -/

theorem DurableUsageSpool.appendAll_append (spool : DurableUsageSpool)
    (earlier later : List (Int × AttemptRecord)) :
    spool.appendAll (earlier ++ later) = (spool.appendAll earlier).appendAll later :=
  List.foldl_append

/-- An append changes no entry that is there. -/
theorem DurableUsageSpool.get?_appendAll {spool : DurableUsageSpool} {id : String}
    {row : SpoolRow} (h : spool.get? id = some row) (appends : List (Int × AttemptRecord)) :
    (spool.appendAll appends).get? id = some row := by
  induction appends generalizing spool with
  | nil => exact h
  | cons call appends ih =>
    apply ih
    rw [get?_append, h]
    split
    · rfl
    · rfl

theorem DurableUsageSpool.Keyed.appendAll {spool : DurableUsageSpool} (h : spool.Keyed)
    (appends : List (Int × AttemptRecord)) : (spool.appendAll appends).Keyed := by
  induction appends generalizing spool with
  | nil => exact h
  | cons call appends ih => exact ih (h.append call.1 call.2)

namespace FlushState

theorem append_append (s : FlushState) (earlier later : List (Int × AttemptRecord)) :
    (s.append earlier).append later = s.append (earlier ++ later) := by
  unfold append
  rw [DurableUsageSpool.appendAll_append, List.append_assoc]

/-- Offers and appends do not touch each other. -/
theorem append_offer (s : FlushState) (attempt : AttemptRecord) (accepted : Bool)
    (appends : List (Int × AttemptRecord)) :
    (s.offer attempt accepted).append appends = (s.append appends).offer attempt accepted :=
  rfl

end FlushState

/-! ## The loop -/

/-- Whatever the answers are, the loop goes down its batch and returns the ids of what was
taken. The induction is on the batch. -/
theorem runs_deliverEntries {batch : List SpoolEntry} {acknowledged result : List String}
    {s s' : FlushState}
    (h : Runs (S := delivery) FlushStep (deliverEntries batch acknowledged) s result s') :
    ∃ appends taken offered, Offers batch taken offered ∧
      result = acknowledged ++ taken.map SpoolEntry.id ∧
      s' = { s.append appends with offered := s.offered ++ offered } := by
  induction batch generalizing s acknowledged with
  | nil =>
    obtain ⟨rfl, rfl⟩ := runs_pure.mp h
    refine ⟨[], [], [], .done, ?_, ?_⟩
    · rw [List.map_nil, List.append_nil]
    · simp [FlushState.append, DurableUsageSpool.appendAll]
  | cons entry batch ih =>
    obtain ⟨answer, mid, hcall, hrest⟩ := runs_bind.mp h
    obtain ⟨appends, hanswer⟩ := runs_perform.mp hcall
    cases hanswer with
    | refused _ _ error =>
      -- the loop breaks
      obtain ⟨rfl, rfl⟩ := runs_pure.mp hrest
      refine ⟨appends, [], [(entry.attempt, false)], .refused entry batch, ?_, rfl⟩
      rw [List.map_nil, List.append_nil]
    | accepted =>
      obtain ⟨later, taken, offered, hoffers, hresult, hs'⟩ := ih hrest
      refine ⟨appends ++ later, entry :: taken, (entry.attempt, true) :: offered,
        .accepted entry hoffers, ?_, ?_⟩
      · rw [hresult, List.map_cons, List.append_assoc, List.singleton_append]
      · rw [hs', FlushState.append_offer, FlushState.append_append]
        simp [FlushState.offer, FlushState.append]

/-! ## A whole flush -/

theorem DurableUsageSpool.Keyed.heads {spool : DurableUsageSpool} (h : spool.Keyed)
    (limit : Nat) : spool.Heads limit (spool.pending limit) where
  ordered := ⟨spool.queue, perm_queue spool, pairwise_queue spool, rfl⟩
  stored := by
    intro entry hentry
    obtain ⟨key, row, hrow, rfl⟩ := mem_pending hentry
    exact ⟨row, (h key row hrow).symm ▸ hrow, rfl⟩

/-- What a flush removes, where it gets that far. -/
theorem kept_of_removed {spool : DurableUsageSpool} {earlier later : List (Int × AttemptRecord)}
    {taken : List SpoolEntry} {s' : FlushState}
    (h : ∀ id, id ∉ taken.map SpoolEntry.id →
      s'.spool.get? id = (spool.appendAll (earlier ++ later)).get? id) :
    ∀ before after, later = before ++ after → ∀ id row,
      (spool.appendAll (earlier ++ before)).get? id = some row →
      id ∉ taken.map SpoolEntry.id → s'.spool.get? id = some row := by
  intro before after hlater id row hrow hid
  rw [h id hid, hlater, ← List.append_assoc, DurableUsageSpool.appendAll_append]
  exact DurableUsageSpool.get?_appendAll hrow after

/-- The batch could not be read. -/
theorem flushOutcome_unread (spool : DurableUsageSpool) (limit : Nat)
    (earlier : List (Int × AttemptRecord)) (error : String) :
    FlushOutcome spool limit earlier [] [] [] (.error error)
      ⟨spool.appendAll earlier, [], earlier⟩ where
  appended := (List.append_nil earlier).symm
  listed := Or.inr ⟨rfl, error, rfl⟩
  offers := .done
  removed := by
    intro n hn
    cases hn
  failed := by
    intro _ _
    rw [List.append_nil]
  kept := by
    apply kept_of_removed
    intro id _
    rw [List.append_nil]

section Read

variable {spool : DurableUsageSpool} {limit : Nat} {earlier : List (Int × AttemptRecord)}
  {taken : List SpoolEntry} {offered : List (AttemptRecord × Bool)}

/-- The batch was delivered, but could not be acknowledged. -/
theorem flushOutcome_unacknowledged (hkeyed : spool.Keyed)
    (hoffers : Offers ((spool.appendAll earlier).pending limit) taken offered)
    (later : List (Int × AttemptRecord)) (error : String) :
    FlushOutcome spool limit earlier later ((spool.appendAll earlier).pending limit) taken
      (.error error) ⟨spool.appendAll (earlier ++ later), offered, earlier ++ later⟩ where
  appended := rfl
  listed := Or.inl ((hkeyed.appendAll earlier).heads limit)
  offers := hoffers
  removed := by
    intro n hn
    cases hn
  failed := by
    intro _ _
    rfl
  kept := by
    apply kept_of_removed
    intro id _
    rfl

theorem flushOutcome_acknowledged (hkeyed : spool.Keyed)
    (hoffers : Offers ((spool.appendAll earlier).pending limit) taken offered)
    (later : List (Int × AttemptRecord)) :
    FlushOutcome spool limit earlier later ((spool.appendAll earlier).pending limit) taken
      (.ok taken.length)
      ⟨(spool.appendAll (earlier ++ later)).acknowledge (taken.map SpoolEntry.id), offered,
        earlier ++ later⟩ where
  appended := rfl
  listed := Or.inl ((hkeyed.appendAll earlier).heads limit)
  offers := hoffers
  removed := by
    intro n hn
    rw [Except.ok.injEq] at hn
    subst hn
    refine ⟨rfl, List.prefix_iff_eq_take.mp hoffers.prefix_batch, ?_⟩
    intro id
    rw [DurableUsageSpool.get?_acknowledge]
  failed := by
    intro error herror
    cases herror
  kept := by
    apply kept_of_removed
    intro id hid
    rw [DurableUsageSpool.get?_acknowledge, if_neg hid]

end Read

theorem exists_flushOutcome {spool : DurableUsageSpool} (hkeyed : spool.Keyed) {limit : Nat}
    {result : Except String Nat} {s' : FlushState}
    (h : Runs (S := delivery) FlushStep (flushUsageSpool limit) (.start spool) result s') :
    ∃ earlier later batch taken,
      FlushOutcome spool limit earlier later batch taken result s' := by
  obtain ⟨listed, read, hlist, h⟩ := runs_bind.mp h
  obtain ⟨earlier, hlisted⟩ := runs_perform.mp hlist
  cases hlisted with
  | listFailed _ _ error =>
    obtain ⟨rfl, rfl⟩ := runs_pure.mp h
    exact ⟨earlier, [], [], [], flushOutcome_unread spool limit earlier error⟩
  | listed =>
    obtain ⟨acknowledged, mid, hdeliver, h⟩ := runs_bind.mp h
    obtain ⟨during, taken, offered, hoffers, rfl, rfl⟩ := runs_deliverEntries hdeliver
    obtain ⟨answer, last, hacknowledge, h⟩ := runs_bind.mp h
    obtain ⟨after, hanswer⟩ := runs_perform.mp hacknowledge
    rw [List.nil_append] at hanswer h
    -- what others append while the batch is delivered and acknowledged comes after `earlier`
    have hspool : ((spool.appendAll earlier).appendAll during).appendAll after =
        spool.appendAll (earlier ++ (during ++ after)) := by
      rw [DurableUsageSpool.appendAll_append, DurableUsageSpool.appendAll_append]
    have happended : earlier ++ during ++ after = earlier ++ (during ++ after) :=
      List.append_assoc ..
    refine ⟨earlier, during ++ after, (spool.appendAll earlier).pending limit, taken, ?_⟩
    cases hanswer with
    | acknowledgeFailed _ _ error =>
      obtain ⟨rfl, rfl⟩ := runs_pure.mp h
      change FlushOutcome _ _ _ _ _ _ _
        ⟨((spool.appendAll earlier).appendAll during).appendAll after, offered,
          earlier ++ during ++ after⟩
      rw [hspool, happended]
      exact flushOutcome_unacknowledged hkeyed hoffers (during ++ after) error
    | acknowledged =>
      obtain ⟨rfl, rfl⟩ := runs_pure.mp h
      rw [List.length_map]
      change FlushOutcome _ _ _ _ _ _ _
        ⟨(((spool.appendAll earlier).appendAll during).appendAll after).acknowledge _, offered,
          earlier ++ during ++ after⟩
      rw [hspool, happended]
      exact flushOutcome_acknowledged hkeyed hoffers (during ++ after)

/-! ## Repeated flushes of a spool nobody appends to -/

/-- How the calls of a flush are answered when the local database works, nobody appends, and
the primary answers a record always alike. -/
inductive SteadyAnswer (primary : AttemptRecord → Except String Unit) :
    (op : DeliveryOp) → FlushState → op.Answer → FlushState → Prop where
  | listed (s : FlushState) (limit : Nat) :
    SteadyAnswer primary (.pending limit) s (.ok (s.spool.pending limit)) s
  | offered (s : FlushState) (attempt : AttemptRecord) :
    SteadyAnswer primary (.side .primary (.recordAttempt attempt)) s (primary attempt)
      (s.offer attempt (primary attempt).isOk)
  | acknowledged (s : FlushState) (entryIds : List String) :
    SteadyAnswer primary (.acknowledge entryIds) s (.ok ()) (s.acknowledge entryIds)

/-- Flushes, one after the other. -/
inductive Flushes (primary : AttemptRecord → Except String Unit) (limit : Nat) :
    Nat → FlushState → FlushState → Prop where
  | none (s : FlushState) : Flushes primary limit 0 s s
  | again {calls : Nat} {s mid s' : FlushState} {result : Except String Nat}
    (hcalls : Flushes primary limit calls s mid)
    (hflush : Runs (S := delivery) (SteadyAnswer primary) (flushUsageSpool limit) mid result s') :
    Flushes primary limit (calls + 1) s s'

/-- Whether the primary takes the record of an entry. -/
def Accepts (primary : AttemptRecord → Except String Unit) (entry : SpoolEntry) : Bool :=
  (primary entry.attempt).isOk

section Steady

variable {primary : AttemptRecord → Except String Unit} {limit : Nat} {s s' : FlushState}

/-- What the loop offers of a batch. -/
def offersOf (primary : AttemptRecord → Except String Unit) (batch : List SpoolEntry) :
    List (AttemptRecord × Bool) :=
  (batch.takeWhile (Accepts primary)).map (fun entry => (entry.attempt, true)) ++
    ((batch.dropWhile (Accepts primary)).take 1).map fun entry => (entry.attempt, false)

/-- The records that are taken of a batch are those before the first refusal. -/
theorem mem_offersOf {batch : List SpoolEntry} {attempt : AttemptRecord} :
    (attempt, true) ∈ offersOf primary batch ↔
      ∃ entry ∈ batch.takeWhile (Accepts primary), entry.attempt = attempt := by
  rw [offersOf, List.mem_append, List.mem_map, List.mem_map]
  constructor
  · rintro (⟨entry, hentry, h⟩ | ⟨entry, -, h⟩)
    · rw [Prod.mk.injEq] at h
      exact ⟨entry, hentry, h.1⟩
    · rw [Prod.mk.injEq] at h
      cases h.2
  · rintro ⟨entry, hentry, rfl⟩
    exact Or.inl ⟨entry, hentry, rfl⟩

theorem runs_steady_deliver {batch : List SpoolEntry} {acknowledged result : List String} :
    Runs (S := delivery) (SteadyAnswer primary) (deliverEntries batch acknowledged) s result s' ↔
      result = acknowledged ++ (batch.takeWhile (Accepts primary)).map SpoolEntry.id ∧
      s' = { s with offered := s.offered ++ offersOf primary batch } := by
  induction batch generalizing s acknowledged with
  | nil =>
    rw [deliverEntries, runs_pure]
    simp [offersOf]
  | cons entry batch ih =>
    rw [deliverEntries, runs_bind]
    have hoffer : ∀ {answer : Except String Unit} {mid : FlushState},
        Runs (S := delivery) (SteadyAnswer primary)
          (perform (S := delivery) (.side .primary (.recordAttempt entry.attempt))) s answer mid ↔
        answer = primary entry.attempt ∧ mid = s.offer entry.attempt (primary entry.attempt).isOk := by
      intro answer mid
      rw [runs_perform]
      constructor
      · intro h
        cases h
        exact ⟨rfl, rfl⟩
      · rintro ⟨rfl, rfl⟩
        exact .offered s entry.attempt
    simp only [hoffer]
    -- the loop ends at the first refusal, as `takeWhile` does
    cases hanswer : primary entry.attempt with
    | error error =>
      have hrefused : Accepts primary entry = false := by
        rw [Accepts, hanswer]
        rfl
      simp [runs_pure, offersOf, hrefused, FlushState.offer, Except.isOk, Except.toBool]
    | ok _ =>
      have haccepted : Accepts primary entry = true := by
        rw [Accepts, hanswer]
        rfl
      simp [ih, offersOf, haccepted, FlushState.offer, Except.isOk, Except.toBool]

/-- The state after a flush that is answered steadily. -/
def FlushState.flushed (s : FlushState) (primary : AttemptRecord → Except String Unit)
    (limit : Nat) : FlushState where
  spool := s.spool.acknowledge
    (((s.spool.pending limit).takeWhile (Accepts primary)).map SpoolEntry.id)
  offered := s.offered ++ offersOf primary (s.spool.pending limit)
  appended := s.appended

theorem runs_steady_flush {result : Except String Nat} :
    Runs (S := delivery) (SteadyAnswer primary) (flushUsageSpool limit) s result s' ↔
      result = .ok ((s.spool.pending limit).takeWhile (Accepts primary)).length ∧
      s' = s.flushed primary limit := by
  constructor
  · intro h
    obtain ⟨listed, read, hlist, h⟩ := runs_bind.mp h
    cases runs_perform.mp hlist with
    | listed =>
      obtain ⟨acknowledged, mid, hdeliver, h⟩ := runs_bind.mp h
      obtain ⟨rfl, rfl⟩ := runs_steady_deliver.mp hdeliver
      obtain ⟨answer, last, hacknowledge, h⟩ := runs_bind.mp h
      cases runs_perform.mp hacknowledge with
      | acknowledged =>
        obtain ⟨rfl, rfl⟩ := runs_pure.mp h
        rw [List.nil_append, List.length_map]
        exact ⟨rfl, rfl⟩
  · rintro ⟨rfl, rfl⟩
    refine runs_bind.mpr ⟨_, _, runs_perform.mpr (.listed s limit), ?_⟩
    refine runs_bind.mpr ⟨_, _, runs_steady_deliver.mpr ⟨rfl, rfl⟩, ?_⟩
    refine runs_bind.mpr ⟨_, _, runs_perform.mpr (.acknowledged _ _), ?_⟩
    rw [List.nil_append]
    refine runs_pure.mpr ⟨?_, rfl⟩
    rw [List.length_map]

/-- Flushes that are answered steadily come to one state. -/
theorem existsUnique_flushes (primary : AttemptRecord → Except String Unit) (limit calls : Nat)
    (s : FlushState) : ∃! s', Flushes primary limit calls s s' := by
  induction calls with
  | zero =>
    refine ⟨s, .none s, ?_⟩
    intro s' h
    cases h
    rfl
  | succ calls ih =>
    obtain ⟨mid, hmid, hunique⟩ := ih
    refine ⟨mid.flushed primary limit, .again hmid (runs_steady_flush.mpr ⟨rfl, rfl⟩), ?_⟩
    intro s' h
    cases h with
    | again hcalls hflush =>
      obtain ⟨-, rfl⟩ := runs_steady_flush.mp hflush
      rw [hunique _ hcalls]

/-! ## How far flushes come -/

/-- Flushes of a queue have come this far: its front was accepted and is gone, the rest is
left. -/
structure Advanced (primary : AttemptRecord → Except String Unit)
    (queue front rest : List (String × SpoolRow)) (s : FlushState) : Prop where
  split : queue = front ++ rest
  left : s.spool.queue = rest
  keyed : s.spool.Keyed
  accepted : ∀ row ∈ front, Accepts primary row.2.payload = true
  offered : ∀ attempt, (attempt, true) ∈ s.offered ↔
    ∃ row ∈ front, row.2.payload.attempt = attempt

/-- The next entry of a queue is one the primary does not take. -/
def Stuck (primary : AttemptRecord → Except String Unit) (queue : List (String × SpoolRow)) :
    Prop :=
  ∀ row ∈ queue.head?, Accepts primary row.2.payload = false

variable {queue front rest : List (String × SpoolRow)}

/-- Where nothing is taken of a batch, its first element is refused. -/
theorem refused_of_takeWhile_nil {α : Type} {p : α → Bool} {xs : List α} (hlimit : 0 < limit)
    (h : (xs.take limit).takeWhile p = []) : ∀ x ∈ xs.head?, p x = false := by
  intro x hx
  have hnone : ((xs.take limit).takeWhile p).head? = none := by rw [h, List.head?_nil]
  rw [List.head?_takeWhile, List.head?_take, if_neg (by omega), Option.mem_def.mp hx] at hnone
  simpa using hnone

/-- A flush goes on from where the others came to, unless the next entry is refused. -/
theorem Advanced.flushed (h : Advanced primary queue front rest s) (hlimit : 0 < limit) :
    ∃ more rest', rest = more ++ rest' ∧
      Advanced primary queue (front ++ more) rest' (s.flushed primary limit) ∧
      (more = [] → Stuck primary rest') := by
  let accepts : String × SpoolRow → Bool := fun row => Accepts primary row.2.payload
  -- what is taken is the longest front of the batch that the primary accepts
  let more := (rest.take limit).takeWhile accepts
  have hprefix : more <+: rest := (List.takeWhile_prefix accepts).trans (List.take_prefix limit rest)
  obtain ⟨rest', hrest⟩ := hprefix
  have hpending : (s.spool.pending limit).takeWhile (Accepts primary) =
      more.map fun row => row.2.payload := by
    rw [DurableUsageSpool.pending_eq, h.left, List.takeWhile_map]
    rfl
  have hids : ((s.spool.pending limit).takeWhile (Accepts primary)).map SpoolEntry.id =
      more.map fun row => row.2.payload.id := by
    rw [hpending, List.map_map]
    rfl
  have haccepted : ∀ row ∈ more, Accepts primary row.2.payload = true := by
    intro row hrow
    have hall : more.all accepts = true := List.all_takeWhile
    exact List.all_eq_true.mp hall row hrow
  refine ⟨more, rest', hrest.symm, ?_, ?_⟩
  · constructor
    · rw [h.split, ← hrest, List.append_assoc]
    · rw [FlushState.flushed, hids]
      exact DurableUsageSpool.queue_acknowledge_front h.keyed (h.left.trans hrest.symm)
    · exact h.keyed.acknowledge _
    · intro row hrow
      rcases List.mem_append.mp hrow with hrow | hrow
      · exact h.accepted row hrow
      · exact haccepted row hrow
    · intro attempt
      have hoffers : (attempt, true) ∈ offersOf primary (s.spool.pending limit) ↔
          ∃ row ∈ more, row.2.payload.attempt = attempt := by
        simp only [mem_offersOf, hpending, List.mem_map]
        constructor
        · rintro ⟨entry, ⟨row, hrow, rfl⟩, hattempt⟩
          exact ⟨row, hrow, hattempt⟩
        · rintro ⟨row, hrow, hattempt⟩
          exact ⟨_, ⟨row, hrow, rfl⟩, hattempt⟩
      rw [FlushState.flushed, List.mem_append, h.offered, hoffers]
      simp only [List.mem_append, or_and_right, exists_or]
  · -- nothing more was taken, so the entry at the head was refused
    intro hmore
    rw [hmore, List.nil_append] at hrest
    rw [hrest]
    exact refused_of_takeWhile_nil hlimit hmore

/-- Each of a number of flushes takes an entry, until one is refused at the head. -/
theorem Flushes.advanced {spool : DurableUsageSpool} (hkeyed : spool.Keyed) (hlimit : 0 < limit)
    {calls : Nat} (h : Flushes primary limit calls (.start spool) s') :
    ∃ front rest, Advanced primary spool.queue front rest s' ∧
      (calls ≤ front.length ∨ Stuck primary rest) := by
  induction calls generalizing s' with
  | zero =>
    cases h
    refine ⟨[], spool.queue, ?_, Or.inl (Nat.zero_le _)⟩
    constructor
    · rfl
    · rfl
    · exact hkeyed
    · intro row hrow
      cases hrow
    · intro attempt
      simp [FlushState.start]
  | succ calls ih =>
    cases h with
    | again hcalls hflush =>
      obtain ⟨-, rfl⟩ := runs_steady_flush.mp hflush
      obtain ⟨front, rest, hadvanced, hfar⟩ := ih hcalls
      obtain ⟨more, rest', hrest, hnext, hstuck⟩ := hadvanced.flushed hlimit
      refine ⟨front ++ more, rest', hnext, ?_⟩
      cases more with
      | nil => exact Or.inr (hstuck rfl)
      | cons row more =>
        left
        rw [List.length_append, List.length_cons]
        rcases hfar with hfar | hrefused
        · omega
        · -- a refused head is not taken
          have hhead := hrefused row (by rw [hrest]; rfl)
          have haccepted := hnext.accepted row (by simp)
          rw [haccepted] at hhead
          cases hhead

end Steady

/-- A flush offers its batch in the order of the queue up to the first refusal, and removes
exactly what was taken, among any appends; one that fails removes nothing. Where the primary
takes everything, flushes with a positive limit empty the spool. -/
theorem flush_delivers_front {spool : DurableUsageSpool} (hkeyed : spool.Keyed) (limit : Nat) :
    (∀ result s', Runs (S := delivery) FlushStep (flushUsageSpool limit) (.start spool) result s' →
      ∃ earlier later batch taken,
        FlushOutcome spool limit earlier later batch taken result s') ∧
    (0 < limit → ∀ primary : AttemptRecord → Except String Unit,
      (∀ attempt, primary attempt = .ok ()) → ∀ calls, spool.rows.length ≤ calls →
        (∃! s', Flushes primary limit calls (.start spool) s') ∧
        ∀ s', Flushes primary limit calls (.start spool) s' → s'.spool.rows = [] ∧
          ∀ row ∈ spool.rows, (row.2.payload.attempt, true) ∈ s'.offered) := by
  constructor
  · intro result s' h
    exact exists_flushOutcome hkeyed h
  · intro hlimit primary haccepts calls hcalls
    refine ⟨existsUnique_flushes primary limit calls _, ?_⟩
    intro s' h
    obtain ⟨front, rest, hadvanced, hfar⟩ := Flushes.advanced hkeyed hlimit h
    have hlength := (DurableUsageSpool.perm_queue spool).length_eq
    rw [hadvanced.split, List.length_append] at hlength
    have hrest : rest = [] := by
      rcases hfar with hfar | hstuck
      · exact List.length_eq_zero_iff.mp (by omega)
      · -- the primary refuses nothing
        rw [← List.head?_eq_none_iff, Option.eq_none_iff_forall_ne_some]
        intro row hrow
        have hrefused := hstuck row hrow
        rw [Accepts, haccepts] at hrefused
        cases hrefused
    constructor
    · have hqueue := DurableUsageSpool.perm_queue s'.spool
      rw [hadvanced.left, hrest] at hqueue
      exact hqueue.nil_eq.symm
    · intro row hrow
      have hmem := (DurableUsageSpool.perm_queue spool).mem_iff.mpr hrow
      rw [hadvanced.split, hrest, List.append_nil] at hmem
      exact (hadvanced.offered _).mpr ⟨row, hmem, rfl⟩

/-- A failed attempt, of some request. -/
def failedAttempt (attemptId : AttemptId) (requestId : String) : AttemptRecord where
  attemptId := attemptId
  requestId := requestId
  routeId := "route"
  outcome := .failed
  failureCategory := none

/-- A failed attempt of another request. -/
def otherAttempt : AttemptRecord :=
  failedAttempt ⟨"10000000-0000-4000-8000-000000000000", by decide⟩ "other"

/-- A spool with one entry. -/
def oneEntry : DurableUsageSpool :=
  DurableUsageSpool.append .empty 0 (failedAttempt .least "request")

/-- An entry is appended while the one before it is delivered. -/
theorem flush_among_appends :
    ∃ earlier later batch taken,
      FlushOutcome oneEntry 100 earlier later batch taken (.ok 1)
        ⟨(oneEntry.append 1 otherAttempt).acknowledge
            [DurableUsageSpool.entryId (failedAttempt .least "request")],
          [(failedAttempt .least "request", true)], [(1, otherAttempt)]⟩ := by
  apply (flush_delivers_front (DurableUsageSpool.keyed_empty.append 0 _) 100).1
  refine runs_bind.mpr ⟨_, _, runs_perform.mpr ⟨[], .listed _ 100⟩, ?_⟩
  refine runs_bind.mpr ⟨_, _, runs_bind.mpr ⟨_, _, runs_perform.mpr ⟨[(1, otherAttempt)],
    .accepted _ _⟩, .pure _ _⟩, ?_⟩
  exact runs_bind.mpr ⟨_, _, runs_perform.mpr ⟨[], .acknowledged _ _⟩, .pure _ _⟩

end SmartGateway
