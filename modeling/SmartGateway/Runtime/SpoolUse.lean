import Mathlib.Data.List.TakeWhile
import SmartGateway.Runtime.Accounting
import SmartGateway.Runtime.TransitionOrder

/-! # The spool in use

Any number of appends and flushes at once on one spool, the primary taking or refusing each
record it is offered. What the spool holds of an attempt that was not delivered yet is what was
appended, so the order in which it lists is the order in which it delivers.
-/

namespace SmartGateway

open Concurrent Program Precedence DurableUsageSpool
open Deliveries (Taken)

/-- The calls that use the spool. -/
inductive SpoolCall where
  | append (attempt : AttemptRecord)
  | flush (limit : Nat)

/-- How their calls can be answered: those of a flush as in a flush among appends, and an
append at some instant works or fails. -/
inductive SpoolAnswer : (op : DeliveryOp) → FlushState → op.Answer → FlushState → Prop where
  | flush {op : DeliveryOp} {s : FlushState} {answer : op.Answer} {s' : FlushState}
    (h : FlushAnswer op s answer s') : SpoolAnswer op s answer s'
  | appended (s : FlushState) (now : Int) (attempt : AttemptRecord) :
    SpoolAnswer (.append attempt) s (.ok (entryId attempt)) (s.append [(now, attempt)])
  | appendFailed (s : FlushState) (attempt : AttemptRecord) (error : String) :
    SpoolAnswer (.append attempt) s (.error error) s

/-- Appends and flushes on one spool. A call can be dropped at any point, as by a restart. -/
def spoolUse : Concurrent delivery FlushState SpoolCall where
  Ret
    | .append _ => Except String Unit
    | .flush _ => Except String Nat
  body
    | .append attempt => appendAttempt attempt
    | .flush limit => flushUsageSpool limit
  Effect _ := SpoolAnswer
  Ambient s ended s' := s' = s ∧ ended = fun _ => False

/-- Runs from an empty spool. The state records every append with its instant. -/
def spoolRuns : Transition (World spoolUse) (Label spoolUse) :=
  spoolUse.toTransition fun s => s = .start .empty

/-- `pending` lists the committed record before the terminal one, for every limit. -/
def ListedInOrder (history : List (Int × AttemptRecord))
    (committed terminal : Int × AttemptRecord) : Prop :=
  ∀ limit, ListsInOrder committed.2 terminal.2 ((appendAll .empty history).pending limit)

/-- In every run with these appends, flushes deliver the committed record before the terminal
one, and until it is delivered the spool lists it first. -/
def DeliveredInOrder (history : List (Int × AttemptRecord))
    (committed terminal : Int × AttemptRecord) : Prop :=
  ∀ w, spoolRuns.Reachable w → w.shared.appended = history →
    DeliversInOrder committed.2 terminal.2 w.shared.offered ∧
    ∀ limit, (committed.2, true) ∈ w.shared.offered ∨
      ListsInOrder committed.2 terminal.2 (w.shared.spool.pending limit)

namespace SpoolUse

variable {past : List (Event delivery)}

/-! ## What a flush goes by -/

/-- The primary took the first entries of a batch. -/
def TookFront (past : List (Event delivery)) (taken rest : List SpoolEntry) : Prop :=
  (∃ limit, ⟨.pending limit, .ok (taken ++ rest)⟩ ∈ past) ∧
    ∀ entry ∈ taken, Taken past entry.attempt

/-- A flush offers a record when those before it in the batch were taken, and acknowledges the
front of a batch that was taken. -/
def Follows (past : List (Event delivery)) : DeliveryOp → Prop
  | .side _ (.recordAttempt attempt) =>
    ∃ taken entry rest, TookFront past taken (entry :: rest) ∧ entry.attempt = attempt
  | .acknowledge entryIds =>
    ∃ taken rest, TookFront past taken rest ∧ entryIds = taken.map SpoolEntry.id
  | _ => True

theorem TookFront.mono {taken rest : List SpoolEntry} (h : TookFront past taken rest)
    (later : List (Event delivery)) : TookFront (past ++ later) taken rest := by
  obtain ⟨⟨limit, hlisted⟩, htaken⟩ := h
  constructor
  · exact ⟨limit, List.mem_append_left _ hlisted⟩
  · intro entry hentry
    exact List.mem_append_left _ (htaken entry hentry)

/-- One entry more of the batch was taken. -/
theorem TookFront.next {taken rest : List SpoolEntry} {entry : SpoolEntry}
    (h : TookFront past taken (entry :: rest)) :
    TookFront (past ++ [⟨.side .primary (.recordAttempt entry.attempt), .ok ()⟩])
      (taken ++ [entry]) rest := by
  obtain ⟨⟨limit, hlisted⟩, htaken⟩ := h.mono
    [⟨.side .primary (.recordAttempt entry.attempt), .ok ()⟩]
  constructor
  · refine ⟨limit, ?_⟩
    rw [List.append_assoc, List.singleton_append]
    exact hlisted
  · intro other hother
    rcases List.mem_append.mp hother with hother | hother
    · exact htaken other hother
    · rw [List.mem_singleton.mp hother]
      exact List.mem_append_right _ (List.mem_singleton_self _)

/-- The loop goes by the batch. The induction is on what is left of it. -/
theorem always_deliverEntries {taken rest : List SpoolEntry} (h : TookFront past taken rest) :
    Always Follows (fun past entryIds => Follows past (.acknowledge entryIds)) past
      (deliverEntries rest (taken.map SpoolEntry.id)) := by
  induction rest generalizing past taken with
  | nil => exact ⟨taken, [], h, rfl⟩
  | cons entry rest ih =>
    refine ⟨⟨taken, entry, rest, h, rfl⟩, ?_⟩
    rintro (error | _)
    · exact ⟨taken, entry :: rest, h.mono _, rfl⟩
    · have hnext := ih h.next
      rwa [List.map_append, List.map_singleton] at hnext

theorem always_follows (call : SpoolCall) :
    ∃ Q, Always Follows Q [] (spoolUse.body call) := by
  cases call with
  | append attempt =>
    refine ⟨fun _ _ => True, trivial, ?_⟩
    rintro (error | _) <;> trivial
  | flush limit =>
    refine ⟨fun _ _ => True, trivial, ?_⟩
    rintro (error | entries)
    · trivial
    · have hlisted : TookFront [⟨.pending limit, .ok entries⟩] [] entries := by
        constructor
        · exact ⟨limit, List.mem_singleton_self _⟩
        · intro entry hentry
          cases hentry
      refine (always_deliverEntries hlisted).bind ?_
      intro past entryIds hfront
      refine ⟨hfront, ?_⟩
      rintro (error | _) <;> trivial

/-! ## The invariant -/

section Invariant

variable (history : List (Int × AttemptRecord)) (committed terminal : Int × AttemptRecord)

/-- Up to here the records were offered in order, and of an attempt whose committed record was
not delivered yet the spool holds what was appended. -/
structure KeepsOrder (s : FlushState) : Prop where
  named : s.spool.Named
  delivers : s.appended <+: history → DeliversInOrder committed.2 terminal.2 s.offered
  kept : s.appended <+: history → (committed.2, true) ∈ s.offered ∨
    HasRows s.appended committed.2 terminal.2 s.spool

/-- What is known of a batch: if the committed record was not delivered yet, the batch is in
order, and no other record stands for the committed one. -/
def InOrder (entries : List SpoolEntry) (s : FlushState) : Prop :=
  s.appended <+: history → (committed.2, true) ∈ s.offered ∨
    ListsInOrder committed.2 terminal.2 entries ∧
      ∀ entry ∈ entries, SameTransition entry.attempt committed.2 → entry.attempt = committed.2

/-- What the answer to a call says from then on. -/
def Recalls : Event delivery → FlushState → Prop
  | ⟨.pending _, .ok entries⟩, s =>
    (∀ entry ∈ entries, entry.id = entryId entry.attempt) ∧
      InOrder history committed terminal entries s
  | ⟨.side .primary (.recordAttempt attempt), .ok _⟩, s => (attempt, true) ∈ s.offered
  | _, _ => True

variable {history committed terminal} {s s' : FlushState}

/-- Records are appended and offered, and neither is taken back. -/
structure Grows (s s' : FlushState) : Prop where
  appended : s.appended <+: s'.appended
  offered : s.offered ⊆ s'.offered

theorem InOrder.grows {entries : List SpoolEntry} (h : InOrder history committed terminal entries s)
    (hgrows : Grows s s') : InOrder history committed terminal entries s' := by
  intro hfront
  rcases h (hgrows.appended.trans hfront) with hdelivered | hlisted
  · exact Or.inl (hgrows.offered hdelivered)
  · exact Or.inr hlisted

theorem Recalls.grows {event : Event delivery} (h : Recalls history committed terminal event s)
    (hgrows : Grows s s') : Recalls history committed terminal event s' := by
  unfold Recalls at h ⊢
  split at h
  · exact ⟨h.1, h.2.grows hgrows⟩
  · exact hgrows.offered h
  · trivial

section Flush

variable {taken rest : List SpoolEntry}
  (hpast : ∀ event ∈ past, Recalls history committed terminal event s)
include hpast

/-- What was taken is in what was offered. -/
theorem offered_of_taken {attempt : AttemptRecord} (h : Taken past attempt) :
    (attempt, true) ∈ s.offered :=
  hpast _ h

/-- What follows the front of a batch that was taken is offered in order. -/
theorem delivered_of_front {entry : SpoolEntry} (h : TookFront past taken (entry :: rest))
    (hfront : s.appended <+: history) (hsame : SameTransition entry.attempt terminal.2) :
    (committed.2, true) ∈ s.offered := by
  obtain ⟨⟨limit, hlisted⟩, htaken⟩ := h
  rcases (hpast _ hlisted).2 hfront with hdelivered | ⟨hlists, -⟩
  · exact hdelivered
  · have hbatch : taken ++ [entry] <+: taken ++ entry :: rest := by
      refine ⟨rest, ?_⟩
      rw [List.append_assoc, List.singleton_append]
    obtain ⟨earlier, hearlier, hcommitted⟩ := hlists taken entry hbatch hsame
    have hoffered := offered_of_taken hpast (htaken earlier hearlier)
    rwa [hcommitted] at hoffered

/-- What a flush acknowledges leaves the rows of an attempt alone until its committed record is
delivered. -/
theorem delivered_of_acknowledged (h : TookFront past taken rest) (hfront : s.appended <+: history)
    {entry : SpoolEntry} (hentry : entry ∈ taken)
    (hsame : SameTransition entry.attempt committed.2 ∨ SameTransition entry.attempt terminal.2) :
    (committed.2, true) ∈ s.offered := by
  obtain ⟨⟨limit, hlisted⟩, htaken⟩ := h
  rcases (hpast _ hlisted).2 hfront with hdelivered | ⟨hlists, hcommitted⟩
  · exact hdelivered
  · rcases hsame with hsame | hsame
    · have hoffered := offered_of_taken hpast (htaken entry hentry)
      rwa [hcommitted entry (List.mem_append_left _ hentry) hsame] at hoffered
    · -- the committed record was taken before
      obtain ⟨before, after, rfl⟩ := List.append_of_mem hentry
      have hbatch : before ++ [entry] <+: before ++ entry :: after ++ rest := by
        refine ⟨after ++ rest, ?_⟩
        simp
      obtain ⟨earlier, hearlier, hrecord⟩ := hlists before entry hbatch hsame
      have hoffered := offered_of_taken hpast
        (htaken earlier (List.mem_append_left _ hearlier))
      rwa [hrecord] at hoffered

/-- An acknowledged id is that of the record of its entry. -/
theorem entry_of_acknowledged (h : TookFront past taken rest) {record : AttemptRecord}
    (hid : entryId record ∈ taken.map SpoolEntry.id) :
    ∃ entry ∈ taken, SameTransition entry.attempt record := by
  obtain ⟨⟨limit, hlisted⟩, -⟩ := h
  rcases List.mem_map.mp hid with ⟨entry, hentry, hsame⟩
  rw [(hpast _ hlisted).1 entry (List.mem_append_left _ hentry)] at hsame
  exact ⟨entry, hentry, entryId_eq_iff.mp hsame⟩

end Flush

/-- An offer goes on in order. -/
theorem KeepsOrder.offer (h : KeepsOrder history committed terminal s) {attempt : AttemptRecord}
    (hdelivered : s.appended <+: history → SameTransition attempt terminal.2 →
      (committed.2, true) ∈ s.offered) (accepted : Bool) :
    KeepsOrder history committed terminal (s.offer attempt accepted) where
  named := h.named
  delivers := by
    intro hfront
    refine (h.delivers hfront).snoc ?_
    intro hsame
    exact ⟨_, hdelivered hfront hsame, rfl⟩
  kept := by
    intro hfront
    rcases h.kept hfront with hoffered | hrows
    · exact Or.inl (List.mem_append_left _ hoffered)
    · exact Or.inr hrows

theorem grows_offer (s : FlushState) (attempt : AttemptRecord) (accepted : Bool) :
    Grows s (s.offer attempt accepted) where
  appended := List.prefix_rfl
  offered := List.subset_append_left _ _

theorem grows_append (s : FlushState) (appends : List (Int × AttemptRecord)) :
    Grows s (s.append appends) where
  appended := List.prefix_append _ _
  offered := List.Subset.refl _

/-- An append does to an untouched row what it did in the history. -/
theorem KeepsOrder.append (h : KeepsOrder history committed terminal s) (now : Int)
    (attempt : AttemptRecord) :
    KeepsOrder history committed terminal (s.append [(now, attempt)]) where
  named := h.named.append now attempt
  delivers hfront := h.delivers ((grows_append s _).appended.trans hfront)
  kept := by
    intro hfront
    rcases h.kept ((grows_append s _).appended.trans hfront) with hoffered | hrows
    · exact Or.inl hoffered
    · right
      have hstep : ∀ {id : String},
          s.spool.get? id = (appendAll .empty s.appended).get? id →
          (s.spool.append now attempt).get? id =
            (appendAll .empty (s.appended ++ [(now, attempt)])).get? id := by
        intro id hid
        rw [appendAll_append]
        change _ = ((appendAll .empty s.appended).append now attempt).get? id
        rw [get?_append, get?_append, hid]
      exact ⟨hstep hrows.committed, hstep hrows.terminal⟩

theorem KeepsOrder.acknowledge (h : KeepsOrder history committed terminal s)
    {entryIds : List String}
    (hdelivered : s.appended <+: history →
      (entryId committed.2 ∈ entryIds ∨ entryId terminal.2 ∈ entryIds) →
      (committed.2, true) ∈ s.offered) :
    KeepsOrder history committed terminal (s.acknowledge entryIds) where
  named := h.named.acknowledge entryIds
  delivers := h.delivers
  kept := by
    intro hfront
    rcases h.kept hfront with hoffered | hrows
    · exact Or.inl hoffered
    · by_cases hids : entryId committed.2 ∈ entryIds ∨ entryId terminal.2 ∈ entryIds
      · exact Or.inl (hdelivered hfront hids)
      · rw [not_or] at hids
        right
        have hkeep : ∀ {id : String}, id ∉ entryIds →
            (s.spool.acknowledge entryIds).get? id = s.spool.get? id := by
          intro id hid
          rw [get?_acknowledge, if_neg hid]
        exact ⟨(hkeep hids.1).trans hrows.committed, (hkeep hids.2).trans hrows.terminal⟩

/-- What `pending` answers is in order. -/
theorem KeepsOrder.listed (h : KeepsOrder history committed terminal s)
    (hfirst : CommittedFirst history committed terminal) (htimely : Timely history)
    (hsecond : SecondBetween committed terminal) (limit : Nat) :
    InOrder history committed terminal (s.spool.pending limit) s := by
  intro hfront
  rcases h.kept hfront with hoffered | hrows
  · exact Or.inl hoffered
  · right
    refine ⟨hfirst.lists htimely hsecond hfront h.named hrows limit, ?_⟩
    intro entry hentry hsame
    obtain ⟨hid, row, hrow, hpayload⟩ := h.named.listed hentry
    rw [hid, entryId_eq_iff.mpr hsame] at hrow
    have hwritten := hfirst.eq_committed hfront (hrows.committed.symm.trans hrow)
    rw [← hpayload, hwritten]
    rfl

/-! ## Every step -/

theorem keepsOrder_flush (hfirst : CommittedFirst history committed terminal)
    (htimely : Timely history) (hsecond : SecondBetween committed terminal) {op : DeliveryOp}
    {answer : op.Answer} (h : KeepsOrder history committed terminal s)
    (hpast : ∀ event ∈ past, Recalls history committed terminal event s) (hfollows : Follows past op)
    (hanswer : FlushAnswer op s answer s') :
    KeepsOrder history committed terminal s' ∧
      Recalls history committed terminal ⟨op, answer⟩ s' ∧ Grows s s' := by
  have hsteady : Grows s s := ⟨List.prefix_rfl, List.Subset.refl _⟩
  have hoffers : ∀ attempt, Follows past (.side .primary (.recordAttempt attempt)) →
      s.appended <+: history → SameTransition attempt terminal.2 →
        (committed.2, true) ∈ s.offered := by
    rintro attempt ⟨taken, entry, rest, htook, rfl⟩ hfront hsame
    exact delivered_of_front hpast htook hfront hsame
  cases hanswer with
  | listed _ limit =>
    refine ⟨h, ⟨?_, h.listed hfirst htimely hsecond limit⟩, hsteady⟩
    intro entry hentry
    exact (h.named.listed hentry).1
  | listFailed => exact ⟨h, trivial, hsteady⟩
  | accepted _ attempt =>
    refine ⟨h.offer (hoffers attempt hfollows) true, ?_, grows_offer s attempt true⟩
    exact List.mem_append_right _ (List.mem_singleton_self _)
  | refused _ attempt error =>
    exact ⟨h.offer (hoffers attempt hfollows) false, trivial, grows_offer s attempt false⟩
  | acknowledged _ entryIds =>
    -- both entries of the pair go only after the first was delivered
    refine ⟨h.acknowledge ?_, trivial, ⟨List.prefix_rfl, List.Subset.refl _⟩⟩
    intro hfront hids
    obtain ⟨taken, rest, htook, rfl⟩ := hfollows
    rcases hids with hid | hid
    · rcases entry_of_acknowledged hpast htook hid with ⟨entry, hmem, hsame⟩
      exact delivered_of_acknowledged hpast htook hfront hmem (Or.inl hsame)
    · rcases entry_of_acknowledged hpast htook hid with ⟨entry, hmem, hsame⟩
      exact delivered_of_acknowledged hpast htook hfront hmem (Or.inr hsame)
  | acknowledgeFailed => exact ⟨h, trivial, hsteady⟩

theorem guarantee (hfirst : CommittedFirst history committed terminal) (htimely : Timely history)
    (hsecond : SecondBetween committed terminal) :
    Guarantee spoolUse (fun _ => True) (fun _ _ _ => True)
      (KeepsOrder history committed terminal)
      (fun _ _ => Recalls history committed terminal) fun _ => Follows where
  body call _ := always_follows call
  effect := by
    intro id call past op s answer s' h hpast hfollows heffect _
    cases heffect with
    | flush hanswer =>
      obtain ⟨horder, hrecalls, hgrows⟩ :=
        keepsOrder_flush hfirst htimely hsecond h hpast hfollows hanswer
      exact ⟨horder, hrecalls, fun _ _ _ hrecalled => hrecalled.grows hgrows⟩
    | appended _ now attempt =>
      refine ⟨h.append now attempt, trivial, ?_⟩
      intro _ _ event hrecalled
      exact hrecalled.grows (grows_append s _)
    | appendFailed => exact ⟨h, trivial, fun _ _ _ hrecalled => hrecalled⟩
  ambient := by
    rintro s ended s' h ⟨rfl, -⟩
    exact ⟨h, fun _ _ _ _ hrecalled => hrecalled⟩

theorem keepsOrder_of_reachable (hfirst : CommittedFirst history committed terminal)
    (htimely : Timely history) (hsecond : SecondBetween committed terminal)
    {w : World spoolUse} (hw : spoolRuns.Reachable w) :
    KeepsOrder history committed terminal w.shared := by
  refine ((guarantee hfirst htimely hsecond).reachable ?_ hw).shared
  rintro s rfl
  constructor
  · exact named_empty
  · intro _
    exact precedes_nil
  · intro _
    exact Or.inr ⟨rfl, rfl⟩

end Invariant

/-! ## A run in which everything is taken -/

/-- Every history of appends is one of a run. -/
theorem exists_appended (history : List (Int × AttemptRecord)) :
    ∃ w, spoolRuns.Reachable w ∧ w.shared = (FlushState.start .empty).append history := by
  induction history using List.reverseRecOn with
  | nil => exact ⟨⟨.start .empty, 0, fun _ => none⟩, .init ⟨rfl, rfl, fun _ => rfl⟩, rfl⟩
  | append_singleton history call ih =>
    obtain ⟨w, hw, hshared⟩ := ih
    have hrun : Runs (spoolUse.Effect (.append call.2)) (spoolUse.body (.append call.2)) w.shared
        (.ok ()) (w.shared.append [call]) :=
      runs_bind.mpr ⟨_, _, runs_perform.mpr (.appended w.shared call.1 call.2), .pure _ _⟩
    obtain ⟨w', hw', hshared'⟩ := exists_reachable_of_runs hw hrun
    refine ⟨w', hw', ?_⟩
    rw [hshared', hshared, FlushState.append_append]

/-- Where everything is accepted, all of a batch is offered. -/
theorem offersOf_of_accepts {primary : AttemptRecord → Except String Unit}
    {batch : List SpoolEntry} (h : ∀ entry ∈ batch, Accepts primary entry = true) :
    offersOf primary batch = batch.map fun entry => (entry.attempt, true) := by
  have htakes := List.takeWhile_eq_self_iff.mpr h
  have hdrops := List.dropWhile_eq_nil_iff.mpr h
  rw [offersOf, htakes, hdrops, List.take_nil, List.map_nil, List.append_nil]

/-- A flush of everything offers what the spool lists, in that order. -/
theorem exists_flushed (history : List (Int × AttemptRecord)) (limit : Nat) :
    ∃ w, spoolRuns.Reachable w ∧ w.shared.appended = history ∧
      w.shared.offered =
        ((appendAll .empty history).pending limit).map fun entry => (entry.attempt, true) := by
  obtain ⟨w, hw, hshared⟩ := exists_appended history
  let primary : AttemptRecord → Except String Unit := fun _ => .ok ()
  obtain ⟨result, hflush⟩ : ∃ result, Runs (SteadyAnswer primary) (flushUsageSpool limit) w.shared
      result (w.shared.flushed primary limit) := ⟨_, runs_steady_flush.mpr ⟨rfl, rfl⟩⟩
  have hrun : Runs (spoolUse.Effect (.flush limit)) (spoolUse.body (.flush limit)) w.shared result
      (w.shared.flushed primary limit) := by
    refine hflush.mono ?_
    intro op s answer s' hanswer
    cases hanswer with
    | listed _ limit => exact .flush (.listed s limit)
    | offered _ attempt => exact .flush (.accepted s attempt)
    | acknowledged _ entryIds => exact .flush (.acknowledged s entryIds)
  obtain ⟨w', hw', hshared'⟩ := exists_reachable_of_runs hw hrun
  refine ⟨w', hw', ?_, ?_⟩
  · rw [hshared', FlushState.flushed, hshared]
    rfl
  · have hoffers : offersOf primary ((appendAll .empty history).pending limit) =
        ((appendAll .empty history).pending limit).map fun entry => (entry.attempt, true) :=
      offersOf_of_accepts fun _ _ => rfl
    rw [hshared', FlushState.flushed, hshared]
    exact hoffers

/-- An order of delivery is one of listing. -/
theorem deliversInOrder_map {committed terminal : AttemptRecord} {entries : List SpoolEntry}
    (h : DeliversInOrder committed terminal (entries.map fun entry => (entry.attempt, true))) :
    ListsInOrder committed terminal entries := by
  intro before entry hfront hsame
  obtain ⟨earlier, hearlier, hrecord⟩ := precedes_map.mp h before entry hfront hsame
  rw [Prod.mk.injEq] at hrecord
  exact ⟨earlier, hearlier, hrecord.1⟩

end SpoolUse

open SpoolUse

/-- The spool keeps the order of an attempt's transitions, in what it lists as in what flushes
deliver, exactly when the terminal record is not a `Cancelled` one of the same second. -/
theorem transitions_in_order_iff {history : List (Int × AttemptRecord)}
    {committed terminal : Int × AttemptRecord} (htimely : Timely history)
    (hfirst : CommittedFirst history committed terminal) :
    (ListedInOrder history committed terminal ↔ SecondBetween committed terminal) ∧
      (DeliveredInOrder history committed terminal ↔ SecondBetween committed terminal) := by
  constructor
  · constructor
    · intro h
      by_contra hsecond
      exact hfirst.not_lists htimely hsecond le_rfl (h _)
    · intro hsecond limit
      exact hfirst.lists htimely hsecond List.prefix_rfl (named_empty.appendAll history)
        ⟨rfl, rfl⟩ limit
  · constructor
    · intro h
      by_contra hsecond
      -- everything is appended, and then delivered by one flush
      obtain ⟨w, hw, happended, hoffered⟩ :=
        exists_flushed history (appendAll .empty history).rows.length
      have hdelivers := (h w hw happended).1
      rw [hoffered] at hdelivers
      exact hfirst.not_lists htimely hsecond le_rfl (deliversInOrder_map hdelivers)
    · intro hsecond w hw happended
      have horder := keepsOrder_of_reachable hfirst htimely hsecond hw
      have hwhole : w.shared.appended <+: history := by
        rw [happended]
      refine ⟨horder.delivers hwhole, ?_⟩
      intro limit
      rcases horder.listed hfirst htimely hsecond limit hwhole with hdelivered | ⟨hlists, -⟩
      · exact Or.inl hdelivered
      · exact Or.inr hlists

/-- A record of some attempt. -/
def attemptAt (outcome : AttemptOutcome) : AttemptRecord :=
  { failedAttempt .least "request" with outcome }

/-- An attempt whose two records are queued in one second. -/
theorem committedFirst_pair {outcome : AttemptOutcome} (h : outcome.isStreamTerminal = true) :
    CommittedFirst [(0, attemptAt .committed), (0, attemptAt outcome)] (0, attemptAt .committed)
      (0, attemptAt outcome) where
  sameAttempt := rfl
  commits := rfl
  ends := h
  order := ⟨[], [], [], rfl, by simp, by simp⟩

theorem timely_pair (a b : AttemptRecord) : Timely [(0, a), (0, b)] :=
  List.pairwise_pair.mpr le_rfl

/-- A success of the same second is delivered second. -/
theorem succeeded_in_order :
    ListedInOrder [(0, attemptAt .committed), (0, attemptAt .succeeded)] (0, attemptAt .committed)
        (0, attemptAt .succeeded) ∧
      DeliveredInOrder [(0, attemptAt .committed), (0, attemptAt .succeeded)]
        (0, attemptAt .committed) (0, attemptAt .succeeded) := by
  have hsecond : SecondBetween (0, attemptAt .committed) (0, attemptAt .succeeded) := by
    intro houtcome
    cases houtcome
  have h := transitions_in_order_iff (timely_pair (attemptAt .committed) (attemptAt .succeeded))
    (committedFirst_pair rfl)
  exact ⟨h.1.mpr hsecond, h.2.mpr hsecond⟩

/-- A cancellation of the same second is listed first, and delivered first. -/
theorem cancelled_before_committed :
    Timely [(0, attemptAt .committed), (0, attemptAt .cancelled)] ∧
      CommittedFirst [(0, attemptAt .committed), (0, attemptAt .cancelled)]
        (0, attemptAt .committed) (0, attemptAt .cancelled) ∧
      ((appendAll .empty [(0, attemptAt .committed), (0, attemptAt .cancelled)]).pending 2).map
        SpoolEntry.attempt = [attemptAt .cancelled, attemptAt .committed] ∧
      ¬ ListedInOrder [(0, attemptAt .committed), (0, attemptAt .cancelled)]
        (0, attemptAt .committed) (0, attemptAt .cancelled) ∧
      ¬ DeliveredInOrder [(0, attemptAt .committed), (0, attemptAt .cancelled)]
        (0, attemptAt .committed) (0, attemptAt .cancelled) := by
  have hlisted : (appendAll .empty [(0, attemptAt .committed), (0, attemptAt .cancelled)]).pending
      2 = [⟨entryId (attemptAt .cancelled), attemptAt .cancelled⟩,
        ⟨entryId (attemptAt .committed), attemptAt .committed⟩] := by
    decide +kernel
  have hdisordered : ¬ ListsInOrder (attemptAt .committed) (attemptAt .cancelled)
      ((appendAll .empty [(0, attemptAt .committed), (0, attemptAt .cancelled)]).pending 2) := by
    rw [hlisted]
    intro h
    obtain ⟨earlier, hearlier, -⟩ := h [] _ ⟨_, rfl⟩ ⟨rfl, rfl⟩
    cases hearlier
  refine ⟨timely_pair _ _, committedFirst_pair rfl, ?_, fun h => hdisordered (h 2), ?_⟩
  · rw [hlisted]
    rfl
  · intro h
    obtain ⟨w, hw, happended, hoffered⟩ :=
      exists_flushed [(0, attemptAt .committed), (0, attemptAt .cancelled)] 2
    have hdelivers := (h w hw happended).1
    rw [hoffered] at hdelivers
    exact hdisordered (deliversInOrder_map hdelivers)

end SmartGateway
