import SmartGateway.Lib.Interleaving
import SmartGateway.Runtime.SnapshotFallback
import SmartGateway.Storage.PostgresMethods

/-! # Delivery of attempt records

A record reaches the primary directly, through `SnapshotFallback`, or later through the usage
spool, which `flushUsageSpool` empties. `deliveries` runs any number of these concurrently, with
a primary that can be out of reach, lose its answers and take a record late, and with processes
that can stop between any two calls.
-/

namespace SmartGateway

/-! ## Programs -/

/-- The calls on the two sides of a `SnapshotFallback`, and those on the usage spool. -/
inductive DeliveryOp where
  | side (side : Side) (op : RepositoryOp)
  | append (attempt : AttemptRecord)
  | pending (limit : Nat)
  | acknowledge (entryIds : List String)

abbrev DeliveryOp.Answer : DeliveryOp → Type
  | .side _ op => Except String op.Output
  | .append _ => Except String String
  | .pending _ => Except String (List SpoolEntry)
  | .acknowledge _ => Except String Unit

abbrev delivery : Signature where
  Op := DeliveryOp
  Res := DeliveryOp.Answer

def onSide (call : sides.Op) : Program delivery (sides.Res call) :=
  Program.perform (S := delivery) (.side call.1 call.2)

/-- `DurableUsageSpool::append_attempt`. -/
def appendAttempt (attempt : AttemptRecord) : Program delivery (Except String Unit) :=
  (Program.perform (S := delivery) (.append attempt)).andThen fun _ => .pure (.ok ())

/-- The loop of `flush_usage_spool`: hands the entries to the primary up to the first error, and
returns the ids of those it took. -/
def deliverEntries : List SpoolEntry → List String → Program delivery (List String)
  | [], acknowledged => .pure acknowledged
  | entry :: entries, acknowledged =>
    (Program.perform (S := delivery) (.side .primary (.recordAttempt entry.attempt))).bind fun
      | .error _ => .pure acknowledged
      | .ok _ => deliverEntries entries (acknowledged ++ [entry.id])

/-- Delivers queued usage attempts and removes only records acknowledged by the primary. -/
def flushUsageSpool (limit : Nat) : Program delivery (Except String Nat) :=
  (Program.perform (S := delivery) (.pending limit)).andThen fun entries =>
    (deliverEntries entries []).bind fun acknowledged =>
      (Program.perform (S := delivery) (.acknowledge acknowledged)).andThen fun _ =>
        .pure (.ok acknowledged.length)

/-! ## The system -/

/-- The primary, the snapshot with the spool, and the calls the primary was sent. -/
structure DeliveryState where
  primary : Postgres.Session
  repository : SnapshotRepository
  sent : List RepositoryOp

namespace DeliveryState

/-- The table `usage_attempts` of the primary. -/
abbrev attempts (s : DeliveryState) : KeyedTable String AttemptRow := s.primary.db.usageAttempts

abbrev spool (s : DeliveryState) : DurableUsageSpool := s.repository.usageSpool

def withSpool (s : DeliveryState) (spool : DurableUsageSpool) : DeliveryState :=
  { s with repository := { s.repository with usageSpool := spool } }

/-- The primary takes a call. -/
def takes (s : DeliveryState) (digest : String → String) (now : Int) (leaseId : String)
    (op : RepositoryOp) : DeliveryState :=
  { s with primary := (Postgres.handle digest now leaseId op s.primary).2 }

def send (s : DeliveryState) (op : RepositoryOp) : DeliveryState :=
  { s with sent := op :: s.sent }

end DeliveryState

/-- What a step of a delivery can answer and change. A method of the primary is one step: of
`record_attempt` only the upsert writes, and the identity it is then checked against never
changes. -/
inductive Delivers (digest : String → String) :
    (op : DeliveryOp) → DeliveryState → op.Answer → DeliveryState → Prop where
  | answered (s : DeliveryState) (now : Int) (leaseId : String) (op : RepositoryOp) :
    Delivers digest (.side .primary op) s (Postgres.handle digest now leaseId op s.primary).1
      ((s.send op).takes digest now leaseId op)
  /-- The call does not get through. -/
  | refused (s : DeliveryState) (op : RepositoryOp) (error : String) :
    Delivers digest (.side .primary op) s (.error error) (s.send op)
  /-- The call gets through, its answer does not. -/
  | answerLost (s : DeliveryState) (now : Int) (leaseId : String) (op : RepositoryOp)
    (error : String) :
    Delivers digest (.side .primary op) s (.error error) ((s.send op).takes digest now leaseId op)
  | fallback (s : DeliveryState) (now : Int) (op : RepositoryOp) :
    Delivers digest (.side .fallback op) s (SnapshotRepository.handle digest now op s.repository).1
      { s with repository := (SnapshotRepository.handle digest now op s.repository).2 }
  | appended (s : DeliveryState) (now : Int) (attempt : AttemptRecord) :
    Delivers digest (.append attempt) s (.ok (DurableUsageSpool.entryId attempt))
      (s.withSpool (s.spool.append now attempt))
  | listed (s : DeliveryState) (limit : Nat) :
    Delivers digest (.pending limit) s (.ok (s.spool.pending limit)) s
  | acknowledged (s : DeliveryState) (entryIds : List String) :
    Delivers digest (.acknowledge entryIds) s (.ok ()) (s.withSpool (s.spool.acknowledge entryIds))
  /-- The local database fails; it is transactional. -/
  | fallbackFailed (s : DeliveryState) (op : RepositoryOp) (error : String) :
    Delivers digest (.side .fallback op) s (.error error) s
  | appendFailed (s : DeliveryState) (attempt : AttemptRecord) (error : String) :
    Delivers digest (.append attempt) s (.error error) s
  | listFailed (s : DeliveryState) (limit : Nat) (error : String) :
    Delivers digest (.pending limit) s (.error error) s
  | acknowledgeFailed (s : DeliveryState) (entryIds : List String) (error : String) :
    Delivers digest (.acknowledge entryIds) s (.error error) s

/-- What happens between the steps of deliveries. -/
inductive Meanwhile (digest : String → String) : DeliveryState → DeliveryState → Prop where
  /-- The primary takes a call it was sent, late or once more. -/
  | late (s : DeliveryState) (now : Int) (leaseId : String) {op : RepositoryOp}
    (hsent : op ∈ s.sent) : Meanwhile digest s (s.takes digest now leaseId op)
  /-- Other clients of the primary, which write no attempts. -/
  | others (s : DeliveryState) (primary : Postgres.Session)
    (hattempts : primary.db.usageAttempts = s.attempts) :
    Meanwhile digest s { s with primary }
  /-- A restart reads a snapshot and opens the spool again. -/
  | restart (s : DeliveryState) (snapshot : ControlSnapshot) :
    Meanwhile digest s { s with repository := .new snapshot s.spool }

/-- The concurrent calls: the methods of `SnapshotFallback`, the spool of the application, and
`flush_usage_spool`. -/
inductive Delivery where
  | method (op : RepositoryOp)
  | append (attempt : AttemptRecord)
  | flush (limit : Nat)

/-- Any number of deliveries at once. -/
def deliveries (digest : String → String) : Concurrent delivery DeliveryState Delivery where
  Ret
    | .method op => Except String op.Output
    | .append _ => Except String Unit
    | .flush _ => Except String Nat
  body
    | .method op => (SnapshotFallback.body op).interp onSide
    | .append attempt => appendAttempt attempt
    | .flush limit => flushUsageSpool limit
  Effect _ := Delivers digest
  Ambient s ended s' := Meanwhile digest s s' ∧ ended = fun _ => False

/-- Deliveries from a primary without attempts and an empty spool. -/
def accounting (digest : String → String) :
    Transition (Concurrent.World (deliveries digest)) (Concurrent.Label (deliveries digest)) :=
  (deliveries digest).toTransition fun s => s.attempts = .empty ∧ s.spool = .empty ∧ s.sent = []

end SmartGateway
