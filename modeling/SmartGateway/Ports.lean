import SmartGateway.Domain.Types

/-! # Ports

Attempt records with their lifecycle, and the configuration repository as the set
of calls an application program can make.
-/

namespace SmartGateway

/-! ## Attempt records -/

/-- Immutable identity for one provider attempt: a UUID, kept as the text it is printed
and stored as. -/
@[ext] structure AttemptId where
  text : String
  length_eq : text.length = 36
deriving DecidableEq

/-- The least identity of version 4. -/
def AttemptId.least : AttemptId := ⟨"00000000-0000-4000-8000-000000000000", by decide⟩

/-- Monotonic lifecycle for one provider attempt. -/
inductive AttemptOutcome where
  | failed
  | committed
  | succeeded
  | partialFailed
  | cancelled
deriving DecidableEq, Repr

namespace AttemptOutcome

def asStr : AttemptOutcome → String
  | .failed => "failed"
  | .committed => "committed"
  | .succeeded => "succeeded"
  | .partialFailed => "partial_failed"
  | .cancelled => "cancelled"

def isStreamTerminal : AttemptOutcome → Bool
  | .succeeded | .partialFailed | .cancelled => true
  | _ => false

theorem asStr_injective {a b : AttemptOutcome} (h : a.asStr = b.asStr) : a = b := by
  cases a <;> cases b <;> first | rfl | (exact absurd h (by decide))

theorem ne_committed_of_isStreamTerminal {a : AttemptOutcome} (h : a.isStreamTerminal = true) :
    a ≠ .committed := by
  rintro rfl
  cases h

end AttemptOutcome

structure AttemptRecord where
  attemptId : AttemptId
  requestId : String
  routeId : String
  outcome : AttemptOutcome
  failureCategory : Option String
deriving DecidableEq

/-! ## The configuration repository -/

/-- The calls of the `ConfigurationRepository` trait. -/
inductive RepositoryOp where
  | authenticate (rawKey : String)
  | candidates (logicalModel : String)
  | recordAttempt (attempt : AttemptRecord)
  | markRouteSuccess (routeId : String)
  | markRouteFailure (routeId : String) (failure : ProviderFailure)
  | markAccountFailure (accountId : String) (failure : ProviderFailure)
deriving DecidableEq

/-- What each call returns when it succeeds. -/
abbrev RepositoryOp.Output : RepositoryOp → Type
  | .authenticate _ => Bool
  | .candidates _ => List RouteCandidate
  | _ => Unit

/-- A repository whose methods are atomic: what each call answers at an instant, with the state
after it. -/
abbrev AtomicRepository (σ : Type) : Type :=
  (now : Int) → (op : RepositoryOp) → σ → Except String op.Output × σ

namespace AtomicRepository

variable {σ : Type}

/-- The state after calls, in the order they get hold of the repository. -/
def after (repository : AtomicRepository σ) : List (Int × RepositoryOp) → σ → σ
  | [], s => s
  | (now, op) :: calls, s => after repository calls (repository now op s).2

theorem after_append {repository : AtomicRepository σ} (before later : List (Int × RepositoryOp))
    (s : σ) : after repository (before ++ later) s =
      after repository later (after repository before s) := by
  induction before generalizing s with
  | nil => rfl
  | cons call before ih => exact ih _

/-- What each allowed call preserves, a run of allowed calls preserves. -/
theorem after_preserves {repository : AtomicRepository σ} {I : σ → Prop}
    (allowed : RepositoryOp → Prop)
    (hstep : ∀ now op s, I s → allowed op → I (repository now op s).2)
    {calls : List (Int × RepositoryOp)} (hcalls : ∀ call ∈ calls, allowed call.2) {s : σ}
    (hs : I s) : I (after repository calls s) := by
  induction calls generalizing s with
  | nil => exact hs
  | cons call calls ih =>
    have hnext : I (repository call.1 call.2 s).2 := hstep call.1 call.2 s hs (hcalls call (by simp))
    exact ih (fun later hlater => hcalls later (List.mem_cons_of_mem _ hlater)) hnext

end AtomicRepository

end SmartGateway
