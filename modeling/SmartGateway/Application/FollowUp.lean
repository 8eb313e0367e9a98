import SmartGateway.Application.Gateway

/-! # Following up on an attempt

Once a candidate has been executed, what is left is bookkeeping: records, marks, evidence. The
programs for it ask for no plan and do not turn to another candidate.
-/

namespace SmartGateway

/-- A call that is no part of admission and planning, and neither resolves nor executes. -/
def ApplicationOp.followsUp : ApplicationOp → Bool
  | .configuration (.authenticate _) | .configuration (.candidates _) => false
  | .resolve _ | .execute _ _ _ => false
  | _ => true

/-- A program that only follows up. -/
def FollowsUp {Body α : Type} (p : UseCase Body α) : Prop :=
  p.Calls fun op : ApplicationOp => op.followsUp = true

namespace FollowsUp

variable {Body α β : Type}

theorem pure (a : α) : FollowsUp (.pure a : UseCase Body α) :=
  trivial

theorem bind {p : UseCase Body α} {f : α → UseCase Body β} (hp : FollowsUp p)
    (hf : ∀ a, FollowsUp (f a)) : FollowsUp (p.bind f) :=
  Program.Calls.bind hp hf

theorem andThen {ε : Type} {p : UseCase Body (Except ε α)}
    {f : α → UseCase Body (Except ε β)} (hp : FollowsUp p) (hf : ∀ a, FollowsUp (f a)) :
    FollowsUp (p.andThen f) :=
  Program.Calls.andThen hp hf

theorem ask {op : ApplicationOp} {f : op.Answer Body → UseCase Body β}
    (hop : op.followsUp = true) (hf : ∀ answer, FollowsUp (f answer)) :
    FollowsUp ((SmartGateway.ask op).bind f) :=
  ⟨hop, hf⟩

end FollowsUp

section Persist

variable {Body : Type}

theorem followsUp_persisting {α : Type} (usageSpool : Bool) (record : AttemptRecord)
    (taken refused unspooled : α) :
    FollowsUp (persisting usageSpool record taken refused unspooled : UseCase Body α) := by
  refine FollowsUp.ask rfl fun answer => ?_
  split
  · exact FollowsUp.pure _
  · split
    · refine FollowsUp.ask rfl fun spooled => ?_
      split
      · exact FollowsUp.pure _
      · exact FollowsUp.pure _
    · exact FollowsUp.pure _

namespace StreamAttempt

variable (attempt : StreamAttempt)

theorem followsUp_persist (record : AttemptRecord) :
    FollowsUp (attempt.persist record : UseCase Body _) := by
  rw [persist_eq]
  exact followsUp_persisting _ _ _ _ _

theorem followsUp_callIf (condition : Bool) {op : RepositoryOp}
    (hop : (ApplicationOp.configuration op).followsUp = true) :
    FollowsUp (callIf condition op : UseCase Body Unit) := by
  unfold callIf
  split
  · exact .ask hop fun _ => FollowsUp.pure _
  · exact FollowsUp.pure _

theorem followsUp_succeed : FollowsUp (attempt.succeed : UseCase Body Unit) := by
  refine (attempt.followsUp_persist _).bind fun persisted => ?_
  rcases persisted with error | value
  · exact FollowsUp.pure _
  · exact .ask rfl fun _ => FollowsUp.pure _

theorem followsUp_fail (failure : ProviderFailure) :
    FollowsUp (attempt.fail failure : UseCase Body Unit) :=
  (attempt.followsUp_persist _).bind fun _ =>
    (followsUp_callIf _ rfl).bind fun _ => followsUp_callIf _ rfl

theorem followsUp_cancel : FollowsUp (attempt.cancel : UseCase Body Unit) :=
  (attempt.followsUp_persist _).bind fun _ => FollowsUp.pure _

end StreamAttempt

end Persist

namespace Gateway

variable {Body Chunk : Type}

theorem followsUp_persistAttempt (gateway : Gateway) (attempt : AttemptRecord) :
    FollowsUp (gateway.persistAttempt attempt : UseCase Body _) := by
  rw [persistAttempt_eq]
  exact followsUp_persisting _ _ _ _ _

theorem followsUp_recordQuotaSnapshots (snapshots : List ProviderQuotaSnapshot) :
    FollowsUp (recordQuotaSnapshots snapshots : UseCase Body Unit) := by
  induction snapshots with
  | nil => exact FollowsUp.pure _
  | cons snapshot snapshots ih => exact .ask rfl fun _ => ih

theorem followsUp_persistAuthoritativeEvidence (gateway : Gateway) (accountId : String)
    (attemptId : AttemptId) (evidence : ProviderAuthoritativeEvidence) :
    FollowsUp (gateway.persistAuthoritativeEvidence accountId attemptId evidence :
      UseCase Body Unit) := by
  unfold persistAuthoritativeEvidence
  split
  · exact FollowsUp.pure _
  · split
    · exact FollowsUp.pure _
    · refine (followsUp_recordQuotaSnapshots _).bind fun _ => ?_
      cases evidence.billing with
      | none => exact FollowsUp.pure _
      | some billing => exact .ask rfl fun _ => .ask rfl fun _ => FollowsUp.pure _

theorem followsUp_handleExecution (gateway : Gateway) (request : InferenceRequest)
    (route : RouteCandidate) (execution : InferenceExecution Body) :
    FollowsUp (gateway.handleExecution request route execution :
      UseCase Body (InferenceResult Body Chunk)) := by
  refine FollowsUp.ask rfl fun attemptId => ?_
  cases execution with
  | complete response evidence =>
    refine (gateway.followsUp_persistAttempt _).andThen fun _ => .ask rfl fun marked => ?_
    cases configure marked with
    | error error => exact FollowsUp.pure _
    | ok value =>
      cases evidence with
      | none => exact FollowsUp.pure _
      | some evidence =>
        exact (gateway.followsUp_persistAuthoritativeEvidence _ _ _).bind fun _ => FollowsUp.pure _
  | streaming body =>
    refine (StreamAttempt.followsUp_persist _ _).bind fun persisted => ?_
    cases persisted <;> exact FollowsUp.pure _

theorem followsUp_requireIf (condition : Bool) {op : RepositoryOp}
    (hop : (ApplicationOp.configuration op).followsUp = true) :
    FollowsUp (requireIf condition op : UseCase Body _) := by
  unfold requireIf
  split
  · refine FollowsUp.ask hop fun answer => ?_
    cases configure answer <;> exact FollowsUp.pure _
  · exact FollowsUp.pure _

theorem followsUp_handlePreCommitFailure (gateway : Gateway) (request : InferenceRequest)
    (route : RouteCandidate) (failure : ProviderFailure) :
    FollowsUp (gateway.handlePreCommitFailure request route failure : UseCase Body _) :=
  .ask rfl fun _ => (gateway.followsUp_persistAttempt _).andThen fun _ =>
    (followsUp_requireIf _ rfl).andThen fun _ => followsUp_requireIf _ rfl

end Gateway

end SmartGateway
