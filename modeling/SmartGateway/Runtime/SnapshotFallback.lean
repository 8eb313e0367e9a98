import SmartGateway.Lib.Program
import SmartGateway.Runtime.Snapshot

/-! # The primary with the snapshot behind it

Every method of `SnapshotFallback` asks the primary first and hands the same call to the
snapshot when the primary returns an error, whatever the error says.
-/

namespace SmartGateway

/-- The two repositories of a `SnapshotFallback`. -/
inductive Side where
  | primary
  | fallback
deriving DecidableEq

/-- A call on one of the two repositories. -/
abbrev sides : Signature where
  Op := Side × RepositoryOp
  Res op := Except String op.2.Output

namespace SnapshotFallback

/-- The shape all six methods share. -/
def orElse (op : RepositoryOp) : Program sides (Except String op.Output) :=
  (Program.perform (S := sides) (.primary, op)).bind fun
    | .ok value => .pure (.ok value)
    | .error _ => Program.perform (S := sides) (.fallback, op)

def authenticate (rawKey : String) : Program sides (Except String Bool) :=
  orElse (.authenticate rawKey)

def candidates (logicalModel : String) : Program sides (Except String (List RouteCandidate)) :=
  orElse (.candidates logicalModel)

def recordAttempt (attempt : AttemptRecord) : Program sides (Except String Unit) :=
  orElse (.recordAttempt attempt)

def markRouteSuccess (routeId : String) : Program sides (Except String Unit) :=
  orElse (.markRouteSuccess routeId)

def markRouteFailure (routeId : String) (failure : ProviderFailure) :
    Program sides (Except String Unit) :=
  orElse (.markRouteFailure routeId failure)

def markAccountFailure (accountId : String) (failure : ProviderFailure) :
    Program sides (Except String Unit) :=
  orElse (.markAccountFailure accountId failure)

/-- `impl ConfigurationRepository for SnapshotFallback`. -/
def body : (op : RepositoryOp) → Program sides (Except String op.Output)
  | .authenticate rawKey => authenticate rawKey
  | .candidates logicalModel => candidates logicalModel
  | .recordAttempt attempt => recordAttempt attempt
  | .markRouteSuccess routeId => markRouteSuccess routeId
  | .markRouteFailure routeId failure => markRouteFailure routeId failure
  | .markAccountFailure accountId failure => markAccountFailure accountId failure

theorem body_eq_orElse (op : RepositoryOp) : body op = orElse op := by
  cases op <;> rfl

/-! ## Uninterrupted calls -/

section Handle

variable {π φ : Type}
  (primary : (op : RepositoryOp) → π → Except String op.Output × π)
  (fallback : (op : RepositoryOp) → φ → Except String op.Output × φ)

/-- Answers a call on either side from the two states. -/
def handleSides : (op : sides.Op) → π × φ → sides.Res op × (π × φ)
  | (.primary, op), (p, f) => ((primary op p).1, ((primary op p).2, f))
  | (.fallback, op), (p, f) => ((fallback op f).1, (p, (fallback op f).2))

/-- A method run without interruption. -/
def handle (op : RepositoryOp) (s : π × φ) : Except String op.Output × (π × φ) :=
  (body op).run (handleSides primary fallback) s

/-- While the primary answers, the fallback is not asked. -/
theorem handle_of_ok {op : RepositoryOp} {p p' : π} {f : φ} {value : op.Output}
    (h : primary op p = (.ok value, p')) :
    handle primary fallback op (p, f) = (.ok value, (p', f)) := by
  have hanswer : handleSides primary fallback (.primary, op) (p, f) = (.ok value, (p', f)) := by
    rw [handleSides, h]
  rw [handle, body_eq_orElse, orElse, Program.run_perform_bind _ hanswer, Program.run_pure]

/-- Any error of the primary hands the call to the fallback. -/
theorem handle_of_error {op : RepositoryOp} {p p' : π} {f : φ} {error : String}
    (h : primary op p = (.error error, p')) :
    handle primary fallback op (p, f) =
      ((fallback op f).1, (p', (fallback op f).2)) := by
  have hanswer : handleSides primary fallback (.primary, op) (p, f) = (.error error, (p', f)) := by
    rw [handleSides, h]
  rw [handle, body_eq_orElse, orElse, Program.run_perform_bind _ hanswer]
  rfl

end Handle

end SnapshotFallback

end SmartGateway
