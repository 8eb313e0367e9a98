import SmartGateway.Domain.Json
import SmartGateway.Domain.Text
import SmartGateway.Domain.Types

/-! # Upstream failures

How an upstream reply becomes a `ProviderFailure`: `classify` for a reply with an error status,
`sanitizedOpenaiError` for an error inside a stream. Both set the retry time by the category.
-/

namespace SmartGateway

/-- The categories a route recovers from by itself. -/
def ErrorCategory.isTransient : ErrorCategory → Bool
  | .rateLimited | .concurrencyLimited | .providerUnavailable | .unknown => true
  | _ => false

theorem ErrorCategory.opensRoute_of_isTransient {category : ErrorCategory}
    (h : category.isTransient = true) : category.opensRoute = true := by
  cases category <;> first | rfl | cases h

namespace Upstream

/-- Sixty seconds from now, as an `i64`; the clock reads no seconds before the epoch. The sum
wraps in a build without overflow checks. -/
def inOneMinute (clock : Option Nat) : Int :=
  let seconds : Int := clock.getD 0
  ((if seconds ≤ i64Max then seconds else i64Max - 60) + 60).bmod u64Size

/-- The retry time both classifiers give a failure. -/
def retryAtUnix (clock : Option Nat) (category : ErrorCategory) : Option Int :=
  if category.isTransient then some (inOneMinute clock) else none

theorem retryAtUnix_ne_none {clock : Option Nat} {category : ErrorCategory} :
    retryAtUnix clock category ≠ none ↔ category.isTransient = true := by
  unfold retryAtUnix
  split <;> simp_all

/-- The lower-cased code of an error object. -/
def errorCode (error : Option Json) : String :=
  (((error.bind fun error => error.get "code").bind Json.asStr).getD "").toLower

/-! ## Before the response is committed -/

def clientMessage : ErrorCategory → String
  | .quotaExhausted | .creditExhausted | .spendLimitExceeded =>
    "provider capacity is currently unavailable"
  | .rateLimited | .concurrencyLimited => "provider is temporarily rate limited"
  | .authenticationFailed => "provider credential is unavailable"
  | .modelUnavailable => "requested upstream model is unavailable"
  | .providerUnavailable | .unknown => "provider request could not be completed"

/-- The category of a reply with an error status, by its status and its lower-cased code. -/
def classifyCategory (status : Nat) (code : String) : ErrorCategory :=
  if status = 401 ∨ status = 403 then .authenticationFailed
  else if Text.contains code "insufficient_quota" || Text.contains code "quota_exceeded" then
    .quotaExhausted
  else if Text.contains code "credit" then .creditExhausted
  else if status = 429 then .rateLimited
  else if status = 404 || Text.contains code "model" then .modelUnavailable
  else if 500 ≤ status ∧ status < 600 then .providerUnavailable
  else .unknown

def classify (clock : Option Nat) (status : Nat) (body : Json) : ProviderFailure :=
  let category := classifyCategory status (errorCode (body.get "error"))
  { category
    message := clientMessage category
    status := some status
    retryAtUnix := retryAtUnix clock category }

/-! ## Inside a stream -/

def streamMessage : ErrorCategory → String
  | .quotaExhausted | .creditExhausted | .spendLimitExceeded =>
    "provider capacity is currently unavailable"
  | .rateLimited | .concurrencyLimited => "provider is temporarily rate limited"
  | .authenticationFailed => "provider credential is unavailable"
  | .modelUnavailable => "requested upstream model is unavailable"
  | .providerUnavailable | .unknown => "provider stream could not be completed"

def sanitizedFailure (clock : Option Nat) (category : ErrorCategory) : ProviderFailure :=
  { category
    message := streamMessage category
    status := none
    retryAtUnix := retryAtUnix clock category }

/-- The category of a top-level error of a frame. -/
def sanitizedCategory (code : String) : ErrorCategory :=
  if Text.contains code "insufficient_quota" || Text.contains code "quota_exceeded" then
    .quotaExhausted
  else if Text.contains code "credit" then .creditExhausted
  else if Text.contains code "rate" then .rateLimited
  else if Text.contains code "model" then .modelUnavailable
  else if Text.contains code "auth" || Text.contains code "key" then .authenticationFailed
  else .providerUnavailable

def sanitizedOpenaiError (clock : Option Nat) (error : Json) : ProviderFailure :=
  sanitizedFailure clock (sanitizedCategory (errorCode (some error)))

/-! ## Retry times -/

/-- A failure whose retry time is the one the classifiers give its category. -/
def Timed (clock : Option Nat) (failure : ProviderFailure) : Prop :=
  failure.retryAtUnix = retryAtUnix clock failure.category

theorem timed_classify (clock : Option Nat) (status : Nat) (body : Json) :
    Timed clock (classify clock status body) := rfl

theorem timed_sanitizedFailure (clock : Option Nat) (category : ErrorCategory) :
    Timed clock (sanitizedFailure clock category) := rfl

theorem Timed.retry_ne_none {clock : Option Nat} {failure : ProviderFailure}
    (h : Timed clock failure) (htransient : failure.category.isTransient = true) :
    failure.retryAtUnix ≠ none := by
  rw [h]
  exact retryAtUnix_ne_none.mpr htransient

end Upstream

end SmartGateway
