import SmartGateway.Inbound.Handler
import SmartGateway.Lib.TwoRuns

/-! # Secrets

A gateway key is only authenticated with, and a provider credential only executed with. Two
gateways that hold different keys and credentials for the same purposes serve the same responses
and leave the same stores; each of their calls shows the difference only where it hands a secret
over.
-/

namespace SmartGateway

/-- `EnvironmentSecretResolver::resolve`; `environment` gives the variables whose values are
texts. -/
def resolveSecret (environment : String → Option String) (reference : CredentialReference) :
    Except String String :=
  match environment reference.environmentName with
  | some value => .ok value
  | none => .error "configured credential environment variable is not set"

namespace Inbound

open Upstream

variable {σ : Type}

/-- A gateway with the secrets it holds; `call` is what the other ports answer, with the state they
leave. -/
structure Holding (σ : Type) where
  environment : String → Option String
  call : (op : ApplicationOp) → σ → op.Answer OpenAiSseDecoder × σ

def Holding.handle (holding : Holding σ) :
    (op : ApplicationOp) → σ → op.Answer OpenAiSseDecoder × σ
  | .resolve reference, s => (resolveSecret holding.environment reference, s)
  | op, s => holding.call op s

/-- A call that a secret is handed over by. -/
def handsOver : ApplicationOp → Bool
  | .configuration (.authenticate _) | .execute _ _ _ => true
  | _ => false

theorem Holding.handle_eq_call (holding : Holding σ) {op : ApplicationOp}
    (hop : ∀ reference, op ≠ .resolve reference) : holding.handle op = holding.call op := by
  cases op with
  | resolve reference => exact absurd rfl (hop reference)
  | _ => rfl

/-! ## Other secrets -/

/-- The keys and credentials differ, but serve the same purposes: a credential is there on both
sides or on none, and whoever is handed a secret of one side takes it as that of the other. -/
structure Rotated (holding holding' : Holding σ) (key key' : String) : Prop where
  environment : ∀ name, (holding.environment name).isSome = (holding'.environment name).isSome
  authenticate : ∀ s, holding.call (.configuration (.authenticate key)) s =
    holding'.call (.configuration (.authenticate key')) s
  execute : ∀ (route : RouteCandidate) (request : InferenceRequest) {credential credential' : String},
    resolveSecret holding.environment route.credentialRef = .ok credential →
    resolveSecret holding'.environment route.credentialRef = .ok credential' →
    ∀ s, holding.call (.execute route request credential) s =
      holding'.call (.execute route request credential') s
  other : ∀ op s, handsOver op = false → holding.call op s = holding'.call op s

/-- How the calls of the two sides may differ. -/
inductive SameCall (holding holding' : Holding σ) (key key' : String) :
    ApplicationOp → ApplicationOp → Prop where
  | authenticate : SameCall holding holding' key key' (.configuration (.authenticate key))
      (.configuration (.authenticate key'))
  | execute (route : RouteCandidate) (request : InferenceRequest) {credential credential' : String}
      (h : resolveSecret holding.environment route.credentialRef = .ok credential)
      (h' : resolveSecret holding'.environment route.credentialRef = .ok credential') :
      SameCall holding holding' key key' (.execute route request credential)
        (.execute route request credential')
  | other {op : ApplicationOp} (hop : handsOver op = false) :
      SameCall holding holding' key key' op op

/-- How their answers may differ: a reference is resolved on each side by its own variables. -/
def SameAnswers (holding holding' : Holding σ) : (op op' : ApplicationOp) →
    op.Answer OpenAiSseDecoder → op'.Answer OpenAiSseDecoder → Prop
  | .resolve reference, .resolve reference', answer, answer' =>
    answer = resolveSecret holding.environment reference ∧
      answer' = resolveSecret holding'.environment reference'
  | _, _, answer, answer' => HEq answer answer'

theorem sameAnswers_iff {holding holding' : Holding σ} {op : ApplicationOp}
    (hop : ∀ reference, op ≠ .resolve reference) {answer answer' : op.Answer OpenAiSseDecoder} :
    SameAnswers holding holding' op op answer answer' ↔ answer = answer' := by
  cases op with
  | resolve reference => exact absurd rfl (hop reference)
  | _ => exact heq_iff_eq

section Matched

variable {holding holding' : Holding σ} {key key' : String}

/-- The two sides resolve the same references, and fail on the others in the same words. -/
theorem Rotated.resolve (h : Rotated holding holding' key key') (reference : CredentialReference) :
    (∃ credential credential', resolveSecret holding.environment reference = .ok credential ∧
      resolveSecret holding'.environment reference = .ok credential') ∨
    ∃ text, resolveSecret holding.environment reference = .error text ∧
      resolveSecret holding'.environment reference = .error text := by
  have hpresent := h.environment reference.environmentName
  unfold resolveSecret
  cases hfirst : holding.environment reference.environmentName with
  | none =>
    rw [hfirst] at hpresent
    rw [Option.isSome_eq_false_iff.mp hpresent.symm |> Option.isNone_iff_eq_none.mp]
    exact Or.inr ⟨_, rfl, rfl⟩
  | some credential =>
    rw [hfirst] at hpresent
    obtain ⟨credential', hsecond⟩ := Option.isSome_iff_exists.mp hpresent.symm
    rw [hsecond]
    exact Or.inl ⟨credential, credential', rfl, rfl⟩

theorem Rotated.answering (h : Rotated holding holding' key key') :
    Program.Answering (S := application OpenAiSseDecoder) (SameCall holding holding' key key')
      (SameAnswers holding holding') (fun s t : σ => s = t) holding.handle holding'.handle := by
  rintro op op' s _ hop rfl
  cases hop with
  | authenticate =>
    have hcall := h.authenticate s
    exact ⟨heq_of_eq (congrArg Prod.fst hcall), congrArg Prod.snd hcall⟩
  | execute route request hfirst hsecond =>
    have hcall := h.execute route request hfirst hsecond s
    exact ⟨heq_of_eq (congrArg Prod.fst hcall), congrArg Prod.snd hcall⟩
  | other hop =>
    by_cases hresolve : ∃ reference, op = .resolve reference
    · obtain ⟨reference, rfl⟩ := hresolve
      exact ⟨⟨rfl, rfl⟩, rfl⟩
    · rw [not_exists] at hresolve
      rw [sameAnswers_iff hresolve, holding.handle_eq_call hresolve,
        holding'.handle_eq_call hresolve, h.other op s hop]
      exact ⟨rfl, rfl⟩

/-- What only follows up is done in one way on both sides. -/
theorem matched_of_followsUp {α : Type} {p : UseCase OpenAiSseDecoder α} (hp : FollowsUp p) :
    Program.Matched (SameCall holding holding' key key') (SameAnswers holding holding')
      (fun a b => a = b) p p := by
  refine Program.Matched.refl (Program.Calls.mono hp ?_)
  intro op hop
  have hresolve : ∀ reference, op ≠ .resolve reference := by
    rintro reference rfl
    cases hop
  have hkept : handsOver op = false := by
    rcases op with op | _
    · cases op <;> first | rfl | cases hop
    all_goals first | rfl | cases hop
  exact ⟨.other hkept, fun answer answer' hanswers => (sameAnswers_iff hresolve).mp hanswers⟩

/-- The loop hands each candidate its credential, and goes on alike. -/
theorem matched_tryCandidates (h : Rotated holding holding' key key') (gateway : Gateway)
    (request : InferenceRequest) (candidates : List RouteCandidate)
    (lastFailure : Option String) :
    Program.Matched (SameCall holding holding' key key') (SameAnswers holding holding')
      (fun a b => a = b)
      (gateway.tryCandidates request candidates lastFailure :
        UseCase OpenAiSseDecoder (InferenceResult OpenAiSseDecoder OpenAiChatCompletionChunk))
      (gateway.tryCandidates request candidates lastFailure) := by
  induction candidates generalizing lastFailure with
  | nil => exact .pure rfl
  | cons route candidates ih =>
    refine .perform (.other rfl) ?_
    rintro _ _ ⟨rfl, rfl⟩
    -- both have a credential here, or neither has and the texts are the same
    rcases h.resolve route.credentialRef with ⟨credential, credential', hfirst, hsecond⟩ | hneither
    · rw [hfirst, hsecond]
      refine .perform (.execute route request hfirst hsecond) ?_
      intro execution execution' hsame
      obtain rfl : execution = execution' := eq_of_heq hsame
      cases execution with
      | ok execution =>
        exact matched_of_followsUp (gateway.followsUp_handleExecution request route execution)
      | error failure =>
        refine (matched_of_followsUp
          (gateway.followsUp_handlePreCommitFailure request route failure)).andThen ?_ ?_
        · intro _
          exact ih (some failure.message)
        · intro error
          rfl
    · obtain ⟨text, hfirst, hsecond⟩ := hneither
      rw [hfirst, hsecond]
      exact ih (some text)

theorem matched_infer (h : Rotated holding holding' key key') (gateway : Gateway)
    (request : InferenceRequest) :
    Program.Matched (SameCall holding holding' key key') (SameAnswers holding holding')
      (fun a b => a = b)
      (gateway.infer key request :
        UseCase OpenAiSseDecoder (InferenceResult OpenAiSseDecoder OpenAiChatCompletionChunk))
      (gateway.infer key' request) := by
  refine .perform .authenticate ?_
  intro answer answer' hsame
  obtain rfl : answer = answer' := eq_of_heq hsame
  rcases answer with error | _ | _
  · exact .pure rfl
  · exact .pure rfl
  · refine .perform (.other rfl) ?_
    intro planned planned' hplanned
    obtain rfl : planned = planned' := eq_of_heq hplanned
    cases planned with
    | error error => exact .pure rfl
    | ok candidates => exact matched_tryCandidates h gateway request candidates none

/-- Secrets decide nothing: where two sides hold other keys and credentials for the same purposes,
a request gets the same response from both and leaves the same state of everything outside, and
the calls made for it differ by the secrets they hand over only. -/
theorem secrets_decide_nothing (h : Rotated holding holding' key key')
    {arrival arrival' : Arrival} {request : InferenceRequest} (hasks : Asks arrival key request)
    (hasks' : Asks arrival' key' request) (hevents : arrival.events = arrival'.events)
    (parse : String → Option Json) (print : Json → String) (gateway : Gateway) (s : σ) :
    (arrival.serve parse print gateway).run holding.handle s =
        (arrival'.serve parse print gateway).run holding'.handle s ∧
      List.Forall₂ (fun event event' => SameCall holding holding' key key' event.op event'.op)
        ((arrival.serve parse print gateway).trace holding.handle s)
        ((arrival'.serve parse print gateway).trace holding'.handle s) := by
  have hinfer : Program.Matched (SameCall holding holding' key key')
      (SameAnswers holding holding') (fun a b => a = b)
      ((gateway.infer key request).bind fun result => .pure (applicationErrorResponse result))
      ((gateway.infer key' request).bind fun result => .pure (applicationErrorResponse result)) := by
    refine (matched_infer h gateway request).bind ?_
    rintro result _ rfl
    exact .pure rfl
  have hmatched : Program.Matched (SameCall holding holding' key key')
      (SameAnswers holding holding') (fun a b => a = b) (arrival.serve parse print gateway)
      (arrival'.serve parse print gateway) := by
    rw [serve_of_asks hasks, serve_of_asks hasks', hevents]
    refine hinfer.bind ?_
    rintro response _ rfl
    exact matched_of_followsUp (followsUp_send parse print arrival'.events response)
  obtain ⟨hresponse, hstate, hcalls⟩ := hmatched.run h.answering (rfl : s = s)
  exact ⟨Prod.ext hresponse hstate, hcalls⟩

end Matched

/-! ## Two gateways -/

namespace Rotation

/-- A gateway with one key and one credential in the variable `KEY`, over a provider that refuses
any other credential. -/
def holder (key credential : String) : Holding Unit where
  environment name := if name = "KEY" then some credential else none
  call op s :=
    match op with
    | .configuration (.authenticate rawKey) => (.ok (rawKey == key), s)
    | .configuration (.candidates _) => (.ok [Served.route], s)
    | .configuration (.recordAttempt _) | .configuration (.markRouteSuccess _)
    | .configuration (.markRouteFailure _ _) | .configuration (.markAccountFailure _ _) =>
      (.ok (), s)
    | .resolve _ => (.error "", s)
    | .execute _ _ sent =>
      (if sent = credential then .ok (.complete .null none) else .error sendFailure, s)
    | .newAttemptId => (.least, s)
    | .unixTime => (none, s)
    | .appendAttempt _ | .recordQuotaSnapshot _ | .recordBillingRecord _ => (.ok (), s)

theorem resolve_holder {key credential resolved : String} {reference : CredentialReference}
    (h : resolveSecret (holder key credential).environment reference = .ok resolved) :
    resolved = credential := by
  unfold resolveSecret holder at h
  dsimp only at h
  split at h
  · next value hvalue =>
    cases h
    split at hvalue
    · exact (Option.some.inj hvalue).symm
    · cases hvalue
  · cases h

theorem rotated_holder (key key' credential credential' : String) :
    Rotated (holder key credential) (holder key' credential') key key' := by
  constructor
  · intro name
    dsimp only [holder]
    split
    · rfl
    · rfl
  · intro s
    simp [holder]
  · intro route request sent sent' hsent hsent' s
    rw [resolve_holder hsent, resolve_holder hsent']
    simp [holder]
  · intro op s hop
    cases op with
    | configuration op =>
      cases op with
      | authenticate rawKey => cases hop
      | _ => rfl
    | execute route request sent => cases hop
    | _ => rfl

/-- The same request under another key. -/
def arrival : Arrival where
  request :=
    { Served.arrival.request with
      headers := [("authorization", Text.encode "Bearer other".toList)] }
  requestId := "request"
  events := 0

theorem asks_arrival : Asks arrival "other" Served.inference := by
  have hbearer : bearer arrival.request.headers = some "other" := by decide +kernel
  exact ⟨rfl, rfl, hbearer, oneMessage [], oneMessageRequest, rfl, rfl, rfl⟩

/-- A gateway whose key and credential were changed serves the request under its new key. -/
theorem rotated_alike :
    (Served.arrival.serve (fun _ => none) (fun _ => "") Served.gateway).run
        (holder "key" "first").handle () =
      (arrival.serve (fun _ => none) (fun _ => "") Served.gateway).run
        (holder "other" "second").handle () ∧
    List.Forall₂ (fun event event' => SameCall (holder "key" "first") (holder "other" "second")
        "key" "other" event.op event'.op)
      ((Served.arrival.serve (fun _ => none) (fun _ => "") Served.gateway).trace
        (holder "key" "first").handle ())
      ((arrival.serve (fun _ => none) (fun _ => "") Served.gateway).trace
        (holder "other" "second").handle ()) :=
  secrets_decide_nothing (rotated_holder "key" "other" "first" "second") Served.asks_arrival
    asks_arrival rfl _ _ _ ()

end Rotation

end Inbound

end SmartGateway
