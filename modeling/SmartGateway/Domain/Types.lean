import SmartGateway.Lib.KeyedTable

/-! # Domain values

The values that cross the ports of the gateway: credential references, routes,
provider failures with their category, and the errors of the router. Texts are
the texts of the source, since adapters pass every error on as its text.
-/

namespace SmartGateway

/-! ## Credential references -/

inductive CredentialReferenceError where
  | invalidFormat
  | invalidEnvironmentName
deriving DecidableEq, Repr

def CredentialReferenceError.message : CredentialReferenceError → String
  | .invalidFormat => "credential reference must use the explicit env:NAME format"
  | .invalidEnvironmentName =>
    "credential reference must use env:NAME with a valid environment variable name"

/-- The characters after `env:`, if the text starts so. -/
def stripEnvPrefix : List Char → Option (List Char)
  | 'e' :: 'n' :: 'v' :: ':' :: name => some name
  | _ => none

/-- A letter or underscore, then letters, digits and underscores. -/
def validEnvironmentName : List Char → Bool
  | [] => false
  | first :: rest =>
    (first == '_' || first.isAlpha) &&
      rest.all fun character => character == '_' || character.isAlphanum

/-- A text of the form `env:NAME` with a valid environment variable name. -/
def WellFormedReference (text : String) : Prop :=
  ∃ name, stripEnvPrefix text.toList = some name ∧ validEnvironmentName name = true

/-- Stripping `env:` off a text and putting it back are inverse. -/
theorem stripEnvPrefix_eq_some {text : String} {name : List Char} :
    stripEnvPrefix text.toList = some name ↔ text = "env:" ++ String.ofList name := by
  have hformat : text = "env:" ++ String.ofList name ↔
      text.toList = 'e' :: 'n' :: 'v' :: ':' :: name := by
    have hname : (String.ofList name).toList = name := String.toList_ofList
    rw [← String.toList_inj, String.toList_append, hname]
    rfl
  rw [hformat]
  constructor
  · intro h
    unfold stripEnvPrefix at h
    split at h
    · next hstart =>
      rw [Option.some.injEq] at h
      rw [hstart, h]
    · cases h
  · intro h
    rw [h]
    rfl

/-- A normalized reference to an environment variable that holds a credential. -/
structure CredentialReference where
  text : String
  wellFormed : WellFormedReference text
deriving DecidableEq

/-- The reference to the variable `KEY`. -/
def CredentialReference.envKey : CredentialReference :=
  ⟨"env:KEY", ['K', 'E', 'Y'], by decide, by decide⟩

theorem wellFormedReference_format {name : List Char} (hvalid : validEnvironmentName name = true) :
    WellFormedReference ("env:" ++ String.ofList name) :=
  ⟨name, stripEnvPrefix_eq_some.mpr rfl, hvalid⟩

/-- The reference `format!("env:{name}")` to a variable. -/
def CredentialReference.ofName (name : List Char) (hvalid : validEnvironmentName name = true) :
    CredentialReference :=
  ⟨"env:" ++ String.ofList name, wellFormedReference_format hvalid⟩

/-- `environment_name`: the reference without its `env:`. -/
def CredentialReference.environmentName (reference : CredentialReference) : String :=
  ((stripEnvPrefix reference.text.toList).map String.ofList).getD ""

/-- Parses the only permitted credential reference form: `env:NAME`. -/
def CredentialReference.parse (value : String) :
    Except CredentialReferenceError CredentialReference :=
  match stripEnvPrefix value.toList with
  | none => .error .invalidFormat
  | some [] => .error .invalidFormat
  | some (first :: rest) =>
    if hvalid : validEnvironmentName (first :: rest) = true then .ok (.ofName (first :: rest) hvalid)
    else .error .invalidEnvironmentName

/-- Parsing accepts exactly the well-formed texts, and puts them together again as they are. -/
theorem CredentialReference.parse_eq_ok {value : String} {reference : CredentialReference} :
    CredentialReference.parse value = .ok reference ↔ reference.text = value := by
  constructor
  · intro h
    unfold parse at h
    split at h
    · cases h
    · cases h
    · next first rest hname =>
      split at h
      · cases h
        exact (stripEnvPrefix_eq_some.mp hname).symm
      · cases h
  · rintro rfl
    obtain ⟨text, name, hname, hvalid⟩ := reference
    unfold parse
    split
    · next hnone => rw [hname] at hnone; cases hnone
    · next hnil =>
      rw [hname, Option.some.injEq] at hnil
      subst hnil
      cases hvalid
    · next first rest hcons =>
      rw [hname, Option.some.injEq] at hcons
      subst hcons
      have htext : text = "env:" ++ String.ofList (first :: rest) := stripEnvPrefix_eq_some.mp hname
      subst htext
      rw [dif_pos hvalid]
      rfl

theorem CredentialReference.parse_text (reference : CredentialReference) :
    CredentialReference.parse reference.text = .ok reference :=
  parse_eq_ok.mpr rfl

/-! ## Routes -/

/-- One way to serve a logical model: an upstream model on a provider account. -/
structure RouteCandidate where
  routeId : String
  logicalModel : String
  providerAccountId : String
  provider : String
  credentialRef : CredentialReference
  baseUrl : String
  upstreamModel : String
  priority : Nat
deriving DecidableEq

/-- The fallback models of each model, in order. -/
abbrev FallbackMap := KeyedTable String (List String)

/-! ## Failures -/

inductive ErrorCategory where
  | quotaExhausted
  | creditExhausted
  | spendLimitExceeded
  | rateLimited
  | concurrencyLimited
  | authenticationFailed
  | modelUnavailable
  | providerUnavailable
  | unknown
deriving DecidableEq, Repr

namespace ErrorCategory

def blocksAccount : ErrorCategory → Bool
  | .quotaExhausted | .creditExhausted | .spendLimitExceeded | .authenticationFailed => true
  | _ => false

def opensRoute : ErrorCategory → Bool
  | .rateLimited | .concurrencyLimited | .modelUnavailable | .providerUnavailable
  | .unknown => true
  | _ => false

/-- The name `{:?}` prints. -/
def debug : ErrorCategory → String
  | .quotaExhausted => "QuotaExhausted"
  | .creditExhausted => "CreditExhausted"
  | .spendLimitExceeded => "SpendLimitExceeded"
  | .rateLimited => "RateLimited"
  | .concurrencyLimited => "ConcurrencyLimited"
  | .authenticationFailed => "AuthenticationFailed"
  | .modelUnavailable => "ModelUnavailable"
  | .providerUnavailable => "ProviderUnavailable"
  | .unknown => "Unknown"

/-- Every failure does exactly one of the two: block its account or open its route. -/
theorem opensRoute_eq_not_blocksAccount (category : ErrorCategory) :
    category.opensRoute = !category.blocksAccount := by
  cases category <;> rfl

theorem opensRoute_eq_true_iff {category : ErrorCategory} :
    category.opensRoute = true ↔ category.blocksAccount = false := by
  rw [opensRoute_eq_not_blocksAccount, Bool.not_eq_true']

end ErrorCategory

structure ProviderFailure where
  category : ErrorCategory
  message : String
  status : Option Nat
  retryAtUnix : Option Int
deriving DecidableEq

/-! ## Router errors -/

inductive DomainError where
  | unknownModel (model : String)
  | fallbackCycle (model : String)
  | noEligibleRoute (model : String)
deriving DecidableEq

def DomainError.message : DomainError → String
  | .unknownModel model => "requested logical model `" ++ model ++ "` is not configured"
  | .fallbackCycle model => "fallback graph contains a cycle at `" ++ model ++ "`"
  | .noEligibleRoute model => "no eligible route exists for `" ++ model ++ "`"

theorem quoted_injective {start model model' finish : String}
    (h : start ++ model ++ finish = start ++ model' ++ finish) : model = model' := by
  have hlist := congrArg String.toList h
  simp only [String.toList_append, List.append_assoc, List.append_cancel_left_eq,
    List.append_cancel_right_eq] at hlist
  exact String.toList_inj.mp hlist

theorem head_quoted {first : Char} {start : String} (h : start.toList.head? = some first)
    (model finish : String) : (start ++ model ++ finish).toList.head? = some first := by
  rw [String.toList_append, String.toList_append, List.head?_append, List.head?_append, h,
    Option.some_or, Option.some_or]

/-- The first character of the text, which tells the errors apart. -/
def DomainError.initial : DomainError → Char
  | .unknownModel _ => 'r'
  | .fallbackCycle _ => 'f'
  | .noEligibleRoute _ => 'n'

theorem DomainError.head_message (error : DomainError) :
    error.message.toList.head? = some error.initial := by
  cases error with
  | unknownModel model => exact head_quoted rfl _ _
  | fallbackCycle model => exact head_quoted rfl _ _
  | noEligibleRoute model => exact head_quoted rfl _ _

/-- An error can be read off its text. -/
theorem DomainError.message_injective {a b : DomainError} (h : a.message = b.message) : a = b := by
  have hinitial : a.initial = b.initial := by
    have hhead := a.head_message
    rw [h, b.head_message, Option.some.injEq] at hhead
    exact hhead.symm
  cases a with
  | unknownModel model =>
    cases b with
    | unknownModel model' => exact congrArg _ (quoted_injective h)
    | fallbackCycle model' => cases hinitial
    | noEligibleRoute model' => cases hinitial
  | fallbackCycle model =>
    cases b with
    | unknownModel model' => cases hinitial
    | fallbackCycle model' => exact congrArg _ (quoted_injective h)
    | noEligibleRoute model' => cases hinitial
  | noEligibleRoute model =>
    cases b with
    | unknownModel model' => cases hinitial
    | fallbackCycle model' => cases hinitial
    | noEligibleRoute model' => exact congrArg _ (quoted_injective h)

end SmartGateway
