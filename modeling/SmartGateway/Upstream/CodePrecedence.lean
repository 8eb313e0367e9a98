import SmartGateway.Upstream.ErrorBodies

/-! # Codes before statuses

A reply with an error status is classified by `classify`, an error inside a stream by
`sanitizedOpenaiError`. Both look for the cause in the lower-cased code, but `classify` asks for
some statuses before, and for a status between two causes, and the stream looks for a word that
`classify` does not know. A code that names a cause decides alone where none of these comes
first.
-/

namespace SmartGateway

namespace Upstream

/-- The code names an exhausted quota. -/
def namesQuota (code : String) : Bool :=
  Text.contains code "insufficient_quota" || Text.contains code "quota_exceeded"

/-- The causes both classifiers recognise in a lower-cased code. -/
def namesCause (code : String) : Bool :=
  namesQuota code || Text.contains code "credit" || Text.contains code "model"

/-- Where the code of a reply is looked at before its status, and its first cause is the one a
stream would see: a quota or a credit gives way to an authentication status, a model to that of
a rate limit too, unless the stream reads a rate limit out of the code itself. -/
def Decides (code : String) (status : Nat) : Prop :=
  if namesQuota code || Text.contains code "credit" then status ≠ 401 ∧ status ≠ 403
  else if Text.contains code "rate" then status = 429
  else status ≠ 401 ∧ status ≠ 403 ∧ status ≠ 429

instance (code : String) (status : Nat) : Decidable (Decides code status) := by
  unfold Decides
  infer_instance

/-- One status: the two classifiers meet exactly where the code decides. -/
theorem classifyCategory_eq_sanitizedCategory_iff {code : String}
    (hcause : namesCause code = true) (status : Nat) :
    classifyCategory status code = sanitizedCategory code ↔ Decides code status := by
  unfold Decides classifyCategory sanitizedCategory
  unfold namesCause namesQuota at *
  by_cases hquota : (Text.contains code "insufficient_quota" ||
      Text.contains code "quota_exceeded") = true
  · by_cases hauth : status = 401 ∨ status = 403
    · rw [if_pos hauth, if_pos hquota, hquota]
      simp
      omega
    · rw [if_neg hauth, if_pos hquota, if_pos hquota, hquota]
      simp
      omega
  rw [if_neg hquota, if_neg hquota]
  rw [Bool.not_eq_true] at hquota
  rw [hquota] at hcause ⊢
  by_cases hcredit : Text.contains code "credit" = true
  · by_cases hauth : status = 401 ∨ status = 403
    · rw [if_pos hauth, if_pos hcredit, hcredit]
      simp
      omega
    · rw [if_neg hauth, if_pos hcredit, if_pos hcredit, hcredit]
      simp
      omega
  rw [if_neg hcredit, if_neg hcredit]
  rw [Bool.not_eq_true] at hcredit
  rw [hcredit] at hcause ⊢
  -- only a model is left, which `classify` looks for after the status of a rate limit
  have hmodel : Text.contains code "model" = true := hcause
  rw [hmodel]
  by_cases hrate : Text.contains code "rate" = true
  · rw [hrate]
    by_cases hauth : status = 401 ∨ status = 403
    · rw [if_pos hauth]
      simp
      omega
    · rw [if_neg hauth]
      by_cases hlimit : status = 429
      · simp [hlimit]
      · simp [hlimit]
  · rw [Bool.not_eq_true] at hrate
    rw [hrate]
    by_cases hauth : status = 401 ∨ status = 403
    · rw [if_pos hauth]
      simp
      omega
    · rw [if_neg hauth]
      by_cases hlimit : status = 429
      · simp [hlimit]
      · simp [hlimit]
        omega

/-! ## Failures -/

/-- An error object whose code is the text. -/
def HasCode (error : Option Json) (code : String) : Prop :=
  (error.bind fun error => error.get "code") = some (.string code)

theorem errorCode_of_hasCode {error : Option Json} {code : String} (h : HasCode error code) :
    errorCode error = code.toLower := by
  rw [errorCode, h]
  rfl

/-- Three failures of one category, which then block the account or open only the route
alike. -/
structure OneVerdict (a b c : ProviderFailure) : Prop where
  category : a.category = b.category ∧ b.category = c.category
  blocksAccount : a.category.blocksAccount = b.category.blocksAccount ∧
    b.category.blocksAccount = c.category.blocksAccount
  opensRoute : a.category.opensRoute = b.category.opensRoute ∧
    b.category.opensRoute = c.category.opensRoute

theorem OneVerdict.of_category {a b c : ProviderFailure} (hab : a.category = b.category)
    (hbc : b.category = c.category) : OneVerdict a b c := by
  constructor
  · exact ⟨hab, hbc⟩
  · rw [hab, hbc]
    exact ⟨rfl, rfl⟩
  · rw [hab, hbc]
    exact ⟨rfl, rfl⟩

/-- Two replies and a stream with one code that names a cause are told alike exactly where the
code decides for both statuses. -/
theorem one_verdict_iff {code : String} (hcause : namesCause code.toLower = true)
    {body₁ body₂ error : Json} (hbody₁ : HasCode (body₁.get "error") code)
    (hbody₂ : HasCode (body₂.get "error") code) (herror : HasCode (some error) code)
    (clock₁ clock₂ clock : Option Nat) (status₁ status₂ : Nat) :
    OneVerdict (classify clock₁ status₁ body₁) (classify clock₂ status₂ body₂)
        (sanitizedOpenaiError clock error) ↔
      Decides code.toLower status₁ ∧ Decides code.toLower status₂ := by
  have hcategory₁ : (classify clock₁ status₁ body₁).category =
      classifyCategory status₁ code.toLower := by
    rw [classify, errorCode_of_hasCode hbody₁]
  have hcategory₂ : (classify clock₂ status₂ body₂).category =
      classifyCategory status₂ code.toLower := by
    rw [classify, errorCode_of_hasCode hbody₂]
  have hcategory : (sanitizedOpenaiError clock error).category =
      sanitizedCategory code.toLower := by
    rw [sanitizedOpenaiError, errorCode_of_hasCode herror, sanitizedFailure]
  -- the stream's verdict comes from the code alone, so it is what the others are compared with
  have hiff := classifyCategory_eq_sanitizedCategory_iff hcause
  constructor
  · intro h
    have hsame₂ := h.category.2
    have hsame₁ := h.category.1.trans hsame₂
    rw [hcategory₁, hcategory] at hsame₁
    rw [hcategory₂, hcategory] at hsame₂
    exact ⟨(hiff status₁).mp hsame₁, (hiff status₂).mp hsame₂⟩
  · rintro ⟨hdecides₁, hdecides₂⟩
    have hsame₁ := (hiff status₁).mpr hdecides₁
    have hsame₂ := (hiff status₂).mpr hdecides₂
    apply OneVerdict.of_category
    · rw [hcategory₁, hcategory₂, hsame₁, hsame₂]
    · rw [hcategory₂, hcategory, hsame₂]

/-! ## A code behind an authentication status -/

/-- `{"code": …}`. -/
def errorWithCode (code : String) : Json := .object [("code", .string code)]

/-- `{"error": {"code": …}}`. -/
def bodyWithCode (code : String) : Json := .object [("error", errorWithCode code)]

theorem hasCode_bodyWithCode (code : String) : HasCode ((bodyWithCode code).get "error") code :=
  rfl

theorem hasCode_errorWithCode (code : String) : HasCode (some (errorWithCode code)) code := rfl

theorem quota_decides :
    OneVerdict (classify none 429 (bodyWithCode "insufficient_quota"))
      (classify none 500 (bodyWithCode "insufficient_quota"))
      (sanitizedOpenaiError none (errorWithCode "insufficient_quota")) := by
  have hlower : "insufficient_quota".toLower = "insufficient_quota" :=
    Text.toLower_eq_self (by decide)
  have hcause : namesCause "insufficient_quota".toLower = true := by
    rw [hlower]
    decide
  refine (one_verdict_iff hcause (hasCode_bodyWithCode _) (hasCode_bodyWithCode _)
    (hasCode_errorWithCode _) none none none 429 500).mpr ?_
  rw [hlower]
  decide

/-- A model that is not there blocks the account with one status, and opens the route with
another. -/
theorem model_blocks_account :
    (classify none 403 (bodyWithCode "model_not_found")).category.blocksAccount = true ∧
    (classify none 400 (bodyWithCode "model_not_found")).category.blocksAccount = false ∧
    ¬ OneVerdict (classify none 403 (bodyWithCode "model_not_found"))
      (classify none 400 (bodyWithCode "model_not_found"))
      (sanitizedOpenaiError none (errorWithCode "model_not_found")) := by
  have hcode : errorCode ((bodyWithCode "model_not_found").get "error") = "model_not_found" := by
    rw [errorCode_of_hasCode (hasCode_bodyWithCode _)]
    exact Text.toLower_eq_self (by decide)
  have hforbidden : (classify none 403 (bodyWithCode "model_not_found")).category =
      .authenticationFailed := by
    rw [classify, hcode]
    rfl
  have hbad : (classify none 400 (bodyWithCode "model_not_found")).category =
      .modelUnavailable := by
    rw [classify, hcode]
    decide
  refine ⟨by rw [hforbidden]; rfl, by rw [hbad]; rfl, ?_⟩
  intro h
  have hsame := h.category.1
  rw [hforbidden, hbad] at hsame
  cases hsame

end Upstream

end SmartGateway
