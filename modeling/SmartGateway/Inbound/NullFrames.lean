import SmartGateway.Domain.NullMembers
import SmartGateway.Inbound.Allowlist

/-! # Null members of a frame

Deleting a `null` member that is not required mostly leaves the result of `decode_frame` as it
was. Two members are different: the test for a top-level `error` is one for presence, and
`top_logprobs` is a list with a default, which does not take `null` for its absence.
-/

namespace SmartGateway

namespace Inbound

open Upstream Schema

/-- Where a deleted member was: the top-level error, a declared member that is not required, or
another member that is not declared. -/
inductive Place where
  | error
  | optional
  | filled
  | undeclared
deriving DecidableEq

/-- `ys` is `xs` without one member at the place, which is `null`. -/
inductive DeletesNull : Place → List (String × Json) → List (String × Json) → Prop where
  | error {xs ys : List (String × Json)} (hnull : xs.lookup "error" = some .null)
      (h : Without "error" xs ys) : DeletesNull .error xs ys
  | optional {xs ys : List (String × Json)}
      (h : Deletes (some .optional) OpenAiChatCompletionChunk.schema (.object xs) (.object ys)) :
      DeletesNull .optional xs ys
  | filled {xs ys : List (String × Json)}
      (h : Deletes (some .filled) OpenAiChatCompletionChunk.schema (.object xs) (.object ys)) :
      DeletesNull .filled xs ys
  | undeclared {xs ys : List (String × Json)}
      (h : Deletes none OpenAiChatCompletionChunk.schema (.object xs) (.object ys))
      (herror : ys.lookup "error" = xs.lookup "error") : DeletesNull .undeclared xs ys

/-- The member is not the top-level error; and where it is a list with a default, the frame has
an error, or it is no chunk without the member either. -/
def Harmless (place : Place) (xs ys : List (String × Json)) : Prop :=
  place ≠ .error ∧ (place = .filled → xs.lookup "error" ≠ none ∨
    ¬ OpenAiChatCompletionChunk.schema.WellFormed (.object ys))

theorem not_harmless_error {xs ys : List (String × Json)} : ¬ Harmless .error xs ys := by
  simp [Harmless]

theorem harmless_optional {xs ys : List (String × Json)} : Harmless .optional xs ys := by
  simp [Harmless]

theorem harmless_undeclared {xs ys : List (String × Json)} : Harmless .undeclared xs ys := by
  simp [Harmless]

theorem harmless_filled {xs ys : List (String × Json)} :
    Harmless .filled xs ys ↔ xs.lookup "error" ≠ none ∨
      ¬ OpenAiChatCompletionChunk.schema.WellFormed (.object ys) := by
  simp [Harmless]

/-- The chunk declares no error. -/
theorem error_undeclared {presence : Presence} {xs ys : List (String × Json)}
    (h : Deletes (some presence) OpenAiChatCompletionChunk.schema (.object xs) (.object ys)) :
    ys.lookup "error" = xs.lookup "error" := by
  rw [OpenAiChatCompletionChunk.schema] at h
  exact h.lookup_undeclared (by simp)

variable {parse : String → Option Json} {clock : Option Nat} {frame frame' : Bytes}
  {xs ys : List (String × Json)}

/-- A chunk reader fails on what is not well formed, and only on that. -/
theorem ofValue_eq_none_iff {value : Json} :
    OpenAiChatCompletionChunk.ofValue value = none ↔
      ¬ OpenAiChatCompletionChunk.schema.WellFormed value := by
  rw [← OpenAiChatCompletionChunk.described.accepts value, ← Option.ne_none_iff_exists', not_not]

theorem decodeObject_of_error {error : Json} (h : xs.lookup "error" = some error) :
    decodeObject (chunkCodec parse) clock xs =
      .ok (some (.failed (sanitizedOpenaiError clock error))) := by
  rw [decodeObject, h]

theorem decodeObject_of_chunk (h : xs.lookup "error" = none) :
    decodeObject (chunkCodec parse) clock xs =
      match OpenAiChatCompletionChunk.ofValue (.object xs) with
      | none => .error .providerUnavailable
      | some chunk => .ok (some (.frame chunk)) := by
  simp only [decodeObject, h, chunkCodec]
  cases OpenAiChatCompletionChunk.ofValue (.object xs) with
  | none => rfl
  | some chunk => rfl

/-- A frame with a `null` error is taken for a failure; without the member it is not. -/
theorem decodeObject_null_error (hnull : xs.lookup "error" = some .null)
    (hgone : ys.lookup "error" = none) :
    decodeObject (chunkCodec parse) clock xs ≠ decodeObject (chunkCodec parse) clock ys := by
  rw [decodeObject_of_error hnull, decodeObject_of_chunk hgone]
  cases OpenAiChatCompletionChunk.ofValue (.object ys) with
  | none => nofun
  | some chunk => nofun

/-- A frame with a `null` list with a default is no chunk. -/
theorem decodeObject_null_list
    (h : Deletes (some .filled) OpenAiChatCompletionChunk.schema (.object xs) (.object ys))
    (herror : xs.lookup "error" = none) :
    decodeObject (chunkCodec parse) clock xs = decodeObject (chunkCodec parse) clock ys ↔
      ¬ OpenAiChatCompletionChunk.schema.WellFormed (.object ys) := by
  rw [decodeObject_of_chunk herror, decodeObject_of_chunk ((error_undeclared h).trans herror),
    ofValue_eq_none_iff.mpr h.not_wellFormed, ← ofValue_eq_none_iff]
  cases OpenAiChatCompletionChunk.ofValue (.object ys) with
  | none => exact iff_of_true rfl rfl
  | some chunk => exact iff_of_false nofun nofun

/-- A `null` member that is optional or not declared makes no difference, but for an error. -/
theorem decodeObject_null_blank {presence : Option Presence}
    (hpresence : presence = some .optional ∨ presence = none)
    (h : Deletes presence OpenAiChatCompletionChunk.schema (.object xs) (.object ys))
    (herror : ys.lookup "error" = xs.lookup "error") :
    decodeObject (chunkCodec parse) clock xs = decodeObject (chunkCodec parse) clock ys := by
  have hread : OpenAiChatCompletionChunk.ofValue (.object xs) =
      OpenAiChatCompletionChunk.ofValue (.object ys) :=
    OpenAiChatCompletionChunk.described.same _ _
      (h.agrees hpresence OpenAiChatCompletionChunk.described.distinct)
  rw [decodeObject, decodeObject, herror]
  simp only [chunkCodec, hread]

/-- Deleting a `null` member changes the result of `decode_frame` unless it is harmless. -/
theorem null_absent_iff {place : Place} (hframe : frameJson parse frame = some (.object xs))
    (hframe' : frameJson parse frame' = some (.object ys)) (h : DeletesNull place xs ys) :
    decodeFrame (chunkCodec parse) clock frame = decodeFrame (chunkCodec parse) clock frame' ↔
      Harmless place xs ys := by
  have hx : decodeFrame (chunkCodec parse) clock frame = decodeObject (chunkCodec parse) clock xs :=
    decodeFrame_of_frameJson hframe clock
  have hy : decodeFrame (chunkCodec parse) clock frame' = decodeObject (chunkCodec parse) clock ys :=
    decodeFrame_of_frameJson hframe' clock
  -- only the top-level error, and a list with a default, are told from an absent member
  rw [hx, hy]
  cases h with
  | error hnull h =>
    exact iff_of_false (decodeObject_null_error hnull h.gone) not_harmless_error
  | optional h =>
    refine iff_of_true ?_ harmless_optional
    exact decodeObject_null_blank (Or.inl rfl) h (error_undeclared h)
  | undeclared h herror =>
    refine iff_of_true ?_ harmless_undeclared
    exact decodeObject_null_blank (Or.inr rfl) h herror
  | filled h =>
    rw [harmless_filled]
    cases herror : xs.lookup "error" with
    | none =>
      have hnone : ¬ (none : Option Json) ≠ none := fun hne => hne rfl
      rw [decodeObject_null_list h herror, or_iff_right hnone]
    | some error =>
      refine iff_of_true ?_ (Or.inl (Option.some_ne_none error))
      rw [decodeObject_of_error herror, decodeObject_of_error ((error_undeclared h).trans herror)]

/-! ## Frames with nulls -/

def healthyText : String := "\x7b\"choices\":[]\x7d"

def nullUsageText : String := "\x7b\"choices\":[],\"usage\":null\x7d"

def nullErrorText : String := "\x7b\"choices\":[],\"error\":null\x7d"

def healthyMembers : List (String × Json) := [("choices", .array [])]

def healthyChunk : OpenAiChatCompletionChunk :=
  { id := none, object := none, created := none, model := none, serviceTier := none
    systemFingerprint := none, choices := [], usage := none }

/-- The parser at the three texts. -/
def parseNulls (text : String) : Option Json :=
  if text = healthyText then some (.object healthyMembers)
  else if text = nullUsageText then some (.object (healthyMembers ++ [("usage", .null)]))
  else if text = nullErrorText then some (.object (healthyMembers ++ [("error", .null)]))
  else none

theorem frameJson_healthy :
    frameJson parseNulls (dataFrame healthyText) = some (.object healthyMembers) := by
  rw [frameJson_dataFrame (by decide +kernel) (by decide +kernel) (by decide +kernel)]
  exact if_pos rfl

theorem frameJson_nullUsage : frameJson parseNulls (dataFrame nullUsageText) =
    some (.object (healthyMembers ++ [("usage", .null)])) := by
  rw [frameJson_dataFrame (by decide +kernel) (by decide +kernel) (by decide +kernel), parseNulls,
    if_neg (by decide +kernel), if_pos rfl]

theorem frameJson_nullError : frameJson parseNulls (dataFrame nullErrorText) =
    some (.object (healthyMembers ++ [("error", .null)])) := by
  rw [frameJson_dataFrame (by decide +kernel) (by decide +kernel) (by decide +kernel), parseNulls,
    if_neg (by decide +kernel), if_neg (by decide +kernel), if_pos rfl]

/-- A member after the others, deleted. -/
theorem without_append {name : String} {members : List (String × Json)} (value : Json)
    (h : members.lookup name = none) : Without name (members ++ [(name, value)]) members := by
  refine ⟨h, ?_⟩
  intro other hother
  have hnone : ([(name, value)] : List (String × Json)).lookup other = none :=
    lookup_member_ne name hother value
  rw [List.lookup_append, hnone, Option.or_none]

theorem null_usage_absent : decodeFrame (chunkCodec parseNulls) none (dataFrame nullUsageText) =
    decodeFrame (chunkCodec parseNulls) none (dataFrame healthyText) := by
  have hdeletes : DeletesNull .optional (healthyMembers ++ [("usage", .null)]) healthyMembers := by
    refine .optional ?_
    rw [OpenAiChatCompletionChunk.schema]
    refine .here ⟨OpenAiUsage.schema, ?_⟩ rfl (without_append .null rfl)
    simp
  exact (null_absent_iff frameJson_nullUsage frameJson_healthy hdeletes).mpr harmless_optional

theorem errorCode_null : errorCode (some .null) = "" :=
  Text.toLower_eq_self (by decide)

/-- A healthy frame with a `null` error is a failure of the stream. -/
theorem null_error_fails :
    DeletesNull .error (healthyMembers ++ [("error", .null)]) healthyMembers ∧
    frameJson parseNulls (dataFrame nullErrorText) =
      some (.object (healthyMembers ++ [("error", .null)])) ∧
    frameJson parseNulls (dataFrame healthyText) = some (.object healthyMembers) ∧
    decodeFrame (chunkCodec parseNulls) none (dataFrame nullErrorText) =
      .ok (some (.failed (sanitizedFailure none .providerUnavailable))) ∧
    decodeFrame (chunkCodec parseNulls) none (dataFrame healthyText) =
      .ok (some (.frame healthyChunk)) := by
  refine ⟨.error rfl (without_append .null rfl), frameJson_nullError, frameJson_healthy, ?_, ?_⟩
  · have hcategory : sanitizedCategory "" = .providerUnavailable := by decide
    rw [decodeFrame_of_frameJson frameJson_nullError none, decodeObject_of_error rfl,
      sanitizedOpenaiError, errorCode_null, hcategory]
  · rw [decodeFrame_of_frameJson frameJson_healthy none]
    rfl

end Inbound

end SmartGateway
