import SmartGateway.Lib.TextPattern
import SmartGateway.Storage.LedgerRoundTrip

/-! # The patterns of the schemas

Both schemas keep literal secrets out of `provider_accounts.credential_ref` by a `CHECK`: two
`GLOB`s in SQLite, a regular expression in PostgreSQL. Each admits one language of texts, the
language whose texts `CredentialReference::parse` accepts. The `GLOB` on currency codes is read
in the same way.
-/

namespace SmartGateway

open scoped Computability

/-! ## Credential references as a language -/

/-- `[A-Za-z_]`. -/
def IsNameStart (c : Char) : Prop := ('A' ≤ c ∧ c ≤ 'Z') ∨ ('a' ≤ c ∧ c ≤ 'z') ∨ c = '_'

/-- `[A-Za-z0-9_]`. -/
def IsNameChar (c : Char) : Prop := IsNameStart c ∨ ('0' ≤ c ∧ c ≤ '9')

/-- `[A-Za-z_][A-Za-z0-9_]*`. -/
def environmentNames : Language Char := letters IsNameStart * (letters IsNameChar)∗

/-- `env:` with the name of a variable after it. -/
def credentialReferences : Language Char := {"env:".toList} * environmentNames

theorem mem_environmentNames {name : List Char} :
    name ∈ environmentNames ↔
      ∃ first rest, IsNameStart first ∧ (∀ c ∈ rest, IsNameChar c) ∧ name = first :: rest := by
  rw [environmentNames, mem_letters_mul]
  simp only [mem_letters_kstar]

theorem isUpper_iff (c : Char) : c.isUpper = true ↔ 'A' ≤ c ∧ c ≤ 'Z' := by
  have hupper : c.isUpper = decide ('A' ≤ c ∧ c ≤ 'Z') := rfl
  rw [hupper, decide_eq_true_eq]

theorem isNameStart_iff (c : Char) : (c == '_' || c.isAlpha) = true ↔ IsNameStart c := by
  have halpha : c.isAlpha = (c.isUpper || decide ('a' ≤ c) && decide (c ≤ 'z')) := rfl
  rw [halpha, Bool.or_eq_true, Bool.or_eq_true, Bool.and_eq_true, beq_iff_eq, isUpper_iff,
    decide_eq_true_eq, decide_eq_true_eq, IsNameStart, or_comm, or_assoc]

theorem isNameChar_iff (c : Char) : (c == '_' || c.isAlphanum) = true ↔ IsNameChar c := by
  have halphanum : c.isAlphanum = (c.isAlpha || decide ('0' ≤ c) && decide (c ≤ '9')) := rfl
  rw [halphanum, ← Bool.or_assoc, Bool.or_eq_true, isNameStart_iff, Bool.and_eq_true,
    decide_eq_true_eq, decide_eq_true_eq, IsNameChar]

theorem validEnvironmentName_iff {name : List Char} :
    validEnvironmentName name = true ↔ name ∈ environmentNames := by
  rw [mem_environmentNames]
  cases name with
  | nil => simp [validEnvironmentName]
  | cons first rest =>
    rw [validEnvironmentName, Bool.and_eq_true, isNameStart_iff, List.all_eq_true]
    simp only [isNameChar_iff]
    constructor
    · rintro ⟨hfirst, hrest⟩
      exact ⟨first, rest, hfirst, hrest, rfl⟩
    · rintro ⟨_, _, hfirst, hrest, heq⟩
      rcases List.cons.inj heq with ⟨rfl, rfl⟩
      exact ⟨hfirst, hrest⟩

theorem wellFormedReference_iff {text : String} :
    WellFormedReference text ↔ text.toList ∈ credentialReferences := by
  rw [credentialReferences, mem_singleton_mul]
  constructor
  · rintro ⟨name, hname, hvalid⟩
    refine ⟨name, validEnvironmentName_iff.mp hvalid, ?_⟩
    have htext := congrArg String.toList (stripEnvPrefix_eq_some.mp hname)
    rwa [String.toList_append, show (String.ofList name).toList = name from String.toList_ofList]
      at htext
  · rintro ⟨name, hname, htext⟩
    exact ⟨name, by rw [htext]; rfl, validEnvironmentName_iff.mpr hname⟩

/-! ## Classes of the patterns -/

/-- `[A-Za-z_]` as a bracket. -/
def nameStartClass : CharClass Char := ⟨false, [('A', 'Z'), ('a', 'z'), ('_', '_')]⟩

/-- `[A-Za-z0-9_]` as a bracket. -/
def nameCharClass : CharClass Char := ⟨false, [('A', 'Z'), ('a', 'z'), ('0', '9'), ('_', '_')]⟩

theorem nameStartClass_contains (c : Char) :
    nameStartClass.contains c = true ↔ IsNameStart c := by
  have hunderscore : '_' ≤ c ∧ c ≤ '_' ↔ c = '_' := by
    rw [and_comm, le_antisymm_iff]
  simp [nameStartClass, CharClass.contains, hunderscore, IsNameStart]

theorem nameCharClass_contains (c : Char) :
    nameCharClass.contains c = true ↔ IsNameChar c := by
  have hunderscore : '_' ≤ c ∧ c ≤ '_' ↔ c = '_' := by
    rw [and_comm, le_antisymm_iff]
  have hranges : nameCharClass.contains c = true ↔
      ('A' ≤ c ∧ c ≤ 'Z') ∨ ('a' ≤ c ∧ c ≤ 'z') ∨ ('0' ≤ c ∧ c ≤ '9') ∨ c = '_' := by
    simp [nameCharClass, CharClass.contains, hunderscore]
  rw [hranges, IsNameChar, IsNameStart, or_assoc, or_assoc, or_comm (a := c = '_')]

/-! ## The CHECK of PostgreSQL -/

namespace Postgres

/-- `provider_accounts_credential_ref_env_check`. A pattern that is not read would be an error,
which admits no row. -/
def credentialRefCheck (credentialRef : String) : Bool :=
  decide (regexSearch "^env:[A-Za-z_][A-Za-z0-9_]*$" credentialRef.toList = some true)

/-- The runs between the anchors. -/
def credentialRefRuns : List (CharRun Char) :=
  "env:".toList.map .literal ++ [.one nameStartClass, .star nameCharClass]

theorem credentialRef_pattern :
    (PatternToken.read "^env:[A-Za-z_][A-Za-z0-9_]*$").bind PatternToken.regexItems =
      some (.textStart :: (credentialRefRuns.map .chars ++ [.textEnd])) := by
  decide

theorem runsLanguage_credentialRef : runsLanguage credentialRefRuns = credentialReferences := by
  rw [credentialRefRuns, runsLanguage_literal, runsLanguage_cons, runsLanguage_singleton,
    CharRun.language_one, CharRun.language_star]
  simp only [nameStartClass_contains, nameCharClass_contains]
  rfl

theorem credentialRefCheck_iff {text : String} :
    credentialRefCheck text = true ↔ text.toList ∈ credentialReferences := by
  rw [credentialRefCheck, decide_eq_true_eq, regexSearch_anchored credentialRef_pattern,
    runsLanguage_credentialRef]

end Postgres

/-! ## The CHECK of SQLite -/

namespace Sqlite

/-- `text GLOB pattern`. -/
def globText (pattern : String) (text : List Char) : Bool := glob pattern (untilNul text)

/-- `substr(text, first)`: from a character on, counted from one. -/
def substr (text : List Char) (first : Nat) : List Char := (untilNul text).drop (first - 1)

/-- The `CHECK` of `provider_accounts.credential_ref`. -/
def credentialRefCheck (credentialRef : String) : Bool :=
  globText "env:[A-Za-z_]*" credentialRef.toList &&
    !globText "*[^A-Za-z0-9_]*" (substr credentialRef.toList 5)

theorem credentialRef_front :
    globRuns "env:[A-Za-z_]*" =
      some ("env:".toList.map .literal ++ [.one nameStartClass, .star .all]) := by
  decide

theorem credentialRef_outside :
    globRuns "*[^A-Za-z0-9_]*" =
      some [.star .all, .one { nameCharClass with negated := true }, .star .all] := by
  decide

/-- The first pattern looks at the front of the name only. -/
theorem glob_front {text : List Char} :
    glob "env:[A-Za-z_]*" text = true ↔
      ∃ first rest, IsNameStart first ∧ text = "env:".toList ++ first :: rest := by
  rw [glob_iff credentialRef_front, runsLanguage_literal, runsLanguage_cons, runsLanguage_singleton,
    CharRun.language_one, mem_singleton_mul]
  simp only [nameStartClass_contains, mem_letters_mul]
  constructor
  · rintro ⟨_, ⟨first, rest, hfirst, -, rfl⟩, htext⟩
    exact ⟨first, rest, hfirst, htext⟩
  · rintro ⟨first, rest, hfirst, htext⟩
    exact ⟨first :: rest, ⟨first, rest, hfirst, mem_language_star_all rest, rfl⟩, htext⟩

/-- The second pattern finds a character that no name has. -/
theorem glob_outside {text : List Char} :
    glob "*[^A-Za-z0-9_]*" text = true ↔ ∃ c ∈ text, ¬ IsNameChar c := by
  have hnegated : ∀ c, ({ nameCharClass with negated := true } : CharClass Char).contains c = true ↔
      ¬ IsNameChar c := by
    intro c
    rw [CharClass.contains_negated, Bool.not_eq_true', ← nameCharClass_contains, Bool.not_eq_true]
    rfl
  rw [glob_iff credentialRef_outside, mem_runsLanguage_anywhere]
  simp only [hnegated]

theorem credentialRefCheck_iff {text : String} (hnul : '\x00' ∉ text.toList) :
    credentialRefCheck text = true ↔ text.toList ∈ credentialReferences := by
  have hfour : ∀ name : List Char, ("env:".toList ++ name).drop (5 - 1) = name := by
    intro name
    rfl
  have hsubstr : substr text.toList 5 = text.toList.drop (5 - 1) := by
    rw [substr, untilNul_eq hnul]
  have hplain : '\x00' ∉ text.toList.drop (5 - 1) := fun hmem => hnul (List.mem_of_mem_drop hmem)
  rw [credentialRefCheck, globText, globText, hsubstr, untilNul_eq hnul, untilNul_eq hplain,
    Bool.and_eq_true, Bool.not_eq_true', ← Bool.not_eq_true, glob_front, glob_outside,
    credentialReferences, mem_singleton_mul]
  simp only [mem_environmentNames, not_exists, not_and, not_not]
  constructor
  · rintro ⟨⟨first, rest, hfirst, htext⟩, hall⟩
    rw [htext, hfour, List.forall_mem_cons] at hall
    exact ⟨first :: rest, ⟨first, rest, hfirst, hall.2, rfl⟩, htext⟩
  · rintro ⟨_, ⟨first, rest, hfirst, hrest, rfl⟩, htext⟩
    refine ⟨⟨first, rest, hfirst, htext⟩, ?_⟩
    rw [htext, hfour, List.forall_mem_cons]
    exact ⟨Or.inl hfirst, hrest⟩

/-- SQLite does not see what follows a NUL, so such a text passes though parsing refuses it. -/
example : credentialRefCheck "env:KEY\x00!" = true ∧
    (CredentialReference.parse "env:KEY\x00!").toOption = none := by
  decide

/-! ## Currency codes -/

theorem currencyCode_pattern :
    globRuns "[A-Z][A-Z][A-Z]" = some (List.replicate 3 (.one ⟨false, [('A', 'Z')]⟩)) := by
  decide

/-- `threeCapitals` is the pattern on the columns of currency codes. -/
theorem threeCapitals_eq_glob (code : String) :
    threeCapitals code = globText "[A-Z][A-Z][A-Z]" code.toList := by
  have hupper : ∀ c, (CharClass.mk false [('A', 'Z')]).contains c = true ↔ c.isUpper = true := by
    intro c
    rw [isUpper_iff]
    simp [CharClass.contains]
  rw [Bool.eq_iff_iff, threeCapitals, globText, glob_iff currencyCode_pattern,
    mem_runsLanguage_replicate, Bool.and_eq_true, decide_eq_true_eq, List.all_eq_true]
  simp only [hupper]

end Sqlite

end SmartGateway
