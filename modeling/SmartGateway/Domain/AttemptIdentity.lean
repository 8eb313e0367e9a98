import Mathlib.Tactic.IntervalCases
import SmartGateway.Ports

/-! # Reading an attempt identity

`AttemptId::parse` reads a UUID in any of its four spellings, with digits of either case; an
identity is printed in one of them, with hyphens and small digits. Printing and reading
back gives the identity again (`parse_text`).
-/

namespace SmartGateway

namespace AttemptId

def isHexDigit (c : Char) : Bool :=
  ('0' ≤ c && c ≤ '9') || ('a' ≤ c && c ≤ 'f') || ('A' ≤ c && c ≤ 'F')

/-- A group of digits up to its hyphen, and the text after it. -/
def splitGroup (size : Nat) (text : List Char) : Option (List Char × List Char) :=
  if (text.drop size).head? = some '-' then some (text.take size, text.drop (size + 1)) else none

/-- The digits of the form with hyphens. -/
def hyphenatedDigits (text : List Char) : Option (List Char) :=
  (splitGroup 8 text).bind fun (timeLow, text) =>
  (splitGroup 4 text).bind fun (timeMid, text) =>
  (splitGroup 4 text).bind fun (timeHigh, text) =>
  (splitGroup 4 text).map fun (clock, node) => timeLow ++ timeMid ++ timeHigh ++ clock ++ node

/-- The digits of any of the forms: plain, with hyphens, braced, and as a URN. -/
def uuidDigits (text : List Char) : Option (List Char) :=
  if text.length = 32 then some text
  else if text.length = 36 then hyphenatedDigits text
  else if text.length = 38 ∧ text.head? = some '{' ∧ text.getLast? = some '}' then
    hyphenatedDigits ((text.drop 1).take 36)
  else if text.length = 45 ∧ text.take 9 = "urn:uuid:".toList then
    hyphenatedDigits (text.drop 9)
  else none

/-- The printed form of 32 digits. -/
def printDigits (digits : List Char) : List Char :=
  digits.take 8 ++ '-' :: ((digits.drop 8).take 4 ++ '-' :: ((digits.drop 12).take 4 ++
    '-' :: ((digits.drop 16).take 4 ++ '-' :: digits.drop 20)))

theorem length_printDigits {digits : List Char} (h : digits.length = 32) :
    (printDigits digits).length = 36 := by
  simp only [printDigits, List.length_append, List.length_cons, List.length_take, List.length_drop,
    h]
  omega

/-- `Uuid::parse_str`. -/
def parse (value : String) : Option AttemptId :=
  (uuidDigits value.toList).bind fun digits =>
    if h : digits.length = 32 ∧ digits.all isHexDigit = true then
      some ⟨String.ofList (printDigits (digits.map Char.toLower)),
        (String.length_ofList ..).trans (length_printDigits ((List.length_map ..).trans h.1))⟩
    else none

/-- A digit as it is printed. -/
def isSmallHexDigit (c : Char) : Bool := isHexDigit c && c.toLower == c

/-- The identity is a UUID, as every identity of the program is. -/
def IsUuid (id : AttemptId) : Prop :=
  ∃ digits : List Char, digits.length = 32 ∧ digits.all isSmallHexDigit = true ∧
    id.text = String.ofList (printDigits digits)

theorem splitGroup_append {size : Nat} {group rest : List Char} (h : group.length = size) :
    splitGroup size (group ++ '-' :: rest) = some (group, rest) := by
  subst h
  simp [splitGroup]

theorem hyphenatedDigits_print {digits : List Char} (h : digits.length = 32) :
    hyphenatedDigits (printDigits digits) = some digits := by
  unfold hyphenatedDigits printDigits
  rw [splitGroup_append (by simp [h])]
  dsimp only [Option.bind_some]
  rw [splitGroup_append (by simp [h])]
  dsimp only [Option.bind_some]
  rw [splitGroup_append (by simp [h])]
  dsimp only [Option.bind_some]
  rw [splitGroup_append (by simp [h])]
  -- the five groups are the digits again
  have hfirst : digits.take 8 ++ (digits.drop 8).take 4 = digits.take 12 :=
    List.take_add.symm
  have hsecond : digits.take 12 ++ (digits.drop 12).take 4 = digits.take 16 :=
    List.take_add.symm
  have hthird : digits.take 16 ++ (digits.drop 16).take 4 = digits.take 20 :=
    List.take_add.symm
  simp only [Option.map_some, hfirst, hsecond, hthird, List.take_append_drop]

/-- What is printed is read back. -/
theorem parse_text {id : AttemptId} (h : id.IsUuid) : parse id.text = some id := by
  obtain ⟨digits, hlength, hdigits, htext⟩ := h
  rw [List.all_eq_true] at hdigits
  have hhex : digits.all isHexDigit = true := by
    rw [List.all_eq_true]
    intro c hc
    exact (Bool.and_eq_true_iff.mp (hdigits c hc)).1
  have hsmall : digits.map Char.toLower = digits := by
    conv_rhs => rw [← List.map_id digits]
    apply List.map_congr_left
    intro c hc
    exact eq_of_beq (Bool.and_eq_true_iff.mp (hdigits c hc)).2
  have hprinted := length_printDigits hlength
  have huuid : uuidDigits id.text.toList = some digits := by
    rw [htext, String.toList_ofList, uuidDigits, if_neg (by omega), if_pos hprinted,
      hyphenatedDigits_print hlength]
  rw [parse, huuid, Option.bind_some, dif_pos ⟨hlength, hhex⟩, Option.some.injEq]
  apply AttemptId.ext
  show String.ofList (printDigits (digits.map Char.toLower)) = id.text
  rw [htext, hsmall]

theorem isSmallHexDigit_toLower {c : Char} (h : isHexDigit c = true) :
    isSmallHexDigit c.toLower = true := by
  have hrange : (48 ≤ c.toNat ∧ c.toNat ≤ 57) ∨ (97 ≤ c.toNat ∧ c.toNat ≤ 102) ∨
      (65 ≤ c.toNat ∧ c.toNat ≤ 70) := by
    simp only [isHexDigit, Bool.or_eq_true, Bool.and_eq_true, decide_eq_true_eq, Char.le_def,
      UInt32.le_iff_toNat_le] at h
    exact or_assoc.mp h
  rw [← Char.ofNat_toNat c]
  generalize c.toNat = n at hrange
  rcases hrange with ⟨hlow, hhigh⟩ | ⟨hlow, hhigh⟩ | ⟨hlow, hhigh⟩ <;>
    interval_cases n <;> decide

/-- What is read is a UUID. -/
theorem isUuid_of_parse {value : String} {id : AttemptId} (h : parse value = some id) :
    id.IsUuid := by
  unfold parse at h
  obtain ⟨digits, -, h⟩ := Option.bind_eq_some_iff.mp h
  split at h
  · next hdigits =>
    obtain rfl := Option.some.inj h
    refine ⟨digits.map Char.toLower, ?_, ?_, rfl⟩
    · rw [List.length_map, hdigits.1]
    · rw [List.all_map, List.all_eq_true]
      intro c hc
      exact isSmallHexDigit_toLower (List.all_eq_true.mp hdigits.2 c hc)
  · cases h

/-- A UUID is printed without NUL. -/
theorem IsUuid.plain {id : AttemptId} (h : id.IsUuid) : '\x00' ∉ id.text.toList := by
  obtain ⟨digits, -, hdigits, htext⟩ := h
  have hnot : '\x00' ∉ digits := by
    intro hmem
    have hdigit := List.all_eq_true.mp hdigits _ hmem
    cases hdigit
  rw [htext, String.toList_ofList]
  intro hmem
  simp only [printDigits, List.mem_append, List.mem_cons] at hmem
  rcases hmem with h | h | h | h | h | h | h | h | h
  · exact hnot (List.mem_of_mem_take h)
  · cases h
  · exact hnot (List.mem_of_mem_drop (List.mem_of_mem_take h))
  · cases h
  · exact hnot (List.mem_of_mem_drop (List.mem_of_mem_take h))
  · cases h
  · exact hnot (List.mem_of_mem_drop (List.mem_of_mem_take h))
  · cases h
  · exact hnot (List.mem_of_mem_drop h)

end AttemptId

end SmartGateway
