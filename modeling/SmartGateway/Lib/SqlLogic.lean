import Mathlib.Data.List.Basic

/-! # The logic of SQL conditions

A condition over nullable columns is true, false or unknown. A `CHECK` refuses a row only
when its condition is false, so an unknown condition lets the row in.
-/

namespace Sql

/-- The value of a condition; `none` is unknown. -/
abbrev Truth := Option Bool

/-- `x AND y`. -/
def Truth.and : Truth → Truth → Truth
  | some false, _ => some false
  | _, some false => some false
  | some true, some true => some true
  | _, _ => none

/-- `x OR y`. -/
def Truth.or : Truth → Truth → Truth
  | some true, _ => some true
  | _, some true => some true
  | some false, some false => some false
  | _, _ => none

/-- `column IS NULL`. -/
def isNull {α : Type} (column : Option α) : Truth := some column.isNone

/-- `column IS NOT NULL`. -/
def isNotNull {α : Type} (column : Option α) : Truth := some column.isSome

/-- `x = y`. -/
def equals {α : Type} [DecidableEq α] : Option α → Option α → Truth
  | some x, some y => some (decide (x = y))
  | _, _ => none

/-- `column IN (…)`. -/
def isOneOf {α : Type} [DecidableEq α] (column : Option α) (values : List α) : Truth :=
  column.map fun x => decide (x ∈ values)

/-- A condition on the value of a column that is unknown where the column is null. -/
def holds {α : Type} (column : Option α) (p : α → Bool) : Truth := column.map p

@[simp] theorem and_eq_true {x y : Truth} : x.and y = some true ↔ x = some true ∧ y = some true := by
  rcases x with _ | _ | _ <;> rcases y with _ | _ | _ <;> simp [Truth.and]

@[simp] theorem or_eq_true {x y : Truth} : x.or y = some true ↔ x = some true ∨ y = some true := by
  rcases x with _ | _ | _ <;> rcases y with _ | _ | _ <;> simp [Truth.or]

@[simp] theorem isNull_eq_true {α : Type} {column : Option α} :
    isNull column = some true ↔ column = none := by
  simp [isNull]

@[simp] theorem isNotNull_eq_true {α : Type} {column : Option α} :
    isNotNull column = some true ↔ column.isSome = true := by
  simp [isNotNull]

@[simp] theorem equals_some_eq_true {α : Type} [DecidableEq α] {x y : α} :
    equals (some x) (some y) = some true ↔ x = y := by
  simp [equals]

@[simp] theorem isOneOf_some_eq_true {α : Type} [DecidableEq α] {x : α} {values : List α} :
    isOneOf (some x) values = some true ↔ x ∈ values := by
  simp [isOneOf]

@[simp] theorem holds_eq_true {α : Type} {column : Option α} {p : α → Bool} :
    holds column p = some true ↔ ∃ x, column = some x ∧ p x = true := by
  cases column <;> simp [holds]

/-! ## Checks -/

/-- A `CHECK` of a row: its text and the value of its condition. -/
structure Check where
  text : String
  condition : Truth

/-- The text of the first check that refuses the row. -/
def firstRefusal : List Check → Option String
  | [] => none
  | check :: rest => if check.condition = some false then some check.text else firstRefusal rest

/-- A row passes its checks: none of them is false. -/
def Passes (checks : List Check) : Prop := ∀ check ∈ checks, check.condition ≠ some false

theorem firstRefusal_eq_none {checks : List Check} : firstRefusal checks = none ↔ Passes checks := by
  induction checks with
  | nil => simp [firstRefusal, Passes]
  | cons check rest ih =>
    rw [firstRefusal]
    split
    · next hrefused => simp [Passes, hrefused]
    · next haccepted =>
      rw [ih]
      simp [Passes, haccepted]

/-- A row whose checks are all true passes. -/
theorem passes_of_true {checks : List Check} (h : ∀ check ∈ checks, check.condition = some true) :
    Passes checks := by
  intro check hcheck
  rw [h check hcheck]
  simp

end Sql
