import Mathlib.Data.List.Nodup
import SmartGateway.Domain.Schema

/-! # Deleting a null member

A member that is not required and is `null` can be deleted. For an optional member, and for one
that is not declared, no reader tells the difference. A list with a default has to be a list
where it is there, so a value with such a member as `null` is not well formed.
-/

namespace SmartGateway

namespace Schema

/-- `ys` is `xs` without the member of a name. -/
structure Without (name : String) (xs ys : List (String × Json)) : Prop where
  gone : ys.lookup name = none
  others : ∀ other, other ≠ name → ys.lookup other = xs.lookup other

/-- The structure declares the name with this presence; with none, it does not declare it. -/
def Declares (fields : List (String × Presence × Schema)) (name : String) :
    Option Presence → Prop
  | some presence => ∃ schema, (name, presence, schema) ∈ fields
  | none => name ∉ fields.map Prod.fst

/-- The second value is the first without one member, which is `null`. The schema, or one in it,
declares the member with this presence, or does not declare it. -/
inductive Deletes (presence : Option Presence) : Schema → Json → Json → Prop where
  | here {fields : List (String × Presence × Schema)} {xs ys : List (String × Json)}
      {name : String} (hdeclares : Declares fields name presence)
      (hnull : xs.lookup name = some .null) (h : Without name xs ys) :
      Deletes presence (.struct fields) (.object xs) (.object ys)
  | member {fields : List (String × Presence × Schema)} {xs ys : List (String × Json)}
      {name : String} {presence' : Presence} {schema : Schema} {x y : Json}
      (hdeclared : (name, presence', schema) ∈ fields) (hx : xs.lookup name = some x)
      (hy : ys.lookup name = some y)
      (hothers : ∀ other, other ≠ name → ys.lookup other = xs.lookup other)
      (h : Deletes presence schema x y) :
      Deletes presence (.struct fields) (.object xs) (.object ys)
  | position {before after : List (String × Presence × Schema)} {xs zs : List Json}
      {name : String} {presence' : Presence} {schema : Schema} {x y : Json}
      (hposition : xs.length = before.length) (h : Deletes presence schema x y) :
      Deletes presence (.struct (before ++ (name, presence', schema) :: after))
        (.array (xs ++ x :: zs)) (.array (xs ++ y :: zs))
  | item {item : Schema} {xs zs : List Json} {x y : Json} (h : Deletes presence item x y) :
      Deletes presence (.list item) (.array (xs ++ x :: zs)) (.array (xs ++ y :: zs))

variable {presence : Option Presence} {schema : Schema} {a b : Json}

theorem not_deletes_null : ¬ Deletes presence schema .null b := by
  intro h
  cases h

/-- A declared member is deleted: those that are not declared stay. -/
theorem Deletes.lookup_undeclared {presence : Presence}
    {fields : List (String × Presence × Schema)} {xs ys : List (String × Json)}
    (h : Deletes (some presence) (.struct fields) (.object xs) (.object ys))
    {name : String} (hname : name ∉ fields.map Prod.fst) : ys.lookup name = xs.lookup name := by
  cases h with
  | here hdeclares _ h =>
    obtain ⟨schema, hdeclared⟩ := hdeclares
    refine h.others name ?_
    rintro rfl
    exact hname (List.mem_map_of_mem hdeclared)
  | member hdeclared _ _ hothers _ =>
    refine hothers name ?_
    rintro rfl
    exact hname (List.mem_map_of_mem hdeclared)

/-! ## Members that no reader misses -/

/-- A name is declared once. -/
theorem eq_of_declared {fields : List (String × Presence × Schema)}
    (hnames : (fields.map Prod.fst).Nodup) {name : String} {presence presence' : Presence}
    {schema schema' : Schema} (h : (name, presence, schema) ∈ fields)
    (h' : (name, presence', schema') ∈ fields) : presence' = presence ∧ schema' = schema := by
  have heq := List.inj_on_of_nodup_map hnames h' h rfl
  cases heq
  exact ⟨rfl, rfl⟩

theorem RowAgrees.refl {fields : List (String × Presence × Schema)} (row : Row) :
    RowAgrees Agrees fields row row := by
  induction fields generalizing row with
  | nil => exact .done Iff.rfl
  | cons field fields ih => exact .field (.refl _ _ _) (ih _)

/-- Arrays that agree at one position, and are the same elsewhere. -/
theorem rowAgrees_position {before after : List (String × Presence × Schema)} {xs zs : List Json}
    {name : String} {presence : Presence} {x y : Json} (hposition : xs.length = before.length)
    (h : Agrees schema x y) : RowAgrees Agrees (before ++ (name, presence, schema) :: after)
      (.items (xs ++ x :: zs)) (.items (xs ++ y :: zs)) := by
  induction before generalizing xs with
  | nil =>
    obtain rfl := List.length_eq_zero_iff.mp hposition
    exact .field (.value h) (.refl _)
  | cons field before ih =>
    cases xs with
    | nil => cases hposition
    | cons x' xs => exact .field (.value (.same _ x')) (ih (Nat.succ.inj hposition))

theorem agrees_item {item : Schema} {xs zs : List Json} {x y : Json} (h : Agrees item x y) :
    Agrees (.list item) (.array (xs ++ x :: zs)) (.array (xs ++ y :: zs)) := by
  have hall : List.Forall₂ (Agrees item) (xs ++ x :: zs) (xs ++ y :: zs) := by
    refine List.rel_append ?_ (.cons h ?_)
    · exact List.forall₂_same.mpr fun z _ => .same item z
    · exact List.forall₂_same.mpr fun z _ => .same item z
  obtain ⟨hlength, hzip⟩ := List.forall₂_iff_zip.mp hall
  exact .list hlength fun x y hmem => hzip hmem

/-- An object without a `null` member that is optional or not declared. -/
theorem Without.agrees (hpresence : presence = some .optional ∨ presence = none)
    {fields : List (String × Presence × Schema)} (hnames : (fields.map Prod.fst).Nodup)
    {xs ys : List (String × Json)} {name : String} (hdeclares : Declares fields name presence)
    (hnull : xs.lookup name = some .null) (h : Without name xs ys) :
    Agrees (.struct fields) (.object xs) (.object ys) := by
  refine .object (rowAgrees_members.mpr ?_)
  intro other presence' schema' hmem
  rcases eq_or_ne other name with rfl | hne
  · rcases hpresence with rfl | rfl
    · obtain ⟨schema, hdeclared⟩ := hdeclares
      obtain ⟨rfl, rfl⟩ := eq_of_declared hnames hdeclared hmem
      rw [hnull, h.gone]
      exact .blank (Or.inr rfl) (Or.inl rfl)
    · exact absurd (List.mem_map_of_mem hmem) hdeclares
  · rw [h.others other hne]
    exact .refl _ _ _

/-- No reader misses a `null` member that is optional or not declared. -/
theorem Deletes.agrees (hpresence : presence = some .optional ∨ presence = none)
    (h : Deletes presence schema a b) (hdistinct : schema.Distinct) : Agrees schema a b := by
  induction h with
  | here hdeclares hnull h =>
    cases hdistinct with
    | struct hnames _ => exact h.agrees hpresence hnames hdeclares hnull
  | @member fields xs ys name presence' schema x y hdeclared hx hy hothers _ ih =>
    cases hdistinct with
    | struct hnames hfields =>
      refine .object (rowAgrees_members.mpr ?_)
      intro name' presence'' schema' hmem
      rcases eq_or_ne name' name with rfl | hne
      · obtain ⟨rfl, rfl⟩ := eq_of_declared hnames hdeclared hmem
        rw [hx, hy]
        exact .value (ih (hfields _ _ _ hdeclared))
      · rw [hothers name' hne]
        exact .refl _ _ _
  | @position before after xs zs name presence' schema x y hposition _ ih =>
    cases hdistinct with
    | struct hnames hfields =>
      exact .items (rowAgrees_position hposition (ih (hfields name presence' schema (by simp))))
  | item _ ih =>
    cases hdistinct with
    | list hitem => exact agrees_item (ih hitem)

/-! ## Lists with a default -/

/-- Objects are checked field by field. -/
theorem rowWellFormed_members {wellFormed : Schema → Json → Prop}
    {fields : List (String × Presence × Schema)} {xs : List (String × Json)}
    (h : RowWellFormed wellFormed fields (.members xs)) {name : String} {presence : Presence}
    {schema : Schema} (hmem : (name, presence, schema) ∈ fields) :
    FieldWellFormed wellFormed presence schema (.ofMember (xs.lookup name)) := by
  induction fields with
  | nil => cases hmem
  | cons field fields ih =>
    cases h with
    | field hfield hrest =>
      rcases List.mem_cons.mp hmem with heq | hmem
      · cases heq
        exact hfield
      · exact ih hrest hmem

theorem rowWellFormed_position {wellFormed : Schema → Json → Prop}
    {before after : List (String × Presence × Schema)} {xs zs : List Json} {name : String}
    {presence : Presence} {schema : Schema} {x : Json} (hposition : xs.length = before.length)
    (h : RowWellFormed wellFormed (before ++ (name, presence, schema) :: after)
      (.items (xs ++ x :: zs))) : FieldWellFormed wellFormed presence schema (.value x) := by
  induction before generalizing xs with
  | nil =>
    obtain rfl := List.length_eq_zero_iff.mp hposition
    cases h with
    | field hfield _ => exact hfield
  | cons field before ih =>
    cases xs with
    | nil => cases hposition
    | cons x' xs =>
      cases h with
      | field _ hrest => exact ih (Nat.succ.inj hposition) hrest

/-- A field with a value that is not well formed. -/
theorem not_fieldWellFormed_value {presence : Presence} {x : Json} (hnull : x ≠ .null)
    (h : ¬ WellFormed schema x) : ¬ FieldWellFormed WellFormed presence schema (.value x) := by
  intro hfield
  cases hfield with
  | value hx => exact h hx
  | null => exact hnull rfl

/-- A value is not well formed where a list with a default is `null`. -/
theorem Deletes.not_wellFormed (h : Deletes (some .filled) schema a b) :
    ¬ WellFormed schema a := by
  induction h with
  | here hdeclares hnull h =>
    intro hwell
    cases hwell with
    | object hrow =>
      obtain ⟨schema, hdeclared⟩ := hdeclares
      have hfield := rowWellFormed_members hrow hdeclared
      rw [hnull] at hfield
      cases hfield with
      | value hx => exact not_wellFormed_null _ hx
  | @member fields xs ys name presence' schema x y hdeclared hx hy hothers h ih =>
    intro hwell
    cases hwell with
    | object hrow =>
      have hfield := rowWellFormed_members hrow hdeclared
      rw [hx] at hfield
      refine not_fieldWellFormed_value ?_ ih hfield
      rintro rfl
      exact not_deletes_null h
  | @position before after xs zs name presence' schema x y hposition h ih =>
    intro hwell
    cases hwell with
    | items hrow =>
      refine not_fieldWellFormed_value ?_ ih (rowWellFormed_position hposition hrow)
      rintro rfl
      exact not_deletes_null h
  | item _ ih =>
    intro hwell
    cases hwell with
    | list hitems => exact ih (hitems _ (by simp))

end Schema

end SmartGateway
