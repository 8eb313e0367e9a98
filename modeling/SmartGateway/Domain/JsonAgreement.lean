import Mathlib.Data.List.Forall2
import SmartGateway.Domain.JsonStruct

/-! # Agreement of JSON values

Two values agree if they have the same members, whatever their order, where a member that is
`null` counts as one that is absent. A reader that passes over unknown members agrees with its
writer only on values that have none.
-/

namespace SmartGateway

namespace Json

/-- A member that is not there, or `null`. -/
def Absent (value : Option Json) : Prop := value = none ∨ value = some .null

/-- The same value on both sides, or none on either. -/
inductive SameMember (same : Json → Json → Prop) : Option Json → Option Json → Prop where
  | absent {a b : Option Json} (ha : Absent a) (hb : Absent b) : SameMember same a b
  | value {a b : Json} (h : same a b) : SameMember same (some a) (some b)

inductive Agree : Json → Json → Prop where
  | same (value : Json) : Agree value value
  | array {xs ys : List Json} (h : List.Forall₂ Agree xs ys) : Agree (.array xs) (.array ys)
  | object {xs ys : List (String × Json)}
      (h : ∀ name, SameMember Agree (xs.lookup name) (ys.lookup name)) :
      Agree (.object xs) (.object ys)

theorem SameMember.refl (member : Option Json) : SameMember Agree member member := by
  cases member with
  | none => exact .absent (Or.inl rfl) (Or.inl rfl)
  | some value => exact .value (.same value)

theorem SameMember.of_eq {a b : Option Json} (h : a = b) : SameMember Agree a b := by
  rw [h]
  exact .refl b

theorem SameMember.absent_of_none {same : Json → Json → Prop} {b : Option Json}
    (h : SameMember same none b) : Absent b := by
  cases h with
  | absent _ hb => exact hb

theorem agree_object {xs ys : List (String × Json)} :
    Agree (.object xs) (.object ys) ↔
      ∀ name, SameMember Agree (xs.lookup name) (ys.lookup name) := by
  constructor
  · intro h name
    cases h with
    | same => exact .refl _
    | object h => exact h name
  · exact .object

theorem agree_array {xs ys : List Json} :
    Agree (.array xs) (.array ys) ↔ List.Forall₂ Agree xs ys := by
  constructor
  · intro h
    cases h with
    | same => exact List.forall₂_same.mpr fun value _ => .same value
    | array h => exact h
  · exact .array

/-- Only an object agrees with an object. -/
theorem Agree.of_object {xs : List (String × Json)} {value : Json} (h : Agree (.object xs) value) :
    ∃ ys, value = .object ys := by
  cases h with
  | same => exact ⟨xs, rfl⟩
  | object h => exact ⟨_, rfl⟩

/-! ## Equality -/

/-- Equality of values: the members of an object are a map. -/
inductive Equal : Json → Json → Prop where
  | same (value : Json) : Equal value value
  | array {xs ys : List Json} (h : List.Forall₂ Equal xs ys) : Equal (.array xs) (.array ys)
  | object {xs ys : List (String × Json)}
      (h : ∀ name, Option.Rel Equal (xs.lookup name) (ys.lookup name)) :
      Equal (.object xs) (.object ys)

/-- A relation that holds of two values if it holds of all their parts. -/
structure Congruence (same : Json → Json → Prop) : Prop where
  refl : ∀ value, same value value
  array : ∀ {xs ys : List Json}, List.Forall₂ same xs ys → same (.array xs) (.array ys)
  object : ∀ {xs ys : List (String × Json)},
    (∀ name, Option.Rel same (xs.lookup name) (ys.lookup name)) → same (.object xs) (.object ys)

theorem Equal.congruence : Congruence Equal where
  refl := .same
  array := .array
  object := .object

theorem Agree.congruence : Congruence Agree where
  refl := .same
  array := .array
  object := by
    intro xs ys h
    refine .object ?_
    intro name
    have hname := h name
    cases hx : xs.lookup name with
    | none =>
      cases hy : ys.lookup name with
      | none => exact .refl none
      | some y =>
        rw [hx, hy] at hname
        cases hname
    | some x =>
      cases hy : ys.lookup name with
      | none =>
        rw [hx, hy] at hname
        cases hname
      | some y =>
        rw [hx, hy] at hname
        cases hname with
        | some h => exact .value h

/-- A member is the same as itself. -/
theorem Congruence.member {same : Json → Json → Prop} (h : Congruence same)
    (value : Option Json) : Option.Rel same value value := by
  cases value with
  | none => exact .none
  | some value => exact .some (h.refl value)

/-! ## Known members -/

/-- No member but those of the names has a value. -/
def OnlyMembers (names : List String) (members : List (String × Json)) : Prop :=
  ∀ name ∉ names, Absent (members.lookup name)

/-! ## Updating a member -/

/-- The members with `f` applied to the one of a name. -/
def updateMember (name : String) (f : Option Json → Option Json)
    (members : List (String × Json)) : List (String × Json) :=
  (f (members.lookup name)).toList.map (fun value => (name, value)) ++
    members.filter fun entry => entry.1 ≠ name

theorem lookup_filter_ne {name other : String} (h : other ≠ name)
    (members : List (String × Json)) :
    (members.filter fun entry => entry.1 ≠ name).lookup other = members.lookup other := by
  induction members with
  | nil => rfl
  | cons entry members ih =>
    obtain ⟨key, value⟩ := entry
    by_cases hkey : key = name
    · have hne : (other == key) = false := by
        rw [hkey]
        exact beq_false_of_ne h
      rw [List.filter_cons_of_neg (by simpa using hkey), ih, List.lookup_cons, hne]
    · rw [List.filter_cons_of_pos (by simpa using hkey), List.lookup_cons, List.lookup_cons, ih]

theorem lookup_filter_self (name : String) (members : List (String × Json)) :
    (members.filter fun entry => entry.1 ≠ name).lookup name = none := by
  rw [List.lookup_eq_none_iff]
  intro entry hentry
  have hne := (List.mem_filter.mp hentry).2
  rw [decide_eq_true_eq] at hne
  exact bne_iff_ne.mpr (Ne.symm hne)

theorem lookup_updateMember (name other : String) (f : Option Json → Option Json)
    (members : List (String × Json)) :
    (updateMember name f members).lookup other =
      if other = name then f (members.lookup name) else members.lookup other := by
  rw [updateMember, List.lookup_append]
  split
  · next hname =>
    subst hname
    rw [lookup_filter_self, Option.or_none]
    cases f (members.lookup other) with
    | none => rfl
    | some value => exact lookup_member other value
  · next hname =>
    rw [lookup_filter_ne hname]
    cases f (members.lookup name) with
    | none => rfl
    | some value =>
      have hnone : (member name value).lookup other = none := lookup_member_ne name hname value
      rw [member] at hnone
      rw [Option.toList_some, List.map_singleton, hnone, Option.none_or]

end Json

/-! ## What a reader found -/

section Reads

variable {α β : Type}

/-- A field that was read, and what was read after it. -/
theorem readsFields_field {all : List (String × Json)} {name : String} {get : Field → Option α}
    {next : α → StructReader β} {result : β} :
    ReadsFields (StructReader.field name get >>= next) all result ↔
      ∃ value, get (.ofMember (all.lookup name)) = some value ∧
        ReadsFields (next value) all result := by
  constructor
  · intro h
    unfold ReadsFields at h
    change (((get (.ofMember (all.lookup name))).map fun value => (value, Row.members all)).bind
      fun read => next read.1 read.2) = _ at h
    cases hget : get (.ofMember (all.lookup name)) with
    | none =>
      rw [hget] at h
      cases h
    | some value =>
      rw [hget] at h
      exact ⟨value, rfl, h⟩
  · rintro ⟨value, hget, hnext⟩
    exact .field hget hnext

theorem readsFields_pure {all : List (String × Json)} {value result : β} :
    ReadsFields (pure value) all result ↔ value = result := by
  constructor
  · intro h
    have hpair : (value, Row.members all) = (result, Row.members all) := Option.some.inj h
    exact congrArg Prod.fst hpair
  · rintro rfl
    exact .pure all value

namespace Field

variable {read : Json → Option α}

theorem required_ofMember {member : Option Json} {value : α} :
    required read (.ofMember member) = some value ↔
      ∃ json, member = some json ∧ read json = some value := by
  cases member with
  | none => simp [ofMember, required]
  | some json => simp [ofMember, required]

theorem defaulted_ofMember {default value : α} {member : Option Json} :
    defaulted default read (.ofMember member) = some value ↔
      (member = none ∧ value = default) ∨ ∃ json, member = some json ∧ read json = some value := by
  cases member with
  | none => simp [ofMember, defaulted, eq_comm]
  | some json => simp [ofMember, defaulted]

theorem optional_ofMember {member : Option Json} {value : Option α} :
    optional read (.ofMember member) = some value ↔
      (Json.Absent member ∧ value = none) ∨
      ∃ json, member = some json ∧ json ≠ .null ∧ ∃ v, read json = some v ∧ value = some v := by
  cases member with
  | none => simp [ofMember, optional, Json.Absent, eq_comm]
  | some json =>
    cases json with
    | null => simp [ofMember, optional, Json.Absent, eq_comm]
    | _ =>
      simp only [ofMember, optional, Json.Absent, Option.map_eq_some_iff]
      simp [eq_comm]

end Field

end Reads

/-- A list that was read, each value beside its item. -/
theorem forall₂_of_asVec {α : Type} {read : Json → Option α} {json : Json} {values : List α}
    (h : json.asVec read = some values) :
    ∃ items, json = .array items ∧
      List.Forall₂ (fun item value => read item = some value) items values := by
  cases json with
  | array items =>
    refine ⟨items, rfl, ?_⟩
    rw [Json.asVec] at h
    induction items generalizing values with
    | nil =>
      cases h
      exact .nil
    | cons item items ih =>
      rw [List.mapM_cons] at h
      obtain ⟨value, hvalue, h⟩ := Option.bind_eq_some_iff.mp h
      obtain ⟨rest, hrest, h⟩ := Option.bind_eq_some_iff.mp h
      cases h
      exact .cons hvalue (ih hrest)
  | _ => cases h

/-- A reader that leaves an object before it as it is, as readers of fields do. -/
def Steady {α : Type} (reader : StructReader α) : Prop :=
  ∀ all value row, reader (.members all) = some (value, row) → row = .members all

theorem steady_pure {α : Type} (value : α) : Steady (pure value) := by
  intro all value row h
  have hpair := Option.some.inj h
  exact (congrArg Prod.snd hpair).symm

theorem steady_field {α β : Type} {name : String} {get : Field → Option α}
    {next : α → StructReader β} (hnext : ∀ value, Steady (next value)) :
    Steady (StructReader.field name get >>= next) := by
  intro all value row h
  change (((get (.ofMember (all.lookup name))).map fun value => (value, Row.members all)).bind
    fun read => next read.1 read.2) = _ at h
  obtain ⟨read, hread, hrest⟩ := Option.bind_eq_some_iff.mp h
  obtain ⟨found, -, rfl⟩ := Option.map_eq_some_iff.mp hread
  exact hnext found all value row hrest

/-- What was read from an object was read from its fields. -/
theorem fromValue_object {α : Type} {reader : StructReader α} (hsteady : Steady reader)
    {members : List (String × Json)} {result : α} :
    reader.fromValue (.object members) = some result ↔ ReadsFields reader members result := by
  unfold StructReader.fromValue ReadsFields
  show (reader (.members members)).map Prod.fst = some result ↔
    reader (.members members) = some (result, .members members)
  cases hrun : reader (.members members) with
  | none => simp
  | some pair =>
    obtain ⟨value, row⟩ := pair
    rw [hsteady members value row hrun]
    simp

end SmartGateway
