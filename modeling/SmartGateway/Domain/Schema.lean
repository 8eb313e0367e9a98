import SmartGateway.Domain.JsonAgreement

/-! # Schemas of structures

What a derived reader declares: the fields of a structure in order, whether each has to be
there, and what its value is. From a schema follow which values are well formed, which two
values no reader can tell apart, and what is left of a value that is read and written again.
Readers and writers that follow a schema are put together field by field.
-/

namespace SmartGateway

/-- Whether a field has to be there: `Vec` and the like; `Option`, where `null` is absence; a
list with `#[serde(default)]`. -/
inductive Presence where
  | required
  | optional
  | filled
deriving DecidableEq

inductive Schema where
  | string
  | unsigned (size : Nat)
  | number
  | list (item : Schema)
  | struct (fields : List (String × Presence × Schema))

namespace Schema

/-- No structure declares a name twice. -/
inductive Distinct : Schema → Prop where
  | string : Distinct .string
  | unsigned (size : Nat) : Distinct (.unsigned size)
  | number : Distinct .number
  | list {item : Schema} (h : Distinct item) : Distinct (.list item)
  | struct {fields : List (String × Presence × Schema)} (hnames : (fields.map Prod.fst).Nodup)
      (h : ∀ name presence schema, (name, presence, schema) ∈ fields → Distinct schema) :
      Distinct (.struct fields)

/-! ## Well-formed values -/

/-- Nothing is left over: an object may have more members, an array no more items. -/
def Used : Row → Prop
  | .members _ => True
  | .items rest => rest = []

/-- A field with a well-formed value, or without one where the declaration allows it. -/
inductive FieldWellFormed (wellFormed : Schema → Json → Prop) :
    Presence → Schema → Field → Prop where
  | value {presence : Presence} {schema : Schema} {x : Json} (h : wellFormed schema x) :
      FieldWellFormed wellFormed presence schema (.value x)
  | null (schema : Schema) : FieldWellFormed wellFormed .optional schema (.value .null)
  | missing {presence : Presence} (h : presence ≠ .required) (schema : Schema) :
      FieldWellFormed wellFormed presence schema .missing
  | ended (schema : Schema) : FieldWellFormed wellFormed .filled schema .ended

inductive RowWellFormed (wellFormed : Schema → Json → Prop) :
    List (String × Presence × Schema) → Row → Prop where
  | done {row : Row} (h : Used row) : RowWellFormed wellFormed [] row
  | field {name : String} {presence : Presence} {schema : Schema}
      {rest : List (String × Presence × Schema)} {row : Row}
      (h : FieldWellFormed wellFormed presence schema (row.next name).1)
      (hrest : RowWellFormed wellFormed rest (row.next name).2) :
      RowWellFormed wellFormed ((name, presence, schema) :: rest) row

inductive WellFormed : Schema → Json → Prop where
  | string (value : String) : WellFormed .string (.string value)
  | unsigned {size : Nat} {value : UInt64} (h : value.toNat < size) :
      WellFormed (.unsigned size) (.number (.posInt value))
  | number (value : JsonNumber) : WellFormed .number (.number value)
  | list {item : Schema} {items : List Json} (h : ∀ x ∈ items, WellFormed item x) :
      WellFormed (.list item) (.array items)
  | object {fields : List (String × Presence × Schema)} {members : List (String × Json)}
      (h : RowWellFormed WellFormed fields (.members members)) :
      WellFormed (.struct fields) (.object members)
  | items {fields : List (String × Presence × Schema)} {items : List Json}
      (h : RowWellFormed WellFormed fields (.items items)) :
      WellFormed (.struct fields) (.array items)

/-! ## Agreement -/

/-- An optional field without a value. -/
def Blank (field : Field) : Prop := field = .missing ∨ field = .value .null

/-- The same in both, where `null` is the absence of an optional field. -/
inductive FieldAgrees (same : Schema → Json → Json → Prop) :
    Presence → Schema → Field → Field → Prop where
  | value {presence : Presence} {schema : Schema} {x y : Json} (h : same schema x y) :
      FieldAgrees same presence schema (.value x) (.value y)
  | missing (presence : Presence) (schema : Schema) :
      FieldAgrees same presence schema .missing .missing
  | ended (presence : Presence) (schema : Schema) :
      FieldAgrees same presence schema .ended .ended
  | blank {schema : Schema} {a b : Field} (ha : Blank a) (hb : Blank b) :
      FieldAgrees same .optional schema a b

inductive RowAgrees (same : Schema → Json → Json → Prop) :
    List (String × Presence × Schema) → Row → Row → Prop where
  | done {a b : Row} (h : Used a ↔ Used b) : RowAgrees same [] a b
  | field {name : String} {presence : Presence} {schema : Schema}
      {rest : List (String × Presence × Schema)} {a b : Row}
      (h : FieldAgrees same presence schema (a.next name).1 (b.next name).1)
      (hrest : RowAgrees same rest (a.next name).2 (b.next name).2) :
      RowAgrees same ((name, presence, schema) :: rest) a b

/-- Two values that agree on all that is declared, at every depth. They can differ in anything
else. -/
inductive Agrees : Schema → Json → Json → Prop where
  | same (schema : Schema) (value : Json) : Agrees schema value value
  | list {item : Schema} {xs ys : List Json} (hlength : xs.length = ys.length)
      (h : ∀ x y, (x, y) ∈ xs.zip ys → Agrees item x y) : Agrees (.list item) (.array xs) (.array ys)
  | object {fields : List (String × Presence × Schema)} {xs ys : List (String × Json)}
      (h : RowAgrees Agrees fields (.members xs) (.members ys)) :
      Agrees (.struct fields) (.object xs) (.object ys)
  | items {fields : List (String × Presence × Schema)} {xs ys : List Json}
      (h : RowAgrees Agrees fields (.items xs) (.items ys)) :
      Agrees (.struct fields) (.array xs) (.array ys)

/-- Objects are compared field by field. -/
theorem rowAgrees_members {same : Schema → Json → Json → Prop}
    {fields : List (String × Presence × Schema)} {xs ys : List (String × Json)} :
    RowAgrees same fields (.members xs) (.members ys) ↔
      ∀ name presence schema, (name, presence, schema) ∈ fields →
        FieldAgrees same presence schema (.ofMember (xs.lookup name))
          (.ofMember (ys.lookup name)) := by
  induction fields with
  | nil =>
    constructor
    · nofun
    · intro _
      exact .done Iff.rfl
  | cons field fields ih =>
    obtain ⟨name, presence, schema⟩ := field
    constructor
    · intro h name' presence' schema' hmem
      cases h with
      | field hfield hrest =>
        rcases List.mem_cons.mp hmem with heq | hmem
        · cases heq
          exact hfield
        · exact ih.mp hrest name' presence' schema' hmem
    · intro h
      refine .field (h name presence schema List.mem_cons_self) (ih.mpr ?_)
      intro name' presence' schema' hmem
      exact h name' presence' schema' (List.mem_cons_of_mem _ hmem)

theorem FieldAgrees.refl (presence : Presence) (schema : Schema) (field : Field) :
    FieldAgrees Agrees presence schema field field := by
  cases field with
  | missing => exact .missing _ _
  | ended => exact .ended _ _
  | value x => exact .value (.same schema x)

/-- Members that are not declared make no difference. -/
theorem agrees_append {fields : List (String × Presence × Schema)} {xs extra : List (String × Json)}
    (h : ∀ entry ∈ extra, entry.1 ∉ fields.map Prod.fst) :
    Agrees (.struct fields) (.object xs) (.object (xs ++ extra)) := by
  refine .object (rowAgrees_members.mpr ?_)
  intro name presence schema hmem
  have hnone : extra.lookup name = none := by
    rw [List.lookup_eq_none_iff]
    intro entry hentry
    rw [bne_iff_ne]
    rintro rfl
    exact h entry hentry (List.mem_map_of_mem hmem)
  rw [List.lookup_append, hnone, Option.or_none]
  exact .refl presence schema _

/-! ## Projection -/

/-- A field that is not written again. -/
inductive Omitted : Presence → Field → Prop where
  | missing {presence : Presence} (h : presence ≠ .required) : Omitted presence .missing
  | null : Omitted .optional (.value .null)
  | ended : Omitted .filled .ended
  | empty : Omitted .filled (.value (.array []))

/-- The members written for the fields of a row, in order: each is left out or has the name of
its field and the projection of its value. -/
inductive RowProjects (projects : Schema → Json → Json → Prop) :
    List (String × Presence × Schema) → Row → List (String × Json) → Prop where
  | done {row : Row} : RowProjects projects [] row []
  | written {name : String} {presence : Presence} {schema : Schema}
      {rest : List (String × Presence × Schema)} {row : Row} {x y : Json}
      {out : List (String × Json)} (hx : (row.next name).1 = .value x) (h : projects schema x y)
      (hrest : RowProjects projects rest (row.next name).2 out) :
      RowProjects projects ((name, presence, schema) :: rest) row ((name, y) :: out)
  | omitted {name : String} {presence : Presence} {schema : Schema}
      {rest : List (String × Presence × Schema)} {row : Row} {out : List (String × Json)}
      (h : Omitted presence (row.next name).1)
      (hrest : RowProjects projects rest (row.next name).2 out) :
      RowProjects projects ((name, presence, schema) :: rest) row out

/-- The second value has nothing but what the schema declares, and has it from the first. A
number is spelled as the float next to it. -/
inductive Projects : Schema → Json → Json → Prop where
  | string (value : String) : Projects .string (.string value) (.string value)
  | unsigned (size : Nat) (value : UInt64) :
      Projects (.unsigned size) (.number (.posInt value)) (.number (.posInt value))
  | number (value : JsonNumber) : Projects .number (.number value) (.ofF64 (.ofNumber value))
  | list {item : Schema} {xs ys : List Json} (hlength : xs.length = ys.length)
      (h : ∀ x y, (x, y) ∈ xs.zip ys → Projects item x y) :
      Projects (.list item) (.array xs) (.array ys)
  | object {fields : List (String × Presence × Schema)} {members out : List (String × Json)}
      (h : RowProjects Projects fields (.members members) out) :
      Projects (.struct fields) (.object members) (.object out)
  | items {fields : List (String × Presence × Schema)} {items : List Json}
      {out : List (String × Json)} (h : RowProjects Projects fields (.items items) out) :
      Projects (.struct fields) (.array items) (.object out)

/-- Only declared names are written, each at most once. -/
theorem RowProjects.names {projects : Schema → Json → Json → Prop}
    {fields : List (String × Presence × Schema)} {row : Row} {out : List (String × Json)}
    (h : RowProjects projects fields row out) :
    (out.map Prod.fst).Sublist (fields.map Prod.fst) := by
  induction h with
  | done => exact .slnil
  | written _ _ _ ih => exact ih.cons_cons _
  | omitted _ _ ih => exact ih.cons _

/-! ### Nulls -/

theorem not_wellFormed_null (schema : Schema) : ¬ schema.WellFormed .null := by
  intro h
  cases h

/-! ## Readers and writers that follow a schema -/

section Described

variable {α β : Type}

/-- The reader accepts the well-formed values, cannot tell values that agree apart, and what the
writer makes of the result is the projection of what was read. -/
structure Described (schema : Schema) (read : Json → Option α) (write : α → Json) : Prop where
  distinct : Distinct schema
  accepts : ∀ a, (∃ v, read a = some v) ↔ WellFormed schema a
  same : ∀ a b, Agrees schema a b → read a = read b
  projects : ∀ a v, read a = some v → Projects schema a (write v)

/-- The same for a field: what it writes is its member, or nothing. -/
structure DescribedField (name : String) (presence : Presence) (schema : Schema)
    (get : Field → Option α) (emit : α → List (String × Json)) : Prop where
  distinct : Distinct schema
  accepts : ∀ field, (∃ v, get field = some v) ↔
    FieldWellFormed WellFormed presence schema field
  same : ∀ a b, FieldAgrees Agrees presence schema a b → get a = get b
  emits : ∀ field v, get field = some v →
    (Omitted presence field ∧ emit v = []) ∨
    ∃ x y, field = .value x ∧ emit v = [(name, y)] ∧ Projects schema x y

/-- The same for the fields that are still to be read; `written` is what the fields before them
write. -/
structure DescribedFields (fields : List (String × Presence × Schema)) (reader : StructReader β)
    (write : β → List (String × Json)) (written : List (String × Json)) : Prop where
  distinct : ∀ name presence schema, (name, presence, schema) ∈ fields → Distinct schema
  steady : Steady reader
  turns : ∀ items v rest, reader (.items items) = some (v, rest) → ∃ left, rest = .items left
  accepts : ∀ row, (∃ v rest, reader row = some (v, rest) ∧ Used rest) ↔
    RowWellFormed WellFormed fields row
  same : ∀ a b, RowAgrees Agrees fields a b → (reader a = none ∧ reader b = none) ∨
    ∃ v rest rest', reader a = some (v, rest) ∧ reader b = some (v, rest') ∧
      (Used rest ↔ Used rest')
  emits : ∀ row v rest, reader row = some (v, rest) →
    ∃ out, write v = written ++ out ∧ RowProjects Projects fields row out

/-! ### Values -/

/-- A value with nothing in it: two that agree are the same. -/
theorem described_leaf {schema : Schema} {read : Json → Option α} {write : α → Json}
    (hdistinct : Distinct schema) (hsame : ∀ a b, Agrees schema a b → a = b)
    (haccepts : ∀ a, WellFormed schema a → ∃ v, read a = some v)
    (hread : ∀ a v, read a = some v → WellFormed schema a ∧ Projects schema a (write v)) :
    Described schema read write where
  distinct := hdistinct
  accepts a := by
    constructor
    · rintro ⟨v, hv⟩
      exact (hread a v hv).1
    · exact haccepts a
  same a b h := congrArg read (hsame a b h)
  projects a v hv := (hread a v hv).2

theorem described_string : Described .string Json.asStr .string := by
  refine described_leaf .string ?_ ?_ ?_
  · intro a b h
    cases h
    rfl
  · intro a h
    cases h with
    | string value => exact ⟨value, rfl⟩
  · intro a v hv
    cases a with
    | string value =>
      cases hv
      exact ⟨.string _, .string _⟩
    | _ => cases hv

/-- A reader of the unsigned integers below a bound, written as they were. -/
theorem described_unsigned {size : Nat} {read : Json → Option α} {write : α → Json}
    (hread : ∀ a v, read a = some v →
      ∃ value : UInt64, a = .number (.posInt value) ∧ value.toNat < size ∧ write v = a)
    (haccepts : ∀ value : UInt64, value.toNat < size →
      ∃ v, read (.number (.posInt value)) = some v) : Described (.unsigned size) read write := by
  refine described_leaf (.unsigned size) ?_ ?_ ?_
  · intro a b h
    cases h
    rfl
  · intro a h
    cases h with
    | unsigned hlt => exact haccepts _ hlt
  · intro a v hv
    obtain ⟨value, rfl, hlt, hwrite⟩ := hread a v hv
    rw [hwrite]
    exact ⟨.unsigned hlt, .unsigned size value⟩

theorem described_u64 : Described (.unsigned UInt64.size) Json.asUnsigned .ofU64 := by
  refine described_unsigned ?_ fun value _ => ⟨value, rfl⟩
  intro a v hv
  unfold Json.asUnsigned at hv
  split at hv
  · cases hv
    exact ⟨v, rfl, v.toNat_lt, rfl⟩
  · cases hv

theorem described_u32 : Described (.unsigned UInt32.size) Json.asU32 .ofU32 := by
  refine described_unsigned ?_ fun value hlt => ⟨value.toUInt32, by rw [Json.asU32, if_pos hlt]⟩
  intro a v hv
  unfold Json.asU32 at hv
  split at hv
  · next value =>
    obtain ⟨hlt, hsome⟩ := Option.ite_none_right_eq_some.mp hv
    cases hsome
    refine ⟨value, rfl, hlt, ?_⟩
    have hvalue : value.toUInt32.toUInt64 = value := by
      apply UInt64.toNat_inj.mp
      rw [UInt64.toUInt64_toUInt32, UInt64.toNat_mod]
      exact Nat.mod_eq_of_lt hlt
    rw [Json.ofU32, hvalue]
  · cases hv

theorem described_u8 : Described (.unsigned UInt8.size) Json.asU8 .ofU8 := by
  refine described_unsigned ?_ fun value hlt => ⟨value.toUInt8, by rw [Json.asU8, if_pos hlt]⟩
  intro a v hv
  unfold Json.asU8 at hv
  split at hv
  · next value =>
    obtain ⟨hlt, hsome⟩ := Option.ite_none_right_eq_some.mp hv
    cases hsome
    refine ⟨value, rfl, hlt, ?_⟩
    have hvalue : value.toUInt8.toUInt64 = value := by
      apply UInt64.toNat_inj.mp
      rw [UInt64.toUInt64_toUInt8, UInt64.toNat_mod]
      exact Nat.mod_eq_of_lt hlt
    rw [Json.ofU8, hvalue]
  · cases hv

instance : Nonempty F64 := ⟨⟨0⟩⟩

theorem described_f64 : Described .number Json.asF64 .ofF64 := by
  refine described_leaf .number ?_ ?_ ?_
  · intro a b h
    cases h
    rfl
  · intro a h
    cases h with
    | number value => exact ⟨_, rfl⟩
  · intro a v hv
    cases a with
    | number value =>
      cases hv
      exact ⟨.number value, .number value⟩
    | _ => cases hv

/-! ### Lists -/

theorem exists_asVec {read : Json → Option α} {items : List Json}
    (h : ∀ x ∈ items, ∃ v, read x = some v) :
    ∃ values, Json.asVec read (.array items) = some values := by
  change ∃ values, items.mapM read = some values
  induction items with
  | nil => exact ⟨[], rfl⟩
  | cons x items ih =>
    obtain ⟨v, hv⟩ := h x List.mem_cons_self
    obtain ⟨values, hvalues⟩ := ih fun x' hx' => h x' (List.mem_cons_of_mem _ hx')
    exact ⟨v :: values, by rw [List.mapM_cons, hv, hvalues]; rfl⟩

theorem asVec_congr {read : Json → Option α} {xs ys : List Json} (hlength : xs.length = ys.length)
    (h : ∀ x y, (x, y) ∈ xs.zip ys → read x = read y) :
    Json.asVec read (.array xs) = Json.asVec read (.array ys) := by
  change xs.mapM read = ys.mapM read
  induction xs generalizing ys with
  | nil => rw [List.length_eq_zero_iff.mp hlength.symm]
  | cons x xs ih =>
    cases ys with
    | nil => cases hlength
    | cons y ys =>
      rw [List.length_cons, List.length_cons, Nat.succ_inj] at hlength
      rw [List.mapM_cons, List.mapM_cons, h x y List.mem_cons_self,
        ih hlength fun x' y' hmem => h x' y' (List.mem_cons_of_mem _ hmem)]

theorem Described.list {item : Schema} {read : Json → Option α} {write : α → Json}
    (h : Described item read write) : Described (.list item) (Json.asVec read) (.ofVec write) := by
  refine ⟨.list h.distinct, ?_, ?_, ?_⟩
  · intro a
    constructor
    · rintro ⟨values, hvalues⟩
      obtain ⟨items, rfl, hitems⟩ := forall₂_of_asVec hvalues
      have hwell : List.Forall₂ (fun x v => item.WellFormed x ∧ read x = some v) items values :=
        hitems.imp fun x v hv => ⟨(h.accepts x).mp ⟨v, hv⟩, hv⟩
      exact .list ((List.forall₂_and_left _ _).mp hwell).1
    · intro hwell
      cases hwell with
      | list hitems => exact exists_asVec fun x hx => (h.accepts x).mpr (hitems x hx)
  · intro a b hagree
    cases hagree with
    | same => rfl
    | list hlength hitems => exact asVec_congr hlength fun x y hmem => h.same x y (hitems x y hmem)
  · intro a values hvalues
    obtain ⟨items, rfl, hitems⟩ := forall₂_of_asVec hvalues
    have hprojects : List.Forall₂ (Projects item) items (values.map write) :=
      List.forall₂_map_right_iff.mpr (hitems.imp fun x v hv => h.projects x v hv)
    obtain ⟨hlength, hzip⟩ := List.forall₂_iff_zip.mp hprojects
    exact .list hlength fun x y hmem => hzip hmem

/-! ### Fields -/

variable {name : String} {schema : Schema} {read : Json → Option α} {write : α → Json}

theorem optional_of_blank {field : Field} (h : Blank field) :
    Field.optional read field = some none := by
  rcases h with rfl | rfl
  · rfl
  · rfl

/-- A field that is not blank is read as its value. -/
theorem optional_value {x : Json} (hx : x ≠ .null) :
    Field.optional read (.value x) = (read x).map some := by
  cases x with
  | null => exact absurd rfl hx
  | _ => rfl

theorem Described.optional_accepts (h : Described schema read write) (field : Field) :
    (∃ v, Field.optional read field = some v) ↔
      FieldWellFormed WellFormed .optional schema field := by
  constructor
  · rintro ⟨v, hv⟩
    cases field with
    | missing => exact .missing (by decide) _
    | ended => cases hv
    | value x =>
      rcases eq_or_ne x .null with rfl | hx
      · exact .null _
      · rw [optional_value hx] at hv
        obtain ⟨w, hw, -⟩ := Option.map_eq_some_iff.mp hv
        exact .value ((h.accepts x).mp ⟨w, hw⟩)
  · intro hwell
    cases hwell with
    | null => exact ⟨none, rfl⟩
    | missing => exact ⟨none, rfl⟩
    | @value _ _ x hx =>
      have hne : x ≠ .null := by
        rintro rfl
        exact not_wellFormed_null schema hx
      obtain ⟨w, hw⟩ := (h.accepts x).mpr hx
      exact ⟨some w, by rw [optional_value hne, hw]; rfl⟩

theorem Described.optional_same (h : Described schema read write) {a b : Field}
    (hagree : FieldAgrees Agrees .optional schema a b) :
    Field.optional read a = Field.optional read b := by
  cases hagree with
  | missing => rfl
  | ended => rfl
  | blank ha hb => rw [optional_of_blank ha, optional_of_blank hb]
  | @value _ _ x y hxy =>
    rcases eq_or_ne x .null with rfl | hx
    · cases hxy
      rfl
    · have hy : y ≠ .null := by
        rintro rfl
        cases hxy
        exact hx rfl
      rw [optional_value hx, optional_value hy, h.same x y hxy]

theorem DescribedField.optional (h : Described schema read write) :
    DescribedField name .optional schema (Field.optional read) (optionalMember name write) := by
  refine ⟨h.distinct, h.optional_accepts, fun a b => h.optional_same, ?_⟩
  intro field v hv
  cases field with
  | missing =>
    cases hv
    exact Or.inl ⟨.missing (by decide), rfl⟩
  | ended => cases hv
  | value x =>
    rcases eq_or_ne x .null with rfl | hx
    · cases hv
      exact Or.inl ⟨.null, rfl⟩
    · rw [optional_value hx] at hv
      obtain ⟨w, hw, rfl⟩ := Option.map_eq_some_iff.mp hv
      exact Or.inr ⟨x, write w, rfl, rfl, h.projects x w hw⟩

theorem DescribedField.required (h : Described schema read write) :
    DescribedField name .required schema (Field.required read) fun v => member name (write v) := by
  refine ⟨h.distinct, ?_, ?_, ?_⟩
  · intro field
    constructor
    · rintro ⟨v, hv⟩
      cases field with
      | value x => exact .value ((h.accepts x).mp ⟨v, hv⟩)
      | missing => cases hv
      | ended => cases hv
    · intro hwell
      cases hwell with
      | value hx => exact (h.accepts _).mpr hx
      | missing hne => exact absurd rfl hne
  · intro a b hagree
    cases hagree with
    | value hxy => exact h.same _ _ hxy
    | missing => rfl
    | ended => rfl
  · intro field v hv
    cases field with
    | value x => exact Or.inr ⟨x, write v, rfl, rfl, h.projects x v hv⟩
    | missing => cases hv
    | ended => cases hv

theorem DescribedField.filled (h : Described schema read write) :
    DescribedField name .filled (.list schema) (Field.defaulted [] (Json.asVec read))
      (filledMember name write) := by
  refine ⟨.list h.distinct, ?_, ?_, ?_⟩
  · intro field
    constructor
    · rintro ⟨v, hv⟩
      cases field with
      | value x => exact .value ((h.list.accepts x).mp ⟨v, hv⟩)
      | missing => exact .missing (by decide) _
      | ended => exact .ended _
    · intro hwell
      cases hwell with
      | value hx => exact (h.list.accepts _).mpr hx
      | missing hne => exact ⟨[], rfl⟩
      | ended => exact ⟨[], rfl⟩
  · intro a b hagree
    cases hagree with
    | value hxy => exact h.list.same _ _ hxy
    | missing => rfl
    | ended => rfl
  · intro field v hv
    cases field with
    | missing =>
      cases hv
      exact Or.inl ⟨.missing (by decide), rfl⟩
    | ended =>
      cases hv
      exact Or.inl ⟨.ended, rfl⟩
    | value x =>
      -- an empty list is not written
      have hprojects := h.list.projects x v hv
      cases v with
      | nil =>
        obtain ⟨items, rfl, hitems⟩ := forall₂_of_asVec hv
        cases hitems
        exact Or.inl ⟨.empty, rfl⟩
      | cons v vs => exact Or.inr ⟨x, .ofVec write (v :: vs), rfl, rfl, hprojects⟩

/-! ### Structures -/

theorem DescribedFields.pure {v : β} {writeAll : β → List (String × Json)}
    {written : List (String × Json)} (h : writeAll v = written) :
    DescribedFields [] (Pure.pure v) writeAll written := by
  refine ⟨nofun, steady_pure v, ?_, ?_, ?_, ?_⟩
  · intro items v' rest hv
    cases hv
    exact ⟨items, rfl⟩
  · intro row
    constructor
    · rintro ⟨v', rest, hv, hused⟩
      cases hv
      exact .done hused
    · intro hwell
      cases hwell with
      | done hused => exact ⟨v, row, rfl, hused⟩
  · intro a b hagree
    cases hagree with
    | done hused => exact Or.inr ⟨v, a, b, rfl, rfl, hused⟩
  · intro row v' rest hv
    cases hv
    exact ⟨[], by rw [h, List.append_nil], .done⟩

/-- A field is read first, and then what is left of the row. -/
theorem field_bind_apply (name : String) (get : Field → Option α) (next : α → StructReader β)
    (row : Row) : (StructReader.field name get >>= next) row =
      (get (row.next name).1).bind fun v => next v (row.next name).2 := by
  change ((get (row.next name).1).map fun v => (v, (row.next name).2)).bind
    (fun read => next read.1 read.2) = _
  cases get (row.next name).1 with
  | none => rfl
  | some v => rfl

theorem DescribedFields.field [Nonempty α] {presence : Presence}
    {rest : List (String × Presence × Schema)} {get : Field → Option α}
    {emit : α → List (String × Json)} {next : α → StructReader β}
    {writeAll : β → List (String × Json)} {written : List (String × Json)}
    (hfield : DescribedField name presence schema get emit)
    (hnext : ∀ v, DescribedFields rest (next v) writeAll (written ++ emit v)) :
    DescribedFields ((name, presence, schema) :: rest) (StructReader.field name get >>= next)
      writeAll written := by
  -- what is read of the field decides which reader goes on, and each of them follows `rest`
  have hrun := field_bind_apply name get next
  refine ⟨?_, steady_field fun v => (hnext v).steady, ?_, ?_, ?_, ?_⟩
  · obtain ⟨v⟩ := ‹Nonempty α›
    intro name' presence' schema' hmem
    rcases List.mem_cons.mp hmem with heq | hmem
    · cases heq
      exact hfield.distinct
    · exact (hnext v).distinct name' presence' schema' hmem
  · intro items v end' hv
    rw [hrun] at hv
    obtain ⟨w, -, hv⟩ := Option.bind_eq_some_iff.mp hv
    cases items with
    | nil => exact (hnext w).turns [] v end' hv
    | cons item items => exact (hnext w).turns items v end' hv
  · intro row
    constructor
    · rintro ⟨v, end', hv, hused⟩
      rw [hrun] at hv
      obtain ⟨w, hw, hv⟩ := Option.bind_eq_some_iff.mp hv
      exact .field ((hfield.accepts _).mp ⟨w, hw⟩) (((hnext w).accepts _).mp ⟨v, end', hv, hused⟩)
    · intro hwell
      cases hwell with
      | field hget hrest =>
        obtain ⟨w, hw⟩ := (hfield.accepts _).mpr hget
        obtain ⟨v, end', hv, hused⟩ := ((hnext w).accepts _).mpr hrest
        exact ⟨v, end', by rw [hrun, hw]; exact hv, hused⟩
  · intro a b hagree
    cases hagree with
    | field hget hrest =>
      rw [hrun, hrun, hfield.same _ _ hget]
      cases get (b.next name).1 with
      | none => exact Or.inl ⟨rfl, rfl⟩
      | some v => exact (hnext v).same _ _ hrest
  · intro row v end' hv
    rw [hrun] at hv
    obtain ⟨w, hw, hv⟩ := Option.bind_eq_some_iff.mp hv
    obtain ⟨out, hout, hrest⟩ := (hnext w).emits _ v end' hv
    -- the field is left out, or written before the rest
    rcases hfield.emits _ w hw with ⟨homitted, hnil⟩ | ⟨x, y, hx, hmember, hxy⟩
    · rw [hnil, List.append_nil] at hout
      exact ⟨out, hout, .omitted homitted hrest⟩
    · rw [hmember, List.append_assoc] at hout
      exact ⟨(name, y) :: out, hout, .written hx hxy hrest⟩

section Rules

variable {rest : List (String × Presence × Schema)} {writeAll : β → List (String × Json)}
  {written : List (String × Json)}

theorem DescribedFields.optional {next : Option α → StructReader β}
    (h : Described schema read write)
    (hnext : ∀ v, DescribedFields rest (next v) writeAll (written ++ optionalMember name write v)) :
    DescribedFields ((name, .optional, schema) :: rest) (StructReader.optional name read >>= next)
      writeAll written :=
  .field (.optional h) hnext

theorem DescribedFields.required [Nonempty α] {next : α → StructReader β}
    (h : Described schema read write)
    (hnext : ∀ v, DescribedFields rest (next v) writeAll (written ++ member name (write v))) :
    DescribedFields ((name, .required, schema) :: rest) (StructReader.required name read >>= next)
      writeAll written :=
  .field (.required h) hnext

theorem DescribedFields.filled {next : List α → StructReader β} (h : Described schema read write)
    (hnext : ∀ v, DescribedFields rest (next v) writeAll (written ++ filledMember name write v)) :
    DescribedFields ((name, .filled, .list schema) :: rest)
      (StructReader.defaulted name [] (Json.asVec read) >>= next) writeAll written :=
  .field (.filled h) hnext

end Rules

section Struct

variable {fields : List (String × Presence × Schema)} {reader : StructReader β}
  {writeAll : β → List (String × Json)}

theorem fromValue_object_iff {members : List (String × Json)} {v : β} :
    reader.fromValue (.object members) = some v ↔
      ∃ rest, reader (.members members) = some (v, rest) := by
  change (reader (.members members)).map Prod.fst = some v ↔ _
  rw [Option.map_eq_some_iff]
  constructor
  · rintro ⟨⟨v', rest⟩, hrun, rfl⟩
    exact ⟨rest, hrun⟩
  · rintro ⟨rest, hrun⟩
    exact ⟨(v, rest), hrun, rfl⟩

/-- An array is read to its end. -/
theorem fromValue_array_iff {items : List Json} {v : β} :
    reader.fromValue (.array items) = some v ↔ reader (.items items) = some (v, .items []) := by
  rw [StructReader.fromValue]
  split
  · next value hrun =>
    have hread : reader (.items items) = some (value, .items []) := hrun
    rw [hread, Option.some.injEq, Option.some.injEq, Prod.mk.injEq, and_iff_left rfl]
  · next hother =>
    constructor
    · intro hnone
      cases hnone
    · intro hrun
      exact absurd hrun (hother v)

theorem DescribedFields.struct_accepts (h : DescribedFields fields reader writeAll [])
    (a : Json) : (∃ v, reader.fromValue a = some v) ↔ WellFormed (.struct fields) a := by
  constructor
  · rintro ⟨v, hv⟩
    cases a with
    | object members =>
      obtain ⟨rest, hrun⟩ := fromValue_object_iff.mp hv
      obtain rfl := h.steady members v rest hrun
      exact .object ((h.accepts _).mp ⟨v, _, hrun, trivial⟩)
    | array items =>
      have hrun := fromValue_array_iff.mp hv
      exact .items ((h.accepts _).mp ⟨v, _, hrun, rfl⟩)
    | _ => cases hv
  · intro hwell
    cases hwell with
    | object hrow =>
      obtain ⟨v, rest, hrun, -⟩ := (h.accepts _).mpr hrow
      exact ⟨v, fromValue_object_iff.mpr ⟨rest, hrun⟩⟩
    | items hrow =>
      obtain ⟨v, rest, hrun, hused⟩ := (h.accepts _).mpr hrow
      obtain ⟨left, rfl⟩ := h.turns _ v rest hrun
      obtain rfl : left = [] := hused
      exact ⟨v, fromValue_array_iff.mpr hrun⟩

theorem DescribedFields.struct_same (h : DescribedFields fields reader writeAll []) {a b : Json}
    (hagree : Agrees (.struct fields) a b) : reader.fromValue a = reader.fromValue b := by
  cases hagree with
  | same => rfl
  | @object _ xs ys hrow =>
    change (reader (.members xs)).map Prod.fst = (reader (.members ys)).map Prod.fst
    rcases h.same _ _ hrow with ⟨hx, hy⟩ | ⟨v, rest, rest', hx, hy, -⟩
    · rw [hx, hy]
    · rw [hx, hy]
      rfl
  | @items _ xs ys hrow =>
    apply Option.ext
    intro v
    rw [fromValue_array_iff, fromValue_array_iff]
    rcases h.same _ _ hrow with ⟨hx, hy⟩ | ⟨v', rest, rest', hx, hy, hused⟩
    · rw [hx, hy]
    · -- Both rows end, or neither does.
      obtain ⟨left, rfl⟩ := h.turns _ v' rest hx
      obtain ⟨left', rfl⟩ := h.turns _ v' rest' hy
      have hleft : left = [] ↔ left' = [] := hused
      rw [hx, hy]
      simp only [Option.some.injEq, Prod.mk.injEq, Row.items.injEq, hleft]

theorem DescribedFields.struct_projects (h : DescribedFields fields reader writeAll [])
    {a : Json} {v : β} (hv : reader.fromValue a = some v) :
    Projects (.struct fields) a (.object (writeAll v)) := by
  cases a with
  | object members =>
    obtain ⟨rest, hrun⟩ := fromValue_object_iff.mp hv
    obtain ⟨out, hout, hrow⟩ := h.emits _ v rest hrun
    rw [List.nil_append] at hout
    rw [hout]
    exact .object hrow
  | array items =>
    obtain ⟨out, hout, hrow⟩ := h.emits _ v _ (fromValue_array_iff.mp hv)
    rw [List.nil_append] at hout
    rw [hout]
    exact .items hrow
  | _ => cases hv

/-- A structure whose fields are all described. -/
theorem DescribedFields.struct (hnames : (fields.map Prod.fst).Nodup)
    (h : DescribedFields fields reader writeAll []) :
    Described (.struct fields) reader.fromValue fun v => .object (writeAll v) where
  distinct := .struct hnames h.distinct
  accepts := h.struct_accepts
  same _ _ hagree := h.struct_same hagree
  projects _ _ hv := h.struct_projects hv

end Struct

end Described

end Schema

end SmartGateway
