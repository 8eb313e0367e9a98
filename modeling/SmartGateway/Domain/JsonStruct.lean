import SmartGateway.Domain.Json

/-! # Structures as JSON

How the derived readers and writers of a structure treat its fields. An object is read by the
names of its members and may have others; an array is read by position and may not have items
left over. A writer leaves absent optional fields out.
-/

namespace SmartGateway

/-- What a derived reader has before it: the members of an object, or the rest of an array. -/
inductive Row where
  | members (all : List (String × Json))
  | items (rest : List Json)

/-- What a row holds for a field: an object may miss it, an array may have ended. -/
inductive Field where
  | missing
  | ended
  | value (json : Json)

def Field.ofMember : Option Json → Field
  | none => .missing
  | some json => .value json

def Row.next (name : String) : Row → Field × Row
  | .members all => (.ofMember (all.lookup name), .members all)
  | .items [] => (.ended, .items [])
  | .items (item :: rest) => (.value item, .items rest)

namespace Field

variable {α : Type}

/-- A field of an option type: `null` is `None`, and so is a member that is not there. -/
def optional (read : Json → Option α) : Field → Option (Option α)
  | .missing => some none
  | .ended => none
  | .value .null => some none
  | .value json => (read json).map some

/-- A field without a default. -/
def required (read : Json → Option α) : Field → Option α
  | .value json => read json
  | .missing | .ended => none

/-- A field with `#[serde(default)]`. -/
def defaulted (default : α) (read : Json → Option α) : Field → Option α
  | .value json => read json
  | .missing | .ended => some default

end Field

/-- A reader of the fields of a structure, in order. -/
abbrev StructReader := StateT Row Option

namespace StructReader

variable {α : Type}

def field (name : String) (read : Field → Option α) : StructReader α := fun row =>
  (read (row.next name).1).map fun value => (value, (row.next name).2)

def optional (name : String) (read : Json → Option α) : StructReader (Option α) :=
  field name (Field.optional read)

def required (name : String) (read : Json → Option α) : StructReader α :=
  field name (Field.required read)

def defaulted (name : String) (default : α) (read : Json → Option α) : StructReader α :=
  field name (Field.defaulted default read)

/-- `from_value` of a structure. -/
def fromValue (reader : StructReader α) : Json → Option α
  | .object members => (reader.run (.members members)).map Prod.fst
  | .array items =>
    match reader.run (.items items) with
    | some (value, .items []) => some value
    | _ => none
  | _ => none

end StructReader

namespace Json

/-! ## Values of the fields -/

def asU32 : Json → Option UInt32
  | .number (.posInt value) => if value.toNat < UInt32.size then some value.toUInt32 else none
  | _ => none

def asU8 : Json → Option UInt8
  | .number (.posInt value) => if value.toNat < UInt8.size then some value.toUInt8 else none
  | _ => none

/-- `u64` as a reader sees it. -/
def asUnsigned : Json → Option UInt64
  | .number (.posInt value) => some value
  | _ => none

/-- `Vec` of what `read` reads. -/
def asVec {α : Type} (read : Json → Option α) : Json → Option (List α)
  | .array items => items.mapM read
  | _ => none

def ofU64 (value : UInt64) : Json := .number (.posInt value)

def ofU32 (value : UInt32) : Json := .number (.posInt value.toUInt64)

def ofU8 (value : UInt8) : Json := .number (.posInt value.toUInt64)

def ofVec {α : Type} (write : α → Json) (values : List α) : Json := .array (values.map write)

end Json

/-! ## Floats -/

/-- The bits of an `f64`. -/
structure F64 where
  bits : UInt64
deriving DecidableEq

namespace F64

/-- `2 ^ 52`, the weight of the exponent. -/
def exponentUnit : Nat := 4503599627370496

/-- Neither an infinity nor a NaN. -/
def IsFinite (value : F64) : Prop := value.bits.toNat / exponentUnit % 2048 ≠ 2047

instance (value : F64) : Decidable value.IsFinite :=
  inferInstanceAs (Decidable (value.bits.toNat / exponentUnit % 2048 ≠ 2047))

/-- The bits of `magnitude as f64`: to the nearest, and to the even one of two. -/
def ofMagnitude (magnitude : Nat) : Nat :=
  if magnitude = 0 then 0
  else
    let exponent := magnitude.log2
    let significand :=
      if exponent ≤ 52 then magnitude <<< (52 - exponent)
      else
        let unit := 1 <<< (exponent - 52)
        let twice := 2 * (magnitude % unit)
        let quotient := magnitude / unit
        if twice > unit ∨ (twice = unit ∧ quotient % 2 = 1) then quotient + 1 else quotient
    -- a carry out of the significand goes to the exponent
    (exponent + 1022) * exponentUnit + significand

def ofNumber : JsonNumber → F64
  | .posInt value => { bits := .ofNat (ofMagnitude value.toNat) }
  | .negInt value => { bits := .ofNat (i64Max + 1 + ofMagnitude value.toInt.natAbs) }
  | .float bits => { bits }

end F64

namespace Json

def asF64 : Json → Option F64
  | .number value => some (.ofNumber value)
  | _ => none

/-- A float that is not finite is written as `null`. -/
def ofF64 (value : F64) : Json :=
  if value.IsFinite then .number (.float value.bits) else .null

end Json

/-! ## Members -/

/-- The member of a field that is always written. -/
def member (name : String) (json : Json) : List (String × Json) := [(name, json)]

/-- The member of an optional field with `skip_serializing_if = "Option::is_none"`. -/
def optionalMember {α : Type} (name : String) (write : α → Json) (value : Option α) :
    List (String × Json) :=
  value.toList.map fun value => (name, write value)

/-- The member of a list with `skip_serializing_if = "Vec::is_empty"`. -/
def filledMember {α : Type} (name : String) (write : α → Json) (values : List α) :
    List (String × Json) :=
  if values.isEmpty then [] else [(name, .ofVec write values)]

section Members

variable {α : Type} (name : String) (write : α → Json)

@[simp] theorem lookup_member (json : Json) : (member name json).lookup name = some json := by
  simp [member]

@[simp] theorem lookup_member_ne {name' : String} (h : name' ≠ name) (json : Json) :
    (member name json).lookup name' = none := by
  rw [member, List.lookup_cons, beq_false_of_ne h]
  rfl

@[simp] theorem lookup_optionalMember (value : Option α) :
    (optionalMember name write value).lookup name = value.map write := by
  cases value with
  | none => rfl
  | some value => simp [optionalMember]

@[simp] theorem lookup_optionalMember_ne {name' : String} (h : name' ≠ name)
    (value : Option α) : (optionalMember name write value).lookup name' = none := by
  cases value with
  | none => rfl
  | some value => exact lookup_member_ne name h _

@[simp] theorem lookup_filledMember_ne {name' : String} (h : name' ≠ name)
    (values : List α) : (filledMember name write values).lookup name' = none := by
  unfold filledMember
  split
  · rfl
  · exact lookup_member_ne name h _

end Members

/-! ## Reading what was written -/

/-- A value that is read back from what is written for it, and is not written as `null`, which
an optional field would read as its absence. -/
def Reads {α : Type} (write : α → Json) (read : Json → Option α) (value : α) : Prop :=
  write value ≠ .null ∧ read (write value) = some value

section Reads

variable {α β : Type} {write : α → Json} {read : Json → Option α}

theorem reads_string (value : String) : Reads .string Json.asStr value :=
  ⟨nofun, rfl⟩

theorem reads_u64 (value : UInt64) : Reads .ofU64 Json.asUnsigned value :=
  ⟨nofun, rfl⟩

theorem reads_u32 (value : UInt32) : Reads .ofU32 Json.asU32 value := by
  refine ⟨nofun, ?_⟩
  have hlt : value.toUInt64.toNat < UInt32.size := by
    rw [UInt32.toNat_toUInt64]
    exact value.toNat_lt
  rw [Json.ofU32, Json.asU32, if_pos hlt, UInt32.toUInt32_toUInt64]

theorem reads_u8 (value : UInt8) : Reads .ofU8 Json.asU8 value := by
  refine ⟨nofun, ?_⟩
  have hlt : value.toUInt64.toNat < UInt8.size := by
    rw [UInt8.toNat_toUInt64]
    exact value.toNat_lt
  rw [Json.ofU8, Json.asU8, if_pos hlt, UInt8.toUInt8_toUInt64]

theorem reads_f64 {value : F64} (h : value.IsFinite) : Reads .ofF64 Json.asF64 value := by
  unfold Reads Json.ofF64
  rw [if_pos h]
  exact ⟨nofun, rfl⟩

theorem reads_vec {values : List α} (h : ∀ value ∈ values, Reads write read value) :
    Reads (.ofVec write) (Json.asVec read) values := by
  refine ⟨nofun, ?_⟩
  rw [Json.ofVec, Json.asVec]
  induction values with
  | nil => rfl
  | cons value values ih =>
    rw [List.map_cons, List.mapM_cons, (h value List.mem_cons_self).2,
      ih fun value' hvalue => h value' (List.mem_cons_of_mem _ hvalue)]
    rfl

/-- The fields of an object are read in turn, and the object stays before the reader. -/
def ReadsFields (reader : StructReader β) (all : List (String × Json)) (result : β) : Prop :=
  reader (.members all) = some (result, .members all)

theorem ReadsFields.pure (all : List (String × Json)) (result : β) :
    ReadsFields (Pure.pure result) all result := rfl

theorem ReadsFields.field {all : List (String × Json)} {name : String}
    {get : Field → Option α} {next : α → StructReader β} {value : α} {result : β}
    (hget : get (.ofMember (all.lookup name)) = some value)
    (hnext : ReadsFields (next value) all result) :
    ReadsFields (StructReader.field name get >>= next) all result := by
  unfold ReadsFields
  change (((get (.ofMember (all.lookup name))).map fun value => (value, Row.members all)).bind
    fun read => next read.1 read.2) = _
  rw [hget]
  exact hnext

theorem ReadsFields.optional {all : List (String × Json)} {name : String}
    {next : Option α → StructReader β} {value : Option α} {result : β}
    (hlookup : all.lookup name = value.map write) (hvalue : ∀ v ∈ value, Reads write read v)
    (hnext : ReadsFields (next value) all result) :
    ReadsFields (StructReader.optional name read >>= next) all result := by
  refine ReadsFields.field ?_ hnext
  rw [hlookup]
  cases value with
  | none => rfl
  | some value =>
    rcases hvalue value rfl with ⟨hnull, hread⟩
    rw [Option.map_some, Field.ofMember, Field.optional, hread]
    · rfl
    · exact hnull

theorem ReadsFields.required {all : List (String × Json)} {name : String}
    {next : α → StructReader β} {value : α} {result : β}
    (hlookup : all.lookup name = some (write value)) (hvalue : Reads write read value)
    (hnext : ReadsFields (next value) all result) :
    ReadsFields (StructReader.required name read >>= next) all result := by
  refine ReadsFields.field ?_ hnext
  rw [hlookup]
  exact hvalue.2

theorem ReadsFields.defaulted {all : List (String × Json)} {name : String}
    {next : List α → StructReader β} {values : List α} {result : β}
    (hlookup : all.lookup name = (filledMember name write values).lookup name)
    (hvalues : ∀ value ∈ values, Reads write read value)
    (hnext : ReadsFields (next values) all result) :
    ReadsFields (StructReader.defaulted name [] (Json.asVec read) >>= next) all result := by
  refine ReadsFields.field ?_ hnext
  rw [hlookup]
  cases values with
  | nil => rfl
  | cons value values =>
    have hlookup : (filledMember name write (value :: values)).lookup name =
        some (.ofVec write (value :: values)) := by
      simp [filledMember]
    rw [hlookup]
    exact (reads_vec hvalues).2

theorem ReadsFields.reads {reader : StructReader β} {all : List (String × Json)} {result : β}
    (h : ReadsFields reader all result) :
    Json.object all ≠ .null ∧ reader.fromValue (.object all) = some result := by
  refine ⟨nofun, ?_⟩
  unfold ReadsFields at h
  rw [StructReader.fromValue]
  change (reader (.members all)).map Prod.fst = _
  rw [h]
  rfl

end Reads

end SmartGateway
