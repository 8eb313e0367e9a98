import Mathlib.Data.Finset.Sort
import Mathlib.Data.List.Sort
import Mathlib.Data.String.Basic
import SmartGateway.Lib.KeyedTable
import SmartGateway.Domain.JsonStruct

/-! # Maps, sets and integers as JSON

The values `serde_json` writes for the ordered maps and sets of the standard library, for
`i64`, and for an option that is always written. Both collections are written in the order of
their keys, so a map is read back with its rows in that order.
-/

namespace SmartGateway

namespace Json

variable {α ν : Type}

/-- A negative integer has a kind of its own. -/
def ofI64 (value : Int) : Json :=
  if 0 ≤ value then .number (.posInt (.ofNat value.toNat)) else .number (.negInt (.ofInt value))

def asI64 : Json → Option Int
  | .number (.posInt value) => if value.toNat ≤ i64Max then some value.toNat else none
  | .number (.negInt value) => some value.toInt
  | _ => none

/-- An option without `skip_serializing_if`. -/
def ofOption (write : α → Json) : Option α → Json
  | none => .null
  | some value => write value

/-- A `BTreeMap` with the keys of the table. -/
def ofMap (write : ν → Json) (map : KeyedTable String ν) : Json :=
  .object ((map.rows.insertionSort fun a b => a.1 ≤ b.1).map fun row => (row.1, write row.2))

def asMap (read : Json → Option ν) : Json → Option (KeyedTable String ν)
  | .object members =>
    (members.mapM fun entry => (read entry.2).map fun value => (entry.1, value)).map
      KeyedTable.collect
  | _ => none

/-- A `BTreeSet`. -/
def ofSet (values : Finset String) : Json := ofVec .string (values.sort (· ≤ ·))

def asSet (json : Json) : Option (Finset String) := (asVec asStr json).map List.toFinset

end Json

/-- The values of an `i64`. -/
def IsI64 (value : Int) : Prop := -9223372036854775808 ≤ value ∧ value ≤ 9223372036854775807

/-! ## Reading what was written -/

section Reads

variable {α β ν : Type}

theorem reads_i64 {value : Int} (h : IsI64 value) : Reads .ofI64 Json.asI64 value := by
  unfold IsI64 at h
  unfold Reads Json.ofI64
  split
  · next hpos =>
    refine ⟨nofun, ?_⟩
    have hround : (UInt64.ofNat value.toNat).toNat = value.toNat := by
      rw [UInt64.toNat_ofNat']
      exact Nat.mod_eq_of_lt (by omega)
    rw [Json.asI64, hround, if_pos (by unfold i64Max; omega), Int.toNat_of_nonneg hpos]
  · next hneg =>
    refine ⟨nofun, ?_⟩
    rw [Json.asI64, Int64.toInt_ofInt_of_le (by omega) (by omega)]

theorem reads_set (values : Finset String) : Reads .ofSet Json.asSet values := by
  refine ⟨nofun, ?_⟩
  have hread : Json.asVec Json.asStr (.ofVec .string (values.sort (· ≤ ·))) =
      some (values.sort (· ≤ ·)) := (reads_vec fun value _ => reads_string value).2
  rw [Json.ofSet, Json.asSet, hread, Option.map_some, Finset.sort_toFinset]

theorem mapM_entries {write : ν → Json} {read : Json → Option ν} {rows : List (String × ν)}
    (h : ∀ row ∈ rows, Reads write read row.2) :
    ((rows.map fun row => (row.1, write row.2)).mapM fun entry =>
      (read entry.2).map fun value => (entry.1, value)) = some rows := by
  induction rows with
  | nil => rfl
  | cons row rows ih =>
    rw [List.map_cons, List.mapM_cons, (h row List.mem_cons_self).2,
      ih fun other hother => h other (List.mem_cons_of_mem _ hother)]
    rfl

/-- A map is read back with its rows in order. -/
theorem asMap_ofMap {write : ν → Json} {read : Json → Option ν} {map : KeyedTable String ν}
    (h : ∀ row ∈ map.rows, Reads write read row.2) :
    Json.asMap read (.ofMap write map) = some map.sorted := by
  rw [Json.ofMap, Json.asMap, mapM_entries, Option.map_some]
  · exact congrArg some (KeyedTable.collect_rows map.sorted)
  · intro row hrow
    exact h row ((List.mem_insertionSort _).mp hrow)

theorem ReadsFields.value {all : List (String × Json)} {name : String} {read : Json → Option α}
    {next : α → StructReader β} {json : Json} {value : α} {result : β}
    (hlookup : all.lookup name = some json) (hread : read json = some value)
    (hnext : ReadsFields (next value) all result) :
    ReadsFields (StructReader.required name read >>= next) all result := by
  refine ReadsFields.field ?_ hnext
  rw [hlookup]
  exact hread

/-- An option that is written as `null` when it is absent. -/
theorem ReadsFields.nullable {all : List (String × Json)} {name : String} {write : α → Json}
    {read : Json → Option α} {next : Option α → StructReader β} {value : Option α} {result : β}
    (hlookup : all.lookup name = some (.ofOption write value))
    (hvalue : ∀ v ∈ value, Reads write read v) (hnext : ReadsFields (next value) all result) :
    ReadsFields (StructReader.optional name read >>= next) all result := by
  refine ReadsFields.field ?_ hnext
  rw [hlookup]
  cases value with
  | none => rfl
  | some value =>
    obtain ⟨hnull, hread⟩ := hvalue value rfl
    rw [Json.ofOption, Field.ofMember, Field.optional, hread]
    · rfl
    · exact hnull

end Reads

end SmartGateway
