import Mathlib.Init

/-! # JSON values

The values of `serde_json`. The members of an object are kept as a list; reading a document
leaves at most one member of a name.
-/

namespace SmartGateway

/-- `i64::MAX`. -/
def i64Max : Nat := 9223372036854775807

/-- The number of `u64` values. -/
def u64Size : Nat := 18446744073709551616

/-- A number as the parser keeps it: an integer of 64 bits, or the bits of a finite float. -/
inductive JsonNumber where
  | posInt (value : UInt64)
  | negInt (value : Int64)
  | float (bits : UInt64)
deriving DecidableEq

inductive Json where
  | null
  | bool (value : Bool)
  | number (value : JsonNumber)
  | string (value : String)
  | array (items : List Json)
  | object (members : List (String × Json))

namespace Json

/-- `Value::as_str`. -/
def asStr : Json → Option String
  | .string value => some value
  | _ => none

/-- `Value::as_u64`. -/
def asU64 : Json → Option Nat
  | .number (.posInt value) => some value.toNat
  | _ => none

/-- `Value::as_object`. -/
def asObject : Json → Option (List (String × Json))
  | .object members => some members
  | _ => none

/-- `Value::get` with a member name. -/
def get (value : Json) (name : String) : Option Json :=
  value.asObject.bind fun members => members.lookup name

end Json

end SmartGateway
