import SmartGateway.Domain.JsonMap
import SmartGateway.Runtime.Snapshot

/-! # The last-known-good snapshot on disk

The snapshot is written as JSON, scanned for members with sensitive names, wrapped with a
digest and renamed into place; reading it back takes the same steps in reverse, with the same
scan. The scan looks at the names of all members, and the maps of a control snapshot have
names chosen by the operator.

The values are written through `serde_json::Value`, whose objects keep their members in the
order of the names. What `serde_json` and SHA-256 do is a parameter of the store.
-/

namespace SmartGateway

open StructReader

/-! ## The snapshot as JSON -/

namespace SnapshotState

def toValue (state : SnapshotState) : Json :=
  .object <|
    member "retry_at_unix" (.ofOption .ofI64 state.retryAtUnix) ++
    member "state" (.string state.state)

def ofValue : Json → Option SnapshotState :=
  fromValue do
    let state ← required "state" Json.asStr
    let retryAtUnix ← optional "retry_at_unix" Json.asI64
    return { state, retryAtUnix }

/-- The retry time is an `i64`. -/
def Fits (state : SnapshotState) : Prop := ∀ retryAt ∈ state.retryAtUnix, IsI64 retryAt

theorem Fits.reads {state : SnapshotState} (h : state.Fits) : Reads toValue ofValue state :=
  ReadsFields.reads <|
    .required (by simp [List.lookup_append]) (reads_string _) <|
    .nullable (by simp [List.lookup_append]) (fun v hv => reads_i64 (h v hv)) <|
    .pure _ _

end SnapshotState

namespace RouteCandidate

/-- `impl TryFrom<String> for CredentialReference`. -/
def credentialOfValue (json : Json) : Option CredentialReference :=
  json.asStr.bind fun text => (CredentialReference.parse text).toOption

def priorityOfValue (json : Json) : Option Nat := json.asU32.map UInt32.toNat

def toValue (route : RouteCandidate) : Json :=
  .object <|
    member "base_url" (.string route.baseUrl) ++
    member "credential_ref" (.string route.credentialRef.text) ++
    member "logical_model" (.string route.logicalModel) ++
    member "priority" (.ofU32 (.ofNat route.priority)) ++
    member "provider" (.string route.provider) ++
    member "provider_account_id" (.string route.providerAccountId) ++
    member "route_id" (.string route.routeId) ++
    member "upstream_model" (.string route.upstreamModel)

def ofValue : Json → Option RouteCandidate :=
  fromValue do
    let routeId ← required "route_id" Json.asStr
    let logicalModel ← required "logical_model" Json.asStr
    let providerAccountId ← required "provider_account_id" Json.asStr
    let provider ← required "provider" Json.asStr
    let credentialRef ← required "credential_ref" credentialOfValue
    let baseUrl ← required "base_url" Json.asStr
    let upstreamModel ← required "upstream_model" Json.asStr
    let priority ← required "priority" priorityOfValue
    return { routeId, logicalModel, providerAccountId, provider, credentialRef, baseUrl,
             upstreamModel, priority }

theorem credentialOfValue_text (reference : CredentialReference) :
    credentialOfValue (.string reference.text) = some reference := by
  unfold credentialOfValue Json.asStr
  rw [Option.bind_some, CredentialReference.parse_text]
  rfl

/-- The priority is a `u32`. -/
def Fits (route : RouteCandidate) : Prop := route.priority < UInt32.size

theorem Fits.priorityOfValue {route : RouteCandidate} (h : route.Fits) :
    RouteCandidate.priorityOfValue (.ofU32 (.ofNat route.priority)) = some route.priority := by
  unfold RouteCandidate.priorityOfValue
  rw [(reads_u32 _).2, Option.map_some, UInt32.toNat_ofNat', Nat.mod_eq_of_lt h]

theorem Fits.reads {route : RouteCandidate} (h : route.Fits) : Reads toValue ofValue route :=
  ReadsFields.reads <|
    .required (by simp [List.lookup_append]) (reads_string _) <|
    .required (by simp [List.lookup_append]) (reads_string _) <|
    .required (by simp [List.lookup_append]) (reads_string _) <|
    .required (by simp [List.lookup_append]) (reads_string _) <|
    .value (by simp [List.lookup_append]) (credentialOfValue_text _) <|
    .required (by simp [List.lookup_append]) (reads_string _) <|
    .required (by simp [List.lookup_append]) (reads_string _) <|
    .value (by simp [List.lookup_append]) h.priorityOfValue <|
    .pure _ _

end RouteCandidate

namespace ControlSnapshot

def toValue (snapshot : ControlSnapshot) : Json :=
  .object <|
    member "account_states" (.ofMap SnapshotState.toValue snapshot.accountStates) ++
    member "fallbacks" (.ofMap (.ofVec .string) snapshot.fallbacks) ++
    member "gateway_key_hashes" (.ofSet snapshot.gatewayKeyHashes) ++
    member "route_states" (.ofMap SnapshotState.toValue snapshot.routeStates) ++
    member "routes" (.ofVec RouteCandidate.toValue snapshot.routes)

def ofValue : Json → Option ControlSnapshot :=
  fromValue do
    let gatewayKeyHashes ← required "gateway_key_hashes" Json.asSet
    let routes ← required "routes" (Json.asVec RouteCandidate.ofValue)
    let fallbacks ← required "fallbacks" (Json.asMap (Json.asVec Json.asStr))
    let routeStates ← required "route_states" (Json.asMap SnapshotState.ofValue)
    let accountStates ← required "account_states" (Json.asMap SnapshotState.ofValue)
    return { gatewayKeyHashes, routes, fallbacks, routeStates, accountStates }

/-- The numbers of the snapshot are in the ranges of their types. -/
structure Fits (snapshot : ControlSnapshot) : Prop where
  routes : ∀ route ∈ snapshot.routes, route.Fits
  routeStates : ∀ row ∈ snapshot.routeStates.rows, row.2.Fits
  accountStates : ∀ row ∈ snapshot.accountStates.rows, row.2.Fits

/-- Equal as the maps the fields are, whatever the order of their rows. -/
structure Same (snapshot other : ControlSnapshot) : Prop where
  gatewayKeyHashes : snapshot.gatewayKeyHashes = other.gatewayKeyHashes
  routes : snapshot.routes = other.routes
  fallbacks : ∀ model, snapshot.fallbacks.get? model = other.fallbacks.get? model
  routeStates : ∀ route, snapshot.routeStates.get? route = other.routeStates.get? route
  accountStates : ∀ account,
    snapshot.accountStates.get? account = other.accountStates.get? account

/-- The snapshot with its maps in the order of their keys. -/
def sorted (snapshot : ControlSnapshot) : ControlSnapshot :=
  { snapshot with
    fallbacks := snapshot.fallbacks.sorted
    routeStates := snapshot.routeStates.sorted
    accountStates := snapshot.accountStates.sorted }

theorem sorted_same (snapshot : ControlSnapshot) : snapshot.sorted.Same snapshot where
  gatewayKeyHashes := rfl
  routes := rfl
  fallbacks model := KeyedTable.get?_sorted _ model
  routeStates route := KeyedTable.get?_sorted _ route
  accountStates account := KeyedTable.get?_sorted _ account

/-- What was written is read back. -/
theorem Fits.ofValue_toValue {snapshot : ControlSnapshot} (h : snapshot.Fits) :
    ofValue snapshot.toValue = some snapshot.sorted := by
  refine (ReadsFields.reads ?_).2
  refine .required (by simp [List.lookup_append]) (reads_set snapshot.gatewayKeyHashes) ?_
  refine .required (by simp [List.lookup_append])
    (reads_vec fun route hroute => (h.routes route hroute).reads) ?_
  refine .value (by simp [List.lookup_append])
    (asMap_ofMap fun row (_ : row ∈ snapshot.fallbacks.rows) =>
      reads_vec fun model _ => reads_string model) ?_
  refine .value (by simp [List.lookup_append])
    (asMap_ofMap fun row hrow => (h.routeStates row hrow).reads) ?_
  refine .value (by simp [List.lookup_append])
    (asMap_ofMap fun row hrow => (h.accountStates row hrow).reads) ?_
  exact .pure _ _

end ControlSnapshot

/-! ## The scan -/

/-- The names `reject_sensitive_fields` matches. -/
def sensitiveFields : List String :=
  ["api_key", "credential", "prompt", "content", "response", "secret"]

mutual

def rejectSensitiveFields : Json → Except String Unit
  | .object members => rejectSensitiveMembers members
  | .array items => rejectSensitiveItems items
  | _ => .ok ()

def rejectSensitiveMembers : List (String × Json) → Except String Unit
  | [] => .ok ()
  | (key, value) :: members =>
    if key ∈ sensitiveFields then
      .error ("snapshot contains forbidden sensitive field `" ++ key ++ "`")
    else do
      rejectSensitiveFields value
      rejectSensitiveMembers members

def rejectSensitiveItems : List Json → Except String Unit
  | [] => .ok ()
  | value :: items => do
    rejectSensitiveFields value
    rejectSensitiveItems items

end

/-- The scan finds nothing. -/
def Harmless (json : Json) : Prop := rejectSensitiveFields json = .ok ()

theorem harmless_object {members : List (String × Json)} :
    Harmless (.object members) ↔
      ∀ entry ∈ members, entry.1 ∉ sensitiveFields ∧ Harmless entry.2 := by
  unfold Harmless
  rw [rejectSensitiveFields]
  induction members with
  | nil => simp [rejectSensitiveMembers]
  | cons entry members ih =>
    obtain ⟨key, value⟩ := entry
    rw [rejectSensitiveMembers, List.forall_mem_cons]
    by_cases hkey : key ∈ sensitiveFields
    · simp [hkey]
    · rw [if_neg hkey, ← ih]
      cases rejectSensitiveFields value with
      | error error => simp [bind, Except.bind]
      | ok _ => simp [bind, Except.bind, hkey]

theorem harmless_array {items : List Json} :
    Harmless (.array items) ↔ ∀ item ∈ items, Harmless item := by
  unfold Harmless
  rw [rejectSensitiveFields]
  induction items with
  | nil => simp [rejectSensitiveItems]
  | cons item items ih =>
    rw [rejectSensitiveItems, List.forall_mem_cons, ← ih]
    cases rejectSensitiveFields item with
    | error error => simp [bind, Except.bind]
    | ok _ => simp [bind, Except.bind]

theorem harmless_map {ν : Type} {write : ν → Json} (hwrite : ∀ value, Harmless (write value))
    (map : KeyedTable String ν) :
    Harmless (.ofMap write map) ↔ ∀ row ∈ map.rows, row.1 ∉ sensitiveFields := by
  rw [Json.ofMap, harmless_object, List.forall_mem_map]
  constructor
  · intro h row hrow
    exact (h row ((List.mem_insertionSort _).mpr hrow)).1
  · intro h row hrow
    exact ⟨h row ((List.mem_insertionSort _).mp hrow), hwrite row.2⟩

theorem harmless_vec {α : Type} {write : α → Json} (hwrite : ∀ value, Harmless (write value))
    (values : List α) : Harmless (.ofVec write values) := by
  rw [Json.ofVec, harmless_array, List.forall_mem_map]
  exact fun value _ => hwrite value

theorem harmless_string (value : String) : Harmless (.string value) := by
  unfold Harmless
  rw [rejectSensitiveFields]
  all_goals nofun

theorem harmless_number (value : JsonNumber) : Harmless (.number value) := by
  unfold Harmless
  rw [rejectSensitiveFields]
  all_goals nofun

theorem harmless_retryAt (value : Option Int) : Harmless (.ofOption .ofI64 value) := by
  cases value with
  | none =>
    unfold Harmless Json.ofOption
    rw [rejectSensitiveFields]
    all_goals nofun
  | some value =>
    rw [Json.ofOption, Json.ofI64]
    split
    · exact harmless_number _
    · exact harmless_number _

/-- No field of a state has a sensitive name. -/
theorem SnapshotState.harmless (state : SnapshotState) : Harmless state.toValue := by
  have hretry := harmless_retryAt state.retryAtUnix
  have hstate := harmless_string state.state
  rw [toValue, harmless_object]
  simp [member, sensitiveFields, hretry, hstate]

theorem RouteCandidate.harmless (route : RouteCandidate) : Harmless route.toValue := by
  have hpriority : Harmless (.ofU32 (.ofNat route.priority)) := harmless_number _
  rw [toValue, harmless_object]
  simp [member, sensitiveFields, harmless_string, hpriority]

/-- The scan passes a snapshot unless a model with fallbacks, a route or an account has one of
the names. -/
theorem ControlSnapshot.harmless_iff (snapshot : ControlSnapshot) :
    Harmless snapshot.toValue ↔
      (∀ row ∈ snapshot.fallbacks.rows, row.1 ∉ sensitiveFields) ∧
      (∀ row ∈ snapshot.routeStates.rows, row.1 ∉ sensitiveFields) ∧
      ∀ row ∈ snapshot.accountStates.rows, row.1 ∉ sensitiveFields := by
  have hkeys : Harmless (.ofSet snapshot.gatewayKeyHashes) := harmless_vec harmless_string _
  have hroutes : Harmless (.ofVec RouteCandidate.toValue snapshot.routes) :=
    harmless_vec RouteCandidate.harmless _
  have hfallbacks := harmless_map (harmless_vec harmless_string) snapshot.fallbacks
  have hrouteStates := harmless_map SnapshotState.harmless snapshot.routeStates
  have haccountStates := harmless_map SnapshotState.harmless snapshot.accountStates
  rw [toValue, harmless_object, ← hfallbacks, ← hrouteStates, ← haccountStates]
  simp [member, sensitiveFields, hkeys, hroutes]
  constructor
  · rintro ⟨haccounts, hfallbacks, hroutes⟩
    exact ⟨hfallbacks, hroutes, haccounts⟩
  · rintro ⟨hfallbacks, hroutes, haccounts⟩
    exact ⟨haccounts, hfallbacks, hroutes⟩

/-! ## The file -/

structure SnapshotEnvelope where
  schema : UInt8
  payload : Json
  digest : String

namespace SnapshotEnvelope

def toValue (envelope : SnapshotEnvelope) : Json :=
  .object <|
    member "schema" (.ofU8 envelope.schema) ++
    member "payload" envelope.payload ++
    member "digest" (.string envelope.digest)

def ofValue : Json → Option SnapshotEnvelope :=
  fromValue do
    let schema ← required "schema" Json.asU8
    let payload ← required "payload" some
    let digest ← required "digest" Json.asStr
    return { schema, payload, digest }

theorem ofValue_toValue (envelope : SnapshotEnvelope) :
    ofValue envelope.toValue = some envelope := by
  refine (ReadsFields.reads ?_).2
  refine .required (by simp [List.lookup_append]) (reads_u8 envelope.schema) ?_
  have hpayload : (some envelope.payload : Option Json) = some envelope.payload := rfl
  refine .value (by simp [List.lookup_append]) hpayload ?_
  refine .required (by simp [List.lookup_append]) (reads_string envelope.digest) ?_
  exact .pure _ _

end SnapshotEnvelope

/-- What the file uses of other crates: `serde_json::to_vec` and `from_slice`, the text of the
error for a value of another shape, and the SHA-256 digest. -/
structure SnapshotCodec where
  print : Json → String
  parse : String → Except String Json
  mismatch : Json → String
  digest : String → String

/-- `serde_json` and SHA-256 at one payload, which is printed as `text`; `hash` is the digest of
that. -/
def SnapshotCodec.ofText (payload : Json) (text hash : String) : SnapshotCodec where
  print json :=
    if (json.get "schema").isSome then
      "\x7b\"schema\":1,\"payload\":" ++ text ++ ",\"digest\":\"" ++ hash ++ "\"\x7d"
    else text
  parse _ := .ok (SnapshotEnvelope.mk 1 payload hash).toValue
  mismatch _ := "invalid type"
  digest _ := hash

/-- A `LastKnownGoodSnapshot<T>`, with how `T` is written and read. -/
structure LastKnownGoodSnapshot (T : Type) extends SnapshotCodec where
  toValue : T → Json
  ofValue : Json → Option T

namespace LastKnownGoodSnapshot

variable {T : Type}

/-- The envelope of a payload. -/
def envelope (store : LastKnownGoodSnapshot T) (payload : Json) : SnapshotEnvelope where
  schema := 1
  payload := payload
  digest := store.digest (store.print payload)

/-- `save` on a working file system, from the content of the file to its content after: the
rename replaces the whole file, and nothing else touches it. -/
def save (store : LastKnownGoodSnapshot T) (snapshot : T) (file : Option String) :
    Except String Unit × Option String :=
  match rejectSensitiveFields (store.toValue snapshot) with
  | .error error => (.error error, file)
  | .ok () =>
    (.ok (), some (store.print (store.envelope (store.toValue snapshot)).toValue))

/-- `from_slice` and `from_value`: a value of another shape is an error. -/
def read (store : LastKnownGoodSnapshot T) {α : Type} (ofValue : Json → Option α)
    (value : Json) : Except String α :=
  match ofValue value with
  | some result => .ok result
  | none => .error (store.mismatch value)

/-- The checks of `load` on an envelope, and its payload. -/
def unwrap (store : LastKnownGoodSnapshot T) (envelope : SnapshotEnvelope) : Except String T :=
  if envelope.schema ≠ 1 then .error "unsupported snapshot schema"
  else if store.digest (store.print envelope.payload) ≠ envelope.digest then
    .error "snapshot integrity check failed"
  else do
    rejectSensitiveFields envelope.payload
    store.read store.ofValue envelope.payload

def load (store : LastKnownGoodSnapshot T) : Option String → Except String T
  | none => .error "No such file or directory (os error 2)"
  | some bytes => do
    let document ← store.parse bytes
    let envelope ← store.read SnapshotEnvelope.ofValue document
    store.unwrap envelope

/-- `serde_json` parses what it prints for a snapshot. -/
def PrintsBack (store : LastKnownGoodSnapshot T) (snapshot : T) : Prop :=
  store.parse (store.print (store.envelope (store.toValue snapshot)).toValue) =
    .ok (store.envelope (store.toValue snapshot)).toValue

/-- A save that succeeds is read back, as a snapshot that is the same as the saved one. -/
def RoundTrips (store : LastKnownGoodSnapshot T) (Same : T → T → Prop) (snapshot : T)
    (file : Option String) : Prop :=
  (store.save snapshot file).1 = .ok () ∧
    ∃ loaded, store.load (store.save snapshot file).2 = .ok loaded ∧ Same loaded snapshot

/-- A snapshot that fails the scan is not saved, and the file stays. -/
theorem save_rejected (store : LastKnownGoodSnapshot T) {snapshot : T} {error : String}
    (h : rejectSensitiveFields (store.toValue snapshot) = .error error) (file : Option String) :
    store.save snapshot file = (.error error, file) := by
  unfold save
  rw [h]

theorem load_envelope {store : LastKnownGoodSnapshot T} {snapshot loaded : T} {bytes : String}
    (hparse : store.parse bytes = .ok (store.envelope (store.toValue snapshot)).toValue)
    (hharmless : Harmless (store.toValue snapshot))
    (hread : store.ofValue (store.toValue snapshot) = some loaded) :
    store.load (some bytes) = .ok loaded := by
  have hdocument : store.read SnapshotEnvelope.ofValue
      (store.envelope (store.toValue snapshot)).toValue =
      .ok (store.envelope (store.toValue snapshot)) := by
    unfold read
    rw [SnapshotEnvelope.ofValue_toValue]
  have hpayload : store.read store.ofValue (store.toValue snapshot) = .ok loaded := by
    unfold read
    rw [hread]
  -- the digest is taken of the same text as it was at the save
  have hunwrap : store.unwrap (store.envelope (store.toValue snapshot)) = .ok loaded := by
    unfold Harmless at hharmless
    simp [unwrap, envelope, hharmless, hpayload, bind, Except.bind]
  show (store.parse bytes).bind (fun document =>
    (store.read SnapshotEnvelope.ofValue document).bind store.unwrap) = _
  rw [hparse]
  show (store.read SnapshotEnvelope.ofValue
    (store.envelope (store.toValue snapshot)).toValue).bind store.unwrap = _
  rw [hdocument]
  exact hunwrap

/-- Saving and loading gives the snapshot back exactly when the scan passes it. -/
theorem roundTrips_iff (store : LastKnownGoodSnapshot T) {Same : T → T → Prop}
    {snapshot loaded : T} (hprint : store.PrintsBack snapshot)
    (hread : store.ofValue (store.toValue snapshot) = some loaded) (hsame : Same loaded snapshot)
    (file : Option String) :
    store.RoundTrips Same snapshot file ↔ Harmless (store.toValue snapshot) := by
  constructor
  · rintro ⟨hsave, -⟩
    cases hscan : rejectSensitiveFields (store.toValue snapshot) with
    | ok _ => exact hscan
    | error error =>
      rw [save_rejected store hscan] at hsave
      cases hsave
  · intro hharmless
    have hsave : store.save snapshot file =
        (.ok (), some (store.print (store.envelope (store.toValue snapshot)).toValue)) := by
      have hscan := hharmless
      unfold Harmless at hscan
      unfold save
      rw [hscan]
    unfold RoundTrips
    rw [hsave]
    exact ⟨rfl, loaded, load_envelope hprint hharmless hread, hsame⟩

end LastKnownGoodSnapshot

end SmartGateway
