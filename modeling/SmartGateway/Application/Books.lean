import SmartGateway.Application.AttemptAudit

/-! # The books of a request

Each record that a request hands over is one of an execution of it, under the identity that was
drawn for that execution. However a request ends, each of its executions has its last record: one
that says how the execution ended and was taken, or one that was refused for good. How a stream
ended is left open here: that shows when it is read.
-/

namespace SmartGateway

open Program (Always)

variable {Body Chunk : Type}

namespace ApplicationOp

/-- The record a call hands over. -/
def offers : ApplicationOp → Option AttemptRecord
  | .configuration (.recordAttempt attempt) | .appendAttempt attempt => some attempt
  | _ => none

/-- A call that begins an attempt. -/
def begins : ApplicationOp → Bool
  | .execute _ _ _ | .newAttemptId => true
  | _ => false

/-- A call that neither begins an attempt nor hands over a record. -/
def isAside (op : ApplicationOp) : Bool := op.offers.isNone && !op.begins

end ApplicationOp

namespace History

/-- The record that is handed over. -/
def offered (e : Event (application Body)) : Option AttemptRecord := e.op.offers

/-- The record that was refused for good: by the spool, or by the repository where there is no
spool. -/
def refused (usageSpool : Bool) : Event (application Body) → Option AttemptRecord
  | ⟨.configuration (.recordAttempt record), .error _⟩ => if usageSpool then none else some record
  | ⟨.appendAttempt record, .error _⟩ => some record
  | _ => none

/-- What an end of a stream is recorded with. -/
def EndsStream (record : AttemptRecord) : Prop :=
  (record.outcome = .succeeded ∨ record.outcome = .cancelled) ∧ record.failureCategory = none ∨
    record.outcome = .partialFailed ∧
      ∃ failure : ProviderFailure, record.failureCategory = some failure.category.debug

/-- A stream that has not ended. -/
def NoEnd (_ : AttemptRecord) : Prop := False

/-- A stream that may have ended in any way. -/
def AnyEnd (_ : AttemptRecord) : Prop := True

/-- What an execution may be recorded with, if streams ended as `ends` says. -/
def FitsResult (ends : AttemptRecord → Prop) (record : AttemptRecord) :
    Except ProviderFailure (InferenceExecution Body) → Prop
  | .error failure =>
    record.outcome = .failed ∧ record.failureCategory = some failure.category.debug
  | .ok (.complete _ _) => record.outcome = .succeeded ∧ record.failureCategory = none
  | .ok (.streaming _) =>
    record.outcome = .committed ∧ record.failureCategory = none ∨
      EndsStream record ∧ ends record

/-- A record of the invocation. -/
def Fits (requestId : String) (ends : AttemptRecord → Prop) (invoked : Invocation Body)
    (record : AttemptRecord) : Prop :=
  record.requestId = requestId ∧ record.routeId = invoked.route.routeId ∧
    FitsResult ends record invoked.result

/-- The record is one of an invocation, with the identity that was drawn for it. -/
def Belongs (requestId : String) (ends : AttemptRecord → Prop) (past : History Body)
    (record : AttemptRecord) : Prop :=
  ∃ (k : ℕ) (invoked : Invocation Body),
    (past.filterMap generated)[k]? = some record.attemptId ∧
      (past.filterMap invocation)[k]? = some invoked ∧ Fits requestId ends invoked record

/-- The discipline: only records that belong are handed over. -/
def OffersOwn (requestId : String) (past : History Body) (op : ApplicationOp) : Prop :=
  ∀ record ∈ op.offers, Belongs requestId AnyEnd past record

/-- Only records that belong were handed over. -/
def Told (requestId : String) (ends : AttemptRecord → Prop) (past : History Body) : Prop :=
  ∀ record ∈ past.filterMap offered, Belongs requestId ends past record

/-- The record is the last one of the invocation: it says how that has ended and was taken, or it
was refused. -/
def Closes (usageSpool : Bool) (requestId : String) (ends : AttemptRecord → Prop)
    (past : History Body) (invoked : Invocation Body) (record : AttemptRecord) : Prop :=
  Fits requestId ends invoked record ∧
    (record ∈ past.filterMap accepted ∧ record.outcome ≠ .committed ∨
      record ∈ past.filterMap (refused usageSpool))

/-- Every invocation has its last record, with the identity that was drawn for it. -/
structure Booked (usageSpool : Bool) (requestId : String) (ends : AttemptRecord → Prop)
    (past : History Body) : Prop where
  told : Told requestId ends past
  closed : ∃ finals,
    List.Forall₂ (Closes usageSpool requestId ends past) (past.filterMap invocation) finals ∧
      finals.map (fun record => record.attemptId) = past.filterMap generated

/-- The identity was drawn for the invocation, which is the last one; those before it have their
last records. -/
structure Current (usageSpool : Bool) (requestId : String) (ends : AttemptRecord → Prop)
    (past : History Body) (invoked : Invocation Body) (attemptId : AttemptId) : Prop where
  told : Told requestId ends past
  last : ∃ earlier finals, past.filterMap invocation = earlier ++ [invoked] ∧
    List.Forall₂ (Closes usageSpool requestId ends past) earlier finals ∧
      past.filterMap generated = finals.map (fun record => record.attemptId) ++ [attemptId]

/-! ## How streams ended -/

section Ends

variable {usageSpool : Bool} {requestId : String} {ends ends' : AttemptRecord → Prop}
  {past : History Body} {invoked : Invocation Body} {attemptId : AttemptId}
  {record : AttemptRecord}

theorem EndsStream.isStreamTerminal (h : EndsStream record) :
    record.outcome.isStreamTerminal = true := by
  rcases h with ⟨houtcome | houtcome, -⟩ | ⟨houtcome, -⟩
  all_goals rw [houtcome, AttemptOutcome.isStreamTerminal]

theorem Fits.mono (h : Fits requestId ends invoked record)
    (hends : ∀ record, ends record → ends' record) : Fits requestId ends' invoked record := by
  rcases h with ⟨hrequest, hroute, hresult⟩
  refine ⟨hrequest, hroute, ?_⟩
  rcases hkind : invoked.result with failure | response | body
  · rw [hkind] at hresult
    exact hresult
  · rw [hkind] at hresult
    exact hresult
  · rw [hkind] at hresult
    exact hresult.imp id fun hend => ⟨hend.1, hends record hend.2⟩

theorem Belongs.mono (h : Belongs requestId ends past record)
    (hends : ∀ record, ends record → ends' record) : Belongs requestId ends' past record := by
  rcases h with ⟨k, invoked, hid, hinvoked, hfits⟩
  exact ⟨k, invoked, hid, hinvoked, hfits.mono hends⟩

theorem Told.mono (h : Told requestId ends past) (hends : ∀ record, ends record → ends' record) :
    Told requestId ends' past :=
  fun record hrecord => (h record hrecord).mono hends

theorem Closes.mono (h : Closes usageSpool requestId ends past invoked record)
    (hends : ∀ record, ends record → ends' record) :
    Closes usageSpool requestId ends' past invoked record :=
  ⟨h.1.mono hends, h.2⟩

theorem Booked.mono (h : Booked usageSpool requestId ends past)
    (hends : ∀ record, ends record → ends' record) : Booked usageSpool requestId ends' past := by
  rcases h.closed with ⟨finals, hclosed, hids⟩
  exact ⟨h.told.mono hends, finals, hclosed.imp fun _ _ hcloses => hcloses.mono hends, hids⟩

theorem Current.mono (h : Current usageSpool requestId ends past invoked attemptId)
    (hends : ∀ record, ends record → ends' record) :
    Current usageSpool requestId ends' past invoked attemptId := by
  rcases h.last with ⟨earlier, finals, hinvocation, hclosed, hids⟩
  exact ⟨h.told.mono hends, earlier, finals, hinvocation,
    hclosed.imp fun _ _ hcloses => hcloses.mono hends, hids⟩

end Ends

/-! ## Calls that begin no attempt -/

/-- Calls were made since that neither begin an attempt nor hand over a record. -/
def Later (past past' : History Body) : Prop :=
  ∃ own, past' = past ++ own ∧ own.filterMap invocation = [] ∧ own.filterMap generated = [] ∧
    own.filterMap offered = []

section Later

variable {usageSpool : Bool} {requestId : String} {ends : AttemptRecord → Prop}
  {past past' past'' : History Body} {invoked : Invocation Body} {attemptId : AttemptId}
  {record : AttemptRecord}

theorem Later.refl (past : History Body) : Later past past :=
  ⟨[], (List.append_nil past).symm, rfl, rfl, rfl⟩

theorem Later.trans (h : Later past past') (h' : Later past' past'') : Later past past'' := by
  rcases h with ⟨own, rfl, hinvocation, hgenerated, hoffered⟩
  rcases h' with ⟨own', rfl, hinvocation', hgenerated', hoffered'⟩
  refine ⟨own ++ own', List.append_assoc .., ?_, ?_, ?_⟩
  · rw [List.filterMap_append, hinvocation, hinvocation', List.append_nil]
  · rw [List.filterMap_append, hgenerated, hgenerated', List.append_nil]
  · rw [List.filterMap_append, hoffered, hoffered', List.append_nil]

theorem invocation_of_begins {op : ApplicationOp} (hop : op.begins = false)
    (answer : op.Answer Body) : invocation (⟨op, answer⟩ : Event (application Body)) = none := by
  cases op with
  | execute route request credential => cases hop
  | _ => rfl

theorem generated_of_begins {op : ApplicationOp} (hop : op.begins = false)
    (answer : op.Answer Body) : generated (⟨op, answer⟩ : Event (application Body)) = none := by
  cases op with
  | newAttemptId => cases hop
  | _ => rfl

theorem later_snoc (past : History Body) (op : ApplicationOp) (hop : op.isAside = true)
    (answer : op.Answer Body) : Later past (past ++ [⟨op, answer⟩]) := by
  rw [ApplicationOp.isAside, Bool.and_eq_true, Bool.not_eq_true', Option.isNone_iff_eq_none] at hop
  have hoffered : offered (⟨op, answer⟩ : Event (application Body)) = none := hop.1
  refine ⟨[⟨op, answer⟩], rfl, ?_, ?_, ?_⟩
  · rw [List.filterMap_cons, invocation_of_begins hop.2, List.filterMap_nil]
  · rw [List.filterMap_cons, generated_of_begins hop.2, List.filterMap_nil]
  · rw [List.filterMap_cons, hoffered, List.filterMap_nil]

theorem Later.invocations (h : Later past past') :
    past'.filterMap invocation = past.filterMap invocation := by
  rcases h with ⟨own, rfl, hinvocation, -⟩
  rw [List.filterMap_append, hinvocation, List.append_nil]

theorem Later.ids (h : Later past past') :
    past'.filterMap generated = past.filterMap generated := by
  rcases h with ⟨own, rfl, -, hgenerated, -⟩
  rw [List.filterMap_append, hgenerated, List.append_nil]

theorem Belongs.append (h : Belongs requestId ends past record) (own : History Body) :
    Belongs requestId ends (past ++ own) record := by
  rcases h with ⟨k, invoked, hid, hinvoked, hfits⟩
  have hid' := (List.getElem?_eq_some_iff.mp hid).1
  have hinvoked' := (List.getElem?_eq_some_iff.mp hinvoked).1
  refine ⟨k, invoked, ?_, ?_, hfits⟩
  · rw [List.filterMap_append, List.getElem?_append_left hid', hid]
  · rw [List.filterMap_append, List.getElem?_append_left hinvoked', hinvoked]

/-- What was told before, and what belongs now. -/
theorem Told.append (h : Told requestId ends past) {own : History Body}
    (hown : ∀ record ∈ own.filterMap offered, Belongs requestId ends past record) :
    Told requestId ends (past ++ own) := by
  intro record hrecord
  rw [List.filterMap_append, List.mem_append] at hrecord
  rcases hrecord with hearlier | hnow
  · exact (h record hearlier).append own
  · exact (hown record hnow).append own

theorem Told.later (h : Told requestId ends past) (hlater : Later past past') :
    Told requestId ends past' := by
  rcases hlater with ⟨own, rfl, -, -, hoffered⟩
  refine h.append ?_
  intro record hrecord
  rw [hoffered] at hrecord
  cases hrecord

theorem Closes.append (h : Closes usageSpool requestId ends past invoked record)
    (own : History Body) : Closes usageSpool requestId ends (past ++ own) invoked record := by
  rcases h with ⟨hfits, hstored⟩
  refine ⟨hfits, ?_⟩
  rw [List.filterMap_append, List.filterMap_append]
  rcases hstored with ⟨haccepted, hends⟩ | hrefused
  · exact Or.inl ⟨List.mem_append_left _ haccepted, hends⟩
  · exact Or.inr (List.mem_append_left _ hrefused)

theorem closes_append {invocations : List (Invocation Body)} {finals : List AttemptRecord}
    (h : List.Forall₂ (Closes usageSpool requestId ends past) invocations finals)
    (own : History Body) :
    List.Forall₂ (Closes usageSpool requestId ends (past ++ own)) invocations finals :=
  h.imp fun _ _ hcloses => hcloses.append own

theorem Booked.later (h : Booked usageSpool requestId ends past) (hlater : Later past past') :
    Booked usageSpool requestId ends past' := by
  rcases h.closed with ⟨finals, hclosed, hids⟩
  refine ⟨h.told.later hlater, finals, ?_, hids.trans hlater.ids.symm⟩
  rw [hlater.invocations]
  rcases hlater with ⟨own, rfl, -⟩
  exact closes_append hclosed own

theorem Current.later (h : Current usageSpool requestId ends past invoked attemptId)
    (hlater : Later past past') : Current usageSpool requestId ends past' invoked attemptId := by
  rcases h.last with ⟨earlier, finals, hinvocation, hclosed, hids⟩
  refine ⟨h.told.later hlater, earlier, finals, hlater.invocations.trans hinvocation, ?_,
    hlater.ids.trans hids⟩
  rcases hlater with ⟨own, rfl, -⟩
  exact closes_append hclosed own

theorem booked_nil (usageSpool : Bool) (requestId : String) :
    Booked usageSpool requestId NoEnd ([] : History Body) :=
  ⟨fun _ hrecord => absurd hrecord List.not_mem_nil, [], .nil, rfl⟩

/-- An identity is drawn once an execution has been answered. -/
theorem Booked.begin (h : Booked usageSpool requestId ends past) (route : RouteCandidate)
    (request : InferenceRequest) (credential : String)
    (result : Except ProviderFailure (InferenceExecution Body)) (attemptId : AttemptId) :
    Current usageSpool requestId ends
      (past ++ [⟨.execute route request credential, result⟩] ++ [⟨.newAttemptId, attemptId⟩])
      { route, credential, result } attemptId := by
  rcases h.closed with ⟨finals, hclosed, hids⟩
  rw [List.append_assoc]
  refine ⟨?_, past.filterMap invocation, finals, ?_, closes_append hclosed _, ?_⟩
  · refine h.told.append ?_
    intro record hrecord
    cases hrecord
  · rw [List.filterMap_append]
    rfl
  · rw [List.filterMap_append, hids]
    rfl

/-- A record with the identity of the current invocation belongs. -/
theorem Current.belongs (h : Current usageSpool requestId ends past invoked record.attemptId)
    (hfits : Fits requestId ends invoked record) : Belongs requestId ends past record := by
  rcases h.last with ⟨earlier, finals, hinvocation, hclosed, hids⟩
  -- both lists end with the current invocation, at the place after those that are closed
  have hlength : finals.length = earlier.length := hclosed.length_eq.symm
  refine ⟨earlier.length, invoked, ?_, ?_, hfits⟩
  · rw [hids, List.getElem?_append_right (by simp [hlength])]
    simp [hlength]
  · rw [hinvocation, List.getElem?_append_right (Nat.le_refl _)]
    simp

/-- So does one that is handed over. -/
theorem Current.own (h : Current usageSpool requestId ends past invoked record.attemptId)
    (hfits : Fits requestId ends invoked record) {op : ApplicationOp}
    (hop : op.offers = some record) : ∀ other ∈ op.offers, Belongs requestId ends past other := by
  intro other hother
  rw [hop] at hother
  cases hother
  exact h.belongs hfits

/-- It stays current as long as no other one begins. -/
theorem Current.answered (h : Current usageSpool requestId ends past invoked attemptId)
    (op : ApplicationOp) (hop : op.begins = false)
    (hown : ∀ record ∈ op.offers, Belongs requestId ends past record) (answer : op.Answer Body) :
    Current usageSpool requestId ends (past ++ [⟨op, answer⟩]) invoked attemptId := by
  rcases h.last with ⟨earlier, finals, hinvocation, hclosed, hids⟩
  refine ⟨?_, earlier, finals, ?_, closes_append hclosed _, ?_⟩
  · refine h.told.append ?_
    intro record hrecord
    rcases List.mem_filterMap.mp hrecord with ⟨e, he, hnow⟩
    cases List.mem_singleton.mp he
    exact hown record hnow
  · rw [Event.filterMap_snoc, invocation_of_begins hop, hinvocation]
    exact List.append_nil _
  · rw [Event.filterMap_snoc, generated_of_begins hop, hids]
    exact List.append_nil _

/-- With the last record of the current invocation every one has its last record. -/
theorem Current.booked (h : Current usageSpool requestId ends past invoked record.attemptId)
    (hcloses : Closes usageSpool requestId ends past invoked record) :
    Booked usageSpool requestId ends past := by
  rcases h.last with ⟨earlier, finals, hinvocation, hclosed, hids⟩
  refine ⟨h.told, finals ++ [record], ?_, ?_⟩
  · rw [hinvocation]
    exact List.rel_append hclosed (.cons hcloses .nil)
  · rw [hids, List.map_append]
    rfl

end Later

/-! ## The programs of an attempt -/

/-- The discipline while an attempt is under way. -/
def Works (usageSpool : Bool) (requestId : String) (invoked : Invocation Body)
    (attemptId : AttemptId) (past : History Body) (op : ApplicationOp) : Prop :=
  Current usageSpool requestId AnyEnd past invoked attemptId ∧ op.begins = false ∧
    OffersOwn requestId past op

section Works

variable {usageSpool : Bool} {requestId : String} {ends : AttemptRecord → Prop}
  {past : History Body} {invoked : Invocation Body} {attemptId : AttemptId}

theorem Current.any (h : Current usageSpool requestId ends past invoked attemptId) :
    Current usageSpool requestId AnyEnd past invoked attemptId :=
  h.mono fun _ _ => trivial

theorem offersOwn_of_none {op : ApplicationOp} (hop : op.offers = none) :
    OffersOwn requestId past op := by
  intro record hrecord
  rw [hop] at hrecord
  cases hrecord

theorem offersOwn_aside {op : ApplicationOp} (hop : op.isAside = true) :
    OffersOwn requestId past op := by
  rw [ApplicationOp.isAside, Bool.and_eq_true, Option.isNone_iff_eq_none] at hop
  exact offersOwn_of_none hop.1

/-- A record of the current invocation may be handed over. -/
theorem Current.works {op : ApplicationOp} {record : AttemptRecord}
    (h : Current usageSpool requestId ends past invoked record.attemptId)
    (hfits : Fits requestId ends invoked record) (hop : op.begins = false)
    (hoffers : op.offers = some record) :
    Works usageSpool requestId invoked record.attemptId past op := by
  refine ⟨h.any, hop, ?_⟩
  intro other hother
  exact (h.own hfits hoffers other hother).mono fun _ _ => trivial

theorem begins_aside {op : ApplicationOp} (hop : op.isAside = true) : op.begins = false := by
  rw [ApplicationOp.isAside, Bool.and_eq_true, Bool.not_eq_true'] at hop
  exact hop.2

/-- Calls aside leave everything as it is. -/
theorem works_aside {α : Type} {p : UseCase Body α}
    (hp : p.Calls fun op : ApplicationOp => op.isAside = true)
    (h : Current usageSpool requestId ends past invoked attemptId) :
    Always (S := application Body) (Works usageSpool requestId invoked attemptId)
      (fun past' _ => Later past past') past p := by
  induction p generalizing past with
  | pure a => exact .refl past
  | call op next ih =>
    refine ⟨⟨h.any, begins_aside hp.1, offersOwn_aside hp.1⟩, fun answer => ?_⟩
    have hsnoc := later_snoc past op hp.1 answer
    refine (ih answer (hp.2 answer) (h.later hsnoc)).mono (fun _ _ hop => hop) ?_
    intro past' _ hlater
    exact hsnoc.trans hlater

/-- They leave closed books closed. -/
theorem works_aside_booked {α : Type} {p : UseCase Body α}
    (hp : p.Calls fun op : ApplicationOp => op.isAside = true)
    (h : Current usageSpool requestId ends past invoked attemptId)
    (hbooked : Booked usageSpool requestId ends past) :
    Always (S := application Body) (Works usageSpool requestId invoked attemptId)
      (fun past' _ => Booked usageSpool requestId ends past') past p := by
  refine (works_aside hp h).mono (fun _ _ hop => hop) ?_
  intro past' _ hlater
  exact hbooked.later hlater

theorem isAside_of_isMark {op : RepositoryOp} (hop : op.isMark = true) :
    (ApplicationOp.configuration op).isAside = true := by
  cases op with
  | markRouteSuccess routeId => rfl
  | markRouteFailure routeId failure => rfl
  | markAccountFailure accountId failure => rfl
  | _ => cases hop

/-- A record is taken by the repository or the spool, or is refused for good. -/
theorem works_persisting {α : Type} (record : AttemptRecord) (taken failed unspooled : α)
    (h : Current usageSpool requestId ends past invoked record.attemptId)
    (hfits : Fits requestId ends invoked record) :
    Always (S := application Body) (Works usageSpool requestId invoked record.attemptId)
      (fun past' result => Current usageSpool requestId ends past' invoked record.attemptId ∧
        (result = taken ∧ record ∈ past'.filterMap accepted ∨
          (result = failed ∨ result = unspooled) ∧ record ∈ past'.filterMap (refused usageSpool)))
      past (persisting usageSpool record taken failed unspooled) := by
  refine ⟨h.works hfits rfl rfl, fun answer => ?_⟩
  have hnow : Current usageSpool requestId ends
      (past ++ [⟨.configuration (.recordAttempt record), answer⟩]) invoked record.attemptId :=
    h.answered (.configuration (.recordAttempt record)) rfl (h.own hfits rfl) answer
  rcases answer with error | value
  · dsimp only [Program.bind]
    simp only [Except.isOk, Except.toBool, Bool.false_eq_true, if_false]
    by_cases hspool : usageSpool = true
    · -- the spool is asked as well, and has the last word
      rw [if_pos hspool]
      refine ⟨hnow.works hfits rfl rfl, fun spooled => ?_⟩
      have hlast : Current usageSpool requestId ends
          (past ++ [⟨.configuration (.recordAttempt record), .error error⟩] ++
            [⟨.appendAttempt record, spooled⟩]) invoked record.attemptId :=
        hnow.answered (.appendAttempt record) rfl (hnow.own hfits rfl) spooled
      rcases spooled with refusal | value
      · exact ⟨hlast, Or.inr ⟨Or.inl rfl, Event.mem_filterMap_snoc.mpr (Or.inr rfl)⟩⟩
      · exact ⟨hlast, Or.inl ⟨rfl, Event.mem_filterMap_snoc.mpr (Or.inr rfl)⟩⟩
    · rw [if_neg hspool]
      have hrefused : refused usageSpool
          (⟨.configuration (.recordAttempt record), .error error⟩ : Event (application Body)) =
            some record := if_neg hspool
      exact ⟨hnow, Or.inr ⟨Or.inr rfl, Event.mem_filterMap_snoc.mpr (Or.inr hrefused)⟩⟩
  · exact ⟨hnow, Or.inl ⟨rfl, Event.mem_filterMap_snoc.mpr (Or.inr rfl)⟩⟩

/-- Once it was tried to persist it, a record that says how the invocation has ended closes it. -/
theorem works_persisting_last {α : Type} (record : AttemptRecord) (taken failed unspooled : α)
    (h : Current usageSpool requestId ends past invoked record.attemptId)
    (hfits : Fits requestId ends invoked record) (hends : record.outcome ≠ .committed) :
    Always (S := application Body) (Works usageSpool requestId invoked record.attemptId)
      (fun past' _ => Current usageSpool requestId ends past' invoked record.attemptId ∧
        Booked usageSpool requestId ends past') past
      (persisting usageSpool record taken failed unspooled) := by
  refine (works_persisting record taken failed unspooled h hfits).mono (fun _ _ hop => hop) ?_
  rintro past' result ⟨hnow, hresult⟩
  refine ⟨hnow, hnow.booked ⟨hfits, ?_⟩⟩
  rcases hresult with ⟨-, haccepted⟩ | ⟨-, hrefused⟩
  · exact Or.inl ⟨haccepted, hends⟩
  · exact Or.inr hrefused

end Works

/-! ## Streams -/

/-- The attempt is that of the current invocation, which has answered with a stream. -/
structure Streams (usageSpool : Bool) (requestId : String) (ends : AttemptRecord → Prop)
    (past : History Body) (invoked : Invocation Body) (attempt : StreamAttempt) : Prop where
  current : Current usageSpool requestId ends past invoked attempt.attemptId
  streaming : ∃ body, invoked.result = .ok (.streaming body)
  ofSpool : attempt.usageSpool = usageSpool
  ofRequest : attempt.requestId = requestId
  ofRoute : attempt.routeId = invoked.route.routeId

section Streams

variable {usageSpool : Bool} {requestId : String} {ends ends' : AttemptRecord → Prop}
  {past : History Body} {invoked : Invocation Body} {attempt : StreamAttempt}

theorem Streams.later (h : Streams usageSpool requestId ends past invoked attempt)
    {past' : History Body} (hlater : Later past past') :
    Streams usageSpool requestId ends past' invoked attempt :=
  ⟨h.current.later hlater, h.streaming, h.ofSpool, h.ofRequest, h.ofRoute⟩

theorem Streams.mono (h : Streams usageSpool requestId ends past invoked attempt)
    (hends : ∀ record, ends record → ends' record) :
    Streams usageSpool requestId ends' past invoked attempt :=
  ⟨h.current.mono hends, h.streaming, h.ofSpool, h.ofRequest, h.ofRoute⟩

theorem Streams.fits (h : Streams usageSpool requestId ends past invoked attempt)
    {outcome : AttemptOutcome} {failureCategory : Option String}
    (hresult : outcome = .committed ∧ failureCategory = none ∨
      EndsStream (attempt.record outcome failureCategory) ∧
        ends (attempt.record outcome failureCategory)) :
    Fits requestId ends invoked (attempt.record outcome failureCategory) := by
  refine ⟨h.ofRequest, h.ofRoute, ?_⟩
  rcases h.streaming with ⟨body, hstreaming⟩
  rw [hstreaming]
  exact hresult

/-- The end of the stream is recorded, or refused. -/
theorem Streams.persist (h : Streams usageSpool requestId ends past invoked attempt)
    {outcome : AttemptOutcome} {failureCategory : Option String}
    (hstream : EndsStream (attempt.record outcome failureCategory))
    (hends : ends (attempt.record outcome failureCategory)) :
    Always (S := application Body) (Works usageSpool requestId invoked attempt.attemptId)
      (fun past' _ => Current usageSpool requestId ends past' invoked attempt.attemptId ∧
        Booked usageSpool requestId ends past') past
      (attempt.persist (attempt.record outcome failureCategory)) := by
  have hfits := h.fits (Or.inr ⟨hstream, hends⟩)
  have hended := AttemptOutcome.ne_committed_of_isStreamTerminal hstream.isStreamTerminal
  rw [StreamAttempt.persist_eq, h.ofSpool]
  exact works_persisting_last (attempt.record outcome failureCategory) _ _ _ h.current hfits hended

theorem aside_callIf (condition : Bool) {op : RepositoryOp} (hop : op.isMark = true) :
    (StreamAttempt.callIf condition op : UseCase Body Unit).Calls
      fun op : ApplicationOp => op.isAside = true := by
  unfold StreamAttempt.callIf
  split
  · exact ⟨isAside_of_isMark hop, fun _ => trivial⟩
  · exact trivial

/-- What is done aside once the end is recorded. -/
theorem then_aside {α β : Type} {attemptId : AttemptId} {p : UseCase Body α}
    {f : α → UseCase Body β}
    (hp : Always (S := application Body) (Works usageSpool requestId invoked attemptId)
      (fun past' _ => Current usageSpool requestId ends past' invoked attemptId ∧
        Booked usageSpool requestId ends past') past p)
    (hf : ∀ a, (f a).Calls fun op : ApplicationOp => op.isAside = true) :
    Always (S := application Body) (Works usageSpool requestId invoked attemptId)
      (fun past' _ => Booked usageSpool requestId ends past') past (p.bind f) := by
  refine hp.bind ?_
  rintro past' a ⟨hnow, hbooked⟩
  exact works_aside_booked (hf a) hnow hbooked

theorem Streams.succeed (h : Streams usageSpool requestId ends past invoked attempt)
    (hends : ends (attempt.record .succeeded none)) :
    Always (S := application Body) (Works usageSpool requestId invoked attempt.attemptId)
      (fun past' _ => Booked usageSpool requestId ends past') past attempt.succeed := by
  refine then_aside (h.persist (Or.inl ⟨Or.inl rfl, rfl⟩) hends) ?_
  intro persisted
  rcases persisted with error | value
  · exact trivial
  · exact ⟨rfl, fun _ => trivial⟩

theorem Streams.fail (h : Streams usageSpool requestId ends past invoked attempt)
    (failure : ProviderFailure)
    (hends : ends (attempt.record .partialFailed (some failure.category.debug))) :
    Always (S := application Body) (Works usageSpool requestId invoked attempt.attemptId)
      (fun past' _ => Booked usageSpool requestId ends past') past (attempt.fail failure) := by
  refine then_aside (h.persist (Or.inr ⟨rfl, failure, rfl⟩) hends) ?_
  intro persisted
  exact (aside_callIf _ rfl).bind fun _ => aside_callIf _ rfl

theorem Streams.cancel (h : Streams usageSpool requestId ends past invoked attempt)
    (hends : ends (attempt.record .cancelled none)) :
    Always (S := application Body) (Works usageSpool requestId invoked attempt.attemptId)
      (fun past' _ => Booked usageSpool requestId ends past') past attempt.cancel :=
  then_aside (h.persist (Or.inl ⟨Or.inr rfl, rfl⟩) hends) fun _ => trivial

/-- Where the program that records the end of a stream is cut short, the attempt may have been
recorded with any end when its cancellation starts. -/
theorem Streams.cutShort {α : Type} {Q : History Body → α → Prop}
    (h : Streams usageSpool requestId ends past invoked attempt) {p rest : UseCase Body α}
    (hp : Always (S := application Body) (Works usageSpool requestId invoked attempt.attemptId) Q
      past p)
    (hrest : ∀ past', Streams usageSpool requestId AnyEnd past' invoked attempt →
      Always (S := application Body) (Works usageSpool requestId invoked attempt.attemptId) Q
        past' rest) (awaited : Nat) :
    Always (S := application Body) (Works usageSpool requestId invoked attempt.attemptId) Q past
      (p.cutShort rest awaited) := by
  refine hp.cutShort ?_ hrest awaited
  intro past' op answer hworks
  -- what was checked before the call it waits for says where the attempt stands then
  have hnow : Current usageSpool requestId AnyEnd (past' ++ [⟨op, answer⟩]) invoked
      attempt.attemptId := hworks.1.answered op hworks.2.1 hworks.2.2 answer
  exact ⟨hnow, h.streaming, h.ofSpool, h.ofRequest, h.ofRoute⟩

end Streams

/-! ## The loop -/

/-- What a request leaves: closed books, or a stream that is to be read. -/
def Leaves (usageSpool : Bool) (requestId : String) (past : History Body) :
    InferenceResult Body Chunk → Prop
  | .ok (.streaming stream) => stream.terminalEmitted = false ∧
    ∃ invoked, Streams usageSpool requestId NoEnd past invoked stream.attempt ∧
      invoked.result = .ok (.streaming stream.upstream)
  | _ => Booked usageSpool requestId NoEnd past

section Loop

variable {gateway : Gateway} {request : InferenceRequest} {past : History Body}
  {invoked : Invocation Body} {attemptId : AttemptId}

theorem works_persistAttempt {record : AttemptRecord}
    (h : Current gateway.usageSpool request.requestId NoEnd past invoked record.attemptId)
    (hfits : Fits request.requestId NoEnd invoked record) (hends : record.outcome ≠ .committed) :
    Always (S := application Body)
      (Works gateway.usageSpool request.requestId invoked record.attemptId)
      (fun past' _ =>
        Current gateway.usageSpool request.requestId NoEnd past' invoked record.attemptId ∧
          Booked gateway.usageSpool request.requestId NoEnd past') past
      (gateway.persistAttempt record) := by
  rw [Gateway.persistAttempt_eq]
  exact works_persisting_last record _ _ _ h hfits hends

/-- After the last record of an attempt, only calls aside are made. -/
theorem books_then_aside {ε α β : Type} {p : UseCase Body (Except ε α)}
    {f : α → UseCase Body (Except ε β)}
    (hp : Always (S := application Body)
      (Works gateway.usageSpool request.requestId invoked attemptId)
      (fun past' _ => Current gateway.usageSpool request.requestId NoEnd past' invoked attemptId ∧
        Booked gateway.usageSpool request.requestId NoEnd past') past p)
    (hf : ∀ a, (f a).Calls fun op : ApplicationOp => op.isAside = true) :
    Always (S := application Body) (OffersOwn request.requestId)
      (fun past' _ => Booked gateway.usageSpool request.requestId NoEnd past') past
      (p.andThen f) := by
  have hall : Always (S := application Body)
      (Works gateway.usageSpool request.requestId invoked attemptId)
      (fun past' _ => Booked gateway.usageSpool request.requestId NoEnd past') past
      (p.andThen f) := by
    refine hp.andThen ?_ ?_
    · rintro past' a ⟨hnow, hbooked⟩
      exact works_aside_booked (hf a) hnow hbooked
    · intro past' error hresult
      exact hresult.2
  exact hall.mono (fun _ _ hop => hop.2.2) fun _ _ hbooked => hbooked

theorem aside_requireIf (condition : Bool) {op : RepositoryOp} (hop : op.isMark = true) :
    (Gateway.requireIf condition op : UseCase Body _).Calls
      fun op : ApplicationOp => op.isAside = true := by
  unfold Gateway.requireIf
  split
  · refine ⟨isAside_of_isMark hop, fun answer => ?_⟩
    dsimp only [Program.bind]
    split
    · exact trivial
    · exact trivial
  · exact trivial

theorem aside_recordQuotaSnapshots (snapshots : List ProviderQuotaSnapshot) :
    (Gateway.recordQuotaSnapshots snapshots : UseCase Body Unit).Calls
      fun op : ApplicationOp => op.isAside = true := by
  induction snapshots with
  | nil => exact trivial
  | cons snapshot snapshots ih => exact ⟨rfl, fun _ => ih⟩

theorem aside_persistAuthoritativeEvidence (gateway : Gateway) (accountId : String)
    (attemptId : AttemptId) (evidence : ProviderAuthoritativeEvidence) :
    (gateway.persistAuthoritativeEvidence accountId attemptId evidence :
      UseCase Body Unit).Calls fun op : ApplicationOp => op.isAside = true := by
  unfold Gateway.persistAuthoritativeEvidence
  split
  · exact trivial
  split
  · exact trivial
  -- whatever the ledger answers, the request goes on
  refine (aside_recordQuotaSnapshots _).bind fun _ => ?_
  cases evidence.billing with
  | none => exact trivial
  | some billing => exact ⟨rfl, fun _ => ⟨rfl, fun _ => trivial⟩⟩

theorem fits_failedRecord (route : RouteCandidate) (credential : String)
    (failure : ProviderFailure) (attemptId : AttemptId) :
    Fits request.requestId NoEnd ({ route, credential, result := .error failure } : Invocation Body)
      (Gateway.failedRecord request route failure attemptId) :=
  ⟨rfl, rfl, rfl, rfl⟩

theorem books_handlePreCommitFailure (h : Booked gateway.usageSpool request.requestId NoEnd past)
    (route : RouteCandidate) (credential : String) (failure : ProviderFailure) :
    Always (S := application Body) (OffersOwn request.requestId)
      (fun past' _ => Booked gateway.usageSpool request.requestId NoEnd past')
      (past ++ [⟨.execute route request credential, .error failure⟩])
      (gateway.handlePreCommitFailure request route failure) := by
  refine ⟨offersOwn_of_none rfl, fun attemptId => ?_⟩
  have hcurrent := h.begin route request credential (.error failure) attemptId
  have hends : (Gateway.failedRecord request route failure attemptId).outcome ≠ .committed := by
    intro hcommitted
    cases hcommitted
  refine books_then_aside
    (works_persistAttempt hcurrent (fits_failedRecord route credential failure attemptId) hends) ?_
  intro _
  exact (aside_requireIf _ rfl).andThen fun _ => aside_requireIf _ rfl

/-- A complete response is handed out once its record is persisted. -/
theorem works_complete (record : AttemptRecord)
    (h : Current gateway.usageSpool request.requestId NoEnd past invoked record.attemptId)
    (hfits : Fits request.requestId NoEnd invoked record) (hends : record.outcome ≠ .committed)
    (route : RouteCandidate) (response : Json)
    (evidence : Option ProviderAuthoritativeEvidence) :
    Always (S := application Body)
      (Works gateway.usageSpool request.requestId invoked record.attemptId)
      (Leaves gateway.usageSpool request.requestId) past
      ((gateway.persistAttempt record).andThen fun _ =>
        (ask (.configuration (.markRouteSuccess route.routeId))).bind fun marked =>
          match Gateway.configure marked with
          | .error error => .pure (.error error)
          | .ok _ =>
            match evidence with
            | none => .pure (.ok (.complete response))
            | some evidence =>
              (gateway.persistAuthoritativeEvidence route.providerAccountId record.attemptId
                evidence).bind fun _ =>
                  .pure (.ok (.complete response) : InferenceResult Body Chunk)) := by
  refine (works_persistAttempt h hfits hends).andThen ?_ ?_
  · rintro past' _ ⟨hnow, hbooked⟩
    refine ⟨⟨hnow.any, rfl, offersOwn_of_none rfl⟩, fun marked => ?_⟩
    have hsnoc := later_snoc past' (.configuration (.markRouteSuccess route.routeId)) rfl marked
    rcases marked with error | value
    · -- the response is lost, its record is not
      exact hbooked.later hsnoc
    · dsimp only [Program.bind, Gateway.configure]
      cases evidence with
      | none => exact hbooked.later hsnoc
      | some evidence =>
        have haside := works_aside_booked
          (aside_persistAuthoritativeEvidence gateway route.providerAccountId record.attemptId
            evidence) (hnow.later hsnoc) (hbooked.later hsnoc)
        exact haside.bind fun _ _ hbooked' => hbooked'
  · intro past' error hresult
    exact hresult.2

/-- A stream is handed out once its start is persisted. -/
theorem works_streaming (attempt : StreamAttempt)
    (h : Streams gateway.usageSpool request.requestId NoEnd past invoked attempt) {body : Body}
    (hbody : invoked.result = .ok (.streaming body)) :
    Always (S := application Body)
      (Works gateway.usageSpool request.requestId invoked attempt.attemptId)
      (Leaves gateway.usageSpool request.requestId) past
      ((attempt.persist (attempt.record .committed none)).bind fun
        | .error _ => .pure (.error (.configuration
          "control plane unavailable while persisting committed attempt"))
        | .ok _ => .pure (.ok (.streaming
          { upstream := body, attempt, pendingTerminal := none, terminalEmitted := false } :
            InferenceResponse Body Chunk))) := by
  have hfits := h.fits (Or.inl ⟨rfl, rfl⟩)
  rw [StreamAttempt.persist_eq, h.ofSpool]
  refine (works_persisting (attempt.record .committed none) _ _ _ h.current hfits).bind ?_
  rintro past' persisted ⟨hnow, hresult⟩
  rcases persisted with error | value
  · -- nobody will record the end of the attempt
    have hrefused := (hresult.resolve_left fun htaken => nomatch htaken.1).2
    exact hnow.booked ⟨hfits, Or.inr hrefused⟩
  · exact ⟨rfl, invoked, ⟨hnow, h.streaming, h.ofSpool, h.ofRequest, h.ofRoute⟩, hbody⟩

/-- The response is the last thing, once its attempt is recorded. -/
theorem books_handleExecution (h : Booked gateway.usageSpool request.requestId NoEnd past)
    (route : RouteCandidate) (credential : String) (execution : InferenceExecution Body) :
    Always (S := application Body) (OffersOwn request.requestId)
      (Leaves gateway.usageSpool request.requestId)
      (past ++ [⟨.execute route request credential, .ok execution⟩])
      (gateway.handleExecution request route execution :
        UseCase Body (InferenceResult Body Chunk)) := by
  refine ⟨offersOwn_of_none rfl, fun attemptId => ?_⟩
  have hcurrent := h.begin route request credential (.ok execution) attemptId
  cases execution with
  | complete response evidence =>
    refine (works_complete ⟨attemptId, request.requestId, route.routeId, .succeeded, none⟩ hcurrent
      ⟨rfl, rfl, rfl, rfl⟩ (by simp) route response evidence).mono ?_ fun _ _ hresult => hresult
    intro past' op hop
    exact hop.2.2
  | streaming body =>
    have hstreams : Streams gateway.usageSpool request.requestId NoEnd _ _
        ⟨gateway.usageSpool, attemptId, request.requestId, route.routeId,
          route.providerAccountId⟩ := ⟨hcurrent, ⟨body, rfl⟩, rfl, rfl, rfl⟩
    refine (works_streaming _ hstreams rfl).mono ?_ fun _ _ hresult => hresult
    intro past' op hop
    exact hop.2.2

/-- The loop over the candidates, from closed books. The induction is on those that are left. -/
theorem books_tryCandidates {candidates : List RouteCandidate} (lastFailure : Option String)
    (h : Booked gateway.usageSpool request.requestId NoEnd past) :
    Always (S := application Body) (OffersOwn request.requestId)
      (Leaves gateway.usageSpool request.requestId) past
      (gateway.tryCandidates request candidates lastFailure :
        UseCase Body (InferenceResult Body Chunk)) := by
  induction candidates generalizing past lastFailure with
  | nil => exact h
  | cons route candidates ih =>
    refine ⟨offersOwn_of_none rfl, fun secret => ?_⟩
    have hresolved := h.later (later_snoc past (.resolve route.credentialRef) rfl secret)
    rcases secret with error | credential
    · -- without a credential nothing is executed
      exact ih (some error) hresolved
    · refine ⟨offersOwn_of_none rfl, fun result => ?_⟩
      rcases result with failure | execution
      · refine (books_handlePreCommitFailure hresolved route credential failure).andThen ?_ ?_
        · intro past' _ hbooked
          exact ih (some failure.message) hbooked
        · intro past' error hbooked
          exact hbooked
      · exact books_handleExecution hresolved route credential execution

/-- Whatever it is answered, a request hands over its own records only, and leaves closed books or
a stream to be read. -/
theorem books_infer (gateway : Gateway) (rawKey : String) (request : InferenceRequest) :
    Always (S := application Body) (OffersOwn request.requestId)
      (Leaves gateway.usageSpool request.requestId) []
      (gateway.infer rawKey request : UseCase Body (InferenceResult Body Chunk)) := by
  have hstart : Booked gateway.usageSpool request.requestId NoEnd ([] : History Body) :=
    booked_nil gateway.usageSpool request.requestId
  refine ⟨offersOwn_of_none rfl, fun authenticated => ?_⟩
  have hkeyed := hstart.later
    (later_snoc [] (.configuration (.authenticate rawKey)) rfl authenticated)
  rcases authenticated with error | accepted | accepted
  · exact hkeyed
  · exact hkeyed
  · refine ⟨offersOwn_of_none rfl, fun answer => ?_⟩
    have hplanned := hkeyed.later
      (later_snoc _ (.configuration (.candidates request.model)) rfl answer)
    rcases answer with error | candidates
    · exact hplanned
    · exact books_tryCandidates none hplanned

end Loop

end History

end SmartGateway
