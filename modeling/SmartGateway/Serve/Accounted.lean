import SmartGateway.Serve.Service
import SmartGateway.Storage.Configuration

/-! # What a running gateway has on its books

A request knows what became of its own records, since nobody else uses the identities it has drawn;
a flush removes an entry only once the primary has its record. So a record that was taken stays on
the books, over every run, and whatever is on the books can be attributed.
-/

namespace SmartGateway

open Inbound Upstream
open Program (Always)
open Concurrent (eventsOf held)
open DurableUsageSpool (entryId)

variable {σ : Type}

namespace Service

/-! ## What a call shows -/

def drew : Event serviceCalls → Option AttemptId
  | ⟨.outside .newAttemptId, attemptId⟩ => some attemptId
  | _ => none

def executed : Event serviceCalls → Option (Invocation OpenAiSseDecoder)
  | ⟨.outside (.execute route _ credential), result⟩ => some { route, credential, result }
  | _ => none

/-- The record that is handed over. -/
def handed (e : Event serviceCalls) : Option AttemptRecord := e.op.hands

/-- The record that the primary or the spool took. -/
def taken : Event serviceCalls → Option AttemptRecord
  | ⟨.delivery (.side _ (.recordAttempt record)), .ok _⟩ => some record
  | ⟨.delivery (.append record), .ok _⟩ => some record
  | _ => none

/-- The record that the spool did not take, which is asked last. -/
def declined : Event serviceCalls → Option AttemptRecord
  | ⟨.delivery (.side .fallback (.recordAttempt record)), .error _⟩ => some record
  | ⟨.delivery (.append record), .error _⟩ => some record
  | _ => none

/-- The record is one of an execution, with the identity that was drawn for it. -/
def Owns (requestId : String) (es : List (Event serviceCalls)) (record : AttemptRecord) : Prop :=
  ∃ (k : ℕ) (invoked : Invocation OpenAiSseDecoder),
    (es.filterMap drew)[k]? = some record.attemptId ∧
      (es.filterMap executed)[k]? = some invoked ∧
        History.Fits requestId History.AnyEnd invoked record

/-- A flush has read the entry. -/
def Listed (es : List (Event serviceCalls)) (entry : SpoolEntry) : Prop :=
  ∃ limit entries, (⟨.delivery (.pending limit), .ok entries⟩ : Event serviceCalls) ∈ es ∧
    entry ∈ entries

/-! ## Disciplines -/

/-- A flush hands entries that it has read to the primary, and removes those that were taken. -/
structure Flushes (es : List (Event serviceCalls)) (op : ServiceOp) : Prop where
  hands : ∀ record ∈ op.hands, op = .delivery (.side .primary (.recordAttempt record)) ∧
    ∃ entry, Listed es entry ∧ entry.attempt = record
  removes : ∀ id ∈ op.removes, ∃ entry, Listed es entry ∧ entry.id = id ∧
    entry.attempt ∈ es.filterMap taken
  drawsNone : op ≠ .outside .newAttemptId

/-- What is checked before a call. -/
def Checked : Work → List (Event serviceCalls) → ServiceOp → Prop
  | .visit visit, es, op =>
    (∀ record ∈ op.hands, Owns visit.requestId es record) ∧ op.removes = []
  | .flush _, es, op => Flushes es op

section Flush

/-- A call of a delivery, as one of the gateway. -/
def ofDelivery (e : Event delivery) : Event serviceCalls := ⟨.delivery e.op, e.res⟩

variable {past : List (Event delivery)} {limit : Nat} {entries listed : List SpoolEntry}
  {acknowledged : List String}

/-- The ids are those of entries of `listed` whose records were taken. -/
def Delivered (listed : List SpoolEntry) (past : List (Event delivery))
    (acknowledged : List String) : Prop :=
  ∀ id ∈ acknowledged, ∃ entry ∈ listed, entry.id = id ∧
    entry.attempt ∈ (past.map ofDelivery).filterMap taken

theorem Delivered.append (h : Delivered listed past acknowledged) (own : List (Event delivery)) :
    Delivered listed (past ++ own) acknowledged := by
  intro id hid
  rcases h id hid with ⟨entry, hentry, heq, htaken⟩
  refine ⟨entry, hentry, heq, ?_⟩
  rw [List.map_append, List.filterMap_append]
  exact List.mem_append_left _ htaken

theorem flushes_deliverEntries
    (hlisted : (⟨.pending limit, .ok listed⟩ : Event delivery) ∈ past)
    (hentries : ∀ entry ∈ entries, entry ∈ listed) (h : Delivered listed past acknowledged) :
    Always (S := delivery) (fun past op => Flushes (past.map ofDelivery) (.delivery op))
      (fun past' result => (⟨.pending limit, .ok listed⟩ : Event delivery) ∈ past' ∧
        Delivered listed past' result) past
      (deliverEntries entries acknowledged) := by
  induction entries generalizing past acknowledged with
  | nil => exact ⟨hlisted, h⟩
  | cons entry entries ih =>
    have hentry := hentries entry List.mem_cons_self
    refine ⟨⟨?_, ?_, by simp⟩, fun answer => ?_⟩
    · intro record hrecord
      cases hrecord
      refine ⟨rfl, entry, ⟨limit, listed, ?_, hentry⟩, rfl⟩
      exact List.mem_map_of_mem (f := ofDelivery) hlisted
    · intro id hid
      cases hid
    · have hlisted' := List.mem_append_left
        [(⟨.side .primary (.recordAttempt entry.attempt), answer⟩ : Event delivery)] hlisted
      have h' := h.append [⟨.side .primary (.recordAttempt entry.attempt), answer⟩]
      rcases answer with error | value
      · exact ⟨hlisted', h'⟩
      · -- the id is acknowledged later, with the answer in the history
        refine ih hlisted' (fun other hother => hentries other (List.mem_cons_of_mem _ hother)) ?_
        intro id hid
        rcases List.mem_append.mp hid with hearlier | hnow
        · exact h' id hearlier
        · refine ⟨entry, hentry, (List.mem_singleton.mp hnow).symm, ?_⟩
          rw [List.map_append, List.filterMap_append]
          exact List.mem_append_right _ (List.mem_singleton_self _)

theorem flushes_flushUsageSpool (limit : Nat) :
    Always (S := delivery) (fun past op => Flushes (past.map ofDelivery) (.delivery op))
      (fun _ _ => True) [] (flushUsageSpool limit) := by
  refine ⟨⟨?_, ?_, by simp⟩, fun answer => ?_⟩
  · intro record hrecord
    cases hrecord
  · intro id hid
    cases hid
  · rcases answer with error | entries
    · exact trivial
    · have hlisted : (⟨.pending limit, .ok entries⟩ : Event delivery) ∈
          ([] ++ [⟨.pending limit, .ok entries⟩] : List (Event delivery)) :=
        List.mem_singleton_self _
      have hnone : Delivered entries ([] ++ [⟨.pending limit, .ok entries⟩]) [] := by
        intro id hid
        cases hid
      -- what is removed in the end are the entries that were taken
      refine (flushes_deliverEntries hlisted (fun _ hentry => hentry) hnone).bind ?_
      rintro past acknowledged ⟨hlisted', hdelivered⟩
      refine ⟨⟨?_, ?_, by simp⟩, fun answer => ?_⟩
      · intro record hrecord
        cases hrecord
      · intro id hid
        rcases hdelivered id hid with ⟨entry, hentry, heq, htaken⟩
        refine ⟨entry, ⟨limit, entries, ?_, hentry⟩, heq, htaken⟩
        exact List.mem_map_of_mem (f := ofDelivery) hlisted'
      · rcases answer with error | value
        · exact trivial
        · exact trivial

end Flush

/-! ## Requests in a composition -/

/-- The calls of a request in a composition, and the same as the application sees them. -/
structure Reports (usageSpool : Bool) (es : List (Event serviceCalls))
    (past : History OpenAiSseDecoder) : Prop where
  ids : es.filterMap drew = past.filterMap History.generated
  invocations : es.filterMap executed = past.filterMap History.invocation
  handed : ∀ record ∈ es.filterMap handed, record ∈ past.filterMap History.offered
  taken : ∀ record ∈ past.filterMap History.accepted, record ∈ es.filterMap taken
  declined : ∀ record ∈ past.filterMap (History.refused usageSpool), record ∈ es.filterMap declined

section Ports

variable {usageSpool : Bool} {requestId : String} {es own : List (Event serviceCalls)}
  {past : History OpenAiSseDecoder}

theorem Reports.owns (h : Reports usageSpool es past) {record : AttemptRecord}
    (hbelongs : History.Belongs requestId History.AnyEnd past record) :
    Owns requestId es record := by
  unfold Owns
  rw [h.ids, h.invocations]
  exact hbelongs

theorem Owns.append {record : AttemptRecord} (h : Owns requestId es record)
    (own : List (Event serviceCalls)) : Owns requestId (es ++ own) record := by
  rcases h with ⟨k, invoked, hid, hinvoked, hfits⟩
  have hid' := (List.getElem?_eq_some_iff.mp hid).1
  have hinvoked' := (List.getElem?_eq_some_iff.mp hinvoked).1
  refine ⟨k, invoked, ?_, ?_, hfits⟩
  · rw [List.filterMap_append, List.getElem?_append_left hid', hid]
  · rw [List.filterMap_append, List.getElem?_append_left hinvoked', hinvoked]

/-- One more call of the application, that comes to the calls `own`. -/
theorem Reports.snoc (h : Reports usageSpool es past) {e : Event (application OpenAiSseDecoder)}
    (hids : own.filterMap drew = (History.generated e).toList)
    (hinvocations : own.filterMap executed = (History.invocation e).toList)
    (hhanded : ∀ e' ∈ own, ∀ record, Service.handed e' = some record →
      History.offered e = some record)
    (htaken : ∀ record, History.accepted e = some record → record ∈ own.filterMap Service.taken)
    (hdeclined : ∀ record, History.refused usageSpool e = some record →
      record ∈ own.filterMap Service.declined) :
    Reports usageSpool (es ++ own) (past ++ [e]) := by
  constructor
  · rw [Event.filterMap_snoc, List.filterMap_append, h.ids, hids]
  · rw [Event.filterMap_snoc, List.filterMap_append, h.invocations, hinvocations]
  · intro record hrecord
    rw [List.filterMap_append, List.mem_append] at hrecord
    rcases hrecord with hearlier | hnow
    · exact Event.mem_filterMap_snoc.mpr (Or.inl (h.handed record hearlier))
    · rcases List.mem_filterMap.mp hnow with ⟨e', he', hrecord'⟩
      exact Event.mem_filterMap_snoc.mpr (Or.inr (hhanded e' he' record hrecord'))
  · intro record hrecord
    rw [List.filterMap_append, List.mem_append]
    exact (Event.mem_filterMap_snoc.mp hrecord).imp (h.taken record) (htaken record)
  · intro record hrecord
    rw [List.filterMap_append, List.mem_append]
    exact (Event.mem_filterMap_snoc.mp hrecord).imp (h.declined record) (hdeclined record)

/-- A repository is handed what the application hands over. -/
theorem offered_of_handed {op : RepositoryOp} {side : Side}
    {answer answer' : Except String op.Output} {record : AttemptRecord}
    (h : Service.handed ⟨.delivery (.side side op), answer⟩ = some record) :
    History.offered (⟨.configuration op, answer'⟩ : Event (application OpenAiSseDecoder)) =
      some record := by
  cases op with
  | recordAttempt attempt => exact h
  | _ => cases h

/-- A repository takes a record by an answer to `record_attempt`. -/
theorem accepted_configuration {op : RepositoryOp} {answer : Except String op.Output}
    {record : AttemptRecord}
    (h : History.accepted (⟨.configuration op, answer⟩ : Event (application OpenAiSseDecoder)) =
      some record) :
    op = .recordAttempt record ∧ ∃ value, answer = .ok value := by
  cases op with
  | recordAttempt attempt =>
    rcases answer with error | value
    · cases h
    · cases h
      exact ⟨rfl, value, rfl⟩
  | _ => cases h

/-- Its refusal is the last word if the gateway has no spool. -/
theorem refused_configuration {op : RepositoryOp} {answer : Except String op.Output}
    {record : AttemptRecord}
    (h : History.refused usageSpool
      (⟨.configuration op, answer⟩ : Event (application OpenAiSseDecoder)) = some record) :
    usageSpool = false ∧ op = .recordAttempt record ∧ ∃ error, answer = .error error := by
  cases op with
  | recordAttempt attempt =>
    rcases answer with error | value
    · have hrefused : (if usageSpool then none else some attempt) = some record := h
      cases usageSpool with
      | true => cases hrefused
      | false =>
        cases hrefused
        exact ⟨rfl, rfl, error, rfl⟩
    · cases h
  | _ => cases h

variable {visit : Visit} {composition : Composition}

/-- A repository may be asked for what the request owns. -/
theorem checked_side {op : RepositoryOp}
    (h : ∀ record, op = .recordAttempt record → Owns visit.requestId es record) (side : Side) :
    Checked (.visit visit) es (.delivery (.side side op)) := by
  refine ⟨?_, rfl⟩
  intro record hrecord
  cases op with
  | recordAttempt attempt =>
    cases hrecord
    exact h _ rfl
  | _ => cases hrecord

theorem checked_outside (op : ApplicationOp) : Checked (.visit visit) es (.outside op) := by
  refine ⟨?_, rfl⟩
  intro record hrecord
  cases hrecord

/-- A call on one repository, which keeps the record it takes. -/
theorem Reports.side (h : Reports usageSpool es past) (side : Side) (op : RepositoryOp)
    (answer : Except String op.Output)
    (hlast : usageSpool = false → (∃ error, answer = .error error) → side = .fallback) :
    Reports usageSpool (es ++ [⟨.delivery (.side side op), answer⟩])
      (past ++ [⟨.configuration op, answer⟩]) := by
  refine h.snoc rfl rfl ?_ ?_ ?_
  · intro e he record hrecord
    cases List.mem_singleton.mp he
    exact offered_of_handed hrecord
  · intro record hrecord
    rcases accepted_configuration hrecord with ⟨rfl, value, rfl⟩
    exact List.mem_singleton_self _
  · intro record hrecord
    rcases refused_configuration hrecord with ⟨hspool, rfl, error, rfl⟩
    rw [hlast hspool ⟨error, rfl⟩]
    exact List.mem_singleton_self _

/-- Once the primary has failed, the answer is that of the snapshot. -/
theorem Reports.fallback (h : Reports usageSpool es past) (op : RepositoryOp) (error : String)
    (answer : Except String op.Output) :
    Reports usageSpool (es ++ [⟨.delivery (.side .primary op), .error error⟩] ++
        [⟨.delivery (.side .fallback op), answer⟩])
      (past ++ [⟨.configuration op, answer⟩]) := by
  rw [List.append_assoc]
  refine h.snoc rfl rfl ?_ ?_ ?_
  · intro e he record hrecord
    rcases List.mem_cons.mp he with rfl | he
    · exact offered_of_handed hrecord
    · cases List.mem_singleton.mp he
      exact offered_of_handed hrecord
  · intro record hrecord
    rcases accepted_configuration hrecord with ⟨rfl, value, rfl⟩
    exact List.mem_singleton_self _
  · intro record hrecord
    rcases refused_configuration hrecord with ⟨-, rfl, error', rfl⟩
    exact List.mem_singleton_self _

theorem checked_repository (h : Reports composition.gateway.usageSpool es past) (op : RepositoryOp)
    (howns : ∀ record, op = .recordAttempt record → Owns visit.requestId es record) :
    Always (S := serviceCalls) (Checked (.visit visit))
      (fun es' answer =>
        Reports composition.gateway.usageSpool es' (past ++ [⟨.configuration op, answer⟩]))
      es (composition.port (.configuration op)) := by
  cases composition with
  | sqlite =>
    -- this gateway has a spool, so the primary does not have the last word
    refine ⟨checked_side howns .primary, fun answer => ?_⟩
    refine h.side .primary op answer ?_
    intro hspool
    cases hspool
  | postgres =>
    show Always _ _ es (((SnapshotFallback.body op).interp onSide).interp onService)
    rw [SnapshotFallback.body_eq_orElse]
    refine ⟨checked_side howns .primary, fun answer => ?_⟩
    rcases answer with error | value
    · -- the snapshot is asked for the same
      have howns' : ∀ record, op = .recordAttempt record → Owns visit.requestId
          (es ++ [⟨.delivery (.side .primary op), .error error⟩]) record :=
        fun record hop => (howns record hop).append _
      refine ⟨checked_side howns' .fallback, fun answer => ?_⟩
      exact h.fallback op error answer
    · refine h.side .primary op (.ok value) ?_
      rintro - ⟨error, herror⟩
      cases herror
  | lastKnownGood =>
    refine ⟨checked_side howns .fallback, fun answer => ?_⟩
    exact h.side .fallback op answer fun _ _ => rfl

/-- In each composition, a call of the application keeps to what its history allows. -/
theorem checked_port (h : Reports composition.gateway.usageSpool es past) {op : ApplicationOp}
    (hop : History.OffersOwn visit.requestId past op) :
    Always (S := serviceCalls) (Checked (.visit visit))
      (fun es' answer => Reports composition.gateway.usageSpool es' (past ++ [⟨op, answer⟩]))
      es (composition.port op) := by
  cases op with
  | configuration op =>
    refine checked_repository h op ?_
    rintro record rfl
    exact h.owns (hop record rfl)
  | appendAttempt record =>
    refine ⟨⟨?_, rfl⟩, fun answer => ?_⟩
    · intro other hother
      cases hother
      exact h.owns (hop record rfl)
    · have hhands (spooled : Except String Unit) :
          ∀ e ∈ [(⟨.delivery (.append record), answer⟩ : Event serviceCalls)], ∀ other,
            Service.handed e = some other → History.offered
              (⟨.appendAttempt record, spooled⟩ : Event (application OpenAiSseDecoder)) =
                some other := by
        intro e he other hother
        cases List.mem_singleton.mp he
        exact hother
      rcases answer with error | entryId
      · refine h.snoc rfl rfl (hhands _) ?_ ?_
        · intro other hother
          cases hother
        · intro other hother
          cases hother
          exact List.mem_singleton_self _
      · refine h.snoc rfl rfl (hhands _) ?_ ?_
        · intro other hother
          cases hother
          exact List.mem_singleton_self _
        · intro other hother
          cases hother
  | _ =>
    refine ⟨checked_outside _, fun answer => ?_⟩
    refine h.snoc rfl rfl ?_ ?_ ?_
    · intro e he record hrecord
      cases List.mem_singleton.mp he
      cases hrecord
    · intro record hrecord
      cases hrecord
    · intro record hrecord
      cases hrecord

end Ports

/-! ## What a call knows -/

/-- What a request knows: its identities are its own, what was handed over under them are records of
its executions that it has handed over, and those that were taken are on the books. -/
structure Visiting (store : AttemptStore σ) (requestId : String) (es : List (Event serviceCalls))
    (s : ServiceState σ) : Prop where
  distinct : (es.filterMap drew).Nodup
  drawn : ∀ attemptId ∈ es.filterMap drew, attemptId ∈ s.drawn
  own : ∀ record ∈ s.handed, record.attemptId ∈ es.filterMap drew →
    record ∈ es.filterMap handed ∧ Owns requestId es record
  safe : ∀ record ∈ es.filterMap taken, s.Holds store record

/-- What a flush knows: the entries it has read were handed over, and the primary has the records
that it took. -/
structure Flushing (store : AttemptStore σ) (es : List (Event serviceCalls)) (s : ServiceState σ) :
    Prop where
  drawsNone : es.filterMap drew = []
  listed : ∀ entry, Listed es entry →
    entry.id = entryId entry.attempt ∧ entry.attempt ∈ s.handed
  recorded : ∀ record ∈ es.filterMap taken, s.Recorded store record

def Knows (store : AttemptStore σ) :
    Work → List (Event serviceCalls) → ServiceState σ → Prop
  | .visit visit, es, s => Visiting store visit.requestId es s
  | .flush _, es, s => Flushing store es s

section Knowledge

variable {store : AttemptStore σ} {name : Work} {es : List (Event serviceCalls)}
  {s s' : ServiceState σ} {op : ServiceOp} {answer : op.Answer} {hands : List AttemptRecord}
  {removes : List String}

theorem Owns.drew {requestId : String} {record : AttemptRecord} (h : Owns requestId es record) :
    record.attemptId ∈ es.filterMap drew := by
  rcases h with ⟨k, invoked, hid, -⟩
  exact List.mem_of_getElem? hid

/-- A record stays on the books as long as its entry is removed only once the primary has it. -/
theorem holds_of_extends {record : AttemptRecord} (h : s.Holds store record)
    (hextends : ServiceState.Extends store hands removes s s')
    (hremoves : entryId record ∈ removes → s.Recorded store record) : s'.Holds store record := by
  rcases h with hrecorded | ⟨row, hrow⟩
  · exact Or.inl (hextends.recorded record hrecorded)
  · rcases hextends.spooled _ row hrow with hremoved | hkept
    · exact Or.inl (hextends.recorded record (hremoves hremoved))
    · exact Or.inr ⟨row, hkept⟩

/-- A call hands over what was handed over before, or a record under an identity of its own, and
removes entries whose records the primary has. -/
theorem careful_of_checked (hknows : Knows store name es s) (hchecked : Checked name es op) :
    (∀ record ∈ op.hands, record ∈ s.handed ∨ record.attemptId ∈ es.filterMap drew) ∧
      ∀ record, entryId record ∈ op.removes → s.Recorded store record := by
  cases name with
  | visit visit =>
    rcases hchecked with ⟨hhands, hremoves⟩
    refine ⟨fun record hrecord => Or.inr (hhands record hrecord).drew, ?_⟩
    intro record hrecord
    rw [hremoves] at hrecord
    cases hrecord
  | flush limit =>
    have hflush : Flushing store es s := hknows
    constructor
    · intro record hrecord
      rcases (hchecked.hands record hrecord).2 with ⟨entry, hlisted, rfl⟩
      exact Or.inl (hflush.listed entry hlisted).2
    · intro record hrecord
      rcases hchecked.removes _ hrecord with ⟨entry, hlisted, hid, htaken⟩
      -- the entry is that of a record with the same identity and outcome
      refine (hflush.recorded _ htaken).congr ?_
      rw [← (hflush.listed entry hlisted).1, hid]

/-- What a call knows is not changed by steps that leave its identities alone. -/
theorem Knows.extends (h : Knows store name es s)
    (hextends : ServiceState.Extends store hands removes s s')
    (hhands : ∀ record ∈ hands, record ∈ s.handed ∨ record.attemptId ∉ es.filterMap drew)
    (hremoves : ∀ record, entryId record ∈ removes → s.Recorded store record) :
    Knows store name es s' := by
  cases name with
  | visit visit =>
    have hvisit : Visiting store visit.requestId es s := h
    refine ⟨hvisit.distinct, ?_, ?_, ?_⟩
    · intro attemptId hdrew
      exact hextends.drawn _ (hvisit.drawn attemptId hdrew)
    · intro record hrecord hdrew
      rcases (hextends.handed record).mp hrecord with hnow | hearlier
      · rcases hhands record hnow with hearlier | hother
        · exact hvisit.own record hearlier hdrew
        · exact absurd hdrew hother
      · exact hvisit.own record hearlier hdrew
    · intro record hrecord
      exact holds_of_extends (hvisit.safe record hrecord) hextends (hremoves record)
  | flush limit =>
    have hflush : Flushing store es s := h
    refine ⟨hflush.drawsNone, ?_, ?_⟩
    · intro entry hlisted
      rcases hflush.listed entry hlisted with ⟨hid, hhanded⟩
      exact ⟨hid, (hextends.handed _).mpr (Or.inr hhanded)⟩
    · intro record hrecord
      exact hextends.recorded record (hflush.recorded record hrecord)

/-! ## What a call learns -/

theorem answers_drew (h : ServiceAnswers store op s answer s') {attemptId : AttemptId}
    (hdrew : drew ⟨op, answer⟩ = some attemptId) :
    attemptId ∉ s.drawn ∧ attemptId ∉ s.elsewhere ∧ attemptId ∈ s'.drawn := by
  cases h with
  | delivered hanswers => cases hdrew
  | drew hdrawn helsewhere =>
    cases hdrew
    exact ⟨hdrawn, helsewhere, List.mem_cons_self⟩
  | answered _ op hop answer =>
    cases op with
    | newAttemptId => exact absurd rfl hop
    | _ => cases hdrew

/-- A primary that accepts a record has it. -/
theorem recorded_of_answers (hrecords : store.Records) {attempt : AttemptRecord} {value : Unit}
    (h : ServiceAnswers store (.delivery (.side .primary (.recordAttempt attempt))) s (.ok value)
      s') : s'.Recorded store attempt := by
  generalize hresult : (Except.ok value : Except String Unit) = result at h
  cases h with
  | delivered hanswers =>
    cases hanswers with
    | recorded _ now =>
      have hok : (store.record s.books.primary now attempt).1 = .ok () := hresult.symm
      rcases (hrecords.ok_iff _ now attempt).mp hok with ⟨row, hrow, hrequest, hroute⟩
      rcases hrecords.delivered (s := s.books.primary) (List.mem_singleton_self (now, attempt)) with
        ⟨row', hrow', hmerged⟩
      cases hrow.symm.trans hrow'
      exact ⟨row, hrow, ControlPlane.ended_of_mergeAttempt hmerged ⟨hrequest, hroute⟩⟩
    | other _ _ hother => exact absurd rfl (hother attempt)
    | refused => cases hresult
    | answerLost => cases hresult

/-- The spool has an entry for each record that was appended. -/
theorem exists_append (spool : DurableUsageSpool) (now : Int) (attempt : AttemptRecord) :
    ∃ row, (spool.append now attempt).get? (entryId attempt) = some row :=
  ⟨_, (DurableUsageSpool.get?_append spool now attempt _).trans (if_pos rfl)⟩

theorem spooled_of_answers {attempt : AttemptRecord} {value : Unit}
    (h : ServiceAnswers store (.delivery (.side .fallback (.recordAttempt attempt))) s (.ok value)
      s') : ∃ row, s'.books.spool.get? (entryId attempt) = some row := by
  generalize hresult : (Except.ok value : Except String Unit) = result at h
  cases h with
  | delivered hanswers =>
    cases hanswers with
    | spooled _ now => exact exists_append _ now attempt
    | fallback _ _ hother => exact absurd rfl (hother attempt)
    | fallbackFailed => cases hresult

theorem appended_of_answers {attempt : AttemptRecord} {id : String}
    (h : ServiceAnswers store (.delivery (.append attempt)) s (.ok id) s') :
    ∃ row, s'.books.spool.get? (entryId attempt) = some row := by
  generalize hresult : (Except.ok id : Except String String) = result at h
  cases h with
  | delivered hanswers =>
    cases hanswers with
    | appended _ now => exact exists_append _ now attempt
    | appendFailed => cases hresult

theorem holds_of_answers (hrecords : store.Records) {record : AttemptRecord}
    (h : ServiceAnswers store op s answer s') (htaken : taken ⟨op, answer⟩ = some record) :
    s'.Holds store record := by
  unfold taken at htaken
  split at htaken
  · next side record' value heq =>
    cases heq
    cases htaken
    cases side with
    | primary => exact Or.inl (recorded_of_answers hrecords h)
    | fallback => exact Or.inr (spooled_of_answers h)
  · next record' value heq =>
    cases heq
    cases htaken
    exact Or.inr (appended_of_answers h)
  · cases htaken

theorem hands_of_taken {record : AttemptRecord} (h : taken ⟨op, answer⟩ = some record) :
    op.hands = some record := by
  unfold taken at h
  split at h
  · next heq =>
    cases heq
    exact h
  · next heq =>
    cases heq
    exact h
  · cases h

/-- The entries that are read were handed over, and have the ids of their records. -/
theorem listed_of_answers (hsound : s.Sound store) (h : ServiceAnswers store op s answer s')
    {limit : Nat} {entries : List SpoolEntry} {entry : SpoolEntry}
    (hread : (⟨op, answer⟩ : Event serviceCalls) = ⟨.delivery (.pending limit), .ok entries⟩)
    (hentry : entry ∈ entries) : entry.id = entryId entry.attempt ∧ entry.attempt ∈ s.handed := by
  cases hread
  generalize hresult : (Except.ok entries : Except String (List SpoolEntry)) = result at h
  cases h with
  | delivered hanswers =>
    cases hanswers with
    | listed =>
      cases hresult
      rcases DurableUsageSpool.mem_pending hentry with ⟨key, row, hrow, rfl⟩
      rcases hsound.books.entries key row hrow with ⟨hid, hkey, hhanded⟩
      exact ⟨hid.trans hkey, hhanded⟩
    | listFailed => cases hresult

/-- What a request knows after a call of its own. -/
theorem Visiting.step {requestId : String} (hrecords : store.Records) (hsound : s.Sound store)
    (hvisit : Visiting store requestId es s)
    (hhands : ∀ record ∈ op.hands, Owns requestId es record) (hremoves : op.removes = [])
    (h : ServiceAnswers store op s answer s') :
    Visiting store requestId (es ++ [⟨op, answer⟩]) s' := by
  have hextends := ServiceState.extends_of_answers hrecords h
  refine ⟨?_, ?_, ?_, ?_⟩
  · -- what is drawn now was not drawn before
    rw [Event.filterMap_snoc, List.nodup_append]
    refine ⟨hvisit.distinct, ?_, ?_⟩
    · cases drew (⟨op, answer⟩ : Event serviceCalls) with
      | none => exact List.nodup_nil
      | some attemptId => exact List.nodup_singleton attemptId
    · rintro attemptId hearlier _ hnow rfl
      exact (answers_drew h (Option.mem_toList.mp hnow)).1 (hvisit.drawn attemptId hearlier)
  · intro attemptId hdrew
    rcases Event.mem_filterMap_snoc.mp hdrew with hearlier | hnow
    · exact hextends.drawn _ (hvisit.drawn attemptId hearlier)
    · exact (answers_drew h hnow).2.2
  · intro record hrecord hdrew
    rcases (hextends.handed record).mp hrecord with hnow | hhanded
    · have hop := Option.mem_toList.mp hnow
      exact ⟨Event.mem_filterMap_snoc.mpr (Or.inr hop), (hhands record hop).append _⟩
    rcases Event.mem_filterMap_snoc.mp hdrew with hearlier | hnow
    · rcases hvisit.own record hhanded hearlier with ⟨hown, howns⟩
      exact ⟨Event.mem_filterMap_snoc.mpr (Or.inl hown), howns.append _⟩
    · -- nobody has handed over a record under an identity that was not drawn
      rcases answers_drew h hnow with ⟨hdrawn, helsewhere, -⟩
      rcases hsound.known record hhanded with hknown | hknown
      · exact absurd hknown hdrawn
      · exact absurd hknown helsewhere
  · intro record hrecord
    rcases Event.mem_filterMap_snoc.mp hrecord with hearlier | hnow
    · refine holds_of_extends (hvisit.safe record hearlier) hextends ?_
      intro hremoved
      rw [hremoves] at hremoved
      cases hremoved
    · exact holds_of_answers hrecords h hnow

/-- What a flush knows after a call of its own. -/
theorem Flushing.step (hrecords : store.Records) (hsound : s.Sound store)
    (hflush : Flushing store es s) (hchecked : Flushes es op)
    (h : ServiceAnswers store op s answer s') : Flushing store (es ++ [⟨op, answer⟩]) s' := by
  have hextends := ServiceState.extends_of_answers hrecords h
  refine ⟨?_, ?_, ?_⟩
  · rw [Event.filterMap_snoc, hflush.drawsNone, List.nil_append]
    cases hdrew : drew (⟨op, answer⟩ : Event serviceCalls) with
    | none => rfl
    | some attemptId =>
      unfold drew at hdrew
      split at hdrew
      · next heq =>
        cases heq
        exact absurd rfl hchecked.drawsNone
      · cases hdrew
  · rintro entry ⟨limit', entries, hread, hentry⟩
    rcases List.mem_append.mp hread with hearlier | hnow
    · rcases hflush.listed entry ⟨limit', entries, hearlier, hentry⟩ with ⟨hid, hhanded⟩
      exact ⟨hid, (hextends.handed _).mpr (Or.inr hhanded)⟩
    · rcases listed_of_answers hsound h (List.mem_singleton.mp hnow).symm hentry with
        ⟨hid, hhanded⟩
      exact ⟨hid, (hextends.handed _).mpr (Or.inr hhanded)⟩
  · intro record hrecord
    rcases Event.mem_filterMap_snoc.mp hrecord with hearlier | hnow
    · exact hextends.recorded record (hflush.recorded record hearlier)
    · -- a flush hands records to the primary only
      rcases (hchecked.hands record (hands_of_taken hnow)).1 with rfl
      rcases answer with error | value
      · cases hnow
      · exact recorded_of_answers hrecords h

/-- What a call knows after a step of its own. -/
theorem knows_of_answers (hrecords : store.Records) (hsound : s.Sound store)
    (hknows : Knows store name es s) (hchecked : Checked name es op)
    (h : ServiceAnswers store op s answer s') : Knows store name (es ++ [⟨op, answer⟩]) s' := by
  cases name with
  | visit visit => exact Visiting.step hrecords hsound hknows hchecked.1 hchecked.2 h
  | flush limit => exact Flushing.step hrecords hsound hknows hchecked h

/-- A step of a call leaves what another call knows. -/
theorem knows_of_others (hrecords : store.Records) {other : Work}
    {es' : List (Event serviceCalls)} (hknows : Knows store name es s)
    (hchecked : Checked name es op) (h : ServiceAnswers store op s answer s')
    (hother : Knows store other es' s)
    (hapart : ∀ attemptId ∈ es'.filterMap drew, attemptId ∉ es.filterMap drew) :
    Knows store other es' s' := by
  rcases careful_of_checked hknows hchecked with ⟨hhands, hremoves⟩
  refine hother.extends (ServiceState.extends_of_answers hrecords h) ?_ hremoves
  intro record hrecord
  rcases hhands record (Option.mem_toList.mp hrecord) with hearlier | hown
  · exact Or.inl hearlier
  · exact Or.inr fun hdrew => hapart _ hdrew hown

/-- Nor does anything that happens between the steps. -/
theorem knows_of_befalls (hrecords : store.Records) (hknows : Knows store name es s)
    (h : Befalls store s s') : Knows store name es s' := by
  rcases ServiceState.extends_of_befalls hrecords h with ⟨hands, hhands, hextends⟩
  refine hknows.extends hextends ?_ fun _ hremoved => absurd hremoved List.not_mem_nil
  intro record hrecord
  refine Or.inr fun hdrew => ?_
  cases name with
  | visit visit =>
    have hvisit : Visiting store visit.requestId es s := hknows
    exact hhands record hrecord (hvisit.drawn _ hdrew)
  | flush limit =>
    have hflush : Flushing store es s := hknows
    rw [hflush.drawsNone] at hdrew
    cases hdrew

end Knowledge

/-! ## Every run -/

section Runs

variable {parse : String → Option Json} {print : Json → String} {composition : Composition}
  {store : AttemptStore σ}

/-- Every call keeps to its discipline; a request leaves closed books. -/
theorem checked_visit (visit : Visit) :
    Always (S := serviceCalls) (Checked (.visit visit))
      (fun es response => ∃ past, Reports composition.gateway.usageSpool es past ∧
        Sends parse print composition.gateway.usageSpool visit.requestId visit.awaited past
          response) []
      ((visit.serve parse print composition.gateway).interp composition.port) := by
  refine (books_serve parse print composition.gateway visit).interp ?_ ?_
  · intro es past op hreports hop
    exact checked_port hreports hop
  · exact ⟨rfl, rfl, fun _ h => h, fun _ h => h, fun _ h => h⟩

theorem checked_flush (limit : Nat) :
    Always (S := serviceCalls) (Checked (.flush limit)) (fun _ _ => True) []
      ((flushUsageSpool limit).interp onService) := by
  have hport : ∀ (es : List (Event serviceCalls)) (past : List (Event delivery)) (op : DeliveryOp),
      es = past.map ofDelivery → Flushes (past.map ofDelivery) (.delivery op) →
        Always (S := serviceCalls) (Checked (.flush limit))
          (fun es' answer => es' = (past ++ [(⟨op, answer⟩ : Event delivery)]).map ofDelivery) es
          (onService op) := by
    rintro es past op rfl hop
    refine ⟨hop, fun answer => ?_⟩
    show past.map ofDelivery ++ _ = (past ++ _).map ofDelivery
    rw [List.map_append]
    rfl
  exact ((flushes_flushUsageSpool limit).interp hport rfl).mono (fun _ _ hop => hop)
    fun _ _ _ => trivial

/-- Requests and flushes leave alone what is not theirs. -/
theorem owned (hrecords : store.Records) :
    (service parse print composition store).Owned (fun _ => True) drew
      (fun s attemptId => attemptId ∈ s.drawn) (ServiceState.Sound store) (Knows store)
      Checked where
  body name _ := by
    cases name with
    | visit visit => exact ⟨_, checked_visit visit⟩
    | flush limit => exact ⟨_, checked_flush limit⟩
  start name s _ _ := by
    cases name with
    | visit visit =>
      exact ⟨List.nodup_nil, fun _ h => absurd h List.not_mem_nil,
        fun _ _ h => absurd h List.not_mem_nil, fun _ h => absurd h List.not_mem_nil⟩
    | flush limit =>
      refine ⟨rfl, ?_, fun _ h => absurd h List.not_mem_nil⟩
      rintro entry ⟨limit, entries, hread, -⟩
      cases hread
  fresh name op s answer s' h := by
    refine ⟨(ServiceState.extends_of_answers hrecords h).drawn, ?_⟩
    intro attemptId hdrew
    rcases answers_drew h hdrew with ⟨hdrawn, -, hnow⟩
    exact ⟨hdrawn, hnow⟩
  effect name es op s answer s' _ hsound hknows hdrawn hchecked h := by
    refine ⟨hsound.answers hrecords h ?_, knows_of_answers hrecords hsound hknows hchecked h⟩
    intro record hrecord
    rcases (careful_of_checked hknows hchecked).1 record hrecord with hearlier | hown
    · exact hsound.known record hearlier
    · exact Or.inl (hdrawn _ hown)
  apart name es op s answer s' other es' _ _ _ hknows hchecked h hother hapart :=
    knows_of_others hrecords hknows hchecked h hother fun attemptId hdrew => (hapart _ hdrew).2
  ambient s _ s' hsound h := by
    rcases ServiceState.extends_of_befalls hrecords h with ⟨hands, -, hextends⟩
    exact ⟨hsound.befalls hrecords h, hextends.drawn,
      fun name es _ _ hknows => knows_of_befalls hrecords hknows h⟩

variable {w₀ w : Concurrent.World (service parse print composition store)}
  {ls : List (Concurrent.Label (service parse print composition store))}

theorem kept_of_run (hrecords : store.Records)
    (hinit : ((service parse print composition store).toTransition
      (ServiceState.Starts store)).Init w₀)
    (hrun : ((service parse print composition store).toTransition
      (ServiceState.Starts store)).Steps w₀ ls w) :
    (service parse print composition store).Kept (fun _ => True) drew
      (fun s attemptId => attemptId ∈ s.drawn) (ServiceState.Sound store) (Knows store) ls w := by
  refine (owned hrecords).kept ?_ hinit hinit.1.sound hrun fun _ _ _ => trivial
  intro s _ s' _ h name es _ hknows
  exact knows_of_befalls hrecords hknows h

/-! ## Completeness -/

/-- A record that says how the execution has ended, where streams ended as `ends` says. -/
def Ends (requestId : String) (ends : AttemptRecord → Prop)
    (invoked : Invocation OpenAiSseDecoder) (record : AttemptRecord) : Prop :=
  History.Fits requestId ends invoked record ∧ record.outcome ≠ .committed

/-- The record is shown by a row of the primary, or by an entry of the spool. -/
def OnBooks (store : AttemptStore σ) (s : ServiceState σ) (record : AttemptRecord) : Prop :=
  (∃ row, (store.table s.books.primary).get? record.attemptId.text = some row ∧
    row.record record.attemptId = record) ∨
  ∃ key row, s.books.spool.get? key = some row ∧ row.payload.attempt = record

section Final

variable {requestId : String} {ends : AttemptRecord → Prop} {es : List (Event serviceCalls)}
  {past : History OpenAiSseDecoder} {s : ServiceState σ} {invoked : Invocation OpenAiSseDecoder}
  {record final : AttemptRecord} {k : ℕ}

end Final

/-- An identity that is in use here was drawn by a call of the run. -/
theorem drew_of_drawn (hinit : ((service parse print composition store).toTransition
      (ServiceState.Starts store)).Init w₀)
    (hrun : ((service parse print composition store).toTransition
      (ServiceState.Starts store)).Steps w₀ ls w) :
    ∀ attemptId ∈ w.shared.drawn, ∃ id, attemptId ∈ (eventsOf id ls).filterMap drew := by
  induction hrun with
  | refl =>
    intro attemptId hdrawn
    rw [hinit.1.drawn] at hdrawn
    cases hdrawn
  | @tail mid w ls l _ hlast ih =>
    -- what was drawn before was drawn by a call of the shorter run
    have hearlier : ∀ attemptId ∈ mid.shared.drawn,
        ∃ id, attemptId ∈ (eventsOf id (ls ++ [l])).filterMap drew := by
      intro attemptId hdrawn
      rcases ih attemptId hdrawn with ⟨id, hid⟩
      rcases List.mem_filterMap.mp hid with ⟨e, he, hdrew⟩
      rcases Concurrent.mem_eventsOf.mp he with ⟨name, hcall⟩
      refine ⟨id, List.mem_filterMap.mpr ⟨e, ?_, hdrew⟩⟩
      exact Concurrent.mem_eventsOf.mpr ⟨name, List.mem_append_left _ hcall⟩
    cases hlast with
    | @call id name past op next answer s hflight heffect =>
      intro attemptId hdrawn
      have hcases : attemptId ∈ mid.shared.drawn ∨
          drew (⟨op, answer⟩ : Event serviceCalls) = some attemptId := by
        cases heffect with
        | delivered hanswers => exact Or.inl hdrawn
        | drew hnew helsewhere =>
          rcases List.mem_cons.mp hdrawn with rfl | hold
          · exact Or.inr rfl
          · exact Or.inl hold
        | answered op hop answer => exact Or.inl hdrawn
      rcases hcases with hold | hdrew
      · exact hearlier attemptId hold
      · refine ⟨id, List.mem_filterMap.mpr ⟨⟨op, answer⟩, ?_, hdrew⟩⟩
        exact Concurrent.mem_eventsOf.mpr
          ⟨name, List.mem_append_right _ (List.mem_singleton_self _)⟩
    | start name => exact hearlier
    | finish hflight => exact hearlier
    | drop id => exact hearlier
    | ambient hshared _ _ =>
      have hsame : w.shared.drawn = mid.shared.drawn := by
        generalize w.shared = s' at hshared
        generalize mid.shared = s at hshared
        cases hshared <;> rfl
      rw [hsame]
      exact hearlier

/-- What the books show was handed over. -/
theorem handed_of_onBooks {s : ServiceState σ} (hsound : s.Sound store) {record : AttemptRecord}
    (h : OnBooks store s record) : record ∈ s.handed := by
  rcases h with ⟨row, hrow, hshows⟩ | ⟨key, row, hrow, rfl⟩
  · rcases hsound.books.rows _ row hrow with ⟨other, hhanded, htext, hother⟩
    have hsame : other = record := by
      rw [← hother, ← hshows, AttemptId.ext htext]
    exact hsame ▸ hhanded
  · exact (hsound.books.entries key row hrow).2.2

/-- What the books show was there before or comes from another process, or is a record of an
execution of the one request that has drawn its identity, whatever has become of that request. -/
theorem books_attributed (hrecords : store.Records)
    (hinit : ((service parse print composition store).toTransition
      (ServiceState.Starts store)).Init w₀)
    (hrun : ((service parse print composition store).toTransition
      (ServiceState.Starts store)).Steps w₀ ls w) {record : AttemptRecord}
    (h : OnBooks store w.shared record) :
    record.attemptId ∈ w.shared.elsewhere ∨
      ∃ id visit, .start id (.visit visit) ∈ ls ∧ Owns visit.requestId (eventsOf id ls) record ∧
        ∀ other, other ≠ id → record.attemptId ∉ (eventsOf other ls).filterMap drew := by
  have hkept := kept_of_run hrecords hinit hrun
  have hhanded := handed_of_onBooks hkept.separate.shared h
  rcases hkept.separate.shared.known record hhanded with hdrawn | helsewhere
  · refine Or.inr ?_
    rcases drew_of_drawn hinit hrun _ hdrawn with ⟨id, hdrew⟩
    rcases List.mem_filterMap.mp hdrew with ⟨e, he, -⟩
    rcases Concurrent.mem_eventsOf.mp he with ⟨name, hcall⟩
    have hstart := hkept.called id name e hcall
    have hknows := (hkept.started id name hstart).2.2.1
    cases name with
    | visit visit =>
      have hvisit : Visiting store visit.requestId (eventsOf id ls) w.shared := hknows
      refine ⟨id, visit, hstart, (hvisit.own record hhanded hdrew).2, ?_⟩
      intro other hne
      exact hkept.apart id other hne.symm _ hdrew
    | flush limit =>
      -- a flush draws no identity
      have hflush : Flushing store (eventsOf id ls) w.shared := hknows
      rw [hflush.drawsNone] at hdrew
      cases hdrew
  · exact Or.inl helsewhere

end Runs

/-! ## A request while the primary is locked -/

namespace Locked

/-- A gateway with SQLite. -/
abbrev running : Concurrent serviceCalls (ServiceState ControlPlane) Work :=
  service (fun _ => none) (fun _ => "") .sqlite Sqlite.attempts

abbrev runs : Transition (Concurrent.World running) (Concurrent.Label running) :=
  running.toTransition (ServiceState.Starts Sqlite.attempts)

def idle : Concurrent.World running :=
  ⟨⟨⟨.empty, true, .empty⟩, [], [], []⟩, 0, fun _ => none⟩

theorem init_idle : runs.Init idle := by
  refine ⟨⟨⟨⟨?_, ?_⟩, ?_⟩, rfl⟩, rfl, fun _ => rfl⟩
  · intro key row hrow
    cases hrow
  · intro key row hrow
    cases hrow
  · intro attempt hattempt
    cases hattempt

def visit : Visit := { toArrival := Served.arrival, awaited := none }

def failure : ProviderFailure where
  category := .rateLimited
  message := "slow down"
  status := some 429
  retryAtUnix := none

/-- The record of the one execution. -/
def attempt : AttemptRecord :=
  Gateway.failedRecord Served.inference Served.route failure .least

/-- What a request with the key does whose client stays. -/
theorem body_of_asks {visit : Visit} {inference : InferenceRequest}
    (hawaited : visit.awaited = none) (hasks : Asks visit.toArrival "key" inference) :
    running.body (.visit visit) =
      (((Served.gateway.infer "key" inference).bind fun result =>
        .pure (applicationErrorResponse result)).bind fun response =>
          response.send (fun _ => none) (fun _ => "") visit.events).interp
            Composition.sqlite.port := by
  show (visit.serve (fun _ => none) (fun _ => "") Served.gateway).interp
    Composition.sqlite.port = _
  rw [Visit.serve_eq hawaited]
  exact congrArg _ (serve_of_asks hasks _ _ _)

/-- The calls of the request; the primary does not take its record. -/
def calls : List (Event serviceCalls) :=
  [⟨.delivery (.side .primary (.authenticate "key")), .ok true⟩,
    ⟨.delivery (.side .primary (.candidates "model")), .ok [Served.route]⟩,
    ⟨.outside (.resolve .envKey), .ok "credential"⟩,
    ⟨.outside (.execute Served.route Served.inference "credential"), .error failure⟩,
    ⟨.outside .newAttemptId, .least⟩,
    ⟨.delivery (.side .primary (.recordAttempt attempt)), .error "database is locked"⟩,
    ⟨.delivery (.append attempt), .ok (entryId attempt)⟩,
    ⟨.delivery (.side .primary (.markRouteFailure "route" failure)), .ok ()⟩]

def labels (response : ClientResponse) : List (Concurrent.Label running) :=
  .start 0 (.visit visit) :: calls.map (.call 0 (.visit visit)) ++
    [.finish 0 (.visit visit) response]

theorem exists_answer {visit : Visit} {w : Concurrent.World running}
    {past : List (Event serviceCalls)} {op : ServiceOp}
    {next : op.Answer → Program serviceCalls ClientResponse}
    (hflight : w.flights 0 = some ⟨.visit visit, past, .call op next⟩) {answer : op.Answer}
    {s : ServiceState ControlPlane}
    (heffect : ServiceAnswers Sqlite.attempts op w.shared answer s) :
    ∃ w', runs.Step w (.call 0 (.visit visit) ⟨op, answer⟩) w' ∧ w'.shared = s ∧
      w'.flights 0 = some ⟨.visit visit, past ++ [⟨op, answer⟩], next answer⟩ :=
  Concurrent.exists_call hflight rfl heffect

/-- A method that writes no attempt, and nothing else here. -/
theorem answers_other (s : ServiceState ControlPlane) (op : RepositoryOp)
    (hop : ∀ attempt, op ≠ .recordAttempt attempt) (answer : Except String op.Output) :
    ServiceAnswers Sqlite.attempts (.delivery (.side .primary op)) s answer s := by
  have hhands : (DeliveryOp.side .primary op).hands = none := by
    cases op with
    | recordAttempt attempt => exact absurd rfl (hop attempt)
    | _ => rfl
  have hanswers : ServiceAnswers Sqlite.attempts (.delivery (.side .primary op)) s answer _ :=
    .delivered (.other s.books op hop answer s.books.primary rfl)
  rw [hhands] at hanswers
  exact hanswers

/-- The primary does not take the record, the spool does. -/
theorem exists_run : ∃ w response, runs.Steps idle (labels response) w ∧
    OnBooks Sqlite.attempts w.shared attempt := by
  obtain ⟨w₁, h₁, hs₁, hf₁⟩ := Concurrent.exists_start idle (.visit visit)
  rw [body_of_asks rfl Served.asks_arrival] at hf₁
  -- the request is accepted and executed
  obtain ⟨w₂, h₂, hs₂, hf₂⟩ :=
    exists_answer hf₁ (answers_other w₁.shared (.authenticate "key") nofun (.ok true))
  obtain ⟨w₃, h₃, hs₃, hf₃⟩ := exists_answer hf₂
    (answers_other w₂.shared (.candidates "model") nofun (.ok [Served.route]))
  obtain ⟨w₄, h₄, hs₄, hf₄⟩ := exists_answer hf₃
    (.answered w₃.shared (.resolve .envKey) nofun (.ok "credential"))
  obtain ⟨w₅, h₅, hs₅, hf₅⟩ := exists_answer hf₄
    (.answered w₄.shared (.execute Served.route Served.inference "credential") nofun
      (.error failure))
  have hidle : w₅.shared = idle.shared := by
    rw [hs₅, hs₄, hs₃, hs₂, hs₁]
  -- its record goes to the spool
  have hdrew : ServiceAnswers Sqlite.attempts (.outside .newAttemptId) w₅.shared
      AttemptId.least _ := .drew (hidle ▸ List.not_mem_nil) (hidle ▸ List.not_mem_nil)
  obtain ⟨w₆, h₆, hs₆, hf₆⟩ := exists_answer hf₅ hdrew
  obtain ⟨w₇, h₇, hs₇, hf₇⟩ := exists_answer hf₆
    (.delivered (.refused w₆.shared.books (.recordAttempt attempt) "database is locked"))
  obtain ⟨w₈, h₈, hs₈, hf₈⟩ := exists_answer hf₇
    (.delivered (.appended w₇.shared.books 0 attempt))
  obtain ⟨w₉, h₉, hs₉, hf₉⟩ := exists_answer hf₈
    (answers_other w₈.shared (.markRouteFailure "route" failure) nofun (.ok ()))
  obtain ⟨w, h, hs⟩ := Concurrent.exists_finish hf₉
  refine ⟨w, _, .head h₁ (.head h₂ (.head h₃ (.head h₄ (.head h₅ (.head h₆ (.head h₇ (.head h₈
    (.head h₉ (.head h (.refl w)))))))))), Or.inr ?_⟩
  rw [hs, hs₉, hs₈]
  have hspool : w₇.shared.books.spool = .empty := by
    rw [hs₇, hs₆, hidle]
    rfl
  have hget : (DurableUsageSpool.append .empty 0 attempt).get? (entryId attempt) =
      some { payload := { id := entryId attempt, attempt }, queuedAt := 0 } :=
    (DurableUsageSpool.get?_append .empty 0 attempt _).trans (if_pos rfl)
  rw [← hspool] at hget
  exact ⟨_, _, hget, rfl⟩

/-- The entry of the spool is a record of the request. -/
theorem entry_attributed : ∃ w response, runs.Steps idle (labels response) w ∧
    OnBooks Sqlite.attempts w.shared attempt ∧
      (attempt.attemptId ∈ w.shared.elsewhere ∨
        ∃ id visit, .start id (.visit visit) ∈ labels response ∧
          Owns visit.requestId (eventsOf id (labels response)) attempt ∧
          ∀ other, other ≠ id →
            attempt.attemptId ∉ (eventsOf other (labels response)).filterMap drew) := by
  obtain ⟨w, response, hrun, hbooks⟩ := exists_run
  exact ⟨w, response, hrun, hbooks,
    books_attributed Sqlite.records_attempts init_idle hrun hbooks⟩

end Locked

/-! ## A stream that breaks -/

namespace Broken

open Locked (running runs idle init_idle body_of_asks exists_answer answers_other)

/-- A client that reads one event of a stream. -/
def visit : Visit where
  request :=
    { Served.arrival.request with payload := some (oneMessage [("stream", .bool true)]) }
  requestId := "request"
  events := 1
  awaited := none

def inference : InferenceRequest := { Served.inference with stream := true }

/-- The connection fails before the first frame. -/
def upstream : OpenAiSseDecoder := .new [.ready (some (.error ()))]

def invoked : Invocation OpenAiSseDecoder where
  route := Served.route
  credential := "credential"
  result := .ok (.streaming upstream)

def failure (clock : Option Nat) : ProviderFailure := sanitizedFailure clock .providerUnavailable

theorem next_upstream (codec : ChunkCodec OpenAiChatCompletionChunk) (clock : Option Nat) :
    upstream.next codec clock =
      (.ready (some (.failed (failure clock))),
        { source := [], buffer := [], terminal := true }) := by
  have hpolled : upstream.pollNext codec clock =
      (.ready (some (.failed (failure clock))),
        { source := [], buffer := [], terminal := true }) := by
    rw [OpenAiSseDecoder.pollNext]
    rfl
  rw [OpenAiSseDecoder.next, hpolled]

theorem asks_visit : Asks visit.toArrival "key" inference := by
  have hbearer : bearer visit.request.headers = some "key" := by decide +kernel
  exact ⟨rfl, rfl, hbearer, _, { oneMessageRequest with stream := true }, rfl, rfl, rfl⟩

def attempt : StreamAttempt where
  usageSpool := true
  attemptId := .least
  requestId := "request"
  routeId := "route"
  providerAccountId := "account"

/-- The records of the start and of the end of the stream. -/
def committed : AttemptRecord := attempt.record .committed none
def broken : AttemptRecord := attempt.record .partialFailed (some "ProviderUnavailable")

def stream : PublicStream := ⟨upstream, attempt, none, false⟩

/-- What is left to do once the attempt is committed. -/
theorem readStream_stream (codec : ChunkCodec OpenAiChatCompletionChunk) :
    readStream codec 1 stream = (ask .unixTime).bind fun clock =>
      (attempt.fail (failure clock)).bind fun _ => .pure [.failed (failure clock)] := by
  unfold readStream
  congr 1
  funext clock
  have hnext : stream.upstream.next codec clock =
      (.ready (some (.failed (failure clock))), { source := [], buffer := [], terminal := true }) :=
    next_upstream codec clock
  rw [hnext]
  rfl

/-- The calls of the request; the primary does not take the end of the stream. -/
def calls : List (Event serviceCalls) :=
  [⟨.delivery (.side .primary (.authenticate "key")), .ok true⟩,
    ⟨.delivery (.side .primary (.candidates "model")), .ok [Served.route]⟩,
    ⟨.outside (.resolve .envKey), .ok "credential"⟩,
    ⟨.outside (.execute Served.route inference "credential"), .ok (.streaming upstream)⟩,
    ⟨.outside .newAttemptId, .least⟩,
    ⟨.delivery (.side .primary (.recordAttempt committed)), .ok ()⟩,
    ⟨.outside .unixTime, some 60⟩,
    ⟨.delivery (.side .primary (.recordAttempt broken)), .error "database is locked"⟩,
    ⟨.delivery (.append broken), .ok (entryId broken)⟩,
    ⟨.delivery (.side .primary (.markRouteFailure "route" (failure (some 60)))), .ok ()⟩]

def response : ClientResponse where
  status := 200
  headers := [("content-type", "text/event-stream"), ("cache-control", "no-cache"),
    ("x-accel-buffering", "no")]
  body := publicSseStream (fun _ => some "") [.failed (failure (some 60))]

def labels : List (Concurrent.Label running) :=
  .start 0 (.visit visit) :: calls.map (.call 0 (.visit visit)) ++
    [.finish 0 (.visit visit) response]

/-- The start of the stream is a row of the primary, its end an entry of the spool. -/
theorem exists_run : ∃ w, runs.Steps idle labels w := by
  obtain ⟨w₁, h₁, hs₁, hf₁⟩ := Concurrent.exists_start idle (.visit visit)
  rw [body_of_asks rfl asks_visit] at hf₁
  -- the request is accepted and executed
  obtain ⟨w₂, h₂, hs₂, hf₂⟩ :=
    exists_answer hf₁ (answers_other w₁.shared (.authenticate "key") nofun (.ok true))
  obtain ⟨w₃, h₃, hs₃, hf₃⟩ := exists_answer hf₂
    (answers_other w₂.shared (.candidates "model") nofun (.ok [Served.route]))
  obtain ⟨w₄, h₄, hs₄, hf₄⟩ := exists_answer hf₃
    (.answered w₃.shared (.resolve .envKey) nofun (.ok "credential"))
  obtain ⟨w₅, h₅, hs₅, hf₅⟩ := exists_answer hf₄
    (.answered w₄.shared (.execute Served.route inference "credential") nofun
      (.ok (.streaming upstream)))
  have hidle : w₅.shared = idle.shared := by
    rw [hs₅, hs₄, hs₃, hs₂, hs₁]
  have hdrew : ServiceAnswers Sqlite.attempts (.outside .newAttemptId) w₅.shared
      AttemptId.least _ := .drew (hidle ▸ List.not_mem_nil) (hidle ▸ List.not_mem_nil)
  obtain ⟨w₆, h₆, hs₆, hf₆⟩ := exists_answer hf₅ hdrew
  -- the primary takes the start of the stream
  have hrecorded : ServeState.Answers Sqlite.attempts
      (.side .primary (.recordAttempt committed)) idle.shared.books (.ok ())
      (idle.shared.books.takes Sqlite.attempts 0 committed) :=
    .recorded idle.shared.books 0 committed rfl
  have hbooks : w₆.shared.books = idle.shared.books := by
    rw [hs₆, hidle]
  rw [← hbooks] at hrecorded
  obtain ⟨w₇, h₇, hs₇, hf₇⟩ := exists_answer hf₆ (.delivered hrecorded)
  have hstream : w₇.flights 0 = some ⟨.visit visit, calls.take 6,
      ((readStream (chunkCodec fun _ => none) 1 stream).bind fun sent =>
        .pure { response with body := publicSseStream (fun _ => some "") sent }).interp
          Composition.sqlite.port⟩ := hf₇
  rw [readStream_stream] at hstream
  obtain ⟨w₈, h₈, hs₈, hf₈⟩ := exists_answer hstream
    (.answered w₇.shared .unixTime nofun (some 60))
  obtain ⟨w₉, h₉, hs₉, hf₉⟩ := exists_answer hf₈
    (.delivered (.refused w₈.shared.books (.recordAttempt broken) "database is locked"))
  obtain ⟨w₁₀, h₁₀, hs₁₀, hf₁₀⟩ := exists_answer hf₉
    (.delivered (.appended w₉.shared.books 0 broken))
  obtain ⟨w₁₁, h₁₁, hs₁₁, hf₁₁⟩ := exists_answer hf₁₀
    (answers_other w₁₀.shared (.markRouteFailure "route" (failure (some 60))) nofun (.ok ()))
  obtain ⟨w, h, hs⟩ := Concurrent.exists_finish hf₁₁
  exact ⟨w, .head h₁ (.head h₂ (.head h₃ (.head h₄ (.head h₅ (.head h₆ (.head h₇ (.head h₈
    (.head h₉ (.head h₁₀ (.head h₁₁ (.head h (.refl w))))))))))))⟩

end Broken

end Service

end SmartGateway
