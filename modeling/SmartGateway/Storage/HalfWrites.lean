import SmartGateway.Lib.Interleaving
import SmartGateway.Storage.Sqlite
import SmartGateway.Storage.Statements

/-! # Half a configuration write

Processes configure one SQLite database. Their statements interleave, each can fail, and a call
can end between any two of its statements because its process crashes. Nothing ever deletes a
row, so an account or a route whose state row was not inserted by its own call stays without
one: it is on no candidate list, and its key cannot be inserted again.
-/

namespace SmartGateway

namespace Sqlite

open ControlPlane (Entity)
open Concurrent (Label Recalls)

/-! ## The system -/

/-- What the other operations of the store do, in this process or another: they insert and
delete none of these rows. -/
structure Elsewhere (db db' : ControlPlane) : Prop where
  rows : ∀ entity, db'.HasRow entity ↔ db.HasRow entity
  states : ∀ entity, db'.HasState entity ↔ db.HasState entity

/-- The other operations of the store, whatever they answer. -/
theorem handle_elsewhere (digest : String → String) (now : Int) (op : RepositoryOp)
    (db : ControlPlane) : Elsewhere db (handle digest now op db).2 := by
  have hroute : ∀ routeId f, Elsewhere db (db.updateRouteState routeId f) := by
    intro routeId f
    refine ⟨fun entity => ?_, fun entity => ?_⟩
    · cases entity <;> exact Iff.rfl
    · cases entity with
      | account id => exact Iff.rfl
      | route id => exact KeyedTable.get?_modify_ne_none_iff
  cases op with
  | authenticate rawKey => exact ⟨fun _ => Iff.rfl, fun _ => Iff.rfl⟩
  | candidates logicalModel => exact ⟨fun _ => Iff.rfl, fun _ => Iff.rfl⟩
  | recordAttempt attempt =>
    rw [handle, recordAttempt_tables]
    refine ⟨fun entity => ?_, fun entity => ?_⟩
    · cases entity <;> exact Iff.rfl
    · cases entity <;> exact Iff.rfl
  | markRouteSuccess routeId => exact hroute routeId _
  | markRouteFailure routeId failure => exact hroute routeId _
  | markAccountFailure accountId failure =>
    refine ⟨fun entity => ?_, fun entity => ?_⟩
    · cases entity <;> exact Iff.rfl
    · cases entity with
      | account id => exact KeyedTable.get?_modify_ne_none_iff
      | route id => exact Iff.rfl

/-- A statement is executed, or fails and does nothing: the lock is poisoned, the database is
locked by another process, the disk is full. -/
inductive Answered (statement : Statement) (db : ControlPlane) :
    Except String Unit → ControlPlane → Prop where
  | executed : Answered statement db (execute statement db).1 (execute statement db).2
  | failed (error : String) : Answered statement db (.error error) db

/-- What a statement can have done. -/
theorem Answered.cases {statement : Statement} {db db' : ControlPlane} {r : Except String Unit}
    (h : Answered statement db r db') :
    ((∃ error, r = .error error) ∧ db' = db) ∨ (r = .ok () ∧ Wrote statement db db') := by
  cases h with
  | failed error => exact Or.inl ⟨⟨error, rfl⟩, rfl⟩
  | executed =>
    rcases execute_cases statement db with ⟨error, hrefused⟩ | ⟨db', haccepted, hwrote⟩
    · rw [hrefused]
      exact Or.inl ⟨⟨error, rfl⟩, rfl⟩
    · rw [haccepted]
      exact Or.inr ⟨rfl, hwrote⟩

/-- The calls of all processes. `create_account` gives the lock back between its two statements,
and the calls of different processes share no lock, so statements of any two calls may
interleave. -/
def configuration : Concurrent statements ControlPlane ConfigurationOp where
  Ret _ := Except String Unit
  body := configureBody
  Effect _ statement db r db' := Answered statement db r db'
  Ambient db _ db' := Elsewhere db db'

abbrev World := configuration.World

/-- The runs from any tables, before any call. -/
def system : Transition World (Label configuration) := configuration.toTransition fun _ => True

/-- A run: its steps with the states around them. -/
abbrev Run := List (Transition.Taken World (Label configuration))

/-- The row that a call inserts together with its state row. -/
def entityOf : ConfigurationOp → Option Entity
  | .createAccount id _ _ _ => some (.account id)
  | .createRoute id _ _ _ _ => some (.route id)
  | _ => none

/-- The label of a statement that was accepted. -/
abbrev accepted (id : ℕ) (op : ConfigurationOp) (statement : Statement) : Label configuration :=
  .call id op ⟨statement, .ok ()⟩

/-- The call was for this row, and a statement of the kind was accepted for it. -/
def Accepted (kind : Statement → Option Entity) (ls : List (Label configuration)) (id : ℕ)
    (op : ConfigurationOp) (entity : Entity) : Prop :=
  entityOf op = some entity ∧ ∃ statement, kind statement = some entity ∧
    accepted id op statement ∈ ls

/-- The first insert of the call was accepted. -/
abbrev EntityInserted := Accepted Statement.inserts

/-- Its second insert was accepted. -/
abbrev StateInserted := Accepted Statement.states

/-- No statement of the call changed the tables. -/
def Untouched (run : Run) (id : ℕ) (op : ConfigurationOp) : Prop :=
  ∀ taken ∈ run, ∀ event, taken.label = .call id op event →
    taken.after.shared = taken.before.shared

/-- The writes of a run that ended in `w` are atomic. -/
structure WritesAtomic (w₀ : World) (run : Run) (w : World) : Prop where
  /-- A call that returned `Ok` left both rows. -/
  returned : ∀ id op entity, entityOf op = some entity →
    .finish id op (.ok ()) ∈ run.map Transition.Taken.label →
    w.shared.HasRow entity ∧ w.shared.HasState entity
  /-- A call that returned an error left the tables as they were. -/
  refused : ∀ id op entity error, entityOf op = some entity →
    .finish id op (.error error) ∈ run.map Transition.Taken.label → Untouched run id op
  /-- A call, ended in whatever way or still running, has written both rows or nothing. -/
  whole : ∀ id op entity, entityOf op = some entity →
    (w.shared.HasRow entity ∧ w.shared.HasState entity) ∨ Untouched run id op
  /-- After an error the same call is answered as before it. -/
  retried : ∀ id op entity error, entityOf op = some entity →
    .finish id op (.error error) ∈ run.map Transition.Taken.label →
    ∀ taken ∈ run, ∀ event, taken.label = .call id op event →
      (configure op taken.after.shared).1 = (configure op taken.before.shared).1
  /-- No row is without its state row. -/
  complete : w₀.shared.Complete → w.shared.Complete

/-! ## What a call does -/

/-- Where a call may run a statement. -/
structure Turn (op : ConfigurationOp) (past : List (Event statements)) (statement : Statement) :
    Prop where
  inserts : ∀ entity, statement.inserts = some entity → entityOf op = some entity
  states : ∀ entity, statement.states = some entity → entityOf op = some entity ∧
    ∃ first : Statement, first.inserts = some entity ∧ ⟨first, .ok ()⟩ ∈ past
  own : ∀ entity, entityOf op = some entity →
    statement.inserts = some entity ∨ statement.states = some entity

/-- What a call has done when it ends. -/
structure Ended (op : ConfigurationOp) (past : List (Event statements))
    (result : Except String Unit) : Prop where
  returned : ∀ entity, entityOf op = some entity → result = .ok () →
    ∃ first second : Statement, first.inserts = some entity ∧ second.states = some entity ∧
      ⟨first, .ok ()⟩ ∈ past ∧ ⟨second, .ok ()⟩ ∈ past
  refused : ∀ error, result = .error error →
    ∀ statement : Statement, ⟨statement, .ok ()⟩ ∈ past → statement.states = none

/-- A call of one statement that inserts none of these rows. -/
theorem always_issue {op : ConfigurationOp} {statement : Statement} (hentity : entityOf op = none)
    (hinserts : statement.inserts = none) (hstates : statement.states = none) :
    (issue statement).Always (Turn op) (Ended op) [] := by
  refine ⟨⟨?_, ?_, ?_⟩, fun r => ⟨?_, ?_⟩⟩
  · simp [hinserts]
  · simp [hstates]
  · simp [hentity]
  · simp [hentity]
  · rintro error rfl other hother
    simp at hother

/-- A call of two inserts. -/
theorem always_pair {op : ConfigurationOp} {entity : Entity} {first second : Statement}
    (hentity : entityOf op = some entity) (hinserts : first.inserts = some entity)
    (hfirst : first.states = none) (hstates : second.states = some entity)
    (hsecond : second.inserts = none) :
    ((issue first).andThen fun _ => issue second).Always (Turn op) (Ended op) [] := by
  refine ⟨⟨?_, ?_, ?_⟩, fun r => ?_⟩
  · simp [hinserts, hentity]
  · simp [hfirst]
  · simp [hinserts, hentity]
  -- the second statement is issued once the first was accepted
  cases r with
  | error error =>
    refine ⟨by simp, ?_⟩
    rintro error' - statement hstatement
    simp at hstatement
  | ok value =>
    refine ⟨⟨?_, ?_, ?_⟩, fun r => ⟨?_, ?_⟩⟩
    · simp [hsecond]
    · intro entity' hentity'
      rw [hstates] at hentity'
      cases hentity'
      exact ⟨hentity, first, hinserts, by simp⟩
    · simp [hstates, hentity]
    · rintro entity' hentity' rfl
      rw [hentity] at hentity'
      cases hentity'
      exact ⟨first, second, hinserts, hstates, by simp, by simp⟩
    · rintro error rfl statement hstatement
      have heq : statement = first := by simpa using hstatement
      rw [heq, hfirst]

theorem always_configureBody (op : ConfigurationOp) :
    (configureBody op).Always (Turn op) (Ended op) [] := by
  cases op with
  | createModel name => exact always_issue rfl rfl rfl
  | createAccount id provider credentialRef baseUrl =>
    rw [configureBody]
    cases CredentialReference.parse credentialRef with
    | error error => exact ⟨by simp, by simp⟩
    | ok credentialRef => exact always_pair rfl rfl rfl rfl rfl
  | createRoute id logicalModel accountId upstreamModel priority =>
    exact always_pair rfl rfl rfl rfl rfl
  | addFallback source target priority => exact always_issue rfl rfl rfl

/-! ## What a run has done -/

/-- The rows and the state rows after a run are those before it and those its calls inserted;
no row was inserted twice. -/
structure Recounts (w₀ : World) (ls : List (Label configuration)) (w : World) : Prop where
  rows : ∀ entity, w.shared.HasRow entity ↔
    w₀.shared.HasRow entity ∨ ∃ id op, EntityInserted ls id op entity
  states : ∀ entity, w.shared.HasState entity ↔
    w₀.shared.HasState entity ∨ ∃ id op, StateInserted ls id op entity
  fresh : ∀ id op entity, EntityInserted ls id op entity → ¬ w₀.shared.HasRow entity
  single : ∀ id op id' op' entity, EntityInserted ls id op entity →
    EntityInserted ls id' op' entity → id' = id ∧ op' = op

variable {w₀ w w' : World} {ls : List (Label configuration)}

/-- A statement of a call had its turn. -/
theorem turn_of_called (h : Recalls ls w) {id : ℕ} {op : ConfigurationOp} {statement : Statement}
    {r : Except String Unit} (hcall : .call id op ⟨statement, r⟩ ∈ ls) :
    ∃ past, Turn op past statement ∧ ∀ e ∈ past, .call id op e ∈ ls := by
  obtain ⟨past, next, hpath, hpast⟩ := h.called id op _ hcall
  have hturn := (always_configureBody op).path hpath
  rw [List.nil_append] at hturn
  exact ⟨past, hturn.1, hpast⟩

/-- The second insert follows the first. -/
theorem entityInserted_of_state (h : Recalls ls w) {id : ℕ} {op : ConfigurationOp}
    {entity : Entity} (hstate : StateInserted ls id op entity) : EntityInserted ls id op entity := by
  obtain ⟨hentity, statement, hstates, hcall⟩ := hstate
  obtain ⟨past, hturn, hpast⟩ := turn_of_called h hcall
  obtain ⟨-, first, hfirst, hmem⟩ := hturn.states entity hstates
  exact ⟨hentity, first, hfirst, hpast _ hmem⟩

/-- After a step with an accepted statement. -/
theorem accepted_snoc {kind : Statement → Option Entity} {id id' : ℕ} {op op' : ConfigurationOp}
    {statement : Statement} {entity : Entity} :
    Accepted kind (ls ++ [accepted id op statement]) id' op' entity ↔
      Accepted kind ls id' op' entity ∨
        (id' = id ∧ op' = op ∧ entityOf op = some entity ∧ kind statement = some entity) := by
  constructor
  · rintro ⟨hop, statement', hkind, hmem⟩
    rcases List.mem_append.mp hmem with hearlier | hnow
    · exact Or.inl ⟨hop, statement', hkind, hearlier⟩
    · rw [List.mem_singleton] at hnow
      cases hnow
      exact Or.inr ⟨rfl, rfl, hop, hkind⟩
  · rintro (⟨hop, statement', hkind, hearlier⟩ | ⟨rfl, rfl, hop, hkind⟩)
    · exact ⟨hop, statement', hkind, List.mem_append_left _ hearlier⟩
    · exact ⟨hop, statement, hkind, by simp⟩

theorem exists_accepted_snoc {kind : Statement → Option Entity} {id : ℕ} {op : ConfigurationOp}
    {statement : Statement} {entity : Entity}
    (hkind : kind statement = some entity → entityOf op = some entity) :
    (∃ id' op', Accepted kind (ls ++ [accepted id op statement]) id' op' entity) ↔
      (∃ id' op', Accepted kind ls id' op' entity) ∨ kind statement = some entity := by
  simp only [accepted_snoc]
  constructor
  · rintro ⟨id', op', hearlier | ⟨-, -, -, hnow⟩⟩
    · exact Or.inl ⟨id', op', hearlier⟩
    · exact Or.inr hnow
  · rintro (⟨id', op', hearlier⟩ | hnow)
    · exact ⟨id', op', Or.inl hearlier⟩
    · exact ⟨id, op, Or.inr ⟨rfl, rfl, hkind hnow, hnow⟩⟩

/-- After any other step. -/
theorem accepted_snoc_quiet {kind : Statement → Option Entity} {l : Label configuration}
    (hl : ∀ id op statement, l ≠ accepted id op statement) {id : ℕ} {op : ConfigurationOp}
    {entity : Entity} : Accepted kind (ls ++ [l]) id op entity ↔ Accepted kind ls id op entity := by
  have hmem : ∀ statement, accepted id op statement ∈ ls ++ [l] ↔ accepted id op statement ∈ ls := by
    intro statement
    rw [List.mem_append, List.mem_singleton]
    exact or_iff_left fun heq => hl id op statement heq.symm
  simp only [Accepted, hmem]

namespace Recounts

theorem refl (w : World) : Recounts w [] w := by
  refine ⟨?_, ?_, ?_, ?_⟩
  · simp [Accepted]
  · simp [Accepted]
  · simp [Accepted]
  · simp [Accepted]

/-- A step in which no statement is accepted. -/
theorem quiet (h : Recounts w₀ ls w) {l : Label configuration}
    (hl : ∀ id op statement, l ≠ accepted id op statement)
    (hshared : Elsewhere w.shared w'.shared) : Recounts w₀ (ls ++ [l]) w' := by
  refine ⟨?_, ?_, ?_, ?_⟩
  · intro entity
    simp only [hshared.rows, h.rows, accepted_snoc_quiet hl]
  · intro entity
    simp only [hshared.states, h.states, accepted_snoc_quiet hl]
  · intro id op entity hinserted
    exact h.fresh id op entity ((accepted_snoc_quiet hl).mp hinserted)
  · intro id op id' op' entity hinserted hinserted'
    exact h.single id op id' op' entity ((accepted_snoc_quiet hl).mp hinserted)
      ((accepted_snoc_quiet hl).mp hinserted')

/-- A step in which a statement is accepted. -/
theorem accepted (h : Recounts w₀ ls w) {id : ℕ} {op : ConfigurationOp}
    {past : List (Event statements)} {statement : Statement} (hturn : Turn op past statement)
    (hwrote : Wrote statement w.shared w'.shared) :
    Recounts w₀ (ls ++ [.call id op ⟨statement, .ok ()⟩]) w' := by
  -- The key of a new row was not there, so no earlier call had inserted it.
  have hnew : ∀ id' op' entity, statement.inserts = some entity →
      ¬ EntityInserted ls id' op' entity := by
    intro id' op' entity hinserts hinserted
    exact hwrote.fresh entity hinserts ((h.rows entity).mpr (Or.inr ⟨id', op', hinserted⟩))
  refine ⟨?_, ?_, ?_, ?_⟩
  · intro entity
    rw [hwrote.rows, h.rows, or_assoc, exists_accepted_snoc (hturn.inserts entity)]
  · intro entity
    rw [hwrote.states, h.states, or_assoc,
      exists_accepted_snoc fun hstates => (hturn.states entity hstates).1]
  · intro id' op' entity hinserted
    rcases accepted_snoc.mp hinserted with hearlier | ⟨-, -, -, hinserts⟩
    · exact h.fresh id' op' entity hearlier
    · intro hold
      exact hwrote.fresh entity hinserts ((h.rows entity).mpr (Or.inl hold))
  · intro id₁ op₁ id₂ op₂ entity hinserted₁ hinserted₂
    rcases accepted_snoc.mp hinserted₁ with hearlier₁ | ⟨rfl, rfl, -, hinserts⟩
    · rcases accepted_snoc.mp hinserted₂ with hearlier₂ | ⟨-, -, -, hinserts⟩
      · exact h.single id₁ op₁ id₂ op₂ entity hearlier₁ hearlier₂
      · exact absurd hearlier₁ (hnew id₁ op₁ entity hinserts)
    · rcases accepted_snoc.mp hinserted₂ with hearlier₂ | ⟨rfl, rfl, -, -⟩
      · exact absurd hearlier₂ (hnew id₂ op₂ entity hinserts)
      · exact ⟨rfl, rfl⟩

theorem step (h : Recounts w₀ ls w) (hrecalls : Recalls ls w) {l : Label configuration}
    (hstep : configuration.Step w l w') : Recounts w₀ (ls ++ [l]) w' := by
  have hsame : Elsewhere w.shared w.shared := ⟨fun _ => Iff.rfl, fun _ => Iff.rfl⟩
  cases hstep with
  | start op => exact h.quiet (by simp) hsame
  | @call id op past statement next r db hflight heffect =>
    have hturn := (always_configureBody op).path (hrecalls.running id _ hflight).1
    rw [List.nil_append] at hturn
    rcases heffect.cases with ⟨⟨error, rfl⟩, rfl⟩ | ⟨rfl, hwrote⟩
    · exact h.quiet (by simp) hsame
    · exact h.accepted hturn.1 hwrote
  | finish hflight => exact h.quiet (by simp) hsame
  | drop id => exact h.quiet (by simp) hsame
  | ambient hambient _ _ => exact h.quiet (by simp) hambient

end Recounts

theorem recounts_of_run (hinit : system.Init w₀) (hrun : system.Steps w₀ ls w) :
    Recounts w₀ ls w := by
  induction hrun with
  | refl => exact .refl _
  | tail hbefore hstep ih => exact ih.step (Concurrent.recalls_of_run hinit hbefore) hstep

/-! ## What a row without its state row means -/

/-- `candidates` joins both state tables. -/
theorem hasState_of_mem_joinedRoutes {db : ControlPlane} {row : ControlPlane.JoinedRoute}
    (h : row ∈ db.joinedRoutes) :
    db.HasState (.route row.routeId) ∧ db.HasState (.account row.route.providerAccountId) := by
  obtain ⟨-, -, hroute, haccount⟩ := ControlPlane.mem_joinedRoutes.mp h
  constructor
  · exact Option.ne_none_iff_exists'.mpr ⟨_, hroute⟩
  · exact Option.ne_none_iff_exists'.mpr ⟨_, haccount⟩

theorem createAccount_of_row {db : ControlPlane} {id provider credentialRef baseUrl : String}
    {reference : CredentialReference} (hparse : CredentialReference.parse credentialRef = .ok reference)
    (hrow : db.HasRow (.account id)) : createAccount db id provider credentialRef baseUrl =
      (.error "UNIQUE constraint failed: provider_accounts.id", db) := by
  have hviolation : db.accountViolation id = some .accountId := if_pos hrow
  rw [createAccount, hparse]
  dsimp only
  split <;> simp_all [violationMessage]

theorem createRoute_of_row {db : ControlPlane} {id logicalModel accountId upstreamModel : String}
    {priority : UInt32} (hrow : db.HasRow (.route id)) :
    ∃ error, createRoute db id logicalModel accountId upstreamModel priority =
      (.error error, db) := by
  have hviolation : db.routeViolation id (routeRow logicalModel accountId upstreamModel priority) =
      some .routeId := if_pos hrow
  rw [createRoute]
  split <;> simp_all

/-- A call whose row is there is refused. -/
theorem configure_of_row {op : ConfigurationOp} {entity : Entity} {db : ControlPlane}
    (hop : entityOf op = some entity) (hrow : db.HasRow entity) :
    ∃ error, configure op db = (.error error, db) := by
  cases op with
  | createModel name => cases hop
  | createAccount id provider credentialRef baseUrl =>
    cases hop
    cases hparse : CredentialReference.parse credentialRef with
    | error error => exact ⟨error.message, by rw [configure, createAccount, hparse]⟩
    | ok reference => exact ⟨_, createAccount_of_row hparse hrow⟩
  | createRoute id logicalModel accountId upstreamModel priority =>
    cases hop
    exact createRoute_of_row hrow
  | addFallback source target priority => cases hop

/-- Once the first insert of a call was accepted, the same call is refused for good. -/
theorem retry_refused (hinit : system.Init w₀) (hrun : system.Steps w₀ ls w) {id : ℕ}
    {op : ConfigurationOp} {entity : Entity} (hinserted : EntityInserted ls id op entity) :
    ∃ error, configure op w.shared = (.error error, w.shared) := by
  have hrow := ((recounts_of_run hinit hrun).rows entity).mpr (Or.inr ⟨id, op, hinserted⟩)
  exact configure_of_row hinserted.1 hrow

/-! ## Atomic writes -/

section Atomic

variable {run : Run}

/-- A call whose first insert was not accepted has changed nothing. -/
theorem untouched_of_not_inserted (hinit : system.Init w₀) (hrun : system.recorded.Steps w₀ run w)
    {id : ℕ} {op : ConfigurationOp} {entity : Entity} (hop : entityOf op = some entity)
    (hinserted : ¬ EntityInserted (run.map Transition.Taken.label) id op entity) :
    Untouched run id op := by
  have hrecalls := Concurrent.recalls_of_run hinit hrun.of_recorded
  rintro ⟨before, l, after⟩ htaken ⟨statement, r⟩ rfl
  have hcall : .call id op ⟨statement, r⟩ ∈ run.map Transition.Taken.label :=
    List.mem_map_of_mem htaken
  have hstep := hrun.step_of_mem htaken
  dsimp only at hstep ⊢
  cases hstep with
  | call hflight heffect =>
    rcases heffect.cases with ⟨-, hsame⟩ | ⟨rfl, -⟩
    · exact hsame
    · obtain ⟨past, hturn, -⟩ := turn_of_called hrecalls hcall
      rcases hturn.own entity hop with hfirst | hsecond
      · exact absurd ⟨hop, statement, hfirst, hcall⟩ hinserted
      · exact absurd (entityInserted_of_state hrecalls ⟨hop, statement, hsecond, hcall⟩) hinserted

/-- The first insert of a call changes the tables. -/
theorem not_untouched_of_inserted (hrun : system.recorded.Steps w₀ run w) {id : ℕ}
    {op : ConfigurationOp} {entity : Entity}
    (hinserted : EntityInserted (run.map Transition.Taken.label) id op entity) :
    ¬ Untouched run id op := by
  obtain ⟨hop, statement, hinserts, hcall⟩ := hinserted
  obtain ⟨⟨before, l, after⟩, htaken, rfl⟩ := List.mem_map.mp hcall
  intro huntouched
  have hsame := huntouched _ htaken _ rfl
  have hstep := hrun.step_of_mem htaken
  dsimp only at hstep hsame
  cases hstep with
  | call hflight heffect =>
    rcases heffect.cases with ⟨⟨error, herror⟩, -⟩ | ⟨-, hwrote⟩
    · cases herror
    · dsimp only at hsame
      have hrow := (hwrote.rows entity).mpr (Or.inr hinserts)
      rw [hsame] at hrow
      exact hwrote.fresh entity hinserts hrow

/-- A call that has ended: what its answer says about its inserts. -/
theorem ended_of_finish (hinit : system.Init w₀) (hrun : system.Steps w₀ ls w) {id : ℕ}
    {op : ConfigurationOp} {result : Except String Unit} (hfinish : .finish id op result ∈ ls) :
    ∃ past, Ended op past result ∧
      ∀ e, Label.call id op e ∈ ls ↔ e ∈ past := by
  obtain ⟨-, -, past, hpath, hpast⟩ :=
    (Concurrent.recalls_of_run hinit hrun).finished id op result hfinish
  have hended := (always_configureBody op).path hpath
  rw [List.nil_append] at hended
  refine ⟨past, hended, fun e => ?_⟩
  rw [hpast op e]
  exact and_iff_right rfl

theorem writes_atomic_iff (hinit : system.Init w₀) (hrun : system.recorded.Steps w₀ run w) :
    WritesAtomic w₀ run w ↔ ∀ id op entity,
      EntityInserted (run.map Transition.Taken.label) id op entity →
      StateInserted (run.map Transition.Taken.label) id op entity := by
  have hrecalls := Concurrent.recalls_of_run hinit hrun.of_recorded
  have hrecounts := recounts_of_run hinit hrun.of_recorded
  constructor
  · intro h id op entity hinserted
    rcases h.whole id op entity hinserted.1 with ⟨-, hstate⟩ | huntouched
    -- The state row of a new row was inserted by some call, and only one call inserted the row.
    · rcases (hrecounts.states entity).mp hstate with hold | ⟨id', op', hstate'⟩
      · exact absurd hold.hasRow (hrecounts.fresh id op entity hinserted)
      · obtain ⟨rfl, rfl⟩ := hrecounts.single id op id' op' entity hinserted
          (entityInserted_of_state hrecalls hstate')
        exact hstate'
    · exact absurd huntouched (not_untouched_of_inserted hrun hinserted)
  · intro h
    have hrefused : ∀ id op entity error, entityOf op = some entity →
        .finish id op (.error error) ∈ run.map Transition.Taken.label → Untouched run id op := by
      intro id op entity error hop hfinish
      refine untouched_of_not_inserted hinit hrun hop fun hinserted => ?_
      obtain ⟨-, statement, hstates, hcall⟩ := h id op entity hinserted
      obtain ⟨past, hended, hpast⟩ := ended_of_finish hinit hrun.of_recorded hfinish
      have hnone := hended.refused error rfl statement ((hpast _).mp hcall)
      rw [hstates] at hnone
      cases hnone
    refine ⟨?_, hrefused, ?_, ?_, ?_⟩
    · intro id op entity hop hfinish
      obtain ⟨past, hended, hpast⟩ := ended_of_finish hinit hrun.of_recorded hfinish
      obtain ⟨first, second, hinserts, hstates, hfirst, hsecond⟩ := hended.returned entity hop rfl
      constructor
      · exact (hrecounts.rows entity).mpr (Or.inr ⟨id, op, hop, first, hinserts, (hpast _).mpr hfirst⟩)
      · exact (hrecounts.states entity).mpr
          (Or.inr ⟨id, op, hop, second, hstates, (hpast _).mpr hsecond⟩)
    · intro id op entity hop
      by_cases hinserted : EntityInserted (run.map Transition.Taken.label) id op entity
      · left
        exact ⟨(hrecounts.rows entity).mpr (Or.inr ⟨id, op, hinserted⟩),
          (hrecounts.states entity).mpr (Or.inr ⟨id, op, h id op entity hinserted⟩)⟩
      · exact Or.inr (untouched_of_not_inserted hinit hrun hop hinserted)
    · intro id op entity error hop hfinish taken htaken event hlabel
      rw [hrefused id op entity error hop hfinish taken htaken event hlabel]
    · intro hcomplete entity hrow
      rcases (hrecounts.rows entity).mp hrow with hold | ⟨id, op, hinserted⟩
      · exact (hrecounts.states entity).mpr (Or.inl (hcomplete entity hold))
      · exact (hrecounts.states entity).mpr (Or.inr ⟨id, op, h id op entity hinserted⟩)

/-! ## A call that fails halfway -/

/-- The account of the example. -/
def acme : ConfigurationOp := .createAccount "acme" "openai" "env:KEY" "https://api.acme.example"

def acmeRow : AccountRow := accountRow "openai" .envKey "https://api.acme.example"

/-- An empty store, before any call. -/
def idle : World := ⟨.empty, 0, fun _ => none⟩

theorem parse_envKey : CredentialReference.parse "env:KEY" = .ok .envKey :=
  CredentialReference.parse_text .envKey

theorem body_acme : configureBody acme =
    createAccountWithReference "acme" "openai" .envKey "https://api.acme.example" := by
  rw [acme, configureBody, parse_envKey]

/-- The store while the call has made its first insert. -/
def halfway : ControlPlane := ControlPlane.empty.insertAccount "acme" acmeRow rfl

/-- The steps of a call with these answers to its two inserts. -/
theorem steps_acme {r : Except String Unit} {db : ControlPlane}
    (hanswer : Answered (.insertAccountState "acme") halfway r db) :
    ∃ run w, system.recorded.Steps idle run w ∧ w.shared = db ∧
      run.map Transition.Taken.label =
        [.start 0 acme, .call 0 acme ⟨.insertAccount "acme" acmeRow, .ok ()⟩,
          .call 0 acme ⟨.insertAccountState "acme", r⟩, .finish 0 acme r] := by
  have hfirst : Answered (.insertAccount "acme" acmeRow) .empty (.ok ()) halfway := by
    have hexecuted : Answered (.insertAccount "acme" acmeRow) .empty _ _ := .executed
    rwa [execute_insertAccount rfl] at hexecuted
  obtain ⟨w₁, h₁, hs₁, hf₁⟩ := Concurrent.exists_start (C := configuration) idle acme
  have hbody : w₁.flights 0 = some ⟨acme, [],
      createAccountWithReference "acme" "openai" .envKey "https://api.acme.example"⟩ := by
    rw [← body_acme]
    exact hf₁
  obtain ⟨w₂, h₂, hs₂, hf₂⟩ := Concurrent.exists_call hbody hs₁ hfirst
  obtain ⟨w₃, h₃, hs₃, hf₃⟩ := Concurrent.exists_call hf₂ hs₂ hanswer
  obtain ⟨w₄, h₄, hs₄⟩ := Concurrent.exists_finish hf₃
  refine ⟨[⟨idle, _, w₁⟩, ⟨w₁, _, w₂⟩, ⟨w₂, _, w₃⟩, ⟨w₃, _, w₄⟩], w₄, ?_, hs₄.trans hs₃, rfl⟩
  have hsteps := @Transition.recorded_step _ _ system
  exact .head (hsteps h₁) (.head (hsteps h₂) (.head (hsteps h₃) (.head (hsteps h₄) (.refl w₄))))

/-- What an accepted second insert makes of the halfway store. -/
def stored : ControlPlane := halfway.insertAccountState "acme" (by decide)

theorem answered_stored : Answered (.insertAccountState "acme") halfway (.ok ()) stored := by
  have hexecuted : Answered (.insertAccountState "acme") halfway _ _ := .executed
  rwa [execute, dif_pos (by decide)] at hexecuted

/-- A call that nothing interrupts. -/
theorem acme_stored : ∃ run w, system.recorded.Steps idle run w ∧
    .finish 0 acme (.ok ()) ∈ run.map Transition.Taken.label ∧ WritesAtomic idle run w := by
  obtain ⟨run, w, hrun, -, hlabels⟩ := steps_acme answered_stored
  refine ⟨run, w, hrun, by simp [hlabels], ?_⟩
  refine (writes_atomic_iff ⟨trivial, rfl, fun _ => rfl⟩ hrun).mpr ?_
  rintro id op entity ⟨hop, statement, hinserts, hmem⟩
  rw [hlabels] at hmem ⊢
  have hcall : id = 0 ∧ op = acme := by
    simp at hmem
    rcases hmem with ⟨rfl, rfl, -⟩ | ⟨rfl, rfl, -⟩ <;> exact ⟨rfl, rfl⟩
  obtain ⟨rfl, rfl⟩ := hcall
  exact ⟨hop, .insertAccountState "acme", hop, by simp⟩

/-- The second insert fails: the call returns the error, its account stays without a state row,
and the same call is refused from then on. -/
theorem acme_half_written : ∃ run w, system.recorded.Steps idle run w ∧ idle.shared.Complete ∧
    .finish 0 acme (.error "database or disk is full") ∈ run.map Transition.Taken.label ∧
    w.shared.HasRow (.account "acme") ∧ ¬ w.shared.HasState (.account "acme") ∧
    (configure acme w.shared).1 = .error "UNIQUE constraint failed: provider_accounts.id" ∧
    ¬ WritesAtomic idle run w := by
  obtain ⟨run, w, hrun, hshared, hlabels⟩ := steps_acme (.failed "database or disk is full")
  have hrow : w.shared.HasRow (.account "acme") := by
    rw [hshared]
    decide
  have hstate : ¬ w.shared.HasState (.account "acme") := by
    rw [hshared]
    decide
  refine ⟨run, w, hrun, ControlPlane.complete_empty, by simp [hlabels], hrow, hstate, ?_, ?_⟩
  · rw [acme, configure, createAccount_of_row parse_envKey hrow]
  · intro hatomic
    exact hstate (hatomic.complete ControlPlane.complete_empty _ hrow)

end Atomic

end Sqlite

end SmartGateway
