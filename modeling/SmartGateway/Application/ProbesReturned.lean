import SmartGateway.Application.AttemptAudit
import SmartGateway.Application.ProbeDuties

/-! # Probes of the snapshot that are given back

A route stays under probe until a mark decides it, and the snapshot has no lease that expires.
The request that was handed the probe makes no such mark if it is dropped, if the credential of
the route is missing, if its record is not accepted, or if its stream is cancelled; and a mark
that the primary takes does not reach the snapshot.

In runs without these exits (`GivesBack`) every route under probe has a request in flight that
still owes the deciding mark (`Owned`), so none is left when no request is in flight.
-/

namespace SmartGateway

variable {Body Chunk : Type}

/-! ## Runs in which probes are given back -/

/-- How the calls of the request that has the probe of a route must be answered. -/
structure Suits (gateway : Gateway) (repository : SnapshotRepository) (routeId : String)
    (call : Event (application Body)) (side : Side) : Prop extends Favourable gateway call where
  /-- The primary takes none of its marks. -/
  reached : ∀ op : RepositoryOp, call.op = .configuration op → op.isMark = true → side = .fallback
  /-- The account it blocks is known to the snapshot as the account of the route. -/
  governed : ∀ accountId failure,
    call.op = .configuration (.markAccountFailure accountId failure) →
      repository.Governs accountId routeId

namespace Traffic

/-- The request has the probe of a route that no mark has decided. -/
def Holds (w : Traffic Body Chunk) (id : ℕ) (routeId : String) : Prop :=
  w.probes routeId = some id ∧ w.repository.UnderProbe routeId

/-- A step that takes no probe away from the request that has it: the request is not dropped,
nor is its stream, and its calls are answered as they must be. -/
structure GivesBack (gateway : Gateway) (w : Traffic Body Chunk) (l : TrafficStep Body Chunk) :
    Prop where
  kept : ∀ id routeId, w.Holds id routeId → l ≠ .drops id ∧ ∀ side, l ≠ .streams id .drops side
  suited : ∀ id routeId call side, w.Holds id routeId →
    l = .asks id call side ∨ l = .streams id (.answered call) side →
      Suits gateway w.repository routeId call side

/-- Every route under probe has a request in flight that owes the mark. -/
def Owned (gateway : Gateway) (w : Traffic Body Chunk) : Prop :=
  ∀ routeId, w.repository.UnderProbe routeId → ∃ id phase,
    w.probes routeId = some id ∧ w.requests id = some phase ∧ phase.Owing gateway routeId

end Traffic

section Answers

variable {digest : String → String} {behind : Bool} {op : ApplicationOp}
  {answer : op.Answer Body} {side : Side} {repository repository' : SnapshotRepository}
  {routeId : String}

/-- Only a probe among the candidates puts a route under probe. -/
theorem Answers.underProbe_cases (h : Answers digest behind op repository answer side repository')
    (hafter : repository'.UnderProbe routeId) :
    repository.UnderProbe routeId ∨ (¬ repository.ProbeTaken routeId ∧
      ∃ logicalModel probe, probe.routeId = routeId ∧
        (⟨op, answer⟩ : Event (application Body)) =
          ⟨.configuration (.candidates logicalModel), .ok [probe]⟩) := by
  cases h with
  | snapshot now op repository =>
    rcases SnapshotRepository.underProbe_cases digest now op hafter with
      hbefore | ⟨hclosed, logicalModel, probe, rfl, hid, hresult⟩
    · exact Or.inl hbefore
    · refine Or.inr ⟨hclosed, logicalModel, probe, hid, ?_⟩
      rw [← hresult]
      rfl
  | _ => exact Or.inl hafter

/-- A deciding mark that gets to the snapshot ends the probe. -/
theorem Answers.not_underProbe (h : Answers digest behind op repository answer side repository')
    {gateway : Gateway} (hsuits : Suits gateway repository routeId ⟨op, answer⟩ side)
    (hdecided : Decided routeId (⟨op, answer⟩ : Event (application Body))) :
    ¬ repository'.UnderProbe routeId := by
  obtain ⟨mark, hop, hmark⟩ := hdecided
  obtain rfl : op = .configuration mark := hop
  have hisMark : mark.isMark = true := by
    cases mark with
    | authenticate rawKey => exact absurd hmark (not_or_intro id id)
    | candidates logicalModel => exact absurd hmark (not_or_intro id id)
    | recordAttempt attempt => exact absurd hmark (not_or_intro id id)
    | _ => rfl
  have hfallback := hsuits.reached mark rfl hisMark
  cases h with
  | primary hbehind repository value => cases hfallback
  | snapshot now op repository =>
    rcases hmark with hdecides | hblocks
    · exact SnapshotRepository.not_underProbe_of_decides hdecides
    · cases mark with
      | markAccountFailure accountId failure =>
        exact SnapshotRepository.not_underProbe_of_blocks hblocks
          (hsuits.governed accountId failure rfl)
      | _ => exact absurd hblocks id
  | unrecorded attempt error repository => cases hisMark
  | untimed logicalModel error repository => cases hisMark
  | elsewhere hop repository answer => exact absurd rfl (hop mark)

end Answers

namespace Traffic

variable {gateway : Gateway} {w w' : Traffic Body Chunk} {l : TrafficStep Body Chunk}
  {digest : String → String} {behind : Bool}

/-! ## The invariant -/

theorem noteProbes_self (id : ℕ) (repository : SnapshotRepository) (probes : String → Option ℕ) :
    noteProbes id repository repository probes = probes := by
  funext routeId
  exact if_neg fun h => h.2 h.1

/-- One request goes on, and the snapshot changes with it. The invariant is kept if a route that
is newly under probe was handed to this request, and if what the request owed it still owes
while the route is under probe. -/
theorem Owned.update (h : Owned gateway w) {id : ℕ} {repository : SnapshotRepository}
    {next : Option (Phase Body Chunk)}
    (hnew : ∀ routeId, repository.UnderProbe routeId → w.repository.UnderProbe routeId ∨
      (¬ w.repository.ProbeTaken routeId ∧ ∃ phase, next = some phase ∧ phase.Owing gateway routeId))
    (hold : ∀ routeId phase, w.Holds id routeId → w.requests id = some phase →
      phase.Owing gateway routeId → repository.UnderProbe routeId →
      ∃ phase', next = some phase' ∧ phase'.Owing gateway routeId) :
    Owned gateway { repository
                    requests := Function.update w.requests id next
                    probes := noteProbes id w.repository repository w.probes } := by
  intro routeId hafter
  rcases hnew routeId hafter with hbefore | ⟨hclosed, phase, hnext, howing⟩
  · obtain ⟨owner, phase, hprobe, hrequest, howing⟩ := h routeId hbefore
    -- A route that was half open before keeps its owner.
    have hsame : noteProbes id w.repository repository w.probes routeId = some owner := by
      unfold noteProbes
      rwa [if_neg fun hnoted => hnoted.2 hbefore.1]
    by_cases hid : owner = id
    · subst hid
      obtain ⟨phase', hnext, howing'⟩ := hold routeId phase ⟨hprobe, hbefore⟩ hrequest howing hafter
      refine ⟨owner, phase', hsame, ?_, howing'⟩
      show Function.update w.requests owner next owner = some phase'
      rw [Function.update_self, hnext]
    · refine ⟨owner, phase, hsame, ?_, howing⟩
      show Function.update w.requests id next owner = some phase
      rw [Function.update_of_ne hid, hrequest]
  · refine ⟨id, phase, if_pos ⟨hafter.1, hclosed⟩, ?_, howing⟩
    show Function.update w.requests id next id = some phase
    rw [Function.update_self, hnext]

/-- The same for a step that leaves the snapshot alone. -/
theorem Owned.update_requests (h : Owned gateway w) {id : ℕ}
    {next : Option (Phase Body Chunk)}
    (hold : ∀ routeId phase, w.Holds id routeId → w.requests id = some phase →
      phase.Owing gateway routeId → ∃ phase', next = some phase' ∧ phase'.Owing gateway routeId) :
    Owned gateway { w with requests := Function.update w.requests id next } := by
  have hupdate : Owned gateway
      { repository := w.repository
        requests := Function.update w.requests id next
        probes := noteProbes id w.repository w.repository w.probes } :=
    h.update (fun _ hafter => Or.inl hafter)
      fun routeId phase hholds hrequest howing _ => hold routeId phase hholds hrequest howing
  rwa [noteProbes_self] at hupdate

/-- Every request is sound. -/
def AllSound (gateway : Gateway) (w : Traffic Body Chunk) : Prop :=
  ∀ id phase, w.requests id = some phase → phase.Sound gateway

theorem AllSound.update (h : AllSound gateway w) {id : ℕ} {next : Option (Phase Body Chunk)}
    (hnext : ∀ phase, next = some phase → phase.Sound gateway)
    (repository : SnapshotRepository) (probes : String → Option ℕ) :
    AllSound gateway { repository, requests := Function.update w.requests id next, probes } := by
  intro id' phase hrequest
  have hupdated : Function.update w.requests id next id' = some phase := hrequest
  by_cases hid : id' = id
  · subst hid
    rw [Function.update_self] at hupdated
    exact hnext phase hupdated
  · rw [Function.update_of_ne hid] at hupdated
    exact h id' phase hupdated

/-- Every step keeps the requests sound. -/
theorem AllSound.step (h : AllSound gateway w) (hstep : Step gateway digest behind w l w') :
    AllSound gateway w' := by
  cases hstep with
  | starts hfree rawKey request =>
    refine h.update ?_ _ _
    intro phase hphase
    cases hphase
    exact ⟨Or.inl ⟨rawKey, request, rfl⟩, returnsFresh_infer gateway request rawKey⟩
  | @asks id op next answer side repository hrequest hanswer =>
    refine h.update ?_ _ _
    intro phase hphase
    cases hphase
    obtain ⟨hasks, hreturns⟩ := h _ _ hrequest
    exact ⟨hasks.call answer, (hreturns answer trivial).resolve_left not_false⟩
  | commits hrequest =>
    refine h.update ?_ _ _
    intro phase hphase
    cases hphase
    exact sound_life ((h _ _ hrequest).2 _ rfl)
  | returns hrequest hresult =>
    refine h.update ?_ _ _
    intro phase hphase
    cases hphase
  | drops hrequest =>
    refine h.update ?_ _ _
    intro phase hphase
    cases hphase
  | streams hrequest hlife hanswer =>
    refine h.update ?_ _ _
    intro phase hphase
    cases hphase
    exact (h _ _ hrequest).step hlife

/-- A step that gives probes back keeps every route under probe owned. -/
theorem Owned.step (h : Owned gateway w) (hsound : AllSound gateway w)
    (hgives : GivesBack gateway w l) (hstep : Step gateway digest behind w l w') :
    Owned gateway w' := by
  cases hstep with
  -- A request that starts holds nothing, and takes nothing from the others.
  | starts hfree rawKey request =>
    refine h.update_requests ?_
    intro routeId phase hholds hrequest
    rw [hfree] at hrequest
    cases hrequest
  -- The call hands out a probe, or is made for one: then it makes the mark or the mark is still owed.
  | @asks id op next answer side repository hrequest hanswer =>
    refine h.update ?_ ?_
    · intro routeId hafter
      rcases hanswer.underProbe_cases hafter with hbefore | ⟨hclosed, model, probe, rfl, hcall⟩
      · exact Or.inl hbefore
      · -- The request was handed the probe, and is to try it.
        cases hcall
        exact Or.inr ⟨hclosed, _, rfl, (hsound _ _ hrequest).1.candidates⟩
    · intro routeId phase hholds hphase howing hafter
      rw [hrequest] at hphase
      cases hphase
      have hsuits := hgives.suited id routeId _ side hholds (Or.inl rfl)
      rcases howing answer hsuits.toFavourable with hdecided | hnext
      · exact absurd hafter (hanswer.not_underProbe hsuits hdecided)
      · exact ⟨_, rfl, hnext⟩
  | commits hrequest =>
    refine h.update_requests ?_
    intro routeId phase hholds hphase howing
    rw [hrequest] at hphase
    cases hphase
    exact ⟨_, rfl, owing_life howing⟩
  -- A request that owes a mark returns only with a stream.
  | @returns id result hrequest hresult =>
    refine h.update_requests ?_
    intro routeId phase hholds hphase howing
    rw [hrequest] at hphase
    cases hphase
    obtain ⟨stream, hstream, -⟩ := howing
    exact absurd hstream (hresult stream)
  -- A holder is not dropped.
  | @drops id op next hrequest =>
    refine h.update_requests ?_
    intro routeId phase hholds
    exact absurd rfl (hgives.kept id routeId hholds).1
  | @streams id life life' step side repository hrequest hlife hanswer =>
    refine h.update ?_ ?_
    · intro routeId hafter
      cases hanswer with
      | asked hasked hanswer =>
        rcases hanswer.underProbe_cases hafter with hbefore | ⟨hclosed, model, probe, -, hcall⟩
        · exact Or.inl hbefore
        · have hop := congrArg Event.op hcall
          exact absurd hop ((hsound _ _ hrequest).asked hlife hasked model)
      | silent hsilent repository => exact Or.inl hafter
    · intro routeId phase hholds hphase howing hafter
      rw [hrequest] at hphase
      cases hphase
      have hkept : step ≠ .drops := by
        rintro rfl
        exact (hgives.kept id routeId hholds).2 side rfl
      have hsuits : ∀ call, step = .answered call →
          Suits gateway w.repository routeId call side := by
        rintro call rfl
        exact hgives.suited id routeId call side hholds (Or.inr rfl)
      rcases howing.step hlife hkept fun call hcall => (hsuits call hcall).toFavourable with
        ⟨call, rfl, hdecided⟩ | hnext
      · -- The stream has made the mark.
        cases hanswer with
        | asked hasked hanswer =>
          cases hasked
          exact absurd hafter (hanswer.not_underProbe (hsuits call rfl) hdecided)
        | silent hsilent repository => cases hsilent
      · exact ⟨_, rfl, hnext⟩

/-! ## Runs -/

/-- In every run in which probes are given back, no route of an unblocked account is half open
once no request is in flight. -/
theorem probes_returned (gateway : Gateway) (digest : String → String) (behind : Bool)
    (hrun : ((traffic Body Chunk gateway digest behind SnapshotRepository.NoneHalfOpen).restrict
      fun w l _ => GivesBack gateway w l).Reachable w) (hidle : w.Idle) :
    w.repository.NoneHalfOpen := by
  have hinv : AllSound gateway w ∧ Owned gateway w := by
    refine hrun.invariant (I := fun w => AllSound gateway w ∧ Owned gateway w) ?_ ?_
    · rintro w ⟨snapshot, usageSpool, hloaded, rfl⟩
      constructor
      · intro id phase hrequest
        cases hrequest
      · intro routeId hprobe
        exact absurd hprobe (SnapshotRepository.noneHalfOpen_iff.mp hloaded routeId)
    · rintro w l w' ⟨hsound, howned⟩ ⟨hstep, hgives⟩
      exact ⟨hsound.step hstep, howned.step hsound hgives hstep⟩
  rw [SnapshotRepository.noneHalfOpen_iff]
  intro routeId hprobe
  obtain ⟨id, phase, -, hrequest, howing⟩ := hinv.2 routeId hprobe
  exact howing.not_over (hidle id phase hrequest)

end Traffic

/-! ## One request with a probe -/

namespace LoneProbe

open Traffic

def gateway : Gateway := { usageSpool := false, accounting := false }

def request : InferenceRequest := { requestId := "request", model := "model", stream := false }

/-- A snapshot with one route, which is open and due. -/
def loaded : SnapshotRepository :=
  .new
    { gatewayKeyHashes := {"key"}
      routes := [ControlPlane.onlyRoute]
      fallbacks := .empty
      routeStates := .single "route" ⟨"open", some 0⟩
      accountStates := .single "account" ⟨"available", none⟩ }
    .empty

/-- The snapshot after the route was handed out as a probe. -/
def probing : SnapshotRepository :=
  loaded.updateRouteState "route" fun routeState => { routeState with state := "half_open" }

/-- The traffic with a single request. -/
def alone (repository : SnapshotRepository) (phase : Option (Phase Unit Unit))
    (probes : String → Option ℕ) : Traffic Unit Unit :=
  { repository, requests := Function.update (fun _ => none) 0 phase, probes }

/-- The requests with a probe, once the request was handed it. -/
def handed : String → Option ℕ :=
  noteProbes 0 loaded probing fun _ => none

abbrev runs (Loaded : SnapshotRepository → Prop) :
    Transition (Traffic Unit Unit) (TrafficStep Unit Unit) :=
  (traffic Unit Unit gateway id false Loaded).restrict fun w l _ => GivesBack gateway w l

variable {Loaded : SnapshotRepository → Prop} {repository repository' : SnapshotRepository}
  {probes : String → Option ℕ} {op : ApplicationOp}
  {next : op.Answer Unit → UseCase Unit (InferenceResult Unit Unit)}
  {answer : op.Answer Unit}

/-- A call of the request. -/
theorem alone_asks
    (hanswer : Answers id false op repository answer .fallback repository') :
    Step gateway id false (alone repository (some (.inferring (.call op next))) probes)
      (.asks 0 ⟨op, answer⟩ .fallback)
      (alone repository' (some (.inferring (next answer)))
        (noteProbes 0 repository repository' probes)) := by
  have hrequest : (alone repository (some (.inferring (.call op next))) probes).requests 0 =
      some (.inferring (.call op next)) := rfl
  have hstep : Step gateway id false _ _ _ := Step.asks hrequest hanswer
  rwa [alone, Function.update_idem] at hstep

/-- The request ends with its result. -/
theorem alone_returns {result : InferenceResult Unit Unit}
    (hresult : ∀ stream, result ≠ .ok (.streaming stream)) :
    Step gateway id false (alone repository (some (.inferring (.pure result))) probes)
      (.returns 0) (alone repository none probes) := by
  have hrequest : (alone repository (some (.inferring (.pure result))) probes).requests 0 =
      some (.inferring (.pure result)) := rfl
  have hstep : Step gateway id false _ _ _ := Step.returns hrequest hresult
  rwa [alone, Function.update_idem] at hstep

theorem idle_alone : (alone repository none probes).Idle := by
  intro id phase hrequest
  have hnone : Function.update (fun _ => none) 0 none id = some phase := hrequest
  rw [Function.update_eq_self_iff.mpr rfl] at hnone
  cases hnone

theorem asks_step
    (h : (runs Loaded).Reachable
      (alone repository (some (.inferring (.call op next))) probes))
    (hanswer : Answers id false op repository answer .fallback repository')
    (hsuits : ∀ routeId, probes routeId ≠ none →
      Suits gateway repository routeId (⟨op, answer⟩ : Event (application Unit)) .fallback) :
    (runs Loaded).Reachable
      (alone repository' (some (.inferring (next answer)))
        (noteProbes 0 repository repository' probes)) := by
  refine h.step ⟨alone_asks hanswer, ?_, ?_⟩
  · intro id routeId _
    exact ⟨nofun, fun _ => nofun⟩
  · rintro id routeId call side ⟨hprobe, -⟩ (hcall | hcall)
    · cases hcall
      have hsome : probes routeId = some 0 := hprobe
      exact hsuits routeId (by rw [hsome]; exact Option.some_ne_none 0)
    · cases hcall

theorem returns_step {result : InferenceResult Unit Unit}
    (h : (runs Loaded).Reachable (alone repository (some (.inferring (.pure result))) probes))
    (hresult : ∀ stream, result ≠ .ok (.streaming stream)) :
    (runs Loaded).Reachable (alone repository none probes) := by
  refine h.step ⟨alone_returns hresult, ?_, ?_⟩
  · intro id routeId _
    exact ⟨nofun, fun _ => nofun⟩
  · rintro id routeId call side _ (hcall | hcall)
    · cases hcall
    · cases hcall

/-- The request was let in and was handed the probe. -/
theorem reachable_probing (hloaded : Loaded loaded) :
    (runs Loaded).Reachable
      (alone probing
        (some (.inferring (gateway.tryCandidates request [ControlPlane.onlyRoute] none)))
        handed) := by
  have hinit : (runs Loaded).Reachable (alone loaded none fun _ => none) := by
    refine .init ⟨_, _, hloaded, ?_⟩
    rw [alone, Function.update_eq_self_iff.mpr rfl]
    rfl
  have hstarted : (runs Loaded).Reachable
      (alone loaded (some (.inferring (gateway.infer "key" request))) fun _ => none) := by
    have hstep := hinit.step ⟨@Step.starts _ _ gateway id false _ 0 rfl "key" request, ?_⟩
    · simpa only [alone, Function.update_idem] using hstep
    · constructor
      · rintro id routeId ⟨hprobe, -⟩
        cases hprobe
      · rintro id routeId call side ⟨hprobe, -⟩
        cases hprobe
  have hauthenticated : (runs Loaded).Reachable
      (alone loaded (some (.inferring (gateway.planAndTry request)))
        (noteProbes 0 loaded loaded fun _ => none)) :=
    asks_step hstarted (.snapshot 1 (.authenticate "key") loaded) fun _ hprobe => absurd rfl hprobe
  rw [noteProbes_self] at hauthenticated
  exact asks_step hauthenticated (.snapshot 1 (.candidates "model") loaded)
    fun _ hprobe => absurd rfl hprobe

/-- A call that is answered, submits no record and is no mark. -/
theorem suits_of_quiet {routeId : String}
    (hresolved : ∀ reference (answered : Except String String),
      (⟨op, answer⟩ : Event (application Unit)) = ⟨.resolve reference, answered⟩ →
        answered.isOk = true)
    (hquiet : ∀ op', op ≠ .configuration op') (hspool : ∀ record, op ≠ .appendAttempt record) :
    Suits gateway repository routeId (⟨op, answer⟩ : Event (application Unit)) .fallback where
  resolved := hresolved
  recorded := by
    intro record answered hcall
    exact absurd (congrArg Event.op hcall) (hquiet _)
  spooled := by
    intro record answered hcall
    exact absurd (congrArg Event.op hcall) (hspool record)
  reached op' hop := absurd hop (hquiet op')
  governed accountId failure hop := absurd hop (hquiet _)

/-- The record of the answered probe. -/
def answered : AttemptRecord :=
  { attemptId := .least
    requestId := "request"
    routeId := "route"
    outcome := .succeeded
    failureCategory := none }

theorem suits_recorded {routeId : String} :
    Suits gateway repository routeId
      (⟨.configuration (.recordAttempt answered), .ok ()⟩ : Event (application Unit))
      .fallback where
  resolved _ _ hcall := nomatch congrArg Event.op hcall
  recorded := by
    intro record answer hcall _
    cases hcall
    exact Or.inl rfl
  spooled _ _ hcall := nomatch congrArg Event.op hcall
  reached _ _ _ := rfl
  governed _ _ hop := nomatch hop

theorem suits_marked {routeId : String} :
    Suits gateway repository routeId
      (⟨.configuration (.markRouteSuccess "route"), .ok ()⟩ : Event (application Unit))
      .fallback where
  resolved _ _ hcall := nomatch congrArg Event.op hcall
  recorded _ _ hcall := nomatch congrArg Event.op hcall
  spooled _ _ hcall := nomatch congrArg Event.op hcall
  reached _ _ _ := rfl
  governed _ _ hop := nomatch hop

/-- The probe is executed, recorded in the spool and marked, and its request ends. -/
theorem answered_probe_returned :
    ((probing.recordAttempt 1 answered).markRouteSuccess "route").NoneHalfOpen := by
  have hloaded : loaded.NoneHalfOpen := by
    intro route hroute
    rw [List.mem_singleton.mp hroute]
    decide
  have hresolve : @Answers Unit id false (.resolve .envKey) probing (.ok "secret") .fallback
      probing := .elsewhere (fun _ hop => by cases hop) probing _
  have hexecute : @Answers Unit id false (.execute ControlPlane.onlyRoute request "secret") probing
      (.ok (.complete .null none)) .fallback probing :=
    .elsewhere (fun _ hop => by cases hop) probing _
  have hidentify : @Answers Unit id false .newAttemptId probing AttemptId.least .fallback probing :=
    .elsewhere (fun _ hop => by cases hop) probing _
  have hresolved := asks_step (reachable_probing hloaded) hresolve fun _ _ => suits_of_quiet
    (by intro _ _ hcall; cases hcall; rfl) (fun _ => nofun) fun _ => nofun
  have hexecuted := asks_step hresolved hexecute fun _ _ => suits_of_quiet
    (by intro _ _ hcall; cases hcall) (fun _ => nofun) fun _ => nofun
  have hidentified := asks_step hexecuted hidentify fun _ _ => suits_of_quiet
    (by intro _ _ hcall; cases hcall) (fun _ => nofun) fun _ => nofun
  have hrecorded := asks_step hidentified (.snapshot 1 (.recordAttempt answered) probing)
    fun _ _ => suits_recorded
  have hmarked := asks_step hrecorded
    (.snapshot 1 (.markRouteSuccess "route") (probing.recordAttempt 1 answered))
    fun _ _ => suits_marked
  exact probes_returned gateway id false (returns_step hmarked fun _ => nofun) idle_alone

/-- The credential of the route is missing: the request ends, and the route stays half open. -/
theorem unresolved_probe_kept :
    ¬ ∀ w : Traffic Unit Unit, (traffic Unit Unit gateway id false fun _ => True).Reachable w →
      w.Idle → w.repository.NoneHalfOpen := by
  intro h
  have hrun := @reachable_probing (fun _ => True) trivial
  obtain ⟨w₀, ls, hinit, hsteps⟩ := hrun
  have hprobing : (traffic Unit Unit gateway id false fun _ => True).Reachable
      (alone probing
        (some (.inferring (gateway.tryCandidates request [ControlPlane.onlyRoute] none))) handed) :=
    ⟨w₀, ls, hinit, hsteps.of_restrict⟩
  have hresolve : @Answers Unit id false (.resolve .envKey) probing (.error "missing") .fallback
      probing := .elsewhere (fun _ hop => by cases hop) probing _
  have hreturned := (hprobing.step (alone_asks hresolve)).step (alone_returns fun _ => nofun)
  exact h _ hreturned idle_alone ControlPlane.onlyRoute List.mem_cons_self rfl
    (SnapshotRepository.probeTaken_iff.mpr rfl)

end LoneProbe

end SmartGateway
