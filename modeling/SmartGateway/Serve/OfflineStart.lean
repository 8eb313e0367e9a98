import SmartGateway.Routing.RouteStore
import SmartGateway.Runtime.SnapshotSafety
import SmartGateway.Runtime.SnapshotWrites
import SmartGateway.Serve.SnapshotReads

/-! # Starting without the database

`serve_postgres` reads the control plane, saves the snapshot and serves; without the database it
starts from the snapshot of an earlier start. Any number of processes do that, each can fail or
stop at any call, the machine can crash, and others go on working with the database. What a
gateway offers without the database is configured there all the same.
-/

namespace SmartGateway

/-! ## Processes that start one after the other, and at once -/

/-- The database with the processes that read it, the data they have read, and the directory of
the snapshot with the processes that save and load. -/
structure Deployment (codec : SnapshotCodec) (path : SnapshotPath) where
  reads : Concurrent.World Postgres.reading
  taken : List Postgres.ControlSnapshotData
  files : Concurrent.World ((lastKnownGood codec).calls path)

namespace Deployment

variable {codec : SnapshotCodec} {path : SnapshotPath}

inductive Label (codec : SnapshotCodec) (path : SnapshotPath) where
  | read (label : Concurrent.Label Postgres.reading)
  | file (label : Concurrent.Label ((lastKnownGood codec).calls path))

/-- The data a step returns to its process. -/
def returned : Concurrent.Label Postgres.reading → Option Postgres.ControlSnapshotData
  | .finish _ _ (.ok data) => some data
  | _ => none

/-- What is saved was read before. -/
inductive Does : Deployment codec path → Label codec path → Deployment codec path → Prop where
  | read {d : Deployment codec path} {l : Concurrent.Label Postgres.reading}
      {reads : Concurrent.World Postgres.reading} (h : Postgres.reading.Step d.reads l reads) :
      Does d (.read l) ⟨reads, d.taken ++ (returned l).toList, d.files⟩
  | file {d : Deployment codec path} {l : Concurrent.Label ((lastKnownGood codec).calls path)}
      {files : Concurrent.World ((lastKnownGood codec).calls path)}
      (h : ((lastKnownGood codec).calls path).Step d.files l files)
      (hsaved : ∀ id uuid snapshot, l = .start id (.save uuid snapshot) →
        ∃ data ∈ d.taken, snapshot = controlSnapshot data) :
      Does d (.file l) ⟨d.reads, d.taken, files⟩

/-- From an empty database, and a directory without a snapshot. -/
def runs (codec : SnapshotCodec) (path : SnapshotPath) :
    Transition (Deployment codec path) (Label codec path) where
  Init d := Postgres.reads.Init d.reads ∧ d.taken = [] ∧
    ((lastKnownGood codec).runs path).Init d.files ∧ d.files.shared.file path.fileName = none
  Step := Does

variable {d₀ d d' : Deployment codec path} {ls : List (Label codec path)}

def fileLabel : Label codec path → Option (Concurrent.Label ((lastKnownGood codec).calls path))
  | .file l => some l
  | .read _ => none

/-- The steps in the directory. -/
theorem steps_files (hrun : (runs codec path).Steps d₀ ls d) :
    ((lastKnownGood codec).runs path).Steps d₀.files (ls.filterMap fileLabel) d.files := by
  induction hrun with
  | refl => exact .refl _
  | tail _ hstep ih =>
    rw [List.filterMap_append]
    cases hstep with
    | read h => exact (List.append_nil _).symm ▸ ih
    | file h _ => exact ih.tail h

theorem mem_fileLabels {l : Concurrent.Label ((lastKnownGood codec).calls path)} :
    l ∈ ls.filterMap fileLabel ↔ .file l ∈ ls := by
  constructor
  · intro h
    obtain ⟨label, hlabel, heq⟩ := List.mem_filterMap.mp h
    cases label with
    | read l' => cases heq
    | file l' =>
      cases heq
      exact hlabel
  · intro h
    exact List.mem_filterMap.mpr ⟨_, h, rfl⟩

/-- What is saved in a run was read in it. -/
theorem started_of_run (hrun : (runs codec path).Steps d₀ ls d) {snapshot : ControlSnapshot}
    (h : (lastKnownGood codec).Started (ls.filterMap fileLabel) snapshot) :
    ∃ data ∈ d.taken, snapshot = controlSnapshot data := by
  obtain ⟨id, uuid, hmem⟩ := h
  have hstart := mem_fileLabels.mp hmem
  clear hmem
  induction hrun with
  | refl => cases hstart
  | tail _ hstep ih =>
    rcases List.mem_append.mp hstart with hearlier | hnow
    · obtain ⟨data, hdata, heq⟩ := ih hearlier
      refine ⟨data, ?_, heq⟩
      cases hstep with
      | read h => exact List.mem_append_left _ hdata
      | file h _ => exact hdata
    · rw [← List.mem_singleton.mp hnow] at hstep
      cases hstep with
      | file h hsaved => exact hsaved id uuid snapshot rfl

/-- The steps of processes that read are steps of the deployment. -/
theorem steps_of_reads {w : Concurrent.World Postgres.reading}
    {rs : List (Concurrent.Label Postgres.reading)} (h : Postgres.reads.Steps d.reads rs w) :
    (runs codec path).Steps d (rs.map .read) ⟨w, d.taken ++ rs.filterMap returned, d.files⟩ := by
  induction h with
  | refl =>
    rw [List.filterMap_nil, List.append_nil]
    exact .refl d
  | @tail _ _ rs l _ hstep ih =>
    have hlast := ih.tail (.read hstep)
    have htaken : (rs ++ [l]).filterMap returned =
        rs.filterMap returned ++ (returned l).toList := by
      rw [List.filterMap_append]
      cases hreturned : returned l <;> simp [hreturned]
    rw [List.map_append, htaken, ← List.append_assoc]
    exact hlast

/-- The steps of processes that save what was read, or load, are steps of the deployment. -/
theorem steps_of_files {w : Concurrent.World ((lastKnownGood codec).calls path)}
    {fs : List (Concurrent.Label ((lastKnownGood codec).calls path))}
    (h : ((lastKnownGood codec).runs path).Steps d.files fs w)
    (hsaved : ∀ snapshot, (lastKnownGood codec).Started fs snapshot →
      ∃ data ∈ d.taken, snapshot = controlSnapshot data) :
    (runs codec path).Steps d (fs.map .file) ⟨d.reads, d.taken, w⟩ := by
  induction h with
  | refl => exact .refl d
  | @tail _ _ fs l _ hstep ih =>
    rw [List.map_append]
    refine (ih ?_).tail (.file hstep ?_)
    · rintro snapshot ⟨id, uuid, hstart⟩
      exact hsaved snapshot ⟨id, uuid, List.mem_append_left _ hstart⟩
    · rintro id uuid snapshot rfl
      exact hsaved snapshot ⟨id, uuid, List.mem_append_right _ (List.mem_singleton_self _)⟩

/-! ## What holds of every deployment -/

/-- What every process knows, and everything that was read, is true of the database. -/
structure Sound (d : Deployment codec path) : Prop where
  separate : Postgres.SeparateReads d.reads
  taken : ∀ data ∈ d.taken, data.Reflects d.reads.shared

theorem Sound.init (h : (runs codec path).Init d) : d.Sound := by
  obtain ⟨⟨hempty, -, hidle⟩, htaken, -⟩ := h
  refine ⟨.of_idle (.init hempty) hidle, ?_⟩
  intro data hdata
  rw [htaken] at hdata
  cases hdata

theorem Sound.step (h : d.Sound) {l : Label codec path} (hstep : Does d l d') : d'.Sound := by
  cases hstep with
  | file hfile _ => exact ⟨h.separate, h.taken⟩
  | @read l reads hread =>
    refine ⟨Postgres.owned_reading.step h.separate (fun _ _ _ => trivial) hread, ?_⟩
    intro data hdata
    rcases List.mem_append.mp hdata with hold | hnew
    · exact (h.taken data hold).grows (Postgres.grows_of_read hread)
    · -- the step is the end of the read
      rw [Option.mem_toList] at hnew
      cases l with
      | finish id name result =>
        cases result with
        | error error => cases hnew
        | ok result =>
          cases hnew
          exact (Postgres.reflects_of_finish h.separate hread).grows (Postgres.grows_of_read hread)
      | _ => cases hnew

theorem sound_of_run (hinit : (runs codec path).Init d₀) (hrun : (runs codec path).Steps d₀ ls d) :
    d.Sound := by
  induction hrun with
  | refl => exact Sound.init hinit
  | tail _ hstep ih => exact ih.step hstep

theorem fits_of_reflects {data : Postgres.ControlSnapshotData} {db : Postgres.Database}
    (h : data.Reflects db) (hstored : db.Stored) : (controlSnapshot data).Fits where
  routes := by
    intro route hroute
    obtain ⟨row, hrow, rfl⟩ := h.routes route hroute
    exact hstored.priorities _ (Postgres.Database.mem_snapshotRows hrow)
  routeStates := by
    intro row hrow
    obtain ⟨source, hsource, rfl⟩ := List.mem_map.mp hrow
    exact h.retries.1 source hsource
  accountStates := by
    intro row hrow
    obtain ⟨source, hsource, rfl⟩ := List.mem_map.mp hrow
    exact h.retries.2 source hsource

/-- What is loaded in a run was read in it, as far as `serde_json` parses what it prints. -/
theorem loaded_of_run (hinit : (runs codec path).Init d₀) (hrun : (runs codec path).Steps d₀ ls d)
    (hprint : ∀ data ∈ d.taken, (lastKnownGood codec).PrintsBack (controlSnapshot data))
    {id : ℕ} {loaded : ControlSnapshot} (hload : .file (.finish id .load (.ok loaded)) ∈ ls) :
    ∃ data ∈ d.taken, loaded = (controlSnapshot data).sorted := by
  have hsound := sound_of_run hinit hrun
  rcases LastKnownGoodSnapshot.loaded_of_run hinit.2.2.1 (steps_files hrun)
    (mem_fileLabels.mpr hload) with ⟨error, -, hresult⟩ | ⟨inode, hsaved, hresult⟩
  · cases hresult
  rcases hsaved with hinitial | ⟨snapshot, hstarted, hharmless, hfile⟩
  · rw [hinit.2.2.2] at hinitial
    cases hinitial
  · obtain ⟨data, hdata, rfl⟩ := started_of_run hrun hstarted
    have hfits := fits_of_reflects (hsound.taken data hdata)
      (Postgres.stored_of_reachable hsound.separate.shared)
    have hloaded := LastKnownGoodSnapshot.load_envelope (hprint data hdata) hharmless
      hfits.ofValue_toValue
    cases hfile
    refine ⟨data, hdata, ?_⟩
    have hsame := hresult.trans hloaded
    cases hsame
    rfl

end Deployment

/-! ## What a gateway does without the database -/

namespace SnapshotRepository

variable {data : Postgres.ControlSnapshotData} {db : Postgres.Database} {digest : String → String}
  {calls : List (Int × RepositoryOp)} {usageSpool : DurableUsageSpool}

theorem snapshot_after (digest : String → String) (calls : List (Int × RepositoryOp))
    (repository : SnapshotRepository) :
    ((atomic digest).after calls repository).snapshot = repository.snapshot :=
  AtomicRepository.after_preserves (I := fun s => s.snapshot = repository.snapshot)
    (fun _ => True) (fun now op s hs _ => (handle_snapshot digest now op s).trans hs)
    (fun _ _ => trivial) rfl

/-- The model of an offered route is the requested one or one of its fallbacks. -/
theorem model_of_offered {repository : SnapshotRepository} {now : Int} {logicalModel : String}
    {routes : List RouteCandidate} {route : RouteCandidate}
    (h : (repository.candidates now logicalModel).1 = .ok routes) (hroute : route ∈ routes) :
    FallsBackTo repository.snapshot.fallbacks logicalModel route.logicalModel := by
  cases hplan : candidatePlan logicalModel repository.closedRoutes
      repository.snapshot.fallbacks with
  | ok plan =>
    rw [candidates_closed hplan] at h
    cases h
    exact ((mem_candidatePlan hplan route).mp hroute).2
  | error error =>
    rcases candidates_probe now hplan with ⟨error', -, hresult⟩ | ⟨probe, rest, hretry, hresult⟩
    · rw [hresult] at h
      cases h
    · rw [hresult] at h
      cases h
      rw [List.mem_singleton.mp hroute]
      exact ((mem_candidatePlan hretry probe).mp List.mem_cons_self).2

theorem complete_of_reflects (h : data.Reflects db) :
    (new (controlSnapshot data).sorted usageSpool).Complete := by
  intro route hroute
  obtain ⟨hrouteState, haccountState⟩ := h.states route hroute
  constructor
  · show (controlSnapshot data).routeStates.sorted.get? route.routeId ≠ none
    rw [KeyedTable.get?_sorted]
    show (data.routeStates.mapValues _).get? _ ≠ none
    rw [KeyedTable.get?_mapValues, Ne, Option.map_eq_none_iff]
    exact hrouteState
  · show (controlSnapshot data).accountStates.sorted.get? route.providerAccountId ≠ none
    rw [KeyedTable.get?_sorted]
    show (data.accountStates.mapValues _).get? _ ≠ none
    rw [KeyedTable.get?_mapValues, Ne, Option.map_eq_none_iff]
    exact haccountState

theorem fallsBackTo_of_reflects (h : data.Reflects db) {model target : String}
    (hpath : FallsBackTo (controlSnapshot data).sorted.fallbacks model target) :
    FallsBackTo db.fallbackMap model target := by
  refine Relation.ReflTransGen.mono (fun source next hedge => h.fallbacks source next ?_) _ _ hpath
  have hnext : (controlSnapshot data).fallbacks.sorted.get? source = data.fallbacks.get? source :=
    KeyedTable.get?_sorted _ source
  rw [nextModels, ← hnext]
  exact hedge

end SnapshotRepository

/-- What holds of a gateway that was started from a snapshot, whatever calls it has taken since. -/
structure ServesConfigured (digest : String → String) (db : Postgres.Database)
    (repository : SnapshotRepository) (calls : List (Int × RepositoryOp)) : Prop where
  keys : ∀ rawKey, (((SnapshotRepository.atomic digest).after calls repository).authenticate digest
    rawKey) = true → db.keyEnabled (digest rawKey) = true
  routes : ∀ now model routes,
    (((SnapshotRepository.atomic digest).after calls repository).candidates now model).1 =
      .ok routes →
    SnapshotRepository.SafeOffer digest repository calls now routes ∧
    ∀ route ∈ routes, FallsBackTo db.fallbackMap model route.logicalModel ∧
      ∃ row ∈ db.snapshotRows, route = row.candidate

/-- A gateway that starts without the database serves from a snapshot that was read before, and
the database has had everything in it ever since: it accepts only keys that are enabled there, and
offers only enabled routes of the requested model and its fallbacks, each closed or due. -/
theorem offline_start_serves_configured {codec : SnapshotCodec} {path : SnapshotPath}
    {d₀ d : Deployment codec path} {ls : List (Deployment.Label codec path)}
    (hinit : (Deployment.runs codec path).Init d₀)
    (hrun : (Deployment.runs codec path).Steps d₀ ls d)
    (hprint : ∀ data ∈ d.taken, (lastKnownGood codec).PrintsBack (controlSnapshot data))
    {id : ℕ} {loaded : ControlSnapshot} (hload : .file (.finish id .load (.ok loaded)) ∈ ls)
    (digest : String → String) (usageSpool : DurableUsageSpool)
    (calls : List (Int × RepositoryOp)) :
    ServesConfigured digest d.reads.shared (.new loaded usageSpool) calls := by
  -- what was loaded was read at some time, and the configuration has only grown since
  obtain ⟨data, hdata, rfl⟩ := Deployment.loaded_of_run hinit hrun hprint hload
  have hreflects := (Deployment.sound_of_run hinit hrun).taken data hdata
  have hsnapshot := SnapshotRepository.snapshot_after digest calls
    (.new (controlSnapshot data).sorted usageSpool)
  refine ⟨?_, ?_⟩
  · intro rawKey hkey
    unfold SnapshotRepository.authenticate at hkey
    rw [hsnapshot] at hkey
    exact hreflects.keys _ (List.mem_toFinset.mp (of_decide_eq_true hkey))
  · intro now model routes hroutes
    have hcomplete : (SnapshotRepository.new (controlSnapshot data).sorted usageSpool).Complete :=
      SnapshotRepository.complete_of_reflects hreflects
    refine ⟨SnapshotRepository.safeOffer hcomplete hroutes, fun route hroute => ⟨?_, ?_⟩⟩
    · have hpath := SnapshotRepository.model_of_offered hroutes hroute
      rw [hsnapshot] at hpath
      exact SnapshotRepository.fallsBackTo_of_reflects hreflects hpath
    · have hmem := SnapshotRepository.mem_of_offered hroutes hroute
      rw [hsnapshot] at hmem
      exact hreflects.routes route hmem

/-! A control plane is read while it changes, saved, and loaded by a gateway that starts without the
database. -/

namespace MixedRead

def snapshot : ControlSnapshot := controlSnapshot Postgres.mixedData

/-- The text and the digest of the snapshot. -/
def codec : SnapshotCodec :=
  .ofText snapshot.toValue
    ("\x7b\"account_states\":\x7b\"account\":\x7b\"retry_at_unix\":null," ++
      "\"state\":\"unknown\"\x7d\x7d,\"fallbacks\":\x7b\x7d," ++
      "\"gateway_key_hashes\":[\"3bd59d24e372a8558630c96647c913ec304d205065519b26ee8820212a8dd899\"]," ++
      "\"route_states\":\x7b\"first\":\x7b\"retry_at_unix\":null,\"state\":\"closed\"\x7d," ++
      "\"second\":\x7b\"retry_at_unix\":null,\"state\":\"closed\"\x7d\x7d," ++
      "\"routes\":[\x7b\"base_url\":\"https://host\",\"credential_ref\":\"env:KEY\"," ++
      "\"logical_model\":\"model\",\"priority\":1,\"provider\":\"openai\"," ++
      "\"provider_account_id\":\"account\",\"route_id\":\"first\"," ++
      "\"upstream_model\":\"upstream\"\x7d,\x7b\"base_url\":\"https://host\"," ++
      "\"credential_ref\":\"env:KEY\",\"logical_model\":\"model\",\"priority\":2," ++
      "\"provider\":\"openai\",\"provider_account_id\":\"account\",\"route_id\":\"second\"," ++
      "\"upstream_model\":\"upstream\"\x7d]\x7d")
    "ec2b4701f30c78f4eb34382d760f48e70fa11cff475fe7ae911552713244e3cd"

def path : SnapshotPath := ⟨some "/var/lib/smart-llm-gateway", "last-known-good.json"⟩

def emptyDirectory : FileSystem String String :=
  ⟨some .ownerOnly, fun _ => none, [], fun _ => ⟨"", .inherited, true⟩, 0⟩

def start : Deployment codec path :=
  ⟨Postgres.idleReads, [], ⟨emptyDirectory, 0, fun _ => none⟩⟩

theorem init_start : (Deployment.runs codec path).Init start := by
  refine ⟨Postgres.init_idleReads, rfl, ⟨⟨rfl, ?_, fun _ => rfl⟩, rfl, fun _ => rfl⟩, rfl⟩
  intro name file hfile
  cases hfile

theorem exists_reads : ∃ ls w, Postgres.reads.Steps Postgres.idleReads ls w ∧
    w.shared = Postgres.twoRoutes ∧ .finish 0 () (.ok Postgres.mixedData) ∈ ls ∧
      ∀ l ∈ ls, ∀ data, Deployment.returned l = some data → data = Postgres.mixedData := by
  obtain ⟨before, hbefore, hambient⟩ := Postgres.exists_oneKey
  obtain ⟨ls, w, hsteps, hshared, hfinish, halone⟩ := Postgres.exists_mixed
  refine ⟨_, w, hbefore.append hsteps, hshared,
    List.mem_append_right _ (List.mem_cons_of_mem _ hfinish), ?_⟩
  intro l hl data hreturned
  rcases List.mem_append.mp hl with hearly | hl
  · rw [hambient l hearly] at hreturned
    cases hreturned
  · rcases List.mem_cons.mp hl with rfl | hlater
    · cases hreturned
    · rcases halone l hlater with (⟨e, rfl⟩ | rfl) | rfl
      · cases hreturned
      · cases hreturned
        rfl
      · cases hreturned

/-- The control plane is read. -/
theorem exists_read : ∃ ls d, (Deployment.runs codec path).Steps start ls d ∧
    d.reads.shared = Postgres.twoRoutes ∧ Postgres.mixedData ∈ d.taken ∧
    (∀ data ∈ d.taken, data = Postgres.mixedData) ∧ d.files = start.files := by
  obtain ⟨ls, w, hsteps, hshared, hfinish, hreturned⟩ := exists_reads
  have hrun := Deployment.steps_of_reads (d := start) hsteps
  refine ⟨_, _, hrun, hshared, List.mem_filterMap.mpr ⟨_, hfinish, rfl⟩, ?_, rfl⟩
  intro data hdata
  obtain ⟨l, hl, hdata⟩ := List.mem_filterMap.mp hdata
  exact hreturned l hl data hdata

theorem reachable_twoRoutes : Postgres.history.Reachable Postgres.twoRoutes := by
  obtain ⟨ls, w, hsteps, hshared, -, -⟩ := exists_reads
  exact hshared ▸ (Postgres.separate_of_reads Postgres.init_idleReads hsteps).shared

theorem fits_snapshot : snapshot.Fits := by
  have hfits := Postgres.fits_controlSnapshot (Postgres.stored_of_reachable reachable_twoRoutes)
  exact ⟨hfits.routes, hfits.routeStates, hfits.accountStates⟩

theorem exists_loaded : ∃ ls d id, (Deployment.runs codec path).Steps start ls d ∧
    d.reads.shared = Postgres.twoRoutes ∧ (∀ data ∈ d.taken, data = Postgres.mixedData) ∧
    .file (.finish id .load (.ok snapshot.sorted)) ∈ ls := by
  obtain ⟨rs, d, hread, hdatabase, hmem, htaken, hfiles⟩ := exists_read
  have hscan : rejectSensitiveFields snapshot.toValue = .ok () := by decide +kernel
  obtain ⟨s, hsave, hfile⟩ : ∃ s, Program.Runs
      (((lastKnownGood codec).calls path).Effect (.save "u" snapshot))
      (((lastKnownGood codec).calls path).body (.save "u" snapshot)) emptyDirectory (.ok ()) s ∧
      s.file path.fileName = some ((lastKnownGood codec).savedFile snapshot) :=
    LastKnownGoodSnapshot.runs_saveFile (by simp [emptyDirectory]) rfl (by simp [path]) hscan
  -- the snapshot is saved, and loaded from the file that is left
  obtain ⟨saves, w, hsaves, hshared, -, hsaving⟩ := Concurrent.exists_steps_of_runs
    (C := (lastKnownGood codec).calls path) (w := start.files) hsave
  have hkept : w.shared.file path.fileName =
      some ((lastKnownGood codec).savedFile snapshot) := hshared ▸ hfile
  have hload : Program.Runs (((lastKnownGood codec).calls path).Effect .load)
      (((lastKnownGood codec).calls path).body .load) w.shared
      ((lastKnownGood codec).load (some ((lastKnownGood codec).savedFile snapshot).content))
      w.shared :=
    LastKnownGoodSnapshot.runs_loadFile hkept
  obtain ⟨loads, w', hloads, -, hfinish, hloading⟩ := Concurrent.exists_steps_of_runs hload
  have hloaded : (lastKnownGood codec).load
      (some ((lastKnownGood codec).savedFile snapshot).content) = .ok snapshot.sorted :=
    LastKnownGoodSnapshot.load_envelope rfl hscan fits_snapshot.ofValue_toValue
  have hrun : ((lastKnownGood codec).runs path).Steps d.files _ w' :=
    hfiles ▸ hsaves.append hloads
  refine ⟨_, ⟨d.reads, d.taken, w'⟩, w.next,
    hread.append (Deployment.steps_of_files hrun ?_), hdatabase, htaken, ?_⟩
  · -- what is saved was returned by a read before
    rintro other ⟨id, uuid, hstart⟩
    simp only [List.cons_append, List.mem_cons, List.mem_append] at hstart
    rcases hstart with hstart | hstart | hstart | hstart
    · cases hstart
      exact ⟨_, hmem, rfl⟩
    · exact absurd hstart (Concurrent.not_start_of_alone hsaving _ _)
    · cases hstart
    · exact absurd hstart (Concurrent.not_start_of_alone hloading _ _)
  · rw [hloaded] at hfinish
    refine List.mem_append_right _ (List.mem_map_of_mem ?_)
    exact List.mem_append_right _ (List.mem_cons_of_mem _ hfinish)

/-- What was read while the database changed is served. -/
theorem serves_mixed : snapshot.routes.map RouteCandidate.routeId = ["first", "second"] ∧
    ∀ digest calls,
      ServesConfigured digest Postgres.twoRoutes (.new snapshot.sorted .empty) calls := by
  obtain ⟨ls, d, id, hrun, hdatabase, htaken, hload⟩ := exists_loaded
  refine ⟨by decide +kernel, fun digest calls => ?_⟩
  rw [← hdatabase]
  refine offline_start_serves_configured init_start hrun ?_ hload digest .empty calls
  intro data hdata
  rw [htaken data hdata]
  rfl

end MixedRead

end SmartGateway
