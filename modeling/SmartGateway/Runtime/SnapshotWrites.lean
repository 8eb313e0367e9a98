import SmartGateway.Lib.FileSystem
import SmartGateway.Runtime.LastKnownGood

/-! # Saving a snapshot, call by call

`save` writes a temporary file beside the snapshot, syncs it and renames it over the snapshot.
Several processes can do that at once, each can fail or stop at any call, and the machine can
crash in between: the snapshot is at any time the old one or one that was saved, as a whole.
Without a crash it is what the saves of the model of `LastKnownGood` leave, one after the other
in the order of their renamings.
-/

namespace SmartGateway

open Program (perform)
open FileSystem (created issued Replaces Intact Knows Confidential)

/-- Where a snapshot is kept: the directory, unless the path has no parent, and the name of the
file in it. -/
structure SnapshotPath where
  parent : Option String
  fileName : String

/-- The name of the temporary file that is written with the given UUID. -/
def SnapshotPath.temporary (path : SnapshotPath) (uuid : String) : String :=
  "." ++ path.fileName ++ "." ++ uuid ++ ".tmp"

theorem SnapshotPath.temporary_ne (path : SnapshotPath) (uuid : String) :
    path.temporary uuid ≠ path.fileName := by
  intro h
  have hlength := congrArg String.length h
  simp only [temporary, String.length_append] at hlength
  have hdot : ".".length = 1 := rfl
  omega

/-- The calls that are made of the directory; a content is a text. -/
abbrev snapshotCalls : Signature := fileCalls String String

namespace LastKnownGoodSnapshot

variable {T : Type} (store : LastKnownGoodSnapshot T) (path : SnapshotPath)

/-! ## The methods -/

/-- The bytes of the file of a snapshot. -/
def bytes (snapshot : T) : String := store.print (store.envelope (store.toValue snapshot)).toValue

/-- The rest of `save` once the directory is there. -/
def replaceFile (uuid bytes : String) : Program snapshotCalls (Except String Unit) :=
  (perform (S := snapshotCalls) (.createNew (path.temporary uuid))).andThen fun file =>
  (perform (S := snapshotCalls) (.restrictFile file)).andThen fun _ =>
  (perform (S := snapshotCalls) (.writeAll file bytes)).andThen fun _ =>
  (perform (S := snapshotCalls) (.syncAll file)).andThen fun _ =>
  perform (S := snapshotCalls) (.rename (path.temporary uuid) path.fileName)

/-- `save`, with the UUID it draws for its temporary file. -/
def saveFile (uuid : String) (snapshot : T) : Program snapshotCalls (Except String Unit) :=
  match rejectSensitiveFields (store.toValue snapshot) with
  | .error error => .pure (.error error)
  | .ok () =>
    match path.parent with
    | none => .pure (.error "snapshot path has no parent")
    | some _ =>
      (perform (S := snapshotCalls) .parentExists).bind fun parentExists =>
      (perform (S := snapshotCalls) .createDirAll).andThen fun _ =>
      if parentExists then replaceFile path uuid (store.bytes snapshot)
      else
        (perform (S := snapshotCalls) .restrictDirectory).andThen fun _ =>
        replaceFile path uuid (store.bytes snapshot)

/-- `load`. -/
def loadFile : Program snapshotCalls (Except String T) :=
  (perform (S := snapshotCalls) (.read path.fileName)).andThen fun bytes =>
  .pure (store.load (some bytes))

end LastKnownGoodSnapshot

/-! ## Processes that save and load -/

inductive SnapshotCall (T : Type) where
  | save (uuid : String) (snapshot : T)
  | load

namespace LastKnownGoodSnapshot

variable {T : Type} (store : LastKnownGoodSnapshot T) (path : SnapshotPath)

/-- Any number of saves and loads at once, on a machine that can crash. -/
def calls : Concurrent snapshotCalls (FileSystem String String) (SnapshotCall T) where
  Ret
    | .save _ _ => Except String Unit
    | .load => Except String T
  body
    | .save uuid snapshot => store.saveFile path uuid snapshot
    | .load => store.loadFile path
  Effect _ op s answer s' := FileSystem.Effect op s answer s'
  Ambient s ended s' := s.Crash s' ∧ ∀ name, ended name

/-- After a start of the machine: what is in the directory is on the disk. -/
structure Booted (s : FileSystem String String) : Prop where
  earlier : s.earlier = []
  issued : ∀ name file, s.entries name = some file → issued s file
  synced : ∀ file, (s.inodes file).synced = true

def runs : Transition (Concurrent.World (store.calls path)) (Concurrent.Label (store.calls path)) :=
  (store.calls path).toTransition Booted

/-- The file of a saved snapshot. -/
def savedFile (snapshot : T) : Inode String := ⟨store.bytes snapshot, .ownerOnly, true⟩

/-- The snapshots of `saved` that pass the scan, or what was there before. -/
def Saved (initial : Option (Inode String)) (saved : T → Prop) (file : Option (Inode String)) :
    Prop :=
  file = initial ∨ ∃ snapshot, saved snapshot ∧ Harmless (store.toValue snapshot) ∧
    file = some (store.savedFile snapshot)

/-- What a call may put in the place of the snapshot. -/
def Puts : SnapshotCall T → Option (Inode String) → Prop
  | .save _ snapshot, file =>
    Harmless (store.toValue snapshot) ∧ file = some (store.savedFile snapshot)
  | .load, _ => False

/-- Calls that save one of `saved`, or load. -/
def SavesOnly (saved : T → Prop) : SnapshotCall T → Prop
  | .save _ snapshot => saved snapshot
  | .load => True

variable {store path} {initial : Option (Inode String)} {saved : T → Prop}

/-! ## The discipline of `save` -/

/-- What a call tells with its result. -/
def Reports (store : LastKnownGoodSnapshot T) (path : SnapshotPath) (name : SnapshotCall T)
    (past : List (Event snapshotCalls)) (result : (store.calls path).Ret name) : Prop :=
  match name, result with
  | .save uuid _, result =>
    result = .ok () ↔ ⟨.rename (path.temporary uuid) path.fileName, .ok ()⟩ ∈ past
  | .load, result =>
    (∃ error, ⟨.read path.fileName, .error error⟩ ∈ past ∧ result = .error error) ∨
      ∃ bytes, ⟨.read path.fileName, .ok bytes⟩ ∈ past ∧ result = store.load (some bytes)

/-- A save that fails has not renamed its file. -/
theorem reports_error {past : List (Event snapshotCalls)} (h : ∀ e ∈ past, e.op.renames = false)
    (uuid error : String) (snapshot : T) :
    store.Reports path (.save uuid snapshot) past (.error error) := by
  constructor
  · intro hok
    cases hok
  · intro hrenamed
    have hnot := h _ hrenamed
    cases hnot

theorem forall_snoc {P : Event snapshotCalls → Prop} {past : List (Event snapshotCalls)}
    (h : ∀ e ∈ past, P e) (last : Event snapshotCalls) (hlast : P last) :
    ∀ e ∈ past ++ [last], P e := by
  intro e he
  rcases List.mem_append.mp he with hearlier | hnow
  · exact h e hearlier
  · rw [List.mem_singleton.mp hnow]
    exact hlast

theorem always_replaceFile {uuid : String} {snapshot : T} {past : List (Event snapshotCalls)}
    (hpast : ∀ e ∈ past, e.op.settles = false) (hharmless : Harmless (store.toValue snapshot)) :
    (replaceFile path uuid (store.bytes snapshot)).Always
      (Replaces path.fileName (store.Puts (.save uuid snapshot)))
      (store.Reports path (.save uuid snapshot)) past := by
  have hrenames := FileSystem.renames_of_settles hpast
  refine ⟨path.temporary_ne uuid, fun answer => ?_⟩
  have hrenames := forall_snoc hrenames ⟨.createNew (path.temporary uuid), answer⟩ rfl
  rcases answer with error | file
  · exact reports_error hrenames uuid error snapshot
  -- the file is created
  have hpast := forall_snoc hpast ⟨.createNew (path.temporary uuid), .ok file⟩ rfl
  have hheld : ∀ later, file ∈ Concurrent.held (created (κ := String) (β := String))
      (past ++ [⟨.createNew (path.temporary uuid), .ok file⟩] ++ later) := by
    intro later
    exact FileSystem.mem_held_created
      (List.mem_append_left _ (List.mem_append_right _ (List.mem_singleton_self _)))
  refine ⟨⟨?_, hpast⟩, fun answer => ?_⟩
  · simpa using hheld []
  have hrenames := forall_snoc hrenames ⟨.restrictFile file, answer⟩ rfl
  have hpast := forall_snoc hpast ⟨.restrictFile file, answer⟩ rfl
  rcases answer with error | restricted
  · exact reports_error hrenames uuid error snapshot
  -- it is restricted before anything is written to it
  refine ⟨⟨hheld _, by simp, hpast⟩, fun answer => ?_⟩
  have hrenames := forall_snoc hrenames ⟨.writeAll file (store.bytes snapshot), answer⟩ rfl
  rcases answer with error | written
  · exact reports_error hrenames uuid error snapshot
  refine ⟨⟨?_, hrenames⟩, fun answer => ?_⟩
  · rw [List.append_assoc]
    exact hheld _
  have hrenames := forall_snoc hrenames ⟨.syncAll file, answer⟩ rfl
  rcases answer with error | synced
  · exact reports_error hrenames uuid error snapshot
  -- it is renamed once it is on the disk
  refine ⟨⟨rfl, hrenames, file, store.bytes snapshot, by simp, by simp, by simp, by simp,
    hharmless, rfl⟩, fun answer => ?_⟩
  rcases answer with error | renamed
  · constructor
    · intro hok
      cases hok
    · intro hrenamed
      rcases List.mem_append.mp hrenamed with hearlier | hnow
      · have hnot := hrenames _ hearlier
        cases hnot
      · cases List.mem_singleton.mp hnow
  · refine iff_of_true rfl ?_
    exact List.mem_append_right _ (List.mem_singleton_self _)

/-- Both calls keep to the discipline. -/
theorem always_body (name : SnapshotCall T) :
    ((store.calls path).body name).Always (Replaces path.fileName (store.Puts name))
      (store.Reports path name) [] := by
  cases name with
  | load =>
    refine ⟨trivial, fun answer => ?_⟩
    rcases answer with error | bytes
    · exact Or.inl ⟨error, List.mem_singleton_self _, rfl⟩
    · exact Or.inr ⟨bytes, List.mem_singleton_self _, rfl⟩
  | save uuid snapshot =>
    have hnone : ∀ e ∈ ([] : List (Event snapshotCalls)), e.op.settles = false := by
      intro e he
      cases he
    show (store.saveFile path uuid snapshot).Always _ _ []
    unfold saveFile
    split
    · exact reports_error (FileSystem.renames_of_settles hnone) uuid _ snapshot
    next hharmless =>
    split
    · exact reports_error (FileSystem.renames_of_settles hnone) uuid _ snapshot
    -- nothing is written before the directory is there
    refine ⟨trivial, fun parentExists => ⟨trivial, fun answer => ?_⟩⟩
    have hpast := forall_snoc (forall_snoc hnone ⟨.parentExists, parentExists⟩ rfl)
      ⟨.createDirAll, answer⟩ rfl
    rcases answer with error | made
    · exact reports_error (FileSystem.renames_of_settles hpast) uuid error snapshot
    cases parentExists with
    | true => exact always_replaceFile hpast hharmless
    | false =>
      refine ⟨trivial, fun answer => ?_⟩
      have hpast := forall_snoc hpast ⟨.restrictDirectory, answer⟩ rfl
      rcases answer with error | restricted
      · exact reports_error (FileSystem.renames_of_settles hpast) uuid error snapshot
      · exact always_replaceFile hpast hharmless

theorem saved_of_puts {name : SnapshotCall T} {file : Option (Inode String)}
    (hname : SavesOnly saved name) (h : store.Puts name file) : store.Saved initial saved file := by
  cases name with
  | save uuid snapshot => exact Or.inr ⟨snapshot, hname, h.1, h.2⟩
  | load => exact h.elim

/-- Whatever the calls do, each can rely on its own files and the snapshot stays whole. -/
theorem owned (store : LastKnownGoodSnapshot T) (path : SnapshotPath)
    (initial : Option (Inode String)) (saved : T → Prop) :
    (store.calls path).Owned (SavesOnly saved) created issued
      (Intact path.fileName (store.Saved initial saved))
      (fun _ => Knows path.fileName (store.Saved initial saved))
      fun name => Replaces path.fileName (store.Puts name) :=
  FileSystem.owned_of_replaces (fun _ hname _ => saved_of_puts hname)
    (fun name _ => ⟨_, always_body name⟩) (fun _ _ _ _ _ h => h) fun _ _ _ h => h

/-! ## Runs -/

/-- The snapshots that some call of a run was started to save. -/
def Started (ls : List (Concurrent.Label (store.calls path))) (snapshot : T) : Prop :=
  ∃ id uuid, .start id (.save uuid snapshot) ∈ ls

variable {w₀ w : Concurrent.World (store.calls path)}
  {ls : List (Concurrent.Label (store.calls path))}

theorem separate_init (hinit : (store.runs path).Init w₀) :
    (store.calls path).Separate (SavesOnly saved) created issued
      (Intact path.fileName (store.Saved (w₀.shared.file path.fileName) saved))
      (fun _ => Knows path.fileName (store.Saved (w₀.shared.file path.fileName) saved)) w₀ := by
  obtain ⟨hbooted, -, hidle⟩ := hinit
  refine Concurrent.Separate.of_idle ?_ hidle
  intro version hversion
  rw [FileSystem.versions, hbooted.earlier, List.mem_singleton] at hversion
  subst hversion
  refine ⟨Or.inl rfl, fun file hlinked => ?_⟩
  exact ⟨hbooted.issued path.fileName file hlinked, hbooted.synced file⟩

theorem savesOnly_started (ls : List (Concurrent.Label (store.calls path))) (id : ℕ)
    (name : SnapshotCall T) (hstart : .start id name ∈ ls) :
    SavesOnly (store.Started ls) name := by
  cases name with
  | save uuid snapshot => exact ⟨id, uuid, hstart⟩
  | load => trivial

theorem separate_of_run (hinit : (store.runs path).Init w₀)
    (hrun : (store.runs path).Steps w₀ ls w) :
    (store.calls path).Separate (SavesOnly (store.Started ls)) created issued
      (Intact path.fileName (store.Saved (w₀.shared.file path.fileName) (store.Started ls)))
      (fun _ => Knows path.fileName
        (store.Saved (w₀.shared.file path.fileName) (store.Started ls))) w :=
  (store.owned path _ _).steps hrun (savesOnly_started ls) (separate_init hinit)

/-! ## Whatever happens -/

theorem saved_of_run (hinit : (store.runs path).Init w₀) (hrun : (store.runs path).Steps w₀ ls w) :
    store.Saved (w₀.shared.file path.fileName) (store.Started ls) (w.shared.file path.fileName) :=
  (separate_of_run hinit hrun).shared.file

/-- A load fails with the error of its read, or gets a file that was the snapshot. -/
theorem loaded_of_run (hinit : (store.runs path).Init w₀) (hrun : (store.runs path).Steps w₀ ls w)
    {id : ℕ} {result : Except String T} (hfinish : .finish id .load result ∈ ls) :
    (∃ error, .call id .load ⟨.read path.fileName, .error error⟩ ∈ ls ∧ result = .error error) ∨
    ∃ inode, store.Saved (w₀.shared.file path.fileName) (store.Started ls) (some inode) ∧
      result = store.load (some inode.content) := by
  have howned := store.owned path (w₀.shared.file path.fileName) (store.Started ls)
  obtain ⟨past, s, hreports, hknows, hevents⟩ := howned.finished hinit hrun (savesOnly_started ls)
    (separate_init hinit) hfinish fun _ => always_body .load
  rcases hreports with ⟨error, herror, hresult⟩ | ⟨bytes, hbytes, hresult⟩
  · exact Or.inl ⟨error, (hevents _ _).mpr ⟨rfl, herror⟩, hresult⟩
  · obtain ⟨inode, hinode, hcontent⟩ := hknows _ hbytes rfl
    refine Or.inr ⟨inode, hinode, ?_⟩
    rw [hresult, hcontent]

/-- The snapshot is at any time what was there at the start or one that some call was started to
save, and so is what a load gets. -/
theorem snapshot_never_torn (hinit : (store.runs path).Init w₀)
    (hrun : (store.runs path).Steps w₀ ls w) :
    store.Saved (w₀.shared.file path.fileName) (store.Started ls) (w.shared.file path.fileName) ∧
    ∀ id result, .finish id .load result ∈ ls →
      (∃ error, .call id .load ⟨.read path.fileName, .error error⟩ ∈ ls ∧ result = .error error) ∨
      ∃ inode, store.Saved (w₀.shared.file path.fileName) (store.Started ls) (some inode) ∧
        result = store.load (some inode.content) :=
  ⟨saved_of_run hinit hrun, fun _ _ hfinish => loaded_of_run hinit hrun hfinish⟩

/-! ## Without a crash -/

/-- The snapshot whose file a step has put in the place of the old one. -/
def renamed : Concurrent.Label (store.calls path) → Option T
  | .call _ (.save _ snapshot) ⟨.rename _ _, .ok _⟩ => some snapshot
  | _ => none

/-- The content of the snapshot. -/
def content (path : SnapshotPath) (s : FileSystem String String) : Option String :=
  (s.file path.fileName).map Inode.content

/-- The content after the saves of some snapshots, one after the other. -/
def saveAll (store : LastKnownGoodSnapshot T) (snapshots : List T) (file : Option String) :
    Option String :=
  snapshots.foldl (fun file snapshot => (store.save snapshot file).2) file

theorem save_harmless {snapshot : T} (h : Harmless (store.toValue snapshot))
    (file : Option String) : store.save snapshot file = (.ok (), some (store.bytes snapshot)) := by
  unfold save
  rw [h]
  rfl

/-- A step that is no crash saves the snapshot whose file it renames, if any. -/
theorem content_of_step {l : Concurrent.Label (store.calls path)}
    {w w' : Concurrent.World (store.calls path)}
    (hw : (store.calls path).Separate (SavesOnly saved) created issued
      (Intact path.fileName (store.Saved initial saved))
      (fun _ => Knows path.fileName (store.Saved initial saved)) w)
    (hl : l ≠ .ambient) (hstep : (store.calls path).Step w l w') :
    content path w'.shared = store.saveAll (renamed l).toList (content path w.shared) := by
  rcases FileSystem.effect_of_step (store.owned path initial saved) (fun _ _ _ _ _ h => h) hw hl
    hstep with
    ⟨hshared, hquiet⟩ | ⟨id, name, past, op, answer, rfl, hname, hknows, hchecked, heffect⟩
  · have hnone : renamed l = none := by
      cases l with
      | call id name e => exact absurd rfl (hquiet id name e)
      | _ => rfl
    rw [hshared, hnone]
    rfl
  by_cases hrenamed : ∃ source,
      (⟨op, answer⟩ : Event snapshotCalls) = ⟨.rename source path.fileName, .ok ()⟩
  · -- the new file is the one of the snapshot
    obtain ⟨source, heq⟩ := hrenamed
    cases heq
    have hputs := FileSystem.file_of_rename hknows hchecked heffect
    cases name with
    | load => exact hputs.elim
    | save uuid snapshot =>
      obtain ⟨hharmless, hfile⟩ := hputs
      unfold content
      rw [hfile]
      show _ = (store.save snapshot _).2
      rw [save_harmless hharmless]
      rfl
  · -- nothing else touches the file under its name
    have hsame : w'.shared.file path.fileName = w.shared.file path.fileName := by
      refine FileSystem.file_of_effect hw.shared hknows
        (hchecked.mono fun _ => saved_of_puts hname) heffect ?_
      intro source heq
      exact hrenamed ⟨source, heq⟩
    have hnone : renamed (.call id name ⟨op, answer⟩ : Concurrent.Label (store.calls path)) =
        none := by
      cases op with
      | rename source target =>
        obtain ⟨rfl, -⟩ := hchecked
        rcases answer with error | renamed
        · cases name with
          | save uuid snapshot => rfl
          | load => rfl
        · exact absurd ⟨source, rfl⟩ hrenamed
      | _ =>
        cases name with
        | save uuid snapshot => rfl
        | load => rfl
    unfold content
    rw [hsame, hnone]
    rfl

theorem saveAll_append (snapshots later : List T) (file : Option String) :
    store.saveAll (snapshots ++ later) file = store.saveAll later (store.saveAll snapshots file) :=
  List.foldl_append ..

/-- Without a crash the content is what the saves leave, one after the other in the order of
their renamings. -/
theorem content_of_run (hinit : (store.runs path).Init w₀) (hrun : (store.runs path).Steps w₀ ls w)
    (hcrash : .ambient ∉ ls) :
    content path w.shared = store.saveAll (ls.filterMap renamed) (content path w₀.shared) := by
  induction hrun with
  | refl => rfl
  | @tail w₁ w₂ ls l hbefore hlast ih =>
    have hl : l ≠ .ambient := by
      rintro rfl
      exact hcrash (List.mem_append_right _ (List.mem_singleton_self _))
    rw [content_of_step (separate_of_run hinit hbefore) hl hlast,
      ih fun hmem => hcrash (List.mem_append_left _ hmem), List.filterMap_append, saveAll_append]
    cases hrenamed : renamed l <;> simp [hrenamed]

/-- Saves and loads at once are linearizable while the machine does not crash: renamings and reads
act like the methods of the model one after the other, and a save succeeds exactly if its file
was renamed. -/
theorem saves_linearized (hinit : (store.runs path).Init w₀)
    (hrun : (store.runs path).Steps w₀ ls w) (hcrash : .ambient ∉ ls) :
    content path w.shared = store.saveAll (ls.filterMap renamed) (content path w₀.shared) ∧
    (∀ before id bytes after,
      ls = before ++ .call id .load ⟨.read path.fileName, .ok bytes⟩ :: after →
      some bytes = store.saveAll (before.filterMap renamed) (content path w₀.shared)) ∧
    ∀ id uuid snapshot result, .finish id (.save uuid snapshot) result ∈ ls →
      (result = .ok () ↔ .call id (.save uuid snapshot)
        ⟨.rename (path.temporary uuid) path.fileName, .ok ()⟩ ∈ ls) := by
  refine ⟨content_of_run hinit hrun hcrash, ?_, ?_⟩
  · rintro before id bytes after rfl
    obtain ⟨t, t', hbefore, hstep, -⟩ := hrun.split
    rw [← content_of_run hinit hbefore fun hmem => hcrash (List.mem_append_left _ hmem)]
    cases hstep with
    | call _ heffect =>
      cases heffect with
      | read name inode hfile =>
        unfold content
        rw [hfile]
        rfl
  · intro id uuid snapshot result hfinish
    have howned := store.owned path (w₀.shared.file path.fileName) (store.Started ls)
    obtain ⟨past, s, hreports, -, hevents⟩ := howned.finished hinit hrun (savesOnly_started ls)
      (separate_init hinit) hfinish fun _ => always_body (.save uuid snapshot)
    rw [hevents]
    exact hreports.trans ⟨fun h => ⟨rfl, h⟩, And.right⟩

/-- Without a crash no file that a save has created is readable by others with anything in it. -/
theorem snapshot_confidential (hinit : (store.runs path).Init w₀)
    (hrun : (store.runs path).Steps w₀ ls w) (hcrash : .ambient ∉ ls) :
    Confidential w₀.shared.next w.shared := by
  induction hrun with
  | refl =>
    intro file hfile hissued
    have hlt : file < w₀.shared.next := hissued
    omega
  | @tail w₁ w₂ ls l hbefore hlast ih =>
    have hconfidential := ih fun hmem => hcrash (List.mem_append_left _ hmem)
    have hl : l ≠ .ambient := by
      rintro rfl
      exact hcrash (List.mem_append_right _ (List.mem_singleton_self _))
    have howned := store.owned path (w₀.shared.file path.fileName) (store.Started ls)
    rcases FileSystem.effect_of_step howned (fun _ _ _ _ _ h => h)
      (separate_of_run hinit hbefore) hl hlast with
      ⟨hshared, -⟩ | ⟨id, name, past, op, answer, -, hname, hknows, hchecked, heffect⟩
    · rw [hshared]
      exact hconfidential
    · exact FileSystem.confidential_of_effect hknows
        (hchecked.mono fun _ => saved_of_puts hname) heffect hconfidential

/-! ## A working file system -/

theorem runs_replaceFile {s : FileSystem String String} {uuid bytes : String}
    (hdirectory : s.directory ≠ none) (hfree : s.entries (path.temporary uuid) = none) :
    ∃ s', Program.Runs FileSystem.Effect (replaceFile path uuid bytes) s (.ok ()) s' ∧
      s'.file path.fileName = some ⟨bytes, .ownerOnly, true⟩ := by
  refine ⟨_, .call (.createNew _ hdirectory hfree) (.call (.restrictFile s.next)
    (.call (.writeAll s.next bytes) (.call (.syncAll s.next)
      (.call (.rename _ _ s.next ?_) (.pure _ _))))), ?_⟩
  · exact Function.update_self (path.temporary uuid) (some s.next) s.entries
  · simp [FileSystem.file, FileSystem.move, FileSystem.setInode]

/-- With a free temporary name a save that nothing fails replaces the snapshot. -/
theorem runs_saveFile {s : FileSystem String String} {uuid : String} {snapshot : T}
    (hdirectory : s.directory ≠ none) (hfree : s.entries (path.temporary uuid) = none)
    (hparent : path.parent ≠ none) (hharmless : Harmless (store.toValue snapshot)) :
    ∃ s', Program.Runs ((store.calls path).Effect (.save uuid snapshot))
        ((store.calls path).body (.save uuid snapshot)) s (.ok ()) s' ∧
      s'.file path.fileName = some (store.savedFile snapshot) := by
  obtain ⟨parent, hparent⟩ := Option.ne_none_iff_exists'.mp hparent
  obtain ⟨permissions, hpermissions⟩ := Option.ne_none_iff_exists'.mp hdirectory
  have hexists : s.directory.isSome = true := by
    rw [hpermissions]
    rfl
  -- the directory stays as it is
  have hsame : { s with directory := some (s.directory.getD .inherited) } = s := by
    rw [hpermissions]
    cases s
    cases hpermissions
    rfl
  obtain ⟨s', hruns, hfile⟩ : ∃ s', Program.Runs FileSystem.Effect
      (replaceFile path uuid (store.bytes snapshot)) s (.ok ()) s' ∧
      s'.file path.fileName = some (store.savedFile snapshot) :=
    runs_replaceFile hdirectory hfree
  refine ⟨s', ?_, hfile⟩
  show Program.Runs FileSystem.Effect (store.saveFile path uuid snapshot) s _ s'
  unfold saveFile
  rw [hharmless, hparent]
  have hparentExists : FileSystem.Effect (.parentExists : FileOp String String) s true s := by
    have heffect := FileSystem.Effect.parentExists (s := s)
    rwa [hexists] at heffect
  have hmade : FileSystem.Effect (.createDirAll : FileOp String String) s (.ok ()) s := by
    have heffect := FileSystem.Effect.createDirAll (s := s)
    rwa [hsame] at heffect
  exact .call hparentExists (.call hmade hruns)

theorem runs_loadFile {s : FileSystem String String} {inode : Inode String}
    (hfile : s.file path.fileName = some inode) :
    Program.Runs ((store.calls path).Effect .load) ((store.calls path).body .load) s
      (store.load (some inode.content)) s :=
  .call (.read _ inode hfile) (.pure _ s)

/-! A snapshot is saved in an empty directory; the machine crashes and the snapshot is loaded. -/

namespace Crashed

/-- A store of one value, `()`, which is written as `null`. -/
def unitStore : LastKnownGoodSnapshot Unit :=
  { SnapshotCodec.ofText .null "null"
      "74234e98afe7498fb5daf1f36ac2d78acc339464f950703b8c019892f982b90b" with
    toValue := fun _ => .null
    ofValue := fun _ => some () }

/-- What the file holds. -/
def written : String :=
  "\x7b\"schema\":1,\"payload\":null,\"digest\":\"74234e98afe7498fb5daf1f36ac2d78acc339464f950" ++
    "703b8c019892f982b90b\"\x7d"

def controlPath : SnapshotPath := ⟨some "/var/lib/smart-llm-gateway", "control.json"⟩

def emptyDirectory : FileSystem String String :=
  ⟨some .ownerOnly, fun _ => none, [], fun _ => ⟨"", .inherited, true⟩, 0⟩

def idle : Concurrent.World (unitStore.calls controlPath) := ⟨emptyDirectory, 0, fun _ => none⟩

theorem init_idle : (unitStore.runs controlPath).Init idle := by
  refine ⟨⟨rfl, ?_, fun _ => rfl⟩, rfl, fun _ => rfl⟩
  intro name file hfile
  cases hfile

theorem exists_saved : ∃ ls w, (unitStore.runs controlPath).Steps idle ls w ∧ .ambient ∉ ls ∧
    .finish 0 (.save "u" ()) (.ok ()) ∈ ls ∧
    w.shared.file "control.json" = some ⟨written, .ownerOnly, true⟩ := by
  have hdirectory : idle.shared.directory ≠ none := by simp [idle, emptyDirectory]
  have hparent : controlPath.parent ≠ none := by simp [controlPath]
  have hharmless : Harmless (unitStore.toValue ()) := rfl
  obtain ⟨s, hruns, hfile⟩ := runs_saveFile (s := idle.shared) hdirectory rfl hparent hharmless
  obtain ⟨ls, w, hsteps, hshared, hfinish, halone⟩ := Concurrent.exists_steps_of_runs hruns
  refine ⟨_, w, hsteps, ?_, List.mem_cons_of_mem _ hfinish, ?_⟩
  · simpa using Concurrent.not_ambient_of_alone halone
  · have hsaved : unitStore.savedFile () = ⟨written, .ownerOnly, true⟩ := by decide +kernel
    rw [hshared, ← hsaved]
    exact hfile

/-- The directory after a crash in which nothing is undone. -/
def kept (s : FileSystem String String) : FileSystem String String :=
  { s with
    directory := some .ownerOnly
    earlier := []
    inodes := fun file => { s.inodes file with synced := true } }

theorem crash_kept (s : FileSystem String String) : s.Crash (kept s) where
  entries name := ⟨s.entries, List.mem_cons_self, rfl⟩
  earlier := rfl
  next := rfl
  kept file hsynced := by
    show { s.inodes file with synced := true } = s.inodes file
    rw [← hsynced]
  synced _ := rfl
  directory hnone := by cases hnone

theorem exists_loaded : ∃ ls w id, (unitStore.runs controlPath).Steps idle ls w ∧
    .ambient ∈ ls ∧ .finish id .load (.ok ()) ∈ ls := by
  obtain ⟨saves, w, hsaved, -, -, hfile⟩ := exists_saved
  have hcrashed : (unitStore.calls controlPath).Step w .ambient
      ⟨kept w.shared, w.next, fun _ => none⟩ := by
    refine .ambient ⟨crash_kept w.shared, fun _ => trivial⟩ rfl ?_
    intro id f hf
    cases hf
  have hkept : (kept w.shared).file controlPath.fileName =
      some ⟨written, .ownerOnly, true⟩ := by
    obtain ⟨file, hentry, hinode⟩ := Option.map_eq_some_iff.mp hfile
    simp [FileSystem.file, kept, controlPath, hentry, hinode]
  have hruns : Program.Runs ((unitStore.calls controlPath).Effect .load)
      ((unitStore.calls controlPath).body .load) (kept w.shared) (unitStore.load (some written))
      (kept w.shared) :=
    runs_loadFile hkept
  obtain ⟨loads, w', hloaded, -, hfinish, -⟩ := Concurrent.exists_steps_of_runs
    (C := unitStore.calls controlPath) (w := ⟨kept w.shared, w.next, fun _ => none⟩) hruns
  have hload : unitStore.load (some written) = .ok () := by decide +kernel
  refine ⟨_, w', w.next, (hsaved.tail hcrashed).append hloaded, ?_, ?_⟩
  · simp
  · exact List.mem_append_right _ (List.mem_cons_of_mem _ (hload ▸ hfinish))

/-- The snapshot is loaded as it was saved. -/
theorem loaded_after_crash : ∃ ls w, (unitStore.runs controlPath).Steps idle ls w ∧
    .ambient ∈ ls ∧ ∃ inode, unitStore.Saved none (Started ls) (some inode) ∧
      unitStore.load (some inode.content) = .ok () := by
  obtain ⟨ls, w, id, hrun, hcrash, hfinish⟩ := exists_loaded
  refine ⟨ls, w, hrun, hcrash, ?_⟩
  rcases (snapshot_never_torn init_idle hrun).2 id _ hfinish with
    ⟨error, -, hresult⟩ | ⟨inode, hsaved, hresult⟩
  · cases hresult
  · exact ⟨inode, hsaved, hresult.symm⟩

theorem saved_once : ∃ ls w, (unitStore.runs controlPath).Steps idle ls w ∧
    content controlPath w.shared = unitStore.saveAll (ls.filterMap renamed) none ∧
    .call 0 (.save "u" ()) ⟨.rename (controlPath.temporary "u") "control.json", .ok ()⟩ ∈ ls := by
  obtain ⟨ls, w, hrun, hcrash, hfinish, -⟩ := exists_saved
  obtain ⟨hcontent, -, hrenamed⟩ := saves_linearized init_idle hrun hcrash
  exact ⟨ls, w, hrun, hcontent, (hrenamed 0 "u" () _ hfinish).mp rfl⟩

theorem saved_confidentially : ∃ ls w, (unitStore.runs controlPath).Steps idle ls w ∧
    .finish 0 (.save "u" ()) (.ok ()) ∈ ls ∧ Confidential 0 w.shared := by
  obtain ⟨ls, w, hrun, hcrash, hfinish, -⟩ := exists_saved
  exact ⟨ls, w, hrun, hfinish, snapshot_confidential init_idle hrun hcrash⟩

end Crashed

end LastKnownGoodSnapshot

end SmartGateway
