import SmartGateway.Lib.Ownership

/-! # A directory of files that survives crashes

Files have numbers and the directory names them. Contents and permissions of a file are on the
disk once it was synced; the directory itself is never synced, so a crash may undo any of the
changes to it, name by name.

`Replaces` is the discipline of a program that replaces a file: it writes a new one, syncs it
and renames it. Whatever such programs do at the same time, wherever they stop and whenever the
machine crashes, the name always stands for a whole file (`owned_of_replaces`).
-/

/-- What others than the owner may do with a file or a directory. -/
inductive Permissions where
  | inherited
  | ownerOnly
deriving DecidableEq

/-- A file; `synced` tells whether it is on the disk as it is. -/
structure Inode (β : Type) where
  content : β
  permissions : Permissions
  synced : Bool
deriving DecidableEq

/-- One directory, if it is there, with what its names stood for since the last crash. -/
structure FileSystem (κ β : Type) where
  directory : Option Permissions
  entries : κ → Option ℕ
  earlier : List (κ → Option ℕ)
  inodes : ℕ → Inode β
  next : ℕ

/-- The calls a program makes of the file system. -/
inductive FileOp (κ β : Type) where
  | parentExists
  | createDirAll
  | restrictDirectory
  | createNew (name : κ)
  | restrictFile (file : ℕ)
  | writeAll (file : ℕ) (content : β)
  | syncAll (file : ℕ)
  | rename (source target : κ)
  | read (name : κ)

abbrev FileOp.Answer {κ β : Type} : FileOp κ β → Type
  | .parentExists => Bool
  | .createNew _ => Except String ℕ
  | .read _ => Except String β
  | _ => Except String Unit

abbrev fileCalls (κ β : Type) : Signature := ⟨FileOp κ β, FileOp.Answer⟩

def FileOp.renames {κ β : Type} : FileOp κ β → Bool
  | .rename _ _ => true
  | _ => false

/-- Calls after which a file is not changed any more by its writer, or not before others. -/
def FileOp.settles {κ β : Type} : FileOp κ β → Bool
  | .writeAll _ _ | .syncAll _ | .rename _ _ => true
  | _ => false

namespace FileSystem

variable {κ β : Type}

/-! ## What the calls do -/

/-- The file a name stands for. -/
def file (s : FileSystem κ β) (name : κ) : Option (Inode β) := (s.entries name).map s.inodes

/-- What the names stand for now, and what they stood for before. -/
def versions (s : FileSystem κ β) : List (κ → Option ℕ) := s.entries :: s.earlier

def setInode (s : FileSystem κ β) (file : ℕ) (inode : Inode β) : FileSystem κ β :=
  { s with inodes := Function.update s.inodes file inode }

section Calls

variable [DecidableEq κ] [Inhabited β]

/-- `O_CREAT | O_EXCL`: an empty file under a free name. -/
def create (s : FileSystem κ β) (name : κ) : FileSystem κ β :=
  { s with
    entries := Function.update s.entries name (some s.next)
    earlier := s.entries :: s.earlier
    inodes := Function.update s.inodes s.next ⟨default, .inherited, false⟩
    next := s.next + 1 }

/-- `rename`, of the file with the given number. -/
def move (s : FileSystem κ β) (source target : κ) (file : ℕ) : FileSystem κ β :=
  { s with
    entries := Function.update (Function.update s.entries source none) target (some file)
    earlier := s.entries :: s.earlier }

/-- What a call can answer and change. Each call can fail; a write that fails can leave any
content behind. -/
inductive Effect : (op : FileOp κ β) → FileSystem κ β → op.Answer → FileSystem κ β → Prop where
  | parentExists {s : FileSystem κ β} : Effect .parentExists s s.directory.isSome s
  | createDirAll {s : FileSystem κ β} :
    Effect .createDirAll s (.ok ()) { s with directory := some (s.directory.getD .inherited) }
  | createDirAllFailed {s : FileSystem κ β} (error : String) :
    Effect .createDirAll s (.error error) s
  | restrictDirectory {s : FileSystem κ β} (h : s.directory ≠ none) :
    Effect .restrictDirectory s (.ok ()) { s with directory := some .ownerOnly }
  | restrictDirectoryFailed {s : FileSystem κ β} (error : String) :
    Effect .restrictDirectory s (.error error) s
  | createNew {s : FileSystem κ β} (name : κ) (hdirectory : s.directory ≠ none)
    (hfree : s.entries name = none) : Effect (.createNew name) s (.ok s.next) (s.create name)
  | createNewFailed {s : FileSystem κ β} (name : κ) (error : String) :
    Effect (.createNew name) s (.error error) s
  | restrictFile {s : FileSystem κ β} (file : ℕ) :
    Effect (.restrictFile file) s (.ok ())
      (s.setInode file ⟨(s.inodes file).content, .ownerOnly, false⟩)
  | restrictFileFailed {s : FileSystem κ β} (file : ℕ) (error : String) :
    Effect (.restrictFile file) s (.error error) s
  | writeAll {s : FileSystem κ β} (file : ℕ) (content : β) :
    Effect (.writeAll file content) s (.ok ())
      (s.setInode file ⟨content, (s.inodes file).permissions, false⟩)
  | writeAllFailed {s : FileSystem κ β} (file : ℕ) (content written : β) (error : String) :
    Effect (.writeAll file content) s (.error error)
      (s.setInode file ⟨written, (s.inodes file).permissions, false⟩)
  | syncAll {s : FileSystem κ β} (file : ℕ) :
    Effect (.syncAll file) s (.ok ())
      (s.setInode file ⟨(s.inodes file).content, (s.inodes file).permissions, true⟩)
  | syncAllFailed {s : FileSystem κ β} (file : ℕ) (error : String) :
    Effect (.syncAll file) s (.error error) s
  | rename {s : FileSystem κ β} (source target : κ) (file : ℕ)
    (hfile : s.entries source = some file) :
    Effect (.rename source target) s (.ok ()) (s.move source target file)
  | renameFailed {s : FileSystem κ β} (source target : κ) (error : String) :
    Effect (.rename source target) s (.error error) s
  | read {s : FileSystem κ β} (name : κ) (inode : Inode β) (hfile : s.file name = some inode) :
    Effect (.read name) s (.ok inode.content) s
  | readFailed {s : FileSystem κ β} (name : κ) (error : String) :
    Effect (.read name) s (.error error) s

end Calls

/-- A crash of the machine: each name stands for what it stood for at some time since the last
crash, and a file that was not synced has any content and permissions. -/
structure Crash (s s' : FileSystem κ β) : Prop where
  entries : ∀ name, ∃ version ∈ s.versions, s'.entries name = version name
  earlier : s'.earlier = []
  next : s'.next = s.next
  kept : ∀ file, (s.inodes file).synced = true → s'.inodes file = s.inodes file
  synced : ∀ file, (s'.inodes file).synced = true
  directory : s'.directory = none → ∀ name, s'.entries name = none

/-! ## Replacing a file -/

/-- The number of a file that a call has created. -/
def created : Event (fileCalls κ β) → Option ℕ
  | ⟨.createNew _, .ok file⟩ => some file
  | _ => none

def issued (s : FileSystem κ β) (file : ℕ) : Prop := file < s.next

/-- What is checked before each call of a program that replaces the file `target`: a new file is
written once its permissions are restricted, then synced, and renamed last, where it is `whole`. -/
def Replaces (target : κ) (whole : Option (Inode β) → Prop) (past : List (Event (fileCalls κ β))) :
    FileOp κ β → Prop
  | .createNew name => name ≠ target
  | .restrictFile file =>
    file ∈ Concurrent.held created past ∧ ∀ e ∈ past, e.op.settles = false
  | .writeAll file _ =>
    file ∈ Concurrent.held created past ∧ ⟨.restrictFile file, .ok ()⟩ ∈ past ∧
      ∀ e ∈ past, e.op.settles = false
  | .syncAll file => file ∈ Concurrent.held created past ∧ ∀ e ∈ past, e.op.renames = false
  | .rename source name =>
    name = target ∧ (∀ e ∈ past, e.op.renames = false) ∧
      ∃ file content, ⟨.createNew source, .ok file⟩ ∈ past ∧
        ⟨.restrictFile file, .ok ()⟩ ∈ past ∧ ⟨.writeAll file content, .ok ()⟩ ∈ past ∧
        ⟨.syncAll file, .ok ()⟩ ∈ past ∧ whole (some ⟨content, .ownerOnly, true⟩)
  | _ => True

/-- Whatever `target` stands for, now or after a crash, is whole, and on the disk if it is a
file. -/
def Intact (target : κ) (whole : Option (Inode β) → Prop) (s : FileSystem κ β) : Prop :=
  ∀ version ∈ s.versions, whole ((version target).map s.inodes) ∧
    ∀ file, version target = some file → issued s file ∧ (s.inodes file).synced = true

/-- What a call knows from an answer it was given: its file is under the name it was created
with until it is renamed, and is as the call left it. -/
def Fact (target : κ) (whole : Option (Inode β) → Prop) (past : List (Event (fileCalls κ β)))
    (s : FileSystem κ β) : Event (fileCalls κ β) → Prop
  | ⟨.createNew name, .ok file⟩ =>
    (∀ e ∈ past, e.op.renames = false) → name ≠ target ∧ s.entries name = some file ∧
      ∀ version ∈ s.versions, version target ≠ some file
  | ⟨.restrictFile file, .ok _⟩ =>
    file ∈ Concurrent.held created past ∧ (s.inodes file).permissions = .ownerOnly
  | ⟨.writeAll file content, .ok _⟩ =>
    file ∈ Concurrent.held created past ∧ (s.inodes file).content = content
  | ⟨.syncAll file, .ok _⟩ =>
    file ∈ Concurrent.held created past ∧ (s.inodes file).synced = true
  | ⟨.read name, .ok content⟩ =>
    name = target → ∃ inode, whole (some inode) ∧ inode.content = content
  | _ => True

/-- The discipline is kept with any weaker idea of what is whole. -/
theorem Replaces.mono {target : κ} {allowed whole : Option (Inode β) → Prop}
    {past : List (Event (fileCalls κ β))} {op : FileOp κ β} (h : Replaces target allowed past op)
    (hallowed : ∀ file, allowed file → whole file) : Replaces target whole past op := by
  cases op with
  | rename source name =>
    obtain ⟨hname, hpast, file, content, hcreated, hrestricted, hwritten, hsynced, hfile⟩ := h
    exact ⟨hname, hpast, file, content, hcreated, hrestricted, hwritten, hsynced,
      hallowed _ hfile⟩
  | _ => exact h

def Knows (target : κ) (whole : Option (Inode β) → Prop) (past : List (Event (fileCalls κ β)))
    (s : FileSystem κ β) : Prop :=
  ∀ e ∈ past, Fact target whole past s e

variable {target : κ} {whole : Option (Inode β) → Prop} {past : List (Event (fileCalls κ β))}
  {s s' : FileSystem κ β}

theorem Intact.file (h : Intact target whole s) : whole (s.file target) :=
  (h s.entries List.mem_cons_self).1

theorem mem_held_created {name : κ} {file : ℕ} (h : ⟨.createNew name, .ok file⟩ ∈ past) :
    file ∈ Concurrent.held created past :=
  List.mem_filterMap.mpr ⟨_, h, rfl⟩

theorem exists_created {file : ℕ} (h : file ∈ Concurrent.held created past) :
    ∃ name, ⟨.createNew name, .ok file⟩ ∈ past := by
  obtain ⟨e, he, hcreated⟩ := List.mem_filterMap.mp h
  obtain ⟨op, answer⟩ := e
  cases op with
  | createNew name =>
    cases answer with
    | error error => cases hcreated
    | ok file' =>
      cases hcreated
      exact ⟨name, he⟩
  | _ => cases hcreated

theorem held_subset (past : List (Event (fileCalls κ β))) (e : Event (fileCalls κ β)) :
    Concurrent.held created past ⊆ Concurrent.held created (past ++ [e]) := by
  rw [Concurrent.held_snoc]
  exact List.subset_append_left _ _

/-- A file that was not renamed yet is not the one `target` stands for. -/
theorem Knows.not_linked (h : Knows target whole past s) {file : ℕ}
    (hfile : file ∈ Concurrent.held created past) (hpast : ∀ e ∈ past, e.op.renames = false) :
    ∀ version ∈ s.versions, version target ≠ some file := by
  obtain ⟨name, hcreated⟩ := exists_created hfile
  exact (h _ hcreated hpast).2.2

/-- Facts stay known when more happened. -/
theorem Fact.snoc {e : Event (fileCalls κ β)} (h : Fact target whole past s e)
    (last : Event (fileCalls κ β)) : Fact target whole (past ++ [last]) s e := by
  obtain ⟨op, answer⟩ := e
  have hheld := held_subset past last
  have hrenamed : (∀ e ∈ past ++ [last], e.op.renames = false) → ∀ e ∈ past, e.op.renames = false :=
    fun hall e he => hall e (List.mem_append_left _ he)
  cases op with
  | createNew name =>
    cases answer with
    | error error => trivial
    | ok file => exact fun hall => h (hrenamed hall)
  | restrictFile file =>
    cases answer with
    | error error => trivial
    | ok _ => exact ⟨hheld h.1, h.2⟩
  | writeAll file content =>
    cases answer with
    | error error => trivial
    | ok _ => exact ⟨hheld h.1, h.2⟩
  | syncAll file =>
    cases answer with
    | error error => trivial
    | ok _ => exact ⟨hheld h.1, h.2⟩
  | read name =>
    cases answer with
    | error error => trivial
    | ok content => exact h
  | _ => trivial

/-- Calls that are answered without telling anything about files. -/
theorem Knows.snoc (h : Knows target whole past s) {last : Event (fileCalls κ β)}
    (hlast : Fact target whole (past ++ [last]) s last) :
    Knows target whole (past ++ [last]) s := by
  intro e he
  rcases List.mem_append.mp he with he | he
  · exact (h e he).snoc last
  · rw [List.mem_singleton.mp he]
    exact hlast

/-! ## What a change leaves alone -/

/-- What a change leaves of some files: their names, apart from `target`, and their inodes; and
it does not make `target` one of them. -/
structure Leaves (target : κ) (files : List ℕ) (s s' : FileSystem κ β) : Prop where
  entries : ∀ name file, file ∈ files → name ≠ target → s.entries name = some file →
    s'.entries name = some file
  versions : ∀ version ∈ s'.versions, ∀ file ∈ files, version target = some file →
    ∃ version ∈ s.versions, version target = some file
  inodes : ∀ file ∈ files, s'.inodes file = s.inodes file

theorem Knows.leaves (h : Knows target whole past s)
    (hleaves : Leaves target (Concurrent.held created past) s s') :
    Knows target whole past s' := by
  rintro ⟨op, answer⟩ he
  have hfact := h _ he
  cases op with
  | createNew name =>
    cases answer with
    | error error => trivial
    | ok file =>
      intro hall
      have hheld := mem_held_created he
      obtain ⟨hname, hentry, hversions⟩ := hfact hall
      refine ⟨hname, hleaves.entries name file hheld hname hentry, ?_⟩
      intro version hversion hlinked
      obtain ⟨old, hold, hlinked⟩ := hleaves.versions version hversion file hheld hlinked
      exact hversions old hold hlinked
  | restrictFile file =>
    cases answer with
    | error error => trivial
    | ok _ => exact ⟨hfact.1, (hleaves.inodes file hfact.1).symm ▸ hfact.2⟩
  | writeAll file content =>
    cases answer with
    | error error => trivial
    | ok _ => exact ⟨hfact.1, (hleaves.inodes file hfact.1).symm ▸ hfact.2⟩
  | syncAll file =>
    cases answer with
    | error error => trivial
    | ok _ => exact ⟨hfact.1, (hleaves.inodes file hfact.1).symm ▸ hfact.2⟩
  | read name =>
    cases answer with
    | error error => trivial
    | ok content => exact hfact
  | _ => trivial

theorem leaves_refl (files : List ℕ) (s : FileSystem κ β) : Leaves target files s s :=
  ⟨fun _ _ _ _ h => h, fun version hversion _ _ h => ⟨version, hversion, h⟩, fun _ _ => rfl⟩

theorem leaves_directory (files : List ℕ) (s : FileSystem κ β) (directory : Option Permissions) :
    Leaves target files s { s with directory } :=
  ⟨fun _ _ _ _ h => h, fun version hversion _ _ h => ⟨version, hversion, h⟩, fun _ _ => rfl⟩

theorem leaves_setInode {files : List ℕ} {file : ℕ} (hfile : file ∉ files) (s : FileSystem κ β)
    (inode : Inode β) : Leaves target files s (s.setInode file inode) where
  entries _ _ _ _ h := h
  versions version hversion _ _ h := ⟨version, hversion, h⟩
  inodes other hother := by
    apply Function.update_of_ne
    rintro rfl
    exact hfile hother

/-- The versions of a directory with a new name stand for what the old ones do elsewhere. -/
theorem exists_version_create [DecidableEq κ] [Inhabited β] {name : κ} (hname : name ≠ target)
    {version : κ → Option ℕ} (h : version ∈ (s.create name).versions) :
    ∃ old ∈ s.versions, old target = version target := by
  rcases List.mem_cons.mp h with rfl | hold
  · exact ⟨s.entries, List.mem_cons_self, (Function.update_of_ne hname.symm ..).symm⟩
  · exact ⟨version, hold, rfl⟩

theorem leaves_create [DecidableEq κ] [Inhabited β] {files : List ℕ} {name : κ}
    (hname : name ≠ target) (hfree : s.entries name = none) (hissued : ∀ file ∈ files, issued s file) :
    Leaves target files s (s.create name) where
  entries other file _ _ hentry := by
    have hne : other ≠ name := by
      rintro rfl
      rw [hfree] at hentry
      cases hentry
    exact (Function.update_of_ne hne ..).trans hentry
  versions version hversion file hfile hlinked := by
    obtain ⟨old, hold, hsame⟩ := exists_version_create hname hversion
    exact ⟨old, hold, hsame.trans hlinked⟩
  inodes file hfile := by
    apply Function.update_of_ne
    have hlt : file < s.next := hissued file hfile
    omega

theorem leaves_move [DecidableEq κ] {files : List ℕ} {source : κ} {file : ℕ}
    (hsource : s.entries source = some file) (hfile : file ∉ files) :
    Leaves target files s (s.move source target file) where
  entries name other hother hname hentry := by
    have hne : name ≠ source := by
      rintro rfl
      rw [hsource] at hentry
      cases hentry
      exact hfile hother
    show Function.update (Function.update s.entries source none) target (some file) name = _
    rw [Function.update_of_ne hname, Function.update_of_ne hne]
    exact hentry
  versions version hversion other hother hlinked := by
    rcases List.mem_cons.mp hversion with rfl | hold
    · have hsame : (s.move source target file).entries target = some file :=
        Function.update_self ..
      rw [hsame] at hlinked
      cases hlinked
      exact absurd hother hfile
    · exact ⟨version, hold, hlinked⟩
  inodes _ _ := rfl

/-! ## What a change leaves of the target -/

theorem Intact.setInode (h : Intact target whole s) {file : ℕ}
    (hfile : ∀ version ∈ s.versions, version target ≠ some file) (inode : Inode β) :
    Intact target whole (s.setInode file inode) := by
  intro version hversion
  obtain ⟨hwhole, hfiles⟩ := h version hversion
  have hsame : ∀ other, version target = some other →
      (s.setInode file inode).inodes other = s.inodes other := by
    intro other hlinked
    apply Function.update_of_ne
    rintro rfl
    exact hfile version hversion hlinked
  have hmap : (version target).map (s.setInode file inode).inodes =
      (version target).map s.inodes :=
    Option.map_congr hsame
  rw [hmap]
  refine ⟨hwhole, fun other hlinked => ?_⟩
  rw [hsame other hlinked]
  exact hfiles other hlinked

theorem Intact.create [DecidableEq κ] [Inhabited β] (h : Intact target whole s) {name : κ}
    (hname : name ≠ target) : Intact target whole (s.create name) := by
  intro version hversion
  obtain ⟨old, hold, hsame⟩ := exists_version_create hname hversion
  obtain ⟨hwhole, hfiles⟩ := h old hold
  rw [← hsame]
  -- the number of the new file is not one of theirs
  have hinodes : ∀ file, old target = some file →
      (s.create name).inodes file = s.inodes file := by
    intro file hlinked
    have hlt : file < s.next := (hfiles file hlinked).1
    exact Function.update_of_ne (Nat.ne_of_lt hlt) ..
  have hmap : (old target).map (s.create name).inodes = (old target).map s.inodes :=
    Option.map_congr hinodes
  rw [hmap]
  refine ⟨hwhole, fun file hlinked => ?_⟩
  rw [hinodes file hlinked]
  exact ⟨Nat.lt_succ_of_lt (hfiles file hlinked).1, (hfiles file hlinked).2⟩

theorem Intact.move [DecidableEq κ] (h : Intact target whole s) {file : ℕ}
    (hwhole : whole (some (s.inodes file))) (hissued : issued s file)
    (hsynced : (s.inodes file).synced = true) (source : κ) :
    Intact target whole (s.move source target file) := by
  intro version hversion
  rcases List.mem_cons.mp hversion with rfl | hold
  · have hentry : (s.move source target file).entries target = some file := Function.update_self ..
    rw [hentry]
    refine ⟨hwhole, fun other hlinked => ?_⟩
    cases hlinked
    exact ⟨hissued, hsynced⟩
  · exact h version hold

/-- A crash takes the target back to another whole file. -/
theorem Intact.crash (h : Intact target whole s) (hcrash : Crash s s') :
    Intact target whole s' := by
  intro version hversion
  rw [versions, hcrash.earlier, List.mem_singleton] at hversion
  subst hversion
  obtain ⟨old, hold, hentry⟩ := hcrash.entries target
  obtain ⟨hwhole, hfiles⟩ := h old hold
  have hkept : ∀ file, old target = some file → s'.inodes file = s.inodes file :=
    fun file hlinked => hcrash.kept file (hfiles file hlinked).2
  have hmap : (old target).map s'.inodes = (old target).map s.inodes := Option.map_congr hkept
  rw [hentry, hmap]
  refine ⟨hwhole, fun file hlinked => ?_⟩
  rw [hkept file hlinked]
  refine ⟨?_, (hfiles file hlinked).2⟩
  show file < s'.next
  rw [hcrash.next]
  exact (hfiles file hlinked).1

/-! ## What a call knows of its own changes -/

/-- Before a file is settled it is not renamed. -/
theorem renames_of_settles (h : ∀ e ∈ past, e.op.settles = false) :
    ∀ e ∈ past, e.op.renames = false := by
  intro e he
  have hnot := h e he
  cases hop : e.op with
  | rename source name =>
    rw [hop] at hnot
    cases hnot
  | _ => rfl

/-- What a call knows after it has changed one of its files, as far as it agrees with what it
did to that file before. -/
theorem Knows.setInode (h : Knows target whole past s) {file : ℕ} {inode : Inode β}
    (hrestricted : ⟨.restrictFile file, .ok ()⟩ ∈ past → inode.permissions = .ownerOnly)
    (hwritten : ∀ content, ⟨.writeAll file content, .ok ()⟩ ∈ past → inode.content = content)
    (hsynced : ⟨.syncAll file, .ok ()⟩ ∈ past → inode.synced = true) :
    Knows target whole past (s.setInode file inode) := by
  have hinode : ∀ (P : Inode β → Prop) other, P (s.inodes other) → (other = file → P inode) →
      P ((s.setInode file inode).inodes other) := by
    intro P other hold hnew
    by_cases hother : other = file
    · subst hother
      have hsame : (s.setInode other inode).inodes other = inode := Function.update_self ..
      rw [hsame]
      exact hnew rfl
    · have hsame : (s.setInode file inode).inodes other = s.inodes other :=
        Function.update_of_ne hother ..
      rw [hsame]
      exact hold
  -- only what was restricted, written and synced is a fact about an inode
  rintro ⟨op, answer⟩ he
  have hfact := h _ he
  cases op with
  | restrictFile other =>
    cases answer with
    | error error => trivial
    | ok _ =>
      refine ⟨hfact.1, hinode (fun inode => inode.permissions = .ownerOnly) other hfact.2 ?_⟩
      rintro rfl
      exact hrestricted he
  | writeAll other content =>
    cases answer with
    | error error => trivial
    | ok _ =>
      refine ⟨hfact.1, hinode (fun inode => inode.content = content) other hfact.2 ?_⟩
      rintro rfl
      exact hwritten content he
  | syncAll other =>
    cases answer with
    | error error => trivial
    | ok _ =>
      refine ⟨hfact.1, hinode (fun inode => inode.synced = true) other hfact.2 ?_⟩
      rintro rfl
      exact hsynced he
  | createNew name =>
    cases answer with
    | error error => trivial
    | ok _ => exact hfact
  | read name =>
    cases answer with
    | error error => trivial
    | ok _ => exact hfact
  | _ => trivial

/-- No call of a history settled a file, so it did not write or sync one. -/
theorem not_settled {op : FileOp κ β} {answer : op.Answer} (h : ∀ e ∈ past, e.op.settles = false)
    (hop : op.settles = true) : ⟨op, answer⟩ ∉ past := by
  intro he
  have hnot := h _ he
  rw [hop] at hnot
  cases hnot

/-- A file is written before it is synced, and written once. -/
theorem Knows.written (h : Knows target whole past s) {file : ℕ}
    (hpast : ∀ e ∈ past, e.op.settles = false) (content : β) :
    Knows target whole past
      (s.setInode file ⟨content, (s.inodes file).permissions, false⟩) := by
  refine h.setInode ?_ ?_ ?_
  · intro he
    exact (h _ he).2
  · intro other he
    exact absurd he (not_settled hpast rfl)
  · intro he
    exact absurd he (not_settled hpast rfl)

/-- A fact that is not about a name depends on the files only. -/
theorem Fact.of_inodes {e : Event (fileCalls κ β)} (h : Fact target whole past s e)
    (he : created e = none) (hinodes : s'.inodes = s.inodes) : Fact target whole past s' e := by
  obtain ⟨op, answer⟩ := e
  cases op with
  | createNew name =>
    cases answer with
    | error error => trivial
    | ok file => cases he
  | restrictFile file =>
    cases answer with
    | error error => trivial
    | ok _ => exact ⟨h.1, hinodes.symm ▸ h.2⟩
  | writeAll file content =>
    cases answer with
    | error error => trivial
    | ok _ => exact ⟨h.1, hinodes.symm ▸ h.2⟩
  | syncAll file =>
    cases answer with
    | error error => trivial
    | ok _ => exact ⟨h.1, hinodes.symm ▸ h.2⟩
  | read name =>
    cases answer with
    | error error => trivial
    | ok content => exact h
  | _ => trivial

/-- After the renaming of its file a call knows nothing about names any more. -/
theorem Knows.move [DecidableEq κ] (h : Knows target whole past s) (source name : κ) (file : ℕ) :
    Knows target whole (past ++ [⟨.rename source name, .ok ()⟩]) (s.move source name file) := by
  intro e he
  rcases List.mem_append.mp he with hearlier | hnow
  · have hfact := (h e hearlier).snoc ⟨.rename source name, .ok ()⟩
    cases hcreated : created e with
    | none => exact hfact.of_inodes hcreated rfl
    | some other =>
      obtain ⟨op, answer⟩ := e
      cases op with
      | createNew name =>
        cases answer with
        | error error => trivial
        | ok other =>
          intro hall
          have hrenamed := hall _ (List.mem_append_right _ (List.mem_singleton.mpr rfl))
          cases hrenamed
      | _ => cases hcreated
  · rw [List.mem_singleton.mp hnow]
    trivial

/-- The file that a call renames is as the call left it. -/
theorem Knows.own_file (hknows : Knows target whole past s) {file : ℕ} {content : β}
    (hrestricted : ⟨.restrictFile file, .ok ()⟩ ∈ past)
    (hwritten : ⟨.writeAll file content, .ok ()⟩ ∈ past)
    (hsynced : ⟨.syncAll file, .ok ()⟩ ∈ past) : s.inodes file = ⟨content, .ownerOnly, true⟩ := by
  have hcontent := (hknows _ hwritten).2
  have hpermissions := (hknows _ hrestricted).2
  have hdisk := (hknows _ hsynced).2
  revert hcontent hpermissions hdisk
  cases s.inodes file
  rintro rfl rfl rfl
  rfl

/-! ## Programs that replace the target -/

section Programs

variable [DecidableEq κ] [Inhabited β]

/-- A file number is new when it is handed out. -/
theorem issued_of_effect {op : FileOp κ β} {answer : op.Answer} (h : Effect op s answer s') :
    (∀ file, issued s file → issued s' file) ∧
      ∀ file ∈ created ⟨op, answer⟩, ¬ issued s file ∧ issued s' file := by
  cases h with
  | createNew name =>
    constructor
    · intro file hfile
      exact Nat.lt_succ_of_lt hfile
    · intro file hfile
      cases hfile
      exact ⟨Nat.lt_irrefl _, Nat.lt_succ_self _⟩
  | _ => exact ⟨fun _ hfile => hfile, fun _ hfile => nomatch hfile⟩

/-- A call leaves the files of others alone. -/
theorem leaves_of_effect {op : FileOp κ β} {answer : op.Answer} {files : List ℕ}
    (hknows : Knows target whole past s) (hchecked : Replaces target whole past op)
    (h : Effect op s answer s')
    (hfiles : ∀ file ∈ files, issued s file ∧ file ∉ Concurrent.held created past) :
    Leaves target files s s' := by
  have hapart : ∀ file ∈ Concurrent.held created past, file ∉ files :=
    fun file hheld hfile => (hfiles file hfile).2 hheld
  cases h with
  | createDirAll => exact leaves_directory files s _
  | restrictDirectory => exact leaves_directory files s _
  | createNew name hdirectory hfree =>
    exact leaves_create hchecked hfree fun file hfile => (hfiles file hfile).1
  | restrictFile file => exact leaves_setInode (hapart file hchecked.1) s _
  | writeAll file content => exact leaves_setInode (hapart file hchecked.1) s _
  | writeAllFailed file content written error => exact leaves_setInode (hapart file hchecked.1) s _
  | syncAll file => exact leaves_setInode (hapart file hchecked.1) s _
  | rename source name file hfile =>
    obtain ⟨rfl, hpast, own, content, hcreated, -⟩ := hchecked
    -- the name it renames is the one of its own file
    have hown := (hknows _ hcreated hpast).2.1
    rw [hown] at hfile
    cases hfile
    exact leaves_move hown (hapart file (mem_held_created hcreated))
  | _ => exact leaves_refl files s

theorem intact_of_effect {op : FileOp κ β} {answer : op.Answer} (hintact : Intact target whole s)
    (hknows : Knows target whole past s) (hchecked : Replaces target whole past op)
    (hissued : ∀ file ∈ Concurrent.held created past, issued s file)
    (h : Effect op s answer s') : Intact target whole s' := by
  cases h with
  | createNew name => exact hintact.create hchecked
  | restrictFile file =>
    exact hintact.setInode (hknows.not_linked hchecked.1 (renames_of_settles hchecked.2)) _
  | writeAll file content =>
    exact hintact.setInode (hknows.not_linked hchecked.1 (renames_of_settles hchecked.2.2)) _
  | writeAllFailed file content written error =>
    exact hintact.setInode (hknows.not_linked hchecked.1 (renames_of_settles hchecked.2.2)) _
  | syncAll file => exact hintact.setInode (hknows.not_linked hchecked.1 hchecked.2) _
  | rename source name file hfile =>
    obtain ⟨rfl, hpast, own, content, hcreated, hrestricted, hwritten, hsynced, hwhole⟩ := hchecked
    have hown := (hknows _ hcreated hpast).2.1
    rw [hown] at hfile
    cases hfile
    have hheld := mem_held_created hcreated
    refine hintact.move ?_ (hissued file hheld) (hknows _ hsynced).2 source
    rw [hknows.own_file hrestricted hwritten hsynced]
    exact hwhole
  | _ => exact hintact

theorem knows_of_effect {op : FileOp κ β} {answer : op.Answer} (hintact : Intact target whole s)
    (hknows : Knows target whole past s) (hchecked : Replaces target whole past op)
    (hissued : ∀ file ∈ Concurrent.held created past, issued s file)
    (h : Effect op s answer s') : Knows target whole (past ++ [⟨op, answer⟩]) s' := by
  have hheld := held_subset past ⟨op, answer⟩
  cases h with
  | createDirAll => exact (hknows.leaves (leaves_directory _ s _)).snoc trivial
  | restrictDirectory => exact (hknows.leaves (leaves_directory _ s _)).snoc trivial
  | createNew name hdirectory hfree =>
    refine (hknows.leaves (leaves_create hchecked hfree hissued)).snoc fun _ => ?_
    refine ⟨hchecked, Function.update_self .., ?_⟩
    -- the number is new, so no version can have it
    intro version hversion hlinked
    obtain ⟨old, hold, hsame⟩ := exists_version_create hchecked hversion
    have hlt : s.next < s.next := ((hintact old hold).2 s.next (hsame.trans hlinked)).1
    exact absurd hlt (Nat.lt_irrefl _)
  | restrictFile file =>
    have hchanged : Knows target whole past
        (s.setInode file ⟨(s.inodes file).content, .ownerOnly, false⟩) := by
      refine hknows.setInode (fun _ => rfl) ?_ ?_
      · intro content he
        exact absurd he (not_settled hchecked.2 rfl)
      · intro he
        exact absurd he (not_settled hchecked.2 rfl)
    refine hchanged.snoc ⟨hheld hchecked.1, ?_⟩
    exact congrArg Inode.permissions (Function.update_self file _ s.inodes)
  | writeAll file content =>
    obtain ⟨hown, hrestricted, hpast⟩ := hchecked
    refine (hknows.written hpast content).snoc ⟨hheld hown, ?_⟩
    exact congrArg Inode.content (Function.update_self file _ s.inodes)
  | writeAllFailed file content written error =>
    exact (hknows.written hchecked.2.2 written).snoc trivial
  | syncAll file =>
    have hchanged : Knows target whole past
        (s.setInode file ⟨(s.inodes file).content, (s.inodes file).permissions, true⟩) := by
      refine hknows.setInode ?_ ?_ (fun _ => rfl)
      · intro he
        exact (hknows _ he).2
      · intro content he
        exact (hknows _ he).2
    refine hchanged.snoc ⟨hheld hchecked.1, ?_⟩
    exact congrArg Inode.synced (Function.update_self file _ s.inodes)
  | rename source name file hfile => exact hknows.move source name file
  | read name inode hfile =>
    refine hknows.snoc ?_
    rintro rfl
    exact ⟨inode, hfile ▸ hintact.file, rfl⟩
  | _ => exact hknows.snoc trivial

/-- Programs that replace `target` own what they created: whatever the others do, each can rely
on its own files, and `target` stays intact, also over crashes, which end all programs. What a
program puts in the place of `target` is `allowed` to it. -/
theorem owned_of_replaces {N : Type} {C : Concurrent (fileCalls κ β) (FileSystem κ β) N}
    {A : N → Prop} {allowed : N → Option (Inode β) → Prop}
    (hallowed : ∀ name, A name → ∀ file, allowed name file → whole file)
    (hbody : ∀ name, A name → ∃ Q, (C.body name).Always (Replaces target (allowed name)) Q [])
    (heffect : ∀ name op s r s', C.Effect name op s r s' → Effect op s r s')
    (hambient : ∀ s ended s', C.Ambient s ended s' → Crash s s' ∧ ∀ name, ended name) :
    C.Owned A created issued (Intact target whole) (fun _ => Knows target whole)
      fun name => Replaces target (allowed name) where
  body := hbody
  start := by
    intro name s _ _ e he
    cases he
  fresh name op s r s' h := issued_of_effect (heffect name op s r s' h)
  effect name past op s r s' hname hintact hknows hissued hchecked h := by
    have hreplaces := hchecked.mono (hallowed name hname)
    exact ⟨intact_of_effect hintact hknows hreplaces hissued (heffect name op s r s' h),
      knows_of_effect hintact hknows hreplaces hissued (heffect name op s r s' h)⟩
  apart name past op s r s' name' past' hname _ _ hknows hchecked h hknows' hheld :=
    hknows'.leaves (leaves_of_effect hknows (hchecked.mono (hallowed name hname))
      (heffect name op s r s' h) hheld)
  ambient s ended s' hintact h := by
    obtain ⟨hcrash, hended⟩ := hambient s ended s' h
    refine ⟨hintact.crash hcrash, ?_, ?_⟩
    · intro file hfile
      show file < s'.next
      rw [hcrash.next]
      exact hfile
    · intro name past _ hlive
      exact absurd (hended name) hlive

/-- Only a renaming changes what `target` stands for. -/
theorem file_of_effect {op : FileOp κ β} {answer : op.Answer} (hintact : Intact target whole s)
    (hknows : Knows target whole past s) (hchecked : Replaces target whole past op)
    (h : Effect op s answer s')
    (hrenamed : ∀ source,
      (⟨op, answer⟩ : Event (fileCalls κ β)) ≠ ⟨.rename source target, .ok ()⟩) :
    s'.file target = s.file target := by
  -- a file is changed only by the call that has created it, before it is renamed
  have hkept : ∀ file ∈ Concurrent.held created past, (∀ e ∈ past, e.op.renames = false) →
      ∀ inode, (s.setInode file inode).file target = s.file target := by
    intro file hheld hpast inode
    refine Option.map_congr fun other hother => Function.update_of_ne ?_ ..
    rintro rfl
    exact hknows.not_linked hheld hpast s.entries List.mem_cons_self hother
  cases h with
  | createNew name =>
    have hentry : (s.create name).entries target = s.entries target :=
      Function.update_of_ne (Ne.symm hchecked) ..
    show ((s.create name).entries target).map _ = _
    rw [hentry]
    refine Option.map_congr fun other hother => Function.update_of_ne ?_ ..
    have hlt : other < s.next := ((hintact s.entries List.mem_cons_self).2 other hother).1
    omega
  | restrictFile file => exact hkept file hchecked.1 (renames_of_settles hchecked.2) _
  | writeAll file content => exact hkept file hchecked.1 (renames_of_settles hchecked.2.2) _
  | writeAllFailed file content written error =>
    exact hkept file hchecked.1 (renames_of_settles hchecked.2.2) _
  | syncAll file => exact hkept file hchecked.1 hchecked.2 _
  | rename source name file hfile =>
    obtain ⟨rfl, -⟩ := hchecked
    exact absurd rfl (hrenamed source)
  | _ => rfl

/-- A renaming puts a file in the place of `target` that is allowed to its program. -/
theorem file_of_rename {source : κ} {allowed : Option (Inode β) → Prop}
    (hknows : Knows target whole past s)
    (hchecked : Replaces target allowed past (.rename source target))
    (h : Effect (.rename source target) s (.ok ()) s') : allowed (s'.file target) := by
  obtain ⟨-, hpast, own, content, hcreated, hrestricted, hwritten, hsynced, hallowed⟩ := hchecked
  cases h with
  | rename source name file hfile =>
    have hown := (hknows _ hcreated hpast).2.1
    rw [hown] at hfile
    cases hfile
    have hentry : (s.move source target own).entries target = some own := Function.update_self ..
    show allowed (((s.move source target own).entries target).map s.inodes)
    rw [hentry, Option.map_some, hknows.own_file hrestricted hwritten hsynced]
    exact hallowed

/-- Nothing was written to a new file that others may read; files numbered before `first` were
there already. -/
def Confidential (first : ℕ) (s : FileSystem κ β) : Prop :=
  ∀ file, first ≤ file → issued s file → (s.inodes file).content = default ∨
    (s.inodes file).permissions = .ownerOnly

theorem confidential_of_effect {op : FileOp κ β} {answer : op.Answer} {first : ℕ}
    (hknows : Knows target whole past s) (hchecked : Replaces target whole past op)
    (h : Effect op s answer s') (hs : Confidential first s) : Confidential first s' := by
  have hset : ∀ file inode, (first ≤ file → issued s file →
      inode.content = default ∨ inode.permissions = .ownerOnly) →
      Confidential first (s.setInode file inode) := by
    intro file inode hinode other hother hissued
    by_cases hsame : other = file
    · subst hsame
      have hnow : (s.setInode other inode).inodes other = inode := Function.update_self ..
      rw [hnow]
      exact hinode hother hissued
    · have hold : (s.setInode file inode).inodes other = s.inodes other :=
        Function.update_of_ne hsame ..
      rw [hold]
      exact hs other hother hissued
  cases h with
  | createNew name =>
    intro file hfile hissued
    have hlt : file < s.next + 1 := hissued
    by_cases hsame : file = s.next
    · -- the new file is empty
      have hnow : (s.create name).inodes file = ⟨default, .inherited, false⟩ := by
        rw [hsame]
        exact Function.update_self ..
      rw [hnow]
      exact Or.inl rfl
    · have hold : (s.create name).inodes file = s.inodes file := Function.update_of_ne hsame ..
      rw [hold]
      have hissued' : issued s file := by
        show file < s.next
        omega
      exact hs file hfile hissued'
  -- a file is written once it is restricted, so a write that fails half way shows nothing either
  | restrictFile file => exact hset file _ fun _ _ => Or.inr rfl
  | writeAll file content => exact hset file _ fun _ _ => Or.inr (hknows _ hchecked.2.1).2
  | writeAllFailed file content written error =>
    exact hset file _ fun _ _ => Or.inr (hknows _ hchecked.2.1).2
  | syncAll file => exact hset file _ (hs file)
  | _ => exact hs

/-! ## Runs without a crash -/

section Runs

open Concurrent

variable {N : Type} {C : Concurrent (fileCalls κ β) (FileSystem κ β) N} {A : N → Prop}
  {w w' : World C} {l : Label C}

/-- A step that is no crash, of programs that replace `target`, is a step of a call or leaves
the files as they are. -/
theorem effect_of_step {allowed : N → Option (Inode β) → Prop}
    (howned : C.Owned A created issued (Intact target whole) (fun _ => Knows target whole)
      fun name => Replaces target (allowed name))
    (heffect : ∀ name op s r s', C.Effect name op s r s' → Effect op s r s')
    (hw : C.Separate A created issued (Intact target whole) (fun _ => Knows target whole) w)
    (hl : l ≠ .ambient) (hstep : C.Step w l w') :
    (w'.shared = w.shared ∧ ∀ id name e, l ≠ .call id name e) ∨
    ∃ id name past op answer, l = .call id name ⟨op, answer⟩ ∧ A name ∧
      Knows target whole past w.shared ∧ Replaces target (allowed name) past op ∧
      Effect op w.shared answer w'.shared := by
  cases hstep with
  | @call id name past op next r s hflight hcall =>
    exact Or.inr ⟨id, name, past, op, r, rfl, hw.running id _ hflight, hw.known id _ hflight,
      hw.checked howned hflight, heffect name op _ r s hcall⟩
  | ambient => exact absurd rfl hl
  | _ => exact Or.inl ⟨rfl, by simp⟩

end Runs

end Programs

end FileSystem
