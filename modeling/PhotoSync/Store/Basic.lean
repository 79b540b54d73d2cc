import PhotoSync.Lib.Run
import PhotoSync.Store.Tables
import PhotoSync.Store.Paths

set_option autoImplicit false

namespace PhotoSync
open Relational Table

-- Code outside the repository: the file URI of a path and the SHA-256 of a photo's serialisation in hexadecimal.
structure Platform where
  fileUri : String → String
  photoSha256 : RemotePhoto → String

def invalid {α : Type} (message : String) : Result α := .error (.backend message)

def ensure (condition : Bool) (message : String) : Result Unit :=
  if condition then .ok () else .error (.backend message)

theorem ensure_ok {condition : Bool} {message : String} {value : Unit} : ensure condition message = .ok value ↔ condition = true := by
  unfold ensure
  cases condition <;> simp

def requireRow {α : Type} : Option α → Result α
  | some row => .ok row
  | none => .error .noRows

theorem requireRow_ok {α : Type} {row : Option α} {value : α} : requireRow row = .ok value ↔ row = some value := by
  cases row <;> simp [requireRow]

namespace Job

-- m.folder_path = rtrim(root) or rtrim(root) || '/' || album.
def albumFolder (job : Job) (album : String) : String :=
  if album = "" then rtrimSlash job.localRoot else rtrimSlash job.localRoot ++ "/" ++ album

def inScope (job : Job) (folderPath : String) : Bool :=
  job.uploadScope == .all || job.uploadAlbums.any (fun album => folderPath == job.albumFolder album)

end Job

namespace Store

variable (s : Store)

def connectionEnabled (job : Job) : Bool := (s.connections.get job.connection).any Connection.enabled

def hasChange (job : Nat) : Bool := s.changes.any (fun change => change.1 == job)

-- SELECT database_generation FROM sync_native_progress WHERE job_id = ?.
def progressOf (job : Nat) : Option NativeProgress := (s.progress.first? (fun _ row => row.job == job)).map Prod.snd

def generationOf (job : Nat) : Option String := (s.progressOf job).map NativeProgress.databaseGeneration

def issuedFor (entry : Nat) : Bool := s.tasks.any (fun _ task => task.entry == some entry && task.state == .issued)

def publishingFor (entry : Nat) : Bool := s.publications.any (fun _ row => row.entry == some entry && row.state == .publishing)

def busy (entry : Nat) : Bool := s.issuedFor entry || s.publishingFor entry

def linkedMedia (entry : Entry) : Option Media := entry.media.bind s.media.get

-- UNIQUE(job_id, relative_path) and UNIQUE(job_id, native_photo_id).
def pathTaken (self job : Nat) (path : String) : Bool :=
  s.entries.any (fun id row => id != self && row.job == job && row.relativePath == path)

def photoTaken (self job : Nat) (photo : String) : Bool :=
  s.entries.any (fun id row => id != self && row.job == job && row.photoId == some photo)

def entryAtPath (job : Nat) (path : String) : Option (Nat × Entry) :=
  s.entries.first? (fun _ row => row.job == job && row.relativePath == path)

def entryOfPhoto (job : Nat) (photo : String) : Option (Nat × Entry) :=
  s.entries.first? (fun _ row => row.job == job && row.photoId == some photo)

def entryOfMaster (job : Nat) (master : String) : Option (Nat × Entry) :=
  s.entries.first? (fun _ row => row.job == job && row.masterId == some master)

def mediaOfUri (uri : String) : Option (Nat × Media) := s.media.first? (fun _ row => row.uri == uri)

def updateMedia (id : Nat) (change : Media → Media) : Store := { s with media := s.media.modify id change }

def updateEntry (id : Nat) (change : Entry → Entry) : Store := { s with entries := s.entries.modify id change }

-- UPDATE media_items ... WHERE id = (SELECT media_id FROM sync_entries WHERE id = ?).
def updateEntryMedia (entry : Nat) (change : Media → Media) : Store :=
  match (s.entries.get entry).bind Entry.media with
  | some media => s.updateMedia media change
  | none => s

theorem updateEntryMedia_eq (entry : Nat) (change : Media → Media) :
    ∃ media, s.updateEntryMedia entry change = { s with media := media } := by
  unfold updateEntryMedia
  split <;> exact ⟨_, rfl⟩

theorem updateEntryMedia_entries (entry : Nat) (change : Media → Media) : (s.updateEntryMedia entry change).entries = s.entries := by
  obtain ⟨_, same⟩ := s.updateEntryMedia_eq entry change
  rw [same]

-- A statement that would leave two entries of a job on one path or one photo fails; any other takes effect.
def setEntryPath (id : Nat) (path : String) (change : Entry → Entry) : Result Store :=
  match s.entries.get id with
  | none => .ok s
  | some row =>
    if s.pathTaken id row.job path then .error (.unique "sync_entries.job_id, sync_entries.relative_path")
    else .ok (s.updateEntry id (fun entry => { change entry with relativePath := path }))

def setEntryPhoto (id : Nat) (photo : String) (change : Entry → Entry) : Result Store :=
  match s.entries.get id with
  | none => .ok s
  | some row =>
    if s.photoTaken id row.job photo then .error (.unique "sync_entries.job_id, sync_entries.native_photo_id")
    else .ok (s.updateEntry id (fun entry => { change entry with photoId := some photo }))

def insertEntry (row : Entry) : Result Store :=
  if s.pathTaken s.entries.next row.job row.relativePath then .error (.unique "sync_entries.job_id, sync_entries.relative_path")
  else if row.photoId.any (s.photoTaken s.entries.next row.job) then .error (.unique "sync_entries.job_id, sync_entries.native_photo_id")
  else .ok { s with entries := s.entries.insert row }

theorem insertEntry_ok {s t : Store} {row : Entry} (done : s.insertEntry row = .ok t) :
    s.pathTaken s.entries.next row.job row.relativePath = false ∧ t = { s with entries := s.entries.insert row } := by
  unfold insertEntry at done
  split at done
  · cases done
  · next free =>
    split at done
    · cases done
    · cases done
      exact ⟨by simpa using free, rfl⟩

theorem setEntryPhoto_ok {s t : Store} {id : Nat} {photo : String} {change : Entry → Entry} {row : Entry}
    (read : s.entries.get id = some row) (done : s.setEntryPhoto id photo change = .ok t) :
    s.photoTaken id row.job photo = false ∧ t = s.updateEntry id (fun entry => { change entry with photoId := some photo }) := by
  unfold setEntryPhoto at done
  rw [read] at done
  dsimp only at done
  split at done
  · cases done
  · next free =>
    cases done
    exact ⟨by simpa using free, rfl⟩

theorem setEntryPhoto_eq {s t : Store} {id : Nat} {photo : String} {change : Entry → Entry}
    (done : s.setEntryPhoto id photo change = .ok t) :
    t = s.updateEntry id (fun entry => { change entry with photoId := some photo }) := by
  cases read : s.entries.get id with
  | some => exact (setEntryPhoto_ok read done).2
  | none =>
    rw [setEntryPhoto, read] at done
    cases done
    rw [updateEntry, modify_absent _ read]

theorem setEntryPath_eq {s t : Store} {id : Nat} {path : String} {change : Entry → Entry}
    (done : s.setEntryPath id path change = .ok t) :
    t = s.updateEntry id (fun entry => { change entry with relativePath := path }) := by
  unfold setEntryPath at done
  split at done
  · next absent =>
    cases done
    rw [updateEntry, modify_absent _ absent]
  · split at done <;> cases done
    rfl

theorem entryOfPhoto_unique (s : Store) {id : Nat} {photo : String} {row : Entry} (read : s.entries.get id = some row)
    (bound : row.photoId = some photo) (alone : s.photoTaken id row.job photo = false) :
    s.entryOfPhoto row.job photo = some (id, row) := by
  refine first?_unique _ read (by simp [bound]) (fun other found present chosen => ?_)
  by_contra different
  have taken := any_eq_false.mp alone other found present
  simp only [Bool.and_eq_true] at chosen
  simp [different, chosen.1, chosen.2] at taken

theorem photoTaken_updateEntry {s : Store} {id job : Nat} {photo : String} (change : Entry → Entry) :
    (s.updateEntry id change).photoTaken id job photo = s.photoTaken id job photo := by
  apply Bool.eq_iff_iff.mpr
  simp only [photoTaken, updateEntry, any_iff, Bool.and_eq_true, bne_iff_ne]
  constructor
  · rintro ⟨other, row, present, ⟨different, own⟩, same⟩
    rw [get_modify_of_ne different] at present
    exact ⟨other, row, present, ⟨different, own⟩, same⟩
  · rintro ⟨other, row, present, ⟨different, own⟩, same⟩
    exact ⟨other, row, by rw [get_modify_of_ne different, present], ⟨different, own⟩, same⟩

def setMediaUri (id : Nat) (uri : String) (change : Media → Media) : Result Store :=
  if s.media.any (fun other row => other != id && row.uri == uri) then .error (.unique "media_items.uri")
  else .ok (s.updateMedia id (fun row => { change row with uri := uri }))

theorem setMediaUri_ok {s t : Store} {id : Nat} {uri : String} {change : Media → Media}
    (done : s.setMediaUri id uri change = .ok t) : (∀ other row, s.media.get other = some row → other ≠ id → row.uri ≠ uri) ∧
      t = s.updateMedia id (fun row => { change row with uri := uri }) := by
  unfold setMediaUri at done
  split at done
  · cases done
  · next free =>
    cases done
    rw [Bool.not_eq_true, any_eq_false] at free
    refine ⟨fun other row read apart same => ?_, rfl⟩
    have unlike := free other row read
    simp [apart, same] at unlike

-- Deletions with the effects of the foreign keys and triggers.
def deleteMedia (test : Nat → Media → Bool) : Store :=
  let media := s.media.delete test
  { s with
    media := media
    entries := s.entries.update (fun _ row => { row with media := row.media.filter (fun id => (media.get id).isSome) }) }

def deleteEntries (test : Nat → Entry → Bool) : Store :=
  let entries := s.entries.delete test
  let kept : Nat → Bool := fun id => (entries.get id).isSome
  { s with
    entries := entries
    fragments := s.fragments.delete (fun _ row => !kept row.entry)
    tasks := s.tasks.update (fun _ row => { row with entry := row.entry.filter kept })
    conflicts := s.conflicts.delete (fun _ row => !kept row.entry)
    publications := s.publications.update (fun _ row => { row with entry := row.entry.filter kept }) }

def deleteJobs (test : Nat → Job → Bool) : Store :=
  let dropped : Nat → Bool := fun id => (s.jobs.get id).any (test id)
  let s := s.deleteEntries (fun _ row => dropped row.job)
  { s with
    jobs := s.jobs.delete test
    changes := s.changes.filter (fun change => !dropped change.1)
    fragments := s.fragments.delete (fun _ row => dropped row.job)
    tasks := s.tasks.delete (fun _ row => dropped row.job)
    conflicts := s.conflicts.delete (fun _ row => dropped row.job)
    publications := s.publications.delete (fun _ row => dropped row.job)
    resources := s.resources.delete (fun _ row => dropped row.job)
    progress := s.progress.delete (fun _ row => dropped row.job) }

def deleteConnections (test : Nat → Connection → Bool) : Store :=
  let s := s.deleteJobs (fun _ job => (s.connections.get job.connection).any (test job.connection))
  { s with connections := s.connections.delete test }

-- sync_records with owner kind pending, one master and one asset per entry.
def pendingFragment (entry : Nat) (master : Bool) : Option Fragment :=
  (s.fragments.first? (fun _ row => row.entry == entry && row.master == master)).map Prod.snd

def setPending (entry : Nat) (master : Bool) (record : NativeRecord) : Result Store := do
  let row ← requireRow (s.entries.get entry)
  let named := if record.recordType == some assetRecordType then some record.recordName
    else stringField record.fields "photoId"
  let photoId := if master then named.or row.photoId else some record.recordName
  let fragment : Fragment := ⟨row.job, entry, master, photoId, record⟩
  match s.fragments.first? (fun _ row => row.entry == entry && row.master == master) with
  | some (id, _) => return { s with fragments := s.fragments.modify id (fun _ => fragment) }
  | none => return { s with fragments := s.fragments.insert fragment }

def clearPending (entry : Nat) : Store := { s with fragments := s.fragments.delete (fun _ row => row.entry == entry) }

def clearJobPending (job : Nat) : Store := { s with fragments := s.fragments.delete (fun _ row => row.job == job) }

def setBaseline (entry : Nat) (photo : Option RemotePhoto) : Store := s.updateEntry entry (fun row => { row with baseline := photo })

def resolveConflicts (entry : Nat) (settles : String → Bool) : Store :=
  { s with conflicts := s.conflicts.update (fun _ row =>
    if row.entry == entry && row.isOpen && settles row.reason then { row with isOpen := false } else row) }

def openConflict (entry : Nat) : Option (Nat × Conflict) := s.conflicts.first? (fun _ row => row.entry == entry && row.isOpen)

def writeConflict (job entry : Nat) (reason : String) (photo : Option RemotePhoto) : Store :=
  match s.openConflict entry with
  | some (id, _) =>
    { s with conflicts := s.conflicts.modify id (fun row =>
      { row with reason := reason, remote := photo, recovery := none }) }
  | none => { s with conflicts := s.conflicts.insert ⟨job, entry, true, reason, photo, none⟩ }

def supersedePending (entry : Nat) : Store :=
  { s with publications := s.publications.update (fun _ row =>
    if row.entry == some entry && row.state == .pending then { row with state := .superseded } else row) }

-- The revision of a received record, else the one a bound entry holds.
def recordRevision (job : Nat) (name : String) : Option String :=
  match s.fragments.first? (fun _ row => row.job == job && row.record.recordName == name) with
  | some (_, row) => row.record.recordChangeTag
  | none =>
    match s.entryOfPhoto job name with
    | some (_, row) => row.assetRevision
    | none => (s.entryOfMaster job name).bind (fun found => found.2.masterRevision)

end Store
end PhotoSync
