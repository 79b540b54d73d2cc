import PhotoSync.Store.Projection

set_option autoImplicit false

namespace PhotoSync
open Relational Transaction Store Table Entry

structure Epoch where
  job : Nat
  config : Nat
  cycle : String
deriving DecidableEq, Repr

structure ConfirmedRecord where
  record : NativeRecord
  failed : Bool
deriving DecidableEq, Repr

def defaultOwner : String := "_defaultOwner"

def findConfirmed (records : List ConfirmedRecord) (name : String) : Option ConfirmedRecord :=
  records.find? (fun found => found.record.recordName == name)

def revisionIn (records : List ConfirmedRecord) (name : String) : Option String :=
  (findConfirmed records name).bind (fun found => found.record.recordChangeTag)

def confirmsRecord (phase : UploadPhase) (records : List ConfirmedRecord) (expected : RecordOperation) : Result Unit :=
  match findConfirmed records expected.record.recordName with
  | none => invalid "atomic mutation confirmed another record"
  | some found => do
    ensure (!found.failed && found.record.recordChangeTag.any (fun tag => tag != ""))
      "atomic mutation contains an unconfirmed record"
    ensure (phase != .delete || found.record.deleted) "delete response is not a tombstone"

def confirmsBatch (operation : Issued) (records : List ConfirmedRecord) : Result Unit :=
  match operation.body with
  | none => invalid "issued operation contains no operations"
  | some body => do
    ensure (records.length == body.operations.length) "mutation did not confirm the whole atomic batch"
    body.operations.forM (confirmsRecord operation.phase records)

-- A one-record answer carries only metadata: the rest of the baseline stands.
def patchBaseline (record : NativeRecord) (photo : RemotePhoto) : RemotePhoto :=
  { photo with
    isFavorite := (intField record.fields "isFavorite").getD 0 != 0
    assetDateMs := intField record.fields "assetDate"
    relativePath := (stringField record.fields "relativePath").getD photo.relativePath
    events := record.events.getD photo.events }

namespace Store

def validEpoch (s : Store) (epoch : Epoch) : Result Unit :=
  ensure ((s.jobs.get epoch.job).any (fun job => job.configGeneration == epoch.config
    && job.cycleId == some epoch.cycle && !job.paused && s.connectionEnabled job) && !s.hasChange epoch.job)
    "synchronization configuration/cycle was superseded"

def taskOf (s : Store) (operation : String) : Option (Nat × Task) := s.tasks.first? (fun _ task => task.operationId == operation)

def saveIssued (s : Store) (epoch : Epoch) (issued : Issued) : Result Store := do
  s.validEpoch epoch
  ensure (issued.job == epoch.job && issued.config == epoch.config) "issued operation configuration mismatch"
  match s.taskOf issued.id with
  | some (id, task) => do
    ensure (task.state == .issued && task.job == issued.job) "issued operation cannot replace settled evidence"
    return { s with tasks := s.tasks.modify id (fun row => { row with issued := issued }) }
  | none => do
    ensure (s.entries.get issued.entry).isSome "FOREIGN KEY constraint failed"
    let task : Task := ⟨issued.id, issued.job, some issued.entry, issued.phase, .issued, issued⟩
    return { s with tasks := s.tasks.insert task }

def retireIssued (s : Store) (epoch : Epoch) (operation : Issued) (rejected : Bool) : Result Store := do
  s.validEpoch epoch
  ensure (rejected || (operation.body.isNone && operation.config != epoch.config))
    "an uncertain issued mutation cannot be discarded"
  match s.taskOf operation.id with
  | none => invalid "issued evidence changed before retirement"
  | some (id, task) => do
    ensure (task.issued == operation && task.job == epoch.job && task.state == .issued)
      "issued evidence changed before retirement"
    return { s with tasks := s.tasks.modify id (fun row => { row with state := .failed }) }

def issuedEvidence (s : Store) (epoch : Epoch) (operation : Issued) : Result Task := do
  match s.taskOf operation.id with
  | none => invalid "no issued operation to confirm"
  | some (_, task) => do
    ensure (task.job == epoch.job && task.entry == some operation.entry && task.state == .issued)
      "no issued operation to confirm"
    ensure (task.issued.generation == operation.generation && task.issued.versions == operation.versions
      && task.issued.body == operation.body) "operation confirmation does not match issued evidence"
    return task

def ownUpload (s : Store) (operation : Issued) (role : AssetRole) (asset : AssetDescriptor)
    (prepared : Option PreparedResource) : Result Store :=
  match prepared with
  | none => .ok s
  | some resource =>
    match ContentDigest.hexFromDescriptorBase64 asset.fileChecksum with
    | none => invalid "confirmed asset has an invalid digest"
    | some hex =>
      match s.resources.first? (fun _ row => row.job == operation.job && row.generation == operation.generation
          && row.assetId == asset.assetId && row.role == role) with
      | some (id, _) => .ok { s with resources := s.resources.modify id (fun row =>
        { row with stagingPath := some resource.path, state := .verified }) }
      | none => .ok { s with resources := s.resources.insert {
        job := operation.job, generation := operation.generation, assetId := asset.assetId, role := role
        recordName := some operation.photo, expectedSha256 := some hex, expectedSize := some asset.size
        stagingPath := some resource.path, state := .verified, verifiedCache := none } }

def confirmPair (s : Store) (epoch : Epoch) (operation : Issued) (records : List ConfirmedRecord) : Result Store := do
  let job ← requireRow (s.jobs.get epoch.job)
  let live := records.foldl (fun live found => RecordSet.apply live found.record) []
  match toGraph ⟨job.zoneName, defaultOwner⟩ live with
  | .error _ => invalid "confirmed photo pair violates the server contract"
  | .ok graph =>
    match graph.photos.head? with
    | none => invalid "confirmed pair contains no photo"
    | some photo => do
      let s := s.setBaseline operation.entry (some photo)
      let s ← s.ownUpload operation .original photo.original
        (operation.preparation.resources.map PreparedResources.original)
      s.ownUpload operation .thumbnail photo.thumbnail
        (operation.preparation.resources.map PreparedResources.thumbnail)

def confirmBaseline (s : Store) (epoch : Epoch) (operation : Issued) (records : List ConfirmedRecord) : Result Store :=
  if operation.phase == .delete then .ok s
  else if records.length == 2 then s.confirmPair epoch operation records
  else do
    let first ← requireRow records.head?
    return s.updateEntry operation.entry (fun row =>
      { row with baseline := row.baseline.map (patchBaseline first.record) })

def confirmEntry (s : Store) (operation : Issued) (records : List ConfirmedRecord) (generation : String) : Result Store :=
  if operation.phase == .delete then .ok (s.updateEntry operation.entry (Entry.confirmDelete operation.versions))
  else s.setEntryPhoto operation.entry operation.photo (Entry.confirmUpload operation
    (revisionIn records operation.photo) (revisionIn records operation.master) generation)

-- Every phase marks the linked row as present on both sides.
def confirmMedia (s : Store) (operation : Issued) : Store := s.updateEntryMedia operation.entry (fun row => { row with
    storageLocation := .both
    thumbnailReady := if operation.preparation.resources.isSome then true else row.thumbnailReady })

def confirmTask (s : Store) (operation : Issued) : Store :=
  { s with tasks := s.tasks.update (fun _ task =>
    if task.operationId == operation.id then { task with state := .confirmed } else task) }

def settledDeletion (operation : Issued) (row : Entry) : Bool :=
  row.dirty == .clean && row.retired && row.localVersion == operation.versions.localVersion

def dropCloudRow (s : Store) (media : Option Nat) : Store :=
  match media with
  | none => s
  | some media => s.deleteMedia (fun id row => id == media && row.storageLocation == .cloudOnly
    && !s.entries.any (fun _ entry => entry.media == some media && !entry.retired))

def confirmCleanup (s : Store) (operation : Issued) : Store :=
  if operation.phase == .delete then
    (s.dropCloudRow (((s.entries.get operation.entry).filter (settledDeletion operation)).bind Entry.media)).deleteEntries
      (fun id row => id == operation.entry && settledDeletion operation row)
  else s

def confirmSettles (reason : String) : Bool := reason == intersectsReason || reason == ownedReason

def confirm (s : Store) (epoch : Epoch) (operation : Issued) (response : Option (List ConfirmedRecord))
    (leaseHeld : Bool) : Result Store := do
  s.validEpoch epoch
  ensure leaseHeld "UPLOAD_LEASE_LOST"
  let _ ← s.issuedEvidence epoch operation
  let generation ← requireRow (s.generationOf epoch.job)
  ensure (generation == operation.generation) "operation belongs to another database generation"
  match response with
  | none => invalid "mutation returned no records"
  | some records => do
    confirmsBatch operation records
    let s ← s.confirmEntry operation records generation
    let s := s.resolveConflicts operation.entry confirmSettles
    let s ← s.confirmBaseline epoch operation records
    return ((s.confirmMedia operation).confirmTask operation).confirmCleanup operation

end Store

variable {s t : Store} {records : List ConfirmedRecord} {response : Option (List ConfirmedRecord)} {leaseHeld : Bool}
  {role : AssetRole} {generation : String}

variable {operation : Issued} {epoch : Epoch} {asset : AssetDescriptor} {prepared : Option PreparedResource}

section Moves
variable {policy : Policy}

-- Evidence that an operation is issued for its entry, at the versions it captured.
structure Evidence (s : Store) (operation : Issued) : Prop where
  task : ∃ id task, s.tasks.get id = some task ∧ task.operationId = operation.id ∧
    task.entry = some operation.entry ∧ task.state = .issued ∧ task.issued.versions = operation.versions ∧
    task.issued.body = operation.body

theorem issuedEvidence_ok {task : Task} (done : s.issuedEvidence epoch operation = .ok task) : Evidence s operation := by
  unfold issuedEvidence at done
  split at done
  · cases done
  · next id found located =>
    obtain ⟨_, owned, _, same, _⟩ := bind2_ok done
    obtain ⟨present, named⟩ := first?_some located
    rw [ensure_ok] at owned same
    simp only [Bool.and_eq_true, beq_iff_eq] at owned same named
    exact ⟨id, found, present, named, owned.1.2, owned.2, same.1.2, same.2⟩

theorem saveIssued_steps {issued : Issued} (allowed : policy.save issued) (done : s.saveIssued epoch issued = .ok t) :
    Steps policy s t := by
  obtain ⟨_, _, _, _, rest⟩ := bind2_ok done
  split at rest
  · next id task located =>
    obtain ⟨_, owned, rest⟩ := bind_ok.mp rest
    cases rest
    obtain ⟨present, named⟩ := first?_some located
    rw [ensure_ok] at owned
    simp only [Bool.and_eq_true, beq_iff_eq] at owned named
    refine ⟨.task id _ (fun row read => ?_), rfl, rfl, rfl⟩
    rw [present] at read
    cases read
    exact .rewrite task issued named owned.1 allowed
  · obtain ⟨_, _, rest⟩ := bind_ok.mp rest
    cases rest
    exact ⟨⟨.refl, .refl, .insert _ ⟨allowed, rfl, rfl⟩⟩, rfl, rfl, rfl⟩

theorem retireIssued_steps {rejected : Bool} (done : s.retireIssued epoch operation rejected = .ok t) : Steps policy s t := by
  obtain ⟨_, _, _, _, rest⟩ := bind2_ok done
  split at rest
  · cases rest
  · next id _ _ =>
    obtain ⟨_, _, rest⟩ := bind_ok.mp rest
    cases rest
    exact ⟨.task id _ (fun row _ => .frame row _ ⟨rfl, rfl, .inl rfl, .inr nofun⟩), rfl, rfl, rfl⟩

theorem confirmTask_moves (s : Store) (operation : Issued) : Moves policy s (s.confirmTask operation) := by
  refine .tasks_frame _ (fun _ task => ?_)
  split
  · exact ⟨rfl, rfl, .inl rfl, .inr nofun⟩
  · exact ⟨rfl, rfl, .inl rfl, .inl rfl⟩

theorem ownUpload_eq (done : s.ownUpload operation role asset prepared = .ok t) :
    ∃ resources, t = { s with resources := resources } := by
  unfold ownUpload at done
  split at done
  · cases done
    exact ⟨_, rfl⟩
  · split at done
    · cases done
    · split at done <;> cases done <;> exact ⟨_, rfl⟩

theorem confirmBaseline_eq (done : s.confirmBaseline epoch operation records = .ok t) :
    ∃ (change : Option RemotePhoto → Option RemotePhoto) (resources : Table Resource),
      t = { s.updateEntry operation.entry (fun row => { row with baseline := change row.baseline }) with
        resources := resources } := by
  unfold confirmBaseline at done
  split at done
  · cases done
    exact ⟨id, s.resources, by simp [updateEntry, modify_id]⟩
  · split at done
    · obtain ⟨job, _, rest⟩ := bind_ok.mp done
      dsimp only at rest
      split at rest
      · cases rest
      · split at rest
        · cases rest
        · next photo _ =>
          obtain ⟨owned, first, second⟩ := bind_ok.mp rest
          obtain ⟨_, rfl⟩ := ownUpload_eq second
          obtain ⟨_, rfl⟩ := ownUpload_eq first
          exact ⟨fun _ => some photo, _, rfl⟩
    · obtain ⟨first, _, rest⟩ := bind_ok.mp done
      cases rest
      exact ⟨Option.map (patchBaseline first.record), _, rfl⟩

theorem confirmBaseline_moves (done : s.confirmBaseline epoch operation records = .ok t) : Moves policy s t := by
  obtain ⟨change, _, rfl⟩ := confirmBaseline_eq done
  have based : Moves policy s (s.updateEntry operation.entry (fun row => { row with baseline := change row.baseline })) :=
    .entry_frame _ _ (fun _ => by constructor <;> rfl)
  exact ⟨based.entries, based.media, based.tasks⟩

theorem confirmEntry_moves
    (upload : operation.phase ≠ .delete → ∀ row, s.entries.get operation.entry = some row → policy.guards.confirm operation.entry operation row)
    (delete : operation.phase = .delete → ∀ row, s.entries.get operation.entry = some row → policy.guards.confirmDelete operation.entry operation row)
    (done : s.confirmEntry operation records generation = .ok t) : Moves policy s t := by
  unfold confirmEntry at done
  split at done
  · next phase =>
    rw [beq_iff_eq] at phase
    cases done
    exact .entry _ _ (fun row read => .confirmDelete row operation phase (delete phase row read))
  · next phase =>
    rw [beq_iff_eq] at phase
    exact .setEntryPhoto _ _ _ done (fun row read =>
      .confirmUpload row operation _ _ generation phase (upload phase row read))

theorem linked_updateEntry {id : Nat} (change : Entry → Entry) (same : ∀ row, (change row).media = row.media) :
    ((s.updateEntry id change).entries.get id).bind media = (s.entries.get id).bind media := by
  rw [updateEntry, get_modify_self]
  cases s.entries.get id with
  | none => rfl
  | some row => exact same row

theorem confirmEntry_eq (done : s.confirmEntry operation records generation = .ok t) :
    ∃ change : Entry → Entry, t = s.updateEntry operation.entry change ∧ ∀ row, (change row).media = row.media := by
  unfold confirmEntry at done
  split at done
  · cases done
    exact ⟨_, rfl, fun _ => rfl⟩
  · exact ⟨_, setEntryPhoto_eq done, fun _ => rfl⟩

theorem confirmEntry_linked (s t : Store) (operation : Issued) (records : List ConfirmedRecord) (generation : String)
    (done : s.confirmEntry operation records generation = .ok t) :
    (t.entries.get operation.entry).bind media = (s.entries.get operation.entry).bind media := by
  obtain ⟨change, rfl, same⟩ := confirmEntry_eq done
  exact linked_updateEntry change same

theorem confirmBaseline_linked (done : s.confirmBaseline epoch operation records = .ok t) :
    (t.entries.get operation.entry).bind media = (s.entries.get operation.entry).bind media ∧ t.media = s.media := by
  obtain ⟨_, _, rfl⟩ := confirmBaseline_eq done
  exact ⟨linked_updateEntry _ (fun _ => rfl), rfl⟩

theorem confirmMedia_moves
    (place : ∀ media row, (s.entries.get operation.entry).bind Entry.media = some media → policy.place media row) :
    Moves policy s (s.confirmMedia operation) :=
  .entry_media _ _ (fun media row _ linked _ => .inr (place media row linked))

theorem confirmCleanup_moves
    (drop : operation.phase = .delete → ∀ row, settledDeletion operation row = true → policy.drop operation.entry row) :
    Moves policy s (s.confirmCleanup operation) := by
  unfold confirmCleanup
  split
  · next phase =>
    rw [beq_iff_eq] at phase
    have dropped : ∀ t : Store, Moves policy t (t.deleteEntries (fun id row =>
        id == operation.entry && settledDeletion operation row)) := by
      intro t
      refine .deleteEntries _ (fun id row _ picked => ?_)
      simp only [Bool.and_eq_true, beq_iff_eq] at picked
      rw [picked.1]
      exact drop phase row picked.2
    refine .trans ?_ (dropped _)
    unfold dropCloudRow
    split
    · exact .refl
    · exact .deleteMedia _
  · exact .refl

theorem confirm_ok (done : s.confirm epoch operation response leaseHeld = .ok t) :
    ∃ records generation entered based, response = some records ∧ Evidence s operation ∧
      s.generationOf epoch.job = some generation ∧ confirmsBatch operation records = .ok () ∧
      s.confirmEntry operation records generation = .ok entered ∧
      (entered.resolveConflicts operation.entry confirmSettles).confirmBaseline epoch operation records = .ok based ∧
      t = ((based.confirmMedia operation).confirmTask operation).confirmCleanup operation := by
  obtain ⟨_, _, _, _, task, evidence, rest⟩ := bind3_ok done
  obtain ⟨generation, found, _, _, rest⟩ := bind2_ok rest
  rw [requireRow_ok] at found
  cases response with
  | none => cases rest
  | some records =>
    obtain ⟨_, batch, entered, bound, based, baseline, rest⟩ := bind3_ok rest
    cases rest
    exact ⟨records, generation, entered, based, rfl, issuedEvidence_ok evidence, found, batch, bound, baseline, rfl⟩

theorem confirm_upload_entry {row : Entry} (upload : operation.phase ≠ .delete)
    (read : s.entries.get operation.entry = some row) (done : s.confirm epoch operation response leaseHeld = .ok t) :
    ∃ assetRevision masterRevision generation baseline, t.entries.get operation.entry =
      some { row.confirmUpload operation assetRevision masterRevision generation with baseline := baseline } := by
  obtain ⟨records, generation, entered, based, _, _, _, _, bound, baseline, rfl⟩ := confirm_ok done
  have skip : ¬ (operation.phase == .delete) = true := by simpa using upload
  unfold confirmEntry at bound
  rw [if_neg skip] at bound
  obtain ⟨_, rfl⟩ := setEntryPhoto_ok read bound
  obtain ⟨change, _, rfl⟩ := confirmBaseline_eq baseline
  refine ⟨revisionIn records operation.photo, revisionIn records operation.master, generation, change row.baseline, ?_⟩
  unfold confirmCleanup
  rw [if_neg skip]
  refine (congrArg (fun table => table.get operation.entry) (updateEntryMedia_entries _ _ _)).trans ?_
  simp only [resolveConflicts, updateEntry, get_modify_self, read, Option.map_some]
  rfl

theorem confirm_moves (place : ∀ media row, (s.entries.get operation.entry).bind Entry.media = some media → policy.place media row)
    (upload : operation.phase ≠ .delete → Evidence s operation → ∀ row, s.entries.get operation.entry = some row → policy.guards.confirm operation.entry operation row)
    (delete : operation.phase = .delete → Evidence s operation → ∀ row, s.entries.get operation.entry = some row → policy.guards.confirmDelete operation.entry operation row)
    (drop : operation.phase = .delete → ∀ row, settledDeletion operation row = true → policy.drop operation.entry row)
    (done : s.confirm epoch operation response leaseHeld = .ok t) : Moves policy s t := by
  obtain ⟨records, generation, entered, based, _, evidence, _, _, bound, baseline, rfl⟩ := confirm_ok done
  have first : Moves policy s entered := confirmEntry_moves
    (fun phase => upload phase evidence) (fun phase => delete phase evidence) bound
  have second : Moves policy entered (entered.resolveConflicts operation.entry confirmSettles) := .elsewhere rfl rfl rfl
  have third := (first.trans second).trans (confirmBaseline_moves baseline)
  have linked := (confirmBaseline_linked baseline).1.trans
    (confirmEntry_linked s entered operation records generation bound)
  exact ((third.trans (confirmMedia_moves (fun media row held =>
    place media row (linked ▸ held)))).trans
    (confirmTask_moves _ operation)).trans (confirmCleanup_moves drop)

end Moves
end PhotoSync
