import PhotoSync.Store.Media

set_option autoImplicit false

namespace PhotoSync
open Relational Transaction Store

structure NewSyncJob where
  credentialRef : String
  account : Option Nat
  localRoot : String
  direction : SyncDirection
  uploadScope : UploadScope
  uploadAlbums : List String
  zoneName : String
  owner : String
deriving DecidableEq, Repr

inductive JobEdit where
  | direction (value : SyncDirection)
  | uploadAlbums (albums : List String)
  | delete
deriving DecidableEq, Repr

def pathsOverlap (left right : String) : Bool := left == right || (relativeUnder left right).isSome || (relativeUnder right left).isSome

def trimSlashes (path : String) : String := String.ofList ((path.toList.dropWhile (· == '/')).reverse.dropWhile (· == '/')).reverse

def hasNavigationSegment (path : String) : Bool := (pathSegments path).any (fun segment => segment == ['.'] || segment == ['.', '.'])

def hasEmptySegment (path : String) : Bool := (pathSegments path).any List.isEmpty

def insertAlbum (album : String) : List String → List String
  | [] => [album]
  | head :: rest =>
    if album < head then album :: head :: rest
    else if album = head then head :: rest
    else head :: insertAlbum album rest

def normalizeRelativeAlbums (albums : List String) : Result (List String) := albums.foldlM (fun normalized album =>
    let album := trimSlashes album
    if !album.isEmpty && (hasEmptySegment album || hasNavigationSegment album)
    then invalid "synchronization upload album is invalid"
    else .ok (insertAlbum album normalized)) []

def JobEdit.normalize : JobEdit → Result JobEdit
  | .uploadAlbums albums => do return .uploadAlbums (← normalizeRelativeAlbums albums)
  | other => .ok other

namespace Store

def refreshMediaLocations (s : Store) : Store :=
  let s := s.deleteMedia (fun id row => row.storageLocation == .cloudOnly
    && !s.entries.any (fun _ entry => entry.media == some id))
  { s with media := s.media.update (fun id row =>
    if row.storageLocation = .cloudOnly then row
    else if s.entries.any (fun _ entry => entry.media == some id
        && (s.jobs.get entry.job).any s.connectionEnabled
        && entry.photoId.isSome && entry.confirmedGeneration.isSome && !entry.retired)
      then { row with storageLocation := .both } else { row with storageLocation := .localOnly }) }

-- The identity text of a connection: its account, else its own number negated.
def accountIdentity (id : Nat) (row : Connection) : Int := row.account.elim (-(id : Int)) (fun account => (account : Int))

def hasJob (s : Store) (connection : Nat) : Bool := s.jobs.any (fun _ job => job.connection == connection)

def firstConnection (s : Store) : Option (Nat × Connection) := (s.connections.first? (fun id row => s.hasJob id && row.enabled)).or
    (s.connections.first? (fun id _ => s.hasJob id))

def chosenAccount (s : Store) (job : Option Nat) : Result (Option Int) :=
  match job with
  | none => .ok (s.selectedAccount.or (s.firstConnection.map (fun found => accountIdentity found.1 found.2)))
  | some job => do
    let row ← requireRow (s.jobs.get job)
    match s.connections.get row.connection with
    | some connection => return some (accountIdentity row.connection connection)
    | none => invalid "account task was removed"

def selectAccount (s : Store) (job : Option Nat) : Result Store := do
  let selected ← s.chosenAccount job
  let connections := s.connections.update (fun id row =>
    if s.hasJob id then { row with enabled := selected == some (accountIdentity id row) } else row)
  let switched := s.connections.any (fun id row =>
    s.hasJob id && row.enabled != (selected == some (accountIdentity id row)))
  let moved := { s with connections := connections, selectedAccount := selected.or s.selectedAccount }
  if switched || selected != s.selectedAccount then return moved.refreshMediaLocations else return moved

def clearAccount (s : Store) : Store :=
  let s := { s with connections := s.connections.update (fun _ row => { row with enabled := false }) }
  { s.refreshMediaLocations with selectedAccount := some 0 }

def createConnection (s : Store) (job : NewSyncJob) : Store × Nat :=
  match s.connections.first? (fun _ row => row.credentialRef == job.credentialRef) with
  | some (id, _) => ({ s with connections := s.connections.modify id (fun row =>
    { row with account := job.account.or row.account }) }, id)
  | none => ({ s with connections := s.connections.insert ⟨job.credentialRef, job.account, false⟩ }, s.connections.next)

def sameAccount (left right : Option Nat) : Bool := left.isNone || right.isNone || left == right

def insertJob (s : Store) (connection : Nat) (job : NewSyncJob) : Store :=
  { s with jobs := s.jobs.insert {
    connection := connection, localRoot := job.localRoot, direction := job.direction
    uploadScope := job.uploadScope, uploadAlbums := job.uploadAlbums, cycleId := none, paused := false
    configGeneration := 1, zoneName := job.zoneName, owner := job.owner } }

def overlaps (s : Store) (job : NewSyncJob) : Bool :=
  s.jobs.any (fun _ row => sameAccount ((s.connections.get row.connection).bind Connection.account) job.account
    && pathsOverlap row.localRoot job.localRoot)

def createJob (s : Store) (job : NewSyncJob) : Result Store := do
  ensure (!(s.createConnection job).1.overlaps job) "synchronization local root overlaps an existing job"
  ((s.createConnection job).1.insertJob (s.createConnection job).2 job).selectAccount none

def updateJob (s : Store) (id : Nat) (change : Job → Job) : Store := { s with jobs := s.jobs.modify id change }

def setJobPaused (s : Store) (id : Nat) (paused : Bool) : Store := s.updateJob id (fun row => { row with paused := paused })

def deleteJob (s : Store) (id : Nat) : Result Store :=
  match s.jobs.get id with
  | none => invalid ("sync job " ++ toString id ++ " does not exist")
  | some job => do
    ensure job.paused "pause this synchronization task before deleting it"
    let s := s.deleteJobs (fun other _ => other == id)
    let s := if s.hasJob job.connection then s
      else { s with connections := s.connections.delete (fun other _ => other == job.connection) }
    return s.refreshMediaLocations

def setUploadAlbums (s : Store) (id : Nat) (albums : List String) : Result Store :=
  match s.jobs.get id with
  | none => invalid ("synchronization job " ++ toString id ++ " does not exist")
  | some _ => .ok (s.updateJob id (fun row => { row with
    uploadScope := .selectedAlbums, uploadAlbums := albums, configGeneration := row.configGeneration + 1 }))

def pendingChange (s : Store) (id : Nat) : Option PendingChange := s.changes.lookup id

def writeChange (s : Store) (id : Nat) (change : PendingChange) : Store :=
  { s with changes := s.changes.filter (fun found => found.1 != id) ++ [(id, change)] }

-- An edit is accepted durably before the running cycle is asked to stop.
def queueEdit (s : Store) (id : Nat) (edit : JobEdit) : Result Store :=
  match s.jobs.get id with
  | none => invalid ("sync job " ++ toString id ++ " no longer exists")
  | some job =>
    let pending := (s.pendingChange id).getD ⟨0, none, none, false⟩
    let accept := fun (change : PendingChange) => s.writeChange id { change with
      revision := max pending.revision job.configGeneration + 1 }
    if pending.delete then
      if edit = .delete then .ok s else invalid "this synchronization task is being removed"
    else
      match edit with
      | .direction value =>
        if pending.direction.getD job.direction = value then .ok s
        else .ok (accept { pending with direction := some value })
      | .uploadAlbums albums =>
        if (pending.uploadAlbums.isSome || job.uploadScope == .selectedAlbums)
          && pending.uploadAlbums.getD job.uploadAlbums == albums then .ok s
        else .ok (accept { pending with uploadAlbums := some albums })
      | .delete => .ok (accept { pending with delete := true })

def mergeEdit (pending : PendingChange) : JobEdit → PendingChange
  | .direction value => { pending with direction := some value }
  | .uploadAlbums albums => { pending with uploadAlbums := some albums }
  | .delete => { pending with delete := true }

def editIsCurrent (job : Job) (pending : PendingChange) : JobEdit → Bool
  | .direction value => pending.direction.getD job.direction == value
  | .uploadAlbums albums => (pending.uploadAlbums.isSome || job.uploadScope == .selectedAlbums)
    && pending.uploadAlbums.getD job.uploadAlbums == albums
  | .delete => false

-- queue_edit's answer: whether the edit changed anything.
def queueAnswer (s : Store) (id : Nat) (edit : JobEdit) : Result Bool :=
  match s.jobs.get id with
  | none => invalid ("sync job " ++ toString id ++ " no longer exists")
  | some job =>
    let pending := (s.pendingChange id).getD ⟨0, none, none, false⟩
    if pending.delete then
      if edit = .delete then .ok false else invalid "this synchronization task is being removed"
    else .ok (!editIsCurrent job pending edit)

-- The edit as the settings submit it: a list that only differs in order or duplicates is no change.
def submitEdit (s : Store) (id : Nat) (edit : JobEdit) : Result (Store × Bool) := do
  let edit ← edit.normalize
  let changed ← s.queueAnswer id edit
  return (← s.queueEdit id edit, changed)

def installChange (change : PendingChange) (job : Job) : Job :=
  { job with
    uploadScope := if change.uploadAlbums.isSome then .selectedAlbums else job.uploadScope
    uploadAlbums := change.uploadAlbums.getD job.uploadAlbums
    direction := change.direction.getD job.direction }

def applyChange (s : Store) (id revision : Nat) : Result Store :=
  match s.pendingChange id with
  | none => .ok s
  | some pending =>
    if s.reset.isSome || pending.revision != revision then .ok s
    else do
      let job ← requireRow (s.jobs.get id)
      ensure job.paused "internal configuration transition is not quiescent"
      if pending.delete then s.deleteJob id
      else
        let s := s.updateJob id (fun row =>
          { installChange pending row with configGeneration := revision, paused := false })
        return { s with changes := s.changes.filter (fun found => found.1 != id) }

-- Explicit opt-out: history is forgotten, saved configuration is kept.
def beginReset (s : Store) (token : String) : Store :=
  { s with
    reset := some ⟨token, none⟩
    localChangesEnabled := false
    jobs := s.jobs.update (fun _ row => { row with configGeneration := row.configGeneration + 1 }) }

def failReset (s : Store) (token error : String) : Store :=
  { s with reset := s.reset.map (fun intent =>
    if intent.token == token then { intent with error := some error } else intent) }

def installPending (s : Store) (pending : Nat × PendingChange) : Store :=
  if pending.2.delete then s.deleteJobs (fun id _ => id == pending.1)
  else s.updateJob pending.1 (fun row =>
    { installChange pending.2 row with configGeneration := max row.configGeneration pending.2.revision })

def finishReset (s : Store) (token : String) : Store :=
  if s.reset.all (fun intent => intent.token != token) then s
  else
    let s := s.changes.foldl installPending s
    let s := s.forgetCloudMedia.deleteEntries (fun _ _ => true)
    { s with
      fragments := s.fragments.delete (fun _ _ => true)
      publications := s.publications.delete (fun _ _ => true)
      resources := s.resources.delete (fun _ _ => true)
      progress := s.progress.delete (fun _ _ => true)
      tasks := s.tasks.delete (fun _ _ => true)
      conflicts := s.conflicts.delete (fun _ _ => true)
      changes := []
      jobs := s.jobs.update (fun _ row => { row with paused := false, configGeneration := row.configGeneration + 1 })
      reset := none }

def resumeLocalChanges (s : Store) : Store :=
  if s.reset.isSome then s else { s with localChangesEnabled := true }

end Store

variable {s t : Store} {id : Nat} {edit : JobEdit}

section Edits

theorem queueEdit_answer (s : Store) (id : Nat) (edit : JobEdit) :
    s.queueEdit id edit = (s.queueAnswer id edit).map (fun accepted => match accepted, s.jobs.get id with
      | true, some job => s.writeChange id { mergeEdit ((s.pendingChange id).getD ⟨0, none, none, false⟩) edit with
        revision := max ((s.pendingChange id).getD ⟨0, none, none, false⟩).revision job.configGeneration + 1 }
      | _, _ => s) := by
  unfold queueEdit queueAnswer
  cases found : s.jobs.get id with
  | none => rfl
  | some job =>
    generalize (s.pendingChange id).getD ⟨0, none, none, false⟩ = pending
    by_cases gone : pending.delete = true
    · by_cases same : edit = .delete
      · simp [gone, same, Except.map]
      · simp [gone, same, Except.map, invalid]
    · cases edit with
      | direction value =>
        by_cases current : pending.direction.getD job.direction = value
        · simp [gone, current, editIsCurrent, Except.map]
        · have other : (pending.direction.getD job.direction == value) = false := by simpa using current
          simp [gone, current, other, editIsCurrent, mergeEdit, Except.map]
      | uploadAlbums albums =>
        by_cases current : ((pending.uploadAlbums.isSome || job.uploadScope == .selectedAlbums)
          && pending.uploadAlbums.getD job.uploadAlbums == albums) = true
        · simp only [gone, current, editIsCurrent, Except.map, if_true, Bool.not_true]
          rfl
        · rw [Bool.not_eq_true] at current
          simp only [gone, current, editIsCurrent, mergeEdit, Except.map, Bool.not_false]
          rfl
      | delete => simp [gone, editIsCurrent, mergeEdit, Except.map]

theorem queueEdit_cases (done : s.queueEdit id edit = .ok t) : (s.queueAnswer id edit = .ok false ∧ t = s) ∨
    (∃ job, s.queueAnswer id edit = .ok true ∧ s.jobs.get id = some job ∧
      t = s.writeChange id { mergeEdit ((s.pendingChange id).getD ⟨0, none, none, false⟩) edit with
        revision := max ((s.pendingChange id).getD ⟨0, none, none, false⟩).revision job.configGeneration + 1 }) := by
  rw [queueEdit_answer] at done
  cases answer : s.queueAnswer id edit with
  | error =>
    rw [answer] at done
    cases done
  | ok accepted =>
    rw [answer] at done
    cases accepted with
    | false =>
      cases done
      exact .inl ⟨rfl, rfl⟩
    | true =>
      cases found : s.jobs.get id with
      | none => simp [queueAnswer, found, invalid] at answer
      | some job =>
        rw [found] at done
        cases done
        exact .inr ⟨job, rfl, rfl, rfl⟩

end Edits

section Moves
variable {policy : Policy}

theorem deleteJob_eq (done : s.deleteJob id = .ok t) : ∃ connections,
    t = { s.deleteJobs (fun other _ => other == id) with connections := connections }.refreshMediaLocations := by
  unfold deleteJob at done
  split at done
  · cases done
  · obtain ⟨_, _, rest⟩ := bind_ok.mp done
    cases rest
    split <;> exact ⟨_, rfl⟩

theorem applyChange_cases {revision : Nat} (done : s.applyChange id revision = .ok t) :
    t = s ∨ ∃ change job, s.pendingChange id = some change ∧ change.revision = revision ∧ s.jobs.get id = some job ∧
      if change.delete then s.deleteJob id = .ok t
      else t = { s.updateJob id (fun row => { installChange change row with configGeneration := revision, paused := false }) with
        changes := s.changes.filter (fun found => found.1 != id) } := by
  unfold applyChange at done
  split at done
  · cases done
    exact .inl rfl
  · next change found =>
    split at done
    · cases done
      exact .inl rfl
    · next current =>
      simp only [Bool.or_eq_true, not_or, bne_iff_ne, ne_eq, Decidable.not_not] at current
      obtain ⟨job, read, _, _, rest⟩ := bind2_ok done
      refine .inr ⟨change, job, found, current.2, requireRow_ok.mp read, ?_⟩
      split at rest
      · next removal => rwa [if_pos removal]
      · next staying =>
        cases rest
        rw [if_neg staying]
        rfl

theorem setUploadAlbums_eq {albums : List String} (done : s.setUploadAlbums id albums = .ok t) :
    t = s.updateJob id (fun row => { row with
      uploadScope := .selectedAlbums, uploadAlbums := albums, configGeneration := row.configGeneration + 1 }) := by
  unfold setUploadAlbums at done
  split at done <;> cases done
  rfl

theorem refreshMediaLocations_moves (s : Store) : Moves policy s s.refreshMediaLocations := by
  refine (Moves.deleteMedia _).trans (.media_all _ (fun id row cloud => ?_))
  rw [if_pos cloud]
  exact cloud

theorem selectAccount_steps {job : Option Nat} (done : s.selectAccount job = .ok t) : Steps policy s t := by
  obtain ⟨selected, _, rest⟩ := bind_ok.mp done
  dsimp only at rest
  split at rest
  · cases rest
    refine ⟨.trans ?_ (refreshMediaLocations_moves _), rfl, rfl, rfl⟩
    exact .elsewhere rfl rfl rfl
  · cases rest
    exact ⟨.elsewhere rfl rfl rfl, rfl, rfl, rfl⟩

theorem clearAccount_steps (s : Store) : Steps policy s s.clearAccount := by
  let closed := { s with connections := s.connections.update (fun _ row => { row with enabled := false }) }
  have first : Moves policy s closed := .elsewhere rfl rfl rfl
  have second := first.trans (refreshMediaLocations_moves closed)
  exact ⟨⟨second.entries, second.media, second.tasks⟩, rfl, rfl, rfl⟩

theorem createConnection_steps (s : Store) (job : NewSyncJob) : Steps policy s (s.createConnection job).1 := by
  unfold createConnection
  split <;> exact ⟨.elsewhere rfl rfl rfl, rfl, rfl, rfl⟩

theorem createJob_steps (s t : Store) (job : NewSyncJob) (done : s.createJob job = .ok t) : Steps policy s t := by
  obtain ⟨_, _, rest⟩ := bind_ok.mp done
  have inserted : Steps policy (s.createConnection job).1 ((s.createConnection job).1.insertJob (s.createConnection job).2 job) :=
    ⟨.elsewhere rfl rfl rfl, rfl, rfl, rfl⟩
  exact (createConnection_steps s job).trans (inserted.trans (selectAccount_steps rest))

theorem deleteJob_moves (drop : ∀ entry row, row.job = id → policy.drop entry row) (done : s.deleteJob id = .ok t) :
    Moves policy s t := by
  obtain ⟨_, rfl⟩ := deleteJob_eq done
  have dropped : Moves policy s (s.deleteJobs (fun other _ => other == id)) := by
    refine .deleteJobs _ (fun entry row _ gone => drop entry row ?_)
    obtain ⟨_, _, same⟩ := (Option.any_eq_true _ _).mp gone
    exact beq_iff_eq.mp same
  refine dropped.trans (.trans ?_ (refreshMediaLocations_moves _))
  exact .elsewhere rfl rfl rfl

theorem queueEdit_steps (done : s.queueEdit id edit = .ok t) : Steps policy s t := by
  unfold queueEdit at done
  split at done
  · cases done
  · dsimp only at done
    split at done
    · split at done
      · cases done
        exact .refl
      · cases done
    · split at done
      · split at done
        · cases done
          exact .refl
        · cases done
          exact ⟨.elsewhere rfl rfl rfl, rfl, rfl, rfl⟩
      · split at done
        · cases done
          exact .refl
        · cases done
          exact ⟨.elsewhere rfl rfl rfl, rfl, rfl, rfl⟩
      · cases done
        exact ⟨.elsewhere rfl rfl rfl, rfl, rfl, rfl⟩

theorem applyChange_moves {revision : Nat}
    (drop : (s.pendingChange id).any PendingChange.delete = true → ∀ entry row, row.job = id → policy.drop entry row)
    (done : s.applyChange id revision = .ok t) : Moves policy s t := by
  obtain rfl | ⟨change, job, found, _, _, outcome⟩ := applyChange_cases done
  · exact .refl
  · split at outcome
    · next removal => exact deleteJob_moves (drop (by rw [found]; exact removal)) outcome
    · rw [outcome]
      exact .elsewhere rfl rfl rfl

theorem finishReset_moves (s : Store) (token : String)
    (permit : s.reset.any (fun intent => intent.token == token) = true → ∀ entry row, policy.drop entry row) :
    Moves policy s (s.finishReset token) := by
  unfold finishReset
  split
  · exact .refl
  · next current =>
    have drop : ∀ entry row, policy.drop entry row := by
      refine permit ?_
      cases intent : s.reset with
      | none => simp [intent] at current
      | some => simpa [intent] using current
    have installs : ∀ (changes : List (Nat × PendingChange)) (t : Store), Moves policy t (changes.foldl installPending t) := by
      intro changes
      induction changes with
      | nil => exact fun _ => .refl
      | cons change rest ih =>
        intro t
        have first : Moves policy t (t.installPending change) := by
          unfold installPending
          split
          · exact .deleteJobs _ (fun entry row _ _ => drop entry row)
          · exact .elsewhere rfl rfl rfl
        exact first.trans (ih _)
    have cleared : Moves policy s ((s.changes.foldl installPending s).forgetCloudMedia.deleteEntries
        (fun _ _ => true)) :=
      ((installs s.changes s).trans (forgetCloudMedia_moves _)).trans (.deleteEntries _ (fun entry row _ _ => drop entry row))
    have tasks := cleared.trans (Moves.deleteTasks (fun _ _ => true))
    exact ⟨tasks.entries, tasks.media, tasks.tasks⟩

end Moves
end PhotoSync
