import PhotoSync.Store.Dirty

set_option autoImplicit false

namespace PhotoSync
open Relational Transaction Store

def NewMediaItem.indexed (item : NewMediaItem) : Media where
  uri := item.uri
  path := item.path
  folderPath := item.folderPath
  takenAt := item.takenAt
  fileMtimeNs := item.fileMtimeNs
  fileSize := item.fileSize
  isFavorite := 0
  trashedAt := none
  storageLocation := .localOnly
  thumbnailReady := false

def NewMediaItem.scanned (item : NewMediaItem) (row : Media) : Media :=
  { row with
    path := item.path
    folderPath := item.folderPath
    takenAt := item.takenAt
    fileMtimeNs := item.fileMtimeNs
    fileSize := item.fileSize
    trashedAt := none
    storageLocation := if row.storageLocation = .cloudOnly then .both else row.storageLocation }

def NewMediaItem.changes (item : NewMediaItem) (row : Media) : Bool :=
  row.storageLocation == .cloudOnly || row.fileMtimeNs != item.fileMtimeNs || row.fileSize != item.fileSize

namespace Store

def publishesTo (s : Store) (path : String) (publication : Option String) : Bool :=
  s.publications.any (fun _ row => row.state == .publishing && row.details.any (fun details => details.target == some path)
    && publication.all (fun own => row.publicationId != own))

def upsertItem (publication : Option String) (sofar : Store × List Nat) (item : NewMediaItem × EditEvent) : Result (Store × List Nat) :=
  if sofar.1.publishesTo item.1.path publication then .ok sofar
  else
    match sofar.1.mediaOfUri item.1.uri with
    | some (id, row) =>
      let s := sofar.1.updateMedia id item.1.scanned
      if publication.isNone && item.1.changes row then do
        let (s, _) ← s.note id .content item.2
        return (s, sofar.2 ++ [id])
      else .ok (s, sofar.2 ++ [id])
    | none =>
      .ok ({ sofar.1 with media := sofar.1.media.insert item.1.indexed }, sofar.2 ++ [sofar.1.media.next])

def upsertMediaItems (s : Store) (items : List (NewMediaItem × EditEvent)) (publication : Option String) : Result (Store × List Nat) :=
  items.foldlM (upsertItem publication) (s, [])

def insertMediaItem (s : Store) (item : NewMediaItem) : Result Store :=
  match s.mediaOfUri item.uri with
  | some _ => .error (.unique "media_items.uri")
  | none => .ok { s with media := s.media.insert item.indexed }

def setMediaFavorite (s : Store) (id : Nat) (favorite : Bool) : Result Store :=
  match s.media.get id with
  | some _ => .ok (s.updateMedia id (fun row => { row with isFavorite := if favorite then 1 else 0 }))
  | none => invalid ("failed to update favorite flag: media item not found " ++ toString id)

def setFavorite (ids : List Nat) (favorite : Bool) (stamp : EditEvent) (s : Store) : Result Store := ids.foldlM (fun s id => do
    let s ← s.setMediaFavorite id favorite
    let (s, _) ← s.note id .metadata stamp
    return s) s

def markTrashed (s : Store) (id : Nat) (now : Int) : Store := s.updateMedia id (fun row => { row with trashedAt := some now })

def unmarkTrashed (s : Store) (id : Nat) : Store := s.updateMedia id (fun row => { row with trashedAt := none })

def noteEach (category : ChangeCategory) (before : Store → Nat → Store) (ids : List (Nat × EditEvent)) (s : Store) : Result Store :=
  ids.foldlM (fun s id => do
    let (s, _) ← (before s id.1).note id.1 category id.2
    return s) s

def restoreTrashedMetadata (ids : List (Nat × EditEvent)) (s : Store) : Result Store := noteEach .metadata unmarkTrashed ids s

def commitTrashMetadata (ids : List (Nat × EditEvent)) (s : Store) : Result Store := noteEach .metadata (fun s _ => s) ids s

def commitPermanentDeletions (ids : List (Nat × EditEvent)) (s : Store) : Result Store := ids.foldlM (fun s id =>
    if (s.media.get id.1).any (fun row => row.trashedAt.isSome) then do
      let (s, _) ← s.note id.1 .deletion id.2
      return s.deleteMedia (fun other row => other == id.1 && row.trashedAt.isSome)
    else .ok s) s

def removeOrTrashLiveRow (s : Store) (id : Nat) (inTrash : Bool) (now : Int) (stamp : EditEvent) : Result Store :=
  if inTrash then do
    let (s, _) ← (s.markTrashed id now).note id .metadata stamp
    return s
  else do
    let (s, outcome) ← s.note id .deletion stamp
    if outcome.isSome && (s.media.get id).any (fun row => row.storageLocation == .both) then
      return s.updateMedia id (fun row => { row with storageLocation := .cloudOnly })
    else return s.deleteMedia (fun other _ => other == id)

def liveAt (s : Store) (path uri : String) : Option Nat :=
  (s.media.first? (fun _ row => (row.path == path || row.uri == uri) && row.trashedAt.isNone
    && row.storageLocation != .cloudOnly)).map Prod.fst

structure Vanished where
  path : String
  inTrash : Bool
  now : Int
  stamp : Nat → EditEvent

def deleteLiveMediaByPaths (platform : Platform) (removed : List Vanished) (s : Store) : Result Store := removed.foldlM (fun s gone =>
    match s.liveAt gone.path (platform.fileUri gone.path) with
    | some id => s.removeOrTrashLiveRow id gone.inTrash gone.now (gone.stamp id)
    | none => .ok s) s

def liveRowsUnderFolder (s : Store) (folder : String) : List Nat := (s.media.select (fun _ row =>
    (row.path == folder || row.folderPath == folder || (relativeUnder folder row.folderPath).isSome)
      && row.trashedAt.isNone && row.storageLocation != .cloudOnly)).map Prod.fst

def deleteLiveMediaUnderFolders (vanished : List Vanished) (s : Store) : Result Store := vanished.foldlM (fun s gone =>
    (s.liveRowsUnderFolder gone.path).foldlM (fun s id =>
      s.removeOrTrashLiveRow id gone.inTrash gone.now (gone.stamp id)) s) s

def deleteLiveMediaByFolder (s : Store) (folder : String) : Store :=
  s.deleteMedia (fun _ row => row.folderPath == folder && row.trashedAt.isNone)

def deleteMediaItem (s : Store) (id : Nat) : Store := s.deleteMedia (fun other _ => other == id)

def resetLibraryDatabase (s : Store) : Store := s.deleteMedia (fun _ _ => true)

def forgetCloudMedia (s : Store) : Store :=
  let s := s.deleteMedia (fun _ row => row.storageLocation == .cloudOnly)
  { s with media := s.media.update (fun _ row =>
    if row.storageLocation = .both then { row with storageLocation := .localOnly } else row) }

def resetAccountData (s : Store) : Store :=
  let s := s.forgetCloudMedia.deleteConnections (fun _ _ => true)
  { s with selectedAccount := none, localChangesEnabled := true }

-- Entries of the moved row follow it where their job's root contains the new path.
def followers (s : Store) (media : Nat) (path : String) : List (Nat × String) :=
  (s.entries.select (fun _ row => row.media == some media)).filterMap (fun found =>
    match s.jobs.get found.2.job with
    | none => none
    | some job => (relativeUnder job.localRoot path).map (fun relative => (found.1, relative)))

def updateMediaLocation (platform : Platform) (id : Nat) (path folder : String) (mtime : Int) (stamp : EditEvent)
    (s : Store) : Result Store := do
  let s ← s.setMediaUri id (platform.fileUri path)
    (fun row => { row with path := path, folderPath := folder, fileMtimeNs := mtime })
  let s ← (s.followers id path).foldlM (fun s found => s.setEntryPath found.1 found.2 (fun entry => entry)) s
  let (s, _) ← s.note id .metadata stamp
  return s

def updateMediaEditMetadata (id : Nat) (item : NewMediaItem) (stamp : EditEvent) (s : Store) : Result Store := do
  let s := s.updateMedia id (fun row =>
    { row with fileMtimeNs := item.fileMtimeNs, fileSize := item.fileSize, thumbnailReady := false })
  let (s, _) ← s.note id .content stamp
  return s

end Store

variable {s t : Store} {id : Nat} {publication : Option String}
variable {stamp : EditEvent} {platform : Platform}

section Moves
variable {policy : Policy}

theorem upsertItem_cases {before after : Store × List Nat} {item : NewMediaItem × EditEvent}
    (done : upsertItem publication before item = .ok after) :
    (before.1.publishesTo item.1.path publication = true ∧ after = before) ∨
    (before.1.publishesTo item.1.path publication = false ∧
      ∃ id row, before.1.media.get id = some row ∧ row.uri = item.1.uri ∧ after.2 = before.2 ++ [id] ∧
        (after.1 = before.1.updateMedia id item.1.scanned ∨ publication = none ∧
          ∃ outcome, (before.1.updateMedia id item.1.scanned).note id .content item.2 = .ok (after.1, outcome))) ∨
    (before.1.publishesTo item.1.path publication = false ∧ before.1.mediaOfUri item.1.uri = none ∧
      after = ({ before.1 with media := before.1.media.insert item.1.indexed }, before.2 ++ [before.1.media.next])) := by
  unfold upsertItem at done
  split at done
  · next blocked =>
    cases done
    exact .inl ⟨blocked, rfl⟩
  · next free =>
    rw [Bool.not_eq_true] at free
    split at done
    · next id row located =>
      obtain ⟨present, named⟩ := Table.first?_some located
      refine .inr (.inl ⟨free, id, row, present, beq_iff_eq.mp named, ?_⟩)
      dsimp only at done
      split at done
      · next noting =>
        obtain ⟨⟨last, outcome⟩, noted, rest⟩ := bind_ok.mp done
        cases rest
        have unpublished := ((Bool.and_eq_true _ _).mp noting).1
        exact ⟨rfl, .inr ⟨Option.isNone_iff_eq_none.mp unpublished, outcome, noted⟩⟩
      · cases done
        exact ⟨rfl, .inl rfl⟩
    · next absent =>
      cases done
      exact .inr (.inr ⟨free, absent, rfl⟩)

theorem upsertItem_media {before after : Store × List Nat} {id : Nat} {item : NewMediaItem × EditEvent}
    (written : after.1 = before.1.updateMedia id item.1.scanned ∨ publication = none ∧
      ∃ outcome, (before.1.updateMedia id item.1.scanned).note id .content item.2 = .ok (after.1, outcome)) :
    after.1.media = before.1.media.modify id item.1.scanned := by
  obtain same | ⟨_, outcome, noted⟩ := written
  · rw [same]
    rfl
  · obtain ⟨_, _, same⟩ := note_recorded noted
    rw [same]
    rfl

theorem upsertItem_steps {before after : Store × List Nat} {item : NewMediaItem × EditEvent}
    (place : ∀ id row, row.uri = item.1.uri → policy.place id row)
    (done : upsertItem publication before item = .ok after) : Steps policy before.1 after.1 := by
  obtain ⟨_, rfl⟩ | ⟨_, id, row, present, named, _, written⟩ | ⟨_, _, rfl⟩ := upsertItem_cases done
  · exact .refl
  · have found : Steps policy before.1 (before.1.updateMedia id item.1.scanned) := by
      refine ⟨.mediaRow id _ (fun same read _ => .inr (place id same ?_)), rfl, rfl, rfl⟩
      cases present.symm.trans read
      exact named
    obtain same | ⟨_, outcome, noted⟩ := written
    · rw [same]
      exact found
    · exact found.trans (note_steps noted)
  · exact ⟨.insertMedia _, rfl, rfl, rfl⟩

theorem upsertMediaItems_steps {items : List (NewMediaItem × EditEvent)} {after : Store × List Nat}
    (place : ∀ item ∈ items, ∀ id row, row.uri = item.1.uri → policy.place id row)
    (done : s.upsertMediaItems items publication = .ok after) : Steps policy s after.1 :=
  loop_relates (fun before after => Steps policy before.1 after.1)
    (fun _ => .refl) (fun _ _ _ => .trans)
    (fun item member before after stepped =>
      upsertItem_steps (place item member) stepped) done

theorem upsertItem_untouched {before after : Store × List Nat} {item : NewMediaItem × EditEvent}
    (done : upsertItem publication before item = .ok after) : Untouched before.1 after.1 := by
  have steps : Steps { Policy.none with place := fun _ _ => True } before.1 after.1 := upsertItem_steps (fun _ _ _ => trivial) done
  exact steps.toUntouched

theorem insertMediaItem_steps (s t : Store) (item : NewMediaItem) (done : s.insertMediaItem item = .ok t) : Steps policy s t := by
  unfold insertMediaItem at done
  split at done
  · cases done
  · cases done
    exact ⟨.insertMedia _, rfl, rfl, rfl⟩

theorem setFavorite_steps {ids : List Nat} {favorite : Bool} (done : setFavorite ids favorite stamp s = .ok t) : Steps policy s t := by
  refine .loop _ ids (fun id _ before after stepped => ?_) done
  obtain ⟨middle, set, ⟨last, outcome⟩, noted, rest⟩ := bind2_ok stepped
  cases rest
  unfold setMediaFavorite at set
  split at set
  · cases set
    refine .trans ?_ (note_steps noted)
    exact ⟨.media_same id _ (fun _ => rfl), rfl, rfl, rfl⟩
  · cases set

theorem noteEach_steps {category : ChangeCategory} {prepare : Store → Nat → Store} {ids : List (Nat × EditEvent)}
    (prepared : ∀ before id, Steps policy before (prepare before id))
    (done : noteEach category prepare ids s = .ok t) : Steps policy s t := by
  refine .loop _ ids (fun id _ before after stepped => ?_) done
  obtain ⟨⟨last, outcome⟩, noted, rest⟩ := bind_ok.mp stepped
  cases rest
  exact (prepared before id.1).trans (note_steps noted)

theorem unmarkTrashed_steps (s : Store) (id : Nat) : Steps policy s (s.unmarkTrashed id) :=
  ⟨.media_same id _ (fun _ => rfl), rfl, rfl, rfl⟩

theorem markTrashed_steps (s : Store) (id : Nat) (now : Int) : Steps policy s (s.markTrashed id now) :=
  ⟨.media_same id _ (fun _ => rfl), rfl, rfl, rfl⟩

theorem commitPermanentDeletions_steps (ids : List (Nat × EditEvent)) (s t : Store)
    (done : commitPermanentDeletions ids s = .ok t) : Steps policy s t := by
  refine .loop _ ids (fun id _ before after stepped => ?_) done
  split at stepped
  · obtain ⟨⟨last, outcome⟩, noted, rest⟩ := bind_ok.mp stepped
    cases rest
    exact (note_steps noted).trans ⟨.deleteMedia _, rfl, rfl, rfl⟩
  · cases stepped
    exact .refl

theorem removeOrTrashLiveRow_steps {inTrash : Bool} {now : Int}
    (done : s.removeOrTrashLiveRow id inTrash now stamp = .ok t) : Steps policy s t := by
  unfold removeOrTrashLiveRow at done
  split at done
  · obtain ⟨⟨last, outcome⟩, noted, rest⟩ := bind_ok.mp done
    cases rest
    exact (markTrashed_steps s id now).trans (note_steps noted)
  · obtain ⟨⟨middle, outcome⟩, noted, rest⟩ := bind_ok.mp done
    refine (note_steps noted).trans ?_
    dsimp only at rest
    split at rest
    · cases rest
      exact ⟨.mediaRow id _ (fun _ _ _ => .inl rfl), rfl, rfl, rfl⟩
    · cases rest
      exact ⟨.deleteMedia _, rfl, rfl, rfl⟩

theorem deleteLiveMediaByPaths_steps {removed : List Store.Vanished}
    (done : deleteLiveMediaByPaths platform removed s = .ok t) : Steps policy s t := by
  refine .loop _ removed (fun gone _ before after stepped => ?_) done
  split at stepped
  · exact removeOrTrashLiveRow_steps stepped
  · cases stepped
    exact .refl

theorem deleteLiveMediaUnderFolders_steps (vanished : List Store.Vanished) (s t : Store)
    (done : deleteLiveMediaUnderFolders vanished s = .ok t) : Steps policy s t :=
  .loop _ vanished (fun _ _ _ _ outer =>
    .loop _ _ (fun _ _ _ _ inner => removeOrTrashLiveRow_steps inner) outer) done

theorem forgetCloudMedia_moves (s : Store) : Moves policy s s.forgetCloudMedia := by
  refine (Moves.deleteMedia (fun _ row => row.storageLocation == .cloudOnly)).trans (.media_all _ (fun _ row cloud => ?_))
  rw [if_neg (by rw [cloud]; decide)]
  exact cloud

theorem resetAccountData_moves (s : Store) (drop : ∀ id row, policy.drop id row) : Moves policy s s.resetAccountData := by
  have dropped : Moves policy s (s.forgetCloudMedia.deleteConnections (fun _ _ => true)) :=
    (forgetCloudMedia_moves s).trans (.deleteConnections _ drop)
  exact ⟨dropped.entries, dropped.media, dropped.tasks⟩

theorem updateMediaLocation_steps {path folder : String} {mtime : Int} (rename : ∀ entry path row, policy.guards.rename entry path row)
    (done : updateMediaLocation platform id path folder mtime stamp s = .ok t) : Steps policy s t := by
  obtain ⟨moved, located, renamed, followed, ⟨last, outcome⟩, noted, rest⟩ := bind3_ok done
  cases rest
  have first : Steps policy s moved := ⟨.setMediaUri id _ _ located (fun _ => rfl), .setMediaUri id _ _ located⟩
  have second : Steps policy moved renamed := .loop _ _ (fun found _ _ _ stepped =>
    ⟨.setEntryPath found.1 found.2 _ stepped (fun row _ => .rename row found.2 (rename _ _ _)),
      .setEntryPath found.1 found.2 _ stepped⟩) followed
  exact (first.trans second).trans (note_steps noted)

theorem updateMediaEditMetadata_steps {item : NewMediaItem} (done : updateMediaEditMetadata id item stamp s = .ok t) :
    Steps policy s t := by
  obtain ⟨⟨last, outcome⟩, noted, rest⟩ := bind_ok.mp done
  cases rest
  refine .trans ?_ (note_steps noted)
  exact ⟨.media_same id _ (fun _ => rfl), rfl, rfl, rfl⟩

end Moves
end PhotoSync
