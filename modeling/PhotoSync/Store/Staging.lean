import PhotoSync.Store.Projection

set_option autoImplicit false

namespace PhotoSync
open Relational Transaction Store

namespace Store

def entryOfRecord (s : Store) (job : Nat) (name : String) : Option Nat :=
  (s.fragments.first? (fun _ row => row.job == job && row.record.recordName == name
    && (s.entries.get row.entry).isSome)).map (fun found => found.2.entry)

def entryOfPendingPhoto (s : Store) (job : Nat) (photo : String) : Option Nat :=
  (s.fragments.first? (fun _ row => row.job == job && row.photoId == some photo)).map (fun found => found.2.entry)

def knownEntry (s : Store) (job : Nat) (name : String) : Option Nat := ((s.entryOfPhoto job name).map Prod.fst).or
    (((s.entryOfMaster job name).map Prod.fst).or (s.entryOfRecord job name))

def freeEntryAt (s : Store) (job : Nat) (path : String) (photo : Option String) : Option Nat :=
  (s.entries.first? (fun _ row => row.job == job && row.relativePath == path
    && (row.photoId.isNone || (photo.isSome && row.photoId == photo)))).map Prod.fst

def isPlaceholderEntry (row : Entry) : Bool := row.photoId.isNone && isPlaceholder row.relativePath

def dropPlaceholder (s : Store) (entry : Nat) : Store := s.deleteEntries (fun id row => id == entry && isPlaceholderEntry row)

def movePendingMaster (s : Store) (old entry : Nat) : Result Store :=
  match s.pendingFragment entry true, s.pendingFragment old true with
  | none, some fragment => s.setPending entry true fragment.record
  | _, _ => .ok s

-- The record's path names the entry; a provisional one gives way to it.
def entryForPath (s : Store) (job : Nat) (path : Option String) (photo : Option String) (entry : Option Nat) :
    Result (Store × Option Nat) :=
  match path with
  | none => .ok (s, entry)
  | some path => do
    ensure (isSafeRelativePath path) "unsafe remote photo path"
    match s.freeEntryAt job path photo, entry with
    | none, _ => return (s, entry)
    | some found, none => return (s, some found)
    | some found, some old =>
      if old == found then return (s, some found)
      else do
        let s ← s.movePendingMaster old found
        return (s.dropPlaceholder old, some found)

def ensureEntry (s : Store) (job : Nat) (path : Option String) (name : String) (entry : Option Nat) : Result (Store × Nat) :=
  match entry with
  | some entry => .ok (s, entry)
  | none => do
    let placeholder := placeholderPrefix ++ name
    let relative := path.getD placeholder
    let occupied := s.entries.any (fun _ row => row.job == job && row.relativePath == relative)
    let created := s.entries.next
    let s ← s.insertEntry (Entry.inserted job (if occupied then placeholder else relative))
    return (s, created)

def leavePlaceholder (s : Store) (job entry : Nat) (path : Option String) : Store :=
  match path with
  | none => s
  | some path =>
    if (s.entries.get entry).any (fun row => isPlaceholder row.relativePath) && !s.pathTaken entry job path then
      s.updateEntry entry (fun row => { row with relativePath := path })
    else s

def folderOf (path root : String) : String := (parentPath path).getD root

def cloudMedia (uri path folder : String) (favorite : Int) (takenAt : Option Int) : Media where
  uri := uri
  path := path
  folderPath := folder
  takenAt := takenAt
  fileMtimeNs := 0
  fileSize := 0
  isFavorite := favorite
  trashedAt := none
  storageLocation := .cloudOnly
  thumbnailReady := false

-- A cloud-only row follows a renamed record unless its new place is occupied.
def followRename (s : Store) (job entry media : Nat) (uri path folder relative : String) : Option Store :=
  if s.media.any (fun other row => other != media && row.uri == uri) then none
  else
    let s := s.updateMedia media (fun row =>
      { row with uri := uri, path := path, folderPath := folder, thumbnailReady := false })
    if s.pathTaken entry job relative then some s
    else some (s.updateEntry entry (fun row => { row with relativePath := relative }))

-- INSERT ... ON CONFLICT(uri) DO NOTHING.
def indexCloudMedia (s : Store) (row : Media) : Store :=
  match s.mediaOfUri row.uri with
  | some _ => s
  | none => { s with media := s.media.insert row }

-- media_id = COALESCE(media_id, the row of the uri).
def linkMedia (s : Store) (entry : Nat) (uri : String) : Store :=
  let found := (s.mediaOfUri uri).map Prod.fst
  s.updateEntry entry (fun row => { row with media := row.media.or found })

-- A cloud-only row shows the received metadata unless a local edit is pending.
def describeCloudMedia (s : Store) (uri : String) (favorite : Int) (takenAt : Option Int) : Store :=
  match s.mediaOfUri uri with
  | none => s
  | some (media, row) =>
    if row.storageLocation == .cloudOnly
        && !s.entries.any (fun _ other => other.media == some media && other.metadataPending) then
      s.updateMedia media (fun row => { row with isFavorite := favorite, takenAt := takenAt })
    else s

def placeMetadata (s : Store) (entry : Nat) (uri path folder : String) (favorite : Int) (takenAt : Option Int) : Store :=
  ((s.indexCloudMedia (cloudMedia uri path folder favorite takenAt)).linkMedia entry uri).describeCloudMedia uri
    favorite takenAt

def admitFields (platform : Platform) (s : Store) (job entry : Nat) (row : Entry) (fields : Option Fields)
    (root relative : String) : Store :=
  let path := underRoot root relative
  let uri := platform.fileUri path
  let folder := folderOf path root
  let favorite := (intField fields "isFavorite").getD 0
  let takenAt := (intField fields "assetDate").map (fun ms => ms / 1000)
  match row.media, s.linkedMedia row with
  | some media, some item =>
    -- An existing local file keeps its identity through publication.
    if item.storageLocation != .cloudOnly then s
    else if item.uri == uri then s.placeMetadata entry uri path folder favorite takenAt
    else
      match s.followRename job entry media uri path folder relative with
      | some s => s.placeMetadata entry uri path folder favorite takenAt
      | none => s
  | _, _ => s.placeMetadata entry uri path folder favorite takenAt

def admitAssetMetadata (platform : Platform) (s : Store) (job entry : Nat) (fields : Option Fields) : Result Store := do
  let row ← requireRow (s.entries.get entry)
  if row.dirty == .delete then return s
  ensure fields.isSome "photo metadata has no fields"
  match stringField fields "relativePath" with
  | none => return s
  | some relative => do
    let root ← requireRow (s.jobs.get job)
    return admitFields platform s job entry row fields root.localRoot relative

def stageRecord (platform : Platform) (job : Nat) (s : Store) (record : NativeRecord) : Result Store :=
  let asset := record.recordType == some assetRecordType
  let master := record.recordType == some masterRecordType
  let known := s.knownEntry job record.recordName
  let photo := if asset then some record.recordName else stringField record.fields "photoId"
  let path := stringField record.fields "relativePath"
  if !asset && !master && known.isNone then .ok s
  else do
    let entry := known.or (photo.bind (fun photo =>
      ((s.entryOfPhoto job photo).map Prod.fst).or (s.entryOfPendingPhoto job photo)))
    let (s, entry) ← s.entryForPath job path photo entry
    let (s, entry) ← s.ensureEntry job path (photo.getD record.recordName) entry
    let s := s.leavePlaceholder job entry path
    let row ← requireRow (s.entries.get entry)
    let isAsset := asset || (record.isTombstone && row.photoId == some record.recordName)
    let s ← s.setPending entry (!isAsset) record
    if asset then admitAssetMetadata platform s job entry record.fields else return s

end Store

variable {s t : Store} {uri folder relative : String}
variable {job entry : Nat} {path : Option String} {platform : Platform}

section Moves
variable {policy : Policy}

-- What the receive path may do to entries it does not own: rename one that is
-- provisional or not being deleted, and drop a provisional one.
structure ReceiveGuards (policy : Policy) : Prop where
  rename : ∀ id path row, (isPlaceholder row.relativePath = true ∨ row.dirty ≠ .delete) → policy.guards.rename id path row
  placeholder : ∀ id row, Store.isPlaceholderEntry row = true → policy.drop id row

theorem entryForPath_moves {photo : Option String} {entry : Option Nat} (after : Store × Option Nat)
    (guards : ReceiveGuards policy) (done : s.entryForPath job path photo entry = .ok after) : Moves policy s after.1 := by
  cases path with
  | none =>
    cases done
    exact .refl
  | some =>
    obtain ⟨_, _, rest⟩ := bind_ok.mp done
    split at rest
    · cases rest
      exact .refl
    · cases rest
      exact .refl
    · next found old _ =>
      split at rest
      · cases rest
        exact .refl
      · obtain ⟨moved, copied, rest⟩ := bind_ok.mp rest
        cases rest
        have first : Moves policy s moved := by
          unfold movePendingMaster at copied
          split at copied
          · exact setPending_moves copied
          · cases copied
            exact .refl
        refine first.trans (.deleteEntries _ (fun id row _ picked => guards.placeholder id row ?_))
        simp only [Bool.and_eq_true] at picked
        exact picked.2

theorem ensureEntry_moves {name : String} {entry : Option Nat} (after : Store × Nat)
    (done : s.ensureEntry job path name entry = .ok after) : Moves policy s after.1 := by
  cases entry with
  | some =>
    cases done
    exact .refl
  | none =>
    obtain ⟨inserted, stored, rest⟩ := bind_ok.mp done
    cases rest
    exact .insertEntry _ ⟨rfl, .inl rfl, rfl, rfl, rfl, rfl, rfl, rfl, rfl⟩ stored

theorem leavePlaceholder_moves (s : Store) (job entry : Nat) (path : Option String) (guards : ReceiveGuards policy) :
    Moves policy s (s.leavePlaceholder job entry path) := by
  unfold leavePlaceholder
  split
  · exact .refl
  · next path =>
    split
    · next test =>
      refine .entry entry _ (fun row read => .rename row path (guards.rename entry path row (.inl ?_)))
      rw [read] at test
      simp only [Option.any_some, Bool.and_eq_true] at test
      exact test.1
    · exact .refl

theorem followRename_moves {media : Nat} {path : String} (guards : ReceiveGuards policy)
    (kept : ∀ row, s.entries.get entry = some row → row.dirty ≠ .delete)
    (done : s.followRename job entry media uri path folder relative = some t) : Moves policy s t := by
  unfold followRename at done
  split at done
  · cases done
  · dsimp only at done
    have moved : Moves policy s (s.updateMedia media (fun row =>
        { row with uri := uri, path := path, folderPath := folder, thumbnailReady := false })) :=
      .media_same media _ (fun _ => rfl)
    split at done
    · cases done
      exact moved
    · cases done
      exact moved.trans (.entry entry _ (fun row read => .rename row relative
        (guards.rename entry relative row (.inr (kept row read)))))

theorem placeMetadata_moves {path : String} {favorite : Int} {takenAt : Option Int} :
    Moves policy s (s.placeMetadata entry uri path folder favorite takenAt) := by
  have indexed : ∀ row, Moves policy s (s.indexCloudMedia row) := by
    intro row
    unfold indexCloudMedia
    split
    · exact .refl
    · exact .insertMedia _
  have linked : ∀ t : Store, Moves policy t (t.linkMedia entry uri) := by
    intro t
    refine .entry_frame entry _ (fun row => ?_)
    constructor <;> rfl
  have described : ∀ t : Store, Moves policy t (t.describeCloudMedia uri favorite takenAt) := by
    intro t
    unfold describeCloudMedia
    split
    · exact .refl
    · split
      · exact .media_same _ _ (fun _ => rfl)
      · exact .refl
  exact ((indexed _).trans (linked _)).trans (described _)

theorem admitFields_moves (platform : Platform) (job : Nat) {row : Entry} (fields : Option Fields) {root : String}
    (guards : ReceiveGuards policy) (read : s.entries.get entry = some row) (kept : row.dirty ≠ .delete) :
    Moves policy s (admitFields platform s job entry row fields root relative) := by
  unfold admitFields
  dsimp only
  split
  · split
    · exact .refl
    · split
      · exact placeMetadata_moves
      · split
        · next followed =>
          refine (followRename_moves guards (fun found again => ?_) followed).trans
            (placeMetadata_moves)
          rw [read] at again
          cases again
          exact kept
        · exact .refl
  · exact placeMetadata_moves

theorem admitAssetMetadata_moves {fields : Option Fields} (guards : ReceiveGuards policy)
    (done : admitAssetMetadata platform s job entry fields = .ok t) : Moves policy s t := by
  obtain ⟨row, read, rest⟩ := bind_ok.mp done
  rw [requireRow_ok] at read
  split at rest
  · cases rest
    exact .refl
  · next kept =>
    rw [beq_iff_eq] at kept
    obtain ⟨_, _, rest⟩ := bind_ok.mp rest
    split at rest
    · cases rest
      exact .refl
    · obtain ⟨root, _, rest⟩ := bind_ok.mp rest
      cases rest
      exact admitFields_moves platform job fields guards read kept

theorem stageRecord_moves {record : NativeRecord} (guards : ReceiveGuards policy)
    (done : stageRecord platform job s record = .ok t) : Moves policy s t := by
  unfold stageRecord at done
  dsimp only at done
  split at done
  · cases done
    exact .refl
  · obtain ⟨⟨named, found⟩, placed, ⟨made, entry⟩, ensured, row, _, pending, stored, rest⟩ := bind4_ok done
    have staged : Moves policy s pending := ((entryForPath_moves _ guards placed).trans (ensureEntry_moves _ ensured)).trans
      ((leavePlaceholder_moves made job entry _ guards).trans (setPending_moves stored))
    refine staged.trans ?_
    split at rest
    · exact admitAssetMetadata_moves guards rest
    · cases rest
      exact .refl

end Moves
end PhotoSync
