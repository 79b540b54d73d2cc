import PhotoSync.Runs.Availability
import PhotoSync.Runs.OwnWrites

set_option autoImplicit false

namespace PhotoSync.Library
open Relational Transaction Durable Posix Store
open Program
variable {desktop : Desktop} {outside : Outside} {library final : Library} {source : Media} {encoded : Encoded}
  {timestamp id : Nat} {stamp : EditEvent} {actor : Bool} {path target : Path} {content bytes : Bytes}
  {position place : List FileName} {modified : Int}

section Steps

theorem acquire_quiet : Quiet (acquire outside path) := (ask_quiet _).bind (fun _ => .lift (.ok ()))

theorem stage_quiet : Quiet (stage outside encoded) := settle_quiet.bind (fun _ => .lift encoded)

def editedItem (desktop : Desktop) (source : Media) (path : Path) (found : Stat) : NewMediaItem where
  uri := desktop.fromPath path
  path := desktop.text path
  folderPath := source.folderPath
  takenAt := source.takenAt
  fileMtimeNs := tsNs found.modified
  fileSize := found.size

theorem ends_editedMetadata {ok : NewMediaItem → Library → Prop} {err : AppError → Library → Prop}
    (located : library.tree.locate path = .ok position) (here : library.tree.seen position = some (.file content modified)) :
    Ends ok err (editedMetadata desktop outside source path) library ↔
      match outside.fault library.calls, outside.fault (library.calls + 1) with
      | none, none => ok (editedItem desktop source path (Node.stat (.file content modified))) library.tick.tick
      | none, some error => err (.io error) library.tick.tick
      | some error, _ => err (.io error) library.tick := by
  have found : library.tree.stat path = .ok (Node.stat (.file content modified)) := by
    rw [Tree.stat, Tree.lookup_ok.mpr ⟨located, here⟩]
    rfl
  have reads : library.tick.tree.read path = .ok content := Tree.read_ok.mpr ⟨position, modified, located, here⟩
  unfold editedMetadata metadata readBytes
  rw [ends_bind, ends_ask, found]
  cases outside.fault library.calls with
  | some => rfl
  | none =>
    dsimp only [Except.mapError]
    rw [ends_bind, ends_ask, reads]
    have next : outside.fault library.tick.calls = outside.fault (library.calls + 1) := rfl
    rw [next]
    cases outside.fault (library.calls + 1) <;> rfl

theorem upsertMediaItems_none {s t : Store} {item : NewMediaItem × EditEvent}
    (done : s.upsertMediaItems [item] none = .ok (t, [])) : t = s := by
  unfold upsertMediaItems at done
  rw [List.foldlM_cons] at done
  obtain ⟨after, upserted, rest⟩ := bind_ok.mp done
  cases rest
  obtain ⟨_, same⟩ | ⟨_, _, _, _, _, listed, _⟩ | ⟨_, _, same⟩ := upsertItem_cases upserted
  · cases same
    rfl
  · cases listed
  · cases same

theorem insertEdited_fails (item : NewMediaItem) :
    Ends (fun _ _ => True) (fun _ final => final = library.tick) (insertEdited outside item stamp) library := by
  unfold insertEdited
  rw [ends_bind, ends_read, ends_bind, ends_commit]
  cases outside.fault library.calls with
  | some => rfl
  | none =>
    cases done : library.store.upsertMediaItems [(item, stamp)] none with
    | error => rfl
    | ok after =>
      obtain ⟨last, ids⟩ := after
      cases ids with
      | cons => trivial
      | nil =>
        rw [upsertMediaItems_none done]
        rfl

end Steps

section Copy
variable (desktop outside source encoded timestamp stamp library)

def readyCopy : Task Bytes := do
  acquire outside (.ofText source.path)
  stage outside encoded

def showCopy : Task Path := do
  let content ← readyCopy outside source encoded
  let target ← .read (fun library => generateEditedPath library.tree (.ofText source.path) timestamp)
  change outside (fun now tree => tree.persistNoclobber now target content)
  return target

def finishCopy (target : Path) : Task Path := do
  settle outside
  let item ← editedMetadata desktop outside source target
  match ← (insertEdited outside item stamp).attempt with
  | .ok () => pure target
  | .error failure => do
    regardless (removeFile outside target)
    .fail failure

-- A copy that could not be saved is gone, and so is its row.
def CopyAtomic : Prop := Ends (fun _ _ => True) (fun _ final =>
    let target := generateEditedPath library.tree (.ofText source.path) timestamp
    final.tree.lookup target = library.tree.lookup target ∧ final.store = library.store)
    (saveCopy desktop outside source encoded timestamp stamp) library

-- The sync of the directory and the two calls that read the new file do not
-- fail, and neither does the call that removes it.
def CopyCalm : Prop := ∀ shown target, (showCopy outside source encoded timestamp).run library = (shown, .ok target) →
    ∀ call < 3, outside.fault (shown.calls + call) = none

def CopyUndone : Prop := ∀ shown target, (showCopy outside source encoded timestamp).run library = (shown, .ok target) →
    outside.fault (shown.calls + 4) = none

variable {desktop outside source encoded timestamp stamp library}

theorem saveCopy_eq : saveCopy desktop outside source encoded timestamp stamp =
    showCopy outside source encoded timestamp >>= finishCopy desktop outside source stamp := by
  simp only [saveCopy, showCopy, readyCopy, finishCopy, bind_assoc, pure_bind] <;> rfl

theorem showCopy_ends : Ends (fun target shown =>
      target = generateEditedPath library.tree (.ofText source.path) timestamp ∧ shown.store = library.store ∧
        ∃ position content modified, library.tree.seen position = none ∧
          Tree.Changes library.tree shown.tree target position (some (.file content modified)))
    (fun _ final => Same library final) (showCopy outside source encoded timestamp) library := by
  unfold showCopy
  have quiet : Quiet (readyCopy outside source encoded) := acquire_quiet.bind (fun _ => stage_quiet)
  rw [ends_bind, ends_iff]
  refine ⟨fun ready content ran => ?_, fun final failure ran => quiet _ _ _ ran⟩
  have same := quiet _ _ _ ran
  rw [ends_bind, ends_read, ends_bind, ends_change, same.1]
  generalize generateEditedPath library.tree (.ofText source.path) timestamp = target
  cases outside.fault ready.calls with
  | some => exact same
  | none =>
    cases persisted : library.tree.persistNoclobber (outside.now ready.calls) target content with
    | error => exact same
    | ok =>
      obtain ⟨position, located, free, rfl⟩ := Tree.persistNoclobber_ok.mp persisted
      exact ⟨rfl, same.2, position, content, _, free, Tree.placed located (by simp [free])⟩

theorem copyAtomic_iff (undone : CopyUndone outside library source encoded timestamp) :
    CopyAtomic desktop outside library source encoded timestamp stamp ↔ CopyCalm outside library source encoded timestamp := by
  obtain ⟨shows, fails⟩ := ends_iff.mp (showCopy_ends : Ends _ _ (showCopy outside source encoded timestamp) library)
  unfold CopyAtomic CopyCalm
  rw [saveCopy_eq, ends_bind, ends_iff, and_iff_left (fun final failure ran => ⟨by rw [(fails _ _ ran).1], (fails _ _ ran).2⟩)]
  refine forall_congr' (fun shown => forall_congr' (fun target => forall_congr' (fun ran => ?_)))
  obtain ⟨named, stored, position, content, modified, free, changed⟩ := shows shown target ran
  rw [← named]
  have here : shown.tree.seen position = some (.file content modified) := by rw [changed.shape, Function.update_self]
  have located := changed.locate changed.located
  have remains : ¬ shown.tree.lookup target = library.tree.lookup target := by
    intro kept
    rw [Tree.lookup_ok.mpr ⟨located, here⟩] at kept
    have before := (Tree.lookup_ok.mp kept.symm).2
    rw [free] at before
    cases before
  have fails : ∀ call < 3, outside.fault (shown.calls + call) ≠ none →
    ¬ ∀ call < 3, outside.fault (shown.calls + call) = none := fun call small met calm => met (calm call small)
  unfold finishCopy
  rw [ends_bind, ends_settle]
  cases first : outside.fault shown.calls with
  | some => exact iff_of_false (fun left => remains left.1) (fails 0 (by omega) (by simp [first]))
  | none =>
    have located' : shown.tick.tree.locate target = .ok position := located
    rw [ends_bind, ends_editedMetadata located' here]
    cases second : outside.fault shown.tick.calls with
    | some => exact iff_of_false (fun left => remains left.1) (fails 1 (by omega) (second ▸ nofun))
    | none =>
      cases third : outside.fault (shown.tick.calls + 1) with
      | some => exact iff_of_false (fun left => remains left.1) (fails 2 (by omega) (third ▸ nofun))
      | none =>
        refine iff_of_true ?_ (fun call small => ?_)
        · dsimp only
          rw [ends_bind, ends_attempt]
          refine (insertEdited_fails _).mono (fun _ _ _ => trivial) ?_
          rintro failure final rfl
          have calm : outside.fault shown.tick.tick.tick.tick.calls = none := undone shown target ran
          have removed : shown.tree.remove target = .ok (shown.tree.erase position) :=
            Tree.remove_ok.mpr ⟨position, content, modified, located, here, rfl⟩
          have gone := Tree.erased located (by simp [here])
          have removed : shown.tick.tick.tick.tick.tree.remove target = .ok _ := removed
          rw [ends_bind, ends_regardless, removeFile, ends_change, calm, removed]
          refine ⟨Tree.lookup_alike ?_ target, stored⟩
          rw [gone.shape, changed.shape, Function.update_idem, ← free, Function.update_eq_self]
        · match call with
          | 0 => exact first
          | 1 => exact second
          | 2 => exact third

end Copy

section Overwrite
variable (desktop outside library source encoded id stamp actor)

def readyEdit : Task Bytes := do
  let path := Path.ofText source.path
  acquire outside path
  let before ← metadata outside path
  let content ← stage outside encoded
  settle outside
  settle outside
  let current ← metadata outside path
  if before.size ≠ current.size ∨ before.modified ≠ current.modified then
    refuse "source changed while rendering; reopen the image before saving"
  else return content

-- overwrite up to the moment the new bytes have the name, the record of them, and the rest.
def showEdit : Task Unit := do
  let path := Path.ofText source.path
  let content ← readyEdit outside source encoded
  atomicCopy outside path (backupPathFor path)
  change outside (fun now tree => tree.persist now path content)

def writeEdit : Task Unit := do
  let item ← editedMetadata desktop outside source (.ofText source.path)
  commit outside (Store.updateMediaEditMetadata id item stamp)

def recordEdit : Task Unit := do
  writeEdit desktop outside source id stamp
  readBack outside actor id

def undoEdit (failure : AppError) : Task Path := do
  let path := Path.ofText source.path
  match ← (atomicCopy outside (backupPathFor path) path).attempt with
  | .ok () => .fail failure
  | .error rollback => refuse ("save commit failed: " ++ outside.describe failure ++ "; restore failed: " ++
    outside.describe rollback ++ "; original retained at " ++ desktop.text (backupPathFor path))

def finishEdit : Task Path := do
  settle outside
  match ← (recordEdit desktop outside source id stamp actor).attempt with
  | .ok () => pure (.ofText source.path)
  | .error failure => undoEdit desktop outside source failure

-- After a failed overwrite the file and its row are what they were.
def EditAtomic : Prop :=
  Ends (fun _ _ => True) (fun _ final => final.tree.read (.ofText source.path) = library.tree.read (.ofText source.path) ∧
    final.store.media.get id = library.store.media.get id)
    (saveOverwrite desktop outside actor id source encoded stamp) library

-- No call fails while the new bytes have the name and the row is not written,
-- or reads the row after it is, where that would tell.
def EditCalm : Prop := ∀ shown done, (showEdit outside source encoded).run library = (shown, .ok done) →
    (outside.fault shown.calls = none ∨ shown.tree.read (.ofText source.path) = library.tree.read (.ofText source.path)) ∧
    (outside.fault shown.calls = none → ∀ written done,
      (writeEdit desktop outside source id stamp).run shown.tick = (written, .ok done) → actor = true →
        outside.fault written.calls = none ∨ written.store.media.get id = library.store.media.get id)

def EditUndone : Prop := ∀ shown done tried failure, (showEdit outside source encoded).run library = (shown, .ok done) →
    (recordEdit desktop outside source id stamp actor).run shown.tick = (tried, .error failure) →
    ∀ call < 4, outside.fault (tried.calls + call) = none

variable {desktop outside library source encoded id stamp actor}

theorem saveOverwrite_eq : saveOverwrite desktop outside actor id source encoded stamp =
    showEdit outside source encoded >>= fun _ => finishEdit desktop outside source id stamp actor := by
  simp only [saveOverwrite, showEdit, readyEdit, finishEdit, recordEdit, writeEdit, undoEdit, bind_assoc, ite_bind, refuse,
    fail_bind, pure_bind] <;> rfl

theorem atomicCopy_ends : Ends (fun _ final => final.store = library.store ∧ ∃ content now, library.tree.read path = .ok content ∧
        library.tree.persist now target content = .ok final.tree)
      (fun _ final => final.store = library.store ∧ (final.tree = library.tree ∨
        ∃ content now, library.tree.read path = .ok content ∧ library.tree.persist now target content = .ok final.tree))
      (atomicCopy outside path target) library := by
  unfold atomicCopy readBytes
  rw [ends_bind, ends_ask]
  cases outside.fault library.calls with
  | some => exact ⟨rfl, .inl rfl⟩
  | none =>
    cases reads : library.tree.read path with
    | error => exact ⟨rfl, .inl rfl⟩
    | ok content =>
      dsimp only [Except.mapError]
      rw [ends_bind, ends_settle]
      cases outside.fault library.tick.calls with
      | some => exact ⟨rfl, .inl rfl⟩
      | none =>
        rw [ends_bind, ends_change]
        cases outside.fault library.tick.tick.calls with
        | some => exact ⟨rfl, .inl rfl⟩
        | none =>
          cases persisted : library.tick.tick.tree.persist (outside.now library.tick.tick.calls) target content with
          | error => exact ⟨rfl, .inl rfl⟩
          | ok =>
            dsimp only
            rw [ends_settle]
            split
            · exact ⟨rfl, content, _, rfl, persisted⟩
            · exact ⟨rfl, .inr ⟨content, _, rfl, persisted⟩⟩

theorem atomicCopy_restores (calm : ∀ call < 4, outside.fault (library.calls + call) = none)
    (reads : library.tree.read path = .ok content) (located : library.tree.locate target = .ok position)
    (plain : ∀ readable, library.tree.seen position ≠ some (.directory readable)) :
    Ends (fun _ final => final.store = library.store ∧ final.tree.read target = .ok content) (fun _ _ => False)
      (atomicCopy outside path target) library := by
  have first : outside.fault library.calls = none := calm 0 (by omega)
  have second : outside.fault library.tick.calls = none := calm 1 (by omega)
  have third : outside.fault library.tick.tick.calls = none := calm 2 (by omega)
  have persisted : library.tick.tick.tree.persist (outside.now library.tick.tick.calls) target content = .ok _ :=
    Tree.persist_ok.mpr ⟨position, located, plain, rfl⟩
  have written : Tree.Changes library.tree
    (library.tree.place position (.file content (outside.now library.tick.tick.calls))) _ _ _ := Tree.placed located plain
  unfold atomicCopy readBytes
  rw [ends_bind, ends_ask, first, reads]
  dsimp only [Except.mapError]
  rw [ends_bind, ends_settle, second]
  rw [ends_bind, ends_change, third, persisted]
  dsimp only
  rw [ends_settle]
  split
  · exact ⟨rfl, Tree.read_ok.mpr ⟨position, _, written.locate located, written.shape ▸ Function.update_self _ _ _⟩⟩
  · next error met => exact absurd (met.symm.trans (calm 3 (by omega))) nofun

theorem backup_apart {tree : Tree} (located : tree.locate path = .ok position)
    (here : tree.seen position = some (.file content modified)) (beside : tree.locate (backupPathFor path) = .ok place) :
    position ≠ place := by
  obtain ⟨name, named⟩ := Tree.locate_named located (by simp [here])
  have proper : properName (name.bytes ++ utf8 ".bak") = true := by
    have shape : utf8 ".bak" = [dot, 98, 97, 107] := by decide
    have apart := name.slash_not_mem
    have bytes := name.proper
    simp only [properName, Bool.and_eq_true, Bool.not_eq_true', bne_iff_ne] at bytes ⊢
    rw [shape]
    refine ⟨⟨⟨by simp, ?_⟩, fun same => ?_⟩, fun same => ?_⟩
    · simpa using ⟨apart, by decide⟩
    · simpa using congrArg List.length same
    · simpa using congrArg List.length same
  have longer : (backupPathFor path).fileName = some ⟨name.bytes ++ utf8 ".bak", proper⟩ := Path.parse_append named rfl
  obtain ⟨front, rfl⟩ := Tree.locate_last named located
  obtain ⟨other, rfl⟩ := Tree.locate_last longer beside
  intro same
  have ends := (List.append_inj' same rfl).2
  have bytes := congrArg FileName.bytes (List.cons.inj ends).1
  have lengths := congrArg List.length bytes
  have size : (utf8 ".bak").length = 4 := by decide
  rw [List.length_append, size] at lengths
  omega

structure Replaced (library shown : Library) (path : Path) (bytes content : Bytes) (position place : List FileName) : Prop where
  store : shown.store = library.store
  reads : library.tree.read path = .ok bytes
  located : shown.tree.locate path = .ok position
  beside : shown.tree.locate (backupPathFor path) = .ok place
  here : ∃ modified, shown.tree.seen position = some (.file content modified)
  kept : ∃ modified, shown.tree.seen place = some (.file bytes modified)

theorem showEdit_ends :
    Ends (fun _ shown => ∃ bytes content position place, Replaced library shown (.ofText source.path) bytes content position place)
      (fun _ final => final.store = library.store ∧ final.tree.read (.ofText source.path) = library.tree.read (.ofText source.path))
      (showEdit outside source encoded) library := by
  have quiet : Quiet (readyEdit outside source encoded) :=
    acquire_quiet.bind (fun _ => (ask_quiet _).bind (fun _ => stage_quiet.bind (fun _ => settle_quiet.bind (fun _ =>
      settle_quiet.bind (fun _ => (ask_quiet _).bind (fun _ => by split <;> exact .lift _))))))
  unfold showEdit
  rw [ends_bind, ends_iff]
  refine ⟨fun ready content ran => ?_, fun final failure ran => ⟨(quiet _ _ _ ran).2, by rw [(quiet _ _ _ ran).1]⟩⟩
  obtain ⟨tree, store⟩ := quiet _ _ _ ran
  rw [← tree, ← store, ends_bind]
  have other : ∀ {changed : Tree} {bytes : Bytes} {now : Int}, ready.tree.read (.ofText source.path) = .ok bytes →
      ready.tree.persist now (backupPathFor (.ofText source.path)) bytes = .ok changed →
      changed.read (.ofText source.path) = ready.tree.read (.ofText source.path) := by
    intro changed bytes now reads persisted
    obtain ⟨position, modified, located, here⟩ := Tree.read_ok.mp reads
    obtain ⟨place, beside, plain, rfl⟩ := Tree.persist_ok.mp persisted
    exact (Tree.placed beside plain).read_other located (backup_apart located here beside)
  refine atomicCopy_ends.mono (fun _ backed done => ?_) (fun _ final done => ?_)
  · obtain ⟨kept, bytes, now, reads, persisted⟩ := done
    rw [ends_change]
    cases outside.fault backed.calls with
    | some => exact ⟨kept, other reads persisted⟩
    | none =>
      cases replaced : backed.tree.persist (outside.now backed.calls) (.ofText source.path) content with
      | error => exact ⟨kept, other reads persisted⟩
      | ok =>
        obtain ⟨position, modified, located, here⟩ := Tree.read_ok.mp reads
        obtain ⟨place, beside, plain, shape⟩ := Tree.persist_ok.mp persisted
        have changed : Tree.Changes ready.tree backed.tree _ place (some (.file bytes now)) := shape ▸ Tree.placed beside plain
        have still := changed.locate located
        obtain ⟨found, again, plain, rfl⟩ := Tree.persist_ok.mp replaced
        cases still.symm.trans again
        have written : Tree.Changes _ (backed.tree.place position (.file content (outside.now backed.calls))) _ _ _ :=
          Tree.placed still plain
        refine ⟨bytes, content, position, place, kept.trans store, tree ▸ reads, written.locate still,
          written.locate (changed.locate beside), ⟨_, written.shape ▸ Function.update_self _ _ _⟩, now, ?_⟩
        have shown := congrFun written.shape place
        rw [Function.update_of_ne (backup_apart located here beside).symm, changed.shape, Function.update_self] at shown
        exact shown
  · obtain ⟨kept, same | ⟨bytes, now, reads, persisted⟩⟩ := done
    · exact ⟨kept, by rw [same]⟩
    · exact ⟨kept, other reads persisted⟩

theorem undoEdit_iff {shown tried : Library} (replaced : Replaced library shown (.ofText source.path) bytes content position place)
    (same : tried.tree = shown.tree) (calm : ∀ call < 4, outside.fault (tried.calls + call) = none) (failure : AppError) :
    Ends (fun _ _ => True) (fun _ final => final.tree.read (.ofText source.path) = library.tree.read (.ofText source.path) ∧
          final.store.media.get id = library.store.media.get id) (undoEdit desktop outside source failure) tried ↔
      tried.store.media.get id = library.store.media.get id := by
  obtain ⟨modified, here⟩ := replaced.here
  obtain ⟨since, kept⟩ := replaced.kept
  rw [← same] at here kept
  have located : tried.tree.locate (.ofText source.path) = .ok position := by rw [same]; exact replaced.located
  have beside : tried.tree.locate (backupPathFor (.ofText source.path)) = .ok place := by rw [same]; exact replaced.beside
  have restores := ends_iff.mp (atomicCopy_restores calm (Tree.read_ok.mpr ⟨place, since, beside, kept⟩) located (by simp [here]))
  unfold undoEdit
  rw [ends_bind, ends_attempt]
  unfold Ends
  cases ran : (atomicCopy outside (backupPathFor (.ofText source.path)) (.ofText source.path)).run tried with
  | mk final result =>
    cases result with
    | error failure => exact (restores.2 final failure ran).elim
    | ok =>
      obtain ⟨store, read⟩ := restores.1 final _ ran
      rw [← store]
      exact ⟨fun both => both.2, fun row => ⟨read.trans replaced.reads.symm, row⟩⟩

theorem edited_none {s t : Store} {item : NewMediaItem} (done : updateMediaEditMetadata id item stamp s = .ok t)
    (absent : t.media.get id = none) : s.media.get id = none := by
  obtain ⟨⟨last, outcome⟩, noted, rest⟩ := bind_ok.mp done
  cases rest
  obtain ⟨_, _, rfl⟩ := note_recorded noted
  simpa [updateMedia, Table.get_modify] using absent

theorem writeEdit_ends (located : library.tree.locate (.ofText source.path) = .ok position)
    (here : library.tree.seen position = some (.file content modified)) :
    Ends (fun _ written => written.tree = library.tree ∧ (written.store.media.get id = none → library.store.media.get id = none))
      (fun _ final => Same library final) (writeEdit desktop outside source id stamp) library := by
  unfold writeEdit
  rw [ends_bind, ends_editedMetadata located here]
  split
  · rw [ends_commit]
    split
    · next done => exact ⟨rfl, edited_none done⟩
    · exact ⟨rfl, rfl⟩
    · exact ⟨rfl, rfl⟩
  · exact ⟨rfl, rfl⟩
  · exact ⟨rfl, rfl⟩

theorem recordEdit_tree (located : library.tree.locate (.ofText source.path) = .ok position)
    (here : library.tree.seen position = some (.file content modified)) :
    Ends (fun _ _ => True) (fun _ final => final.tree = library.tree) (recordEdit desktop outside source id stamp actor) library := by
  unfold recordEdit
  rw [ends_bind]
  refine (writeEdit_ends located here).mono (fun _ written kept => ?_) (fun _ final same => same.1)
  unfold readBack
  split
  · rw [ends_bind, mediaItem, ends_query]
    split
    · trivial
    · exact kept.1
    · exact kept.1
  · trivial

theorem recordEdit_iff {before : Library} (same : library.store = before.store)
    (located : library.tree.locate (.ofText source.path) = .ok position)
    (here : library.tree.seen position = some (.file content modified)) :
    Ends (fun _ _ => True) (fun _ final => final.store.media.get id = before.store.media.get id)
        (recordEdit desktop outside source id stamp actor) library ↔
      ∀ written done, (writeEdit desktop outside source id stamp).run library = (written, .ok done) → actor = true →
        outside.fault written.calls = none ∨ written.store.media.get id = before.store.media.get id := by
  obtain ⟨writes, fails⟩ := ends_iff.mp
    (writeEdit_ends located here : Ends _ _ (writeEdit desktop outside source id stamp) library)
  unfold recordEdit
  rw [ends_bind, ends_iff, and_iff_left (fun final failure ran => by rw [(fails final failure ran).2, same])]
  refine forall_congr' (fun written => forall_congr' (fun done => forall_congr' (fun ran => ?_)))
  unfold readBack
  cases actor with
  | false => exact iff_of_true trivial nofun
  | true =>
    rw [if_pos rfl, ends_bind, mediaItem, ends_query]
    cases outside.fault written.calls with
    | some => exact ⟨fun row _ => .inr row, fun calm => (calm rfl).resolve_left nofun⟩
    | none =>
      refine iff_of_true ?_ (fun _ => .inl rfl)
      cases found : written.store.media.get id with
      | some => trivial
      | none =>
        have absent := (writes written done ran).2 found
        rw [same] at absent
        exact found.trans absent.symm

theorem editAtomic_iff (undone : EditUndone desktop outside library source encoded id stamp actor) :
    EditAtomic desktop outside library source encoded id stamp actor ↔
      EditCalm desktop outside library source encoded id stamp actor := by
  obtain ⟨shows, fails⟩ := ends_iff.mp (showEdit_ends : Ends _ _ (showEdit outside source encoded) library)
  unfold EditAtomic EditCalm
  rw [saveOverwrite_eq, ends_bind, ends_iff, and_iff_left (fun final failure ran =>
    ⟨(fails final failure ran).2, by rw [(fails final failure ran).1]⟩)]
  refine forall_congr' (fun shown => forall_congr' (fun done => forall_congr' (fun ran => ?_)))
  obtain ⟨bytes, content, position, place, replaced⟩ := shows shown done ran
  obtain ⟨modified, here⟩ := replaced.here
  have located : shown.tick.tree.locate (.ofText source.path) = .ok position := replaced.located
  unfold finishEdit
  rw [ends_bind, ends_settle]
  cases met : outside.fault shown.calls with
  | some => exact ⟨fun kept => ⟨.inr kept.1, nofun⟩, fun calm => ⟨calm.1.resolve_left nofun, by
    exact congrArg (fun store => store.media.get id) replaced.store⟩⟩
  | none =>
    have same : shown.tick.store = library.store := replaced.store
    have keeps := (ends_iff.mp (recordEdit_tree located here : Ends _ _ (recordEdit desktop outside source id stamp actor) _)).2
    rw [ends_bind, ends_attempt]
    refine Iff.trans ?_ ((recordEdit_iff same located here).trans ⟨fun calm => ⟨.inl rfl, fun _ => calm⟩, fun calm => calm.2 rfl⟩)
    rw [ends_iff, ends_iff]
    refine and_congr (iff_of_true (fun _ _ _ => trivial) (fun _ _ _ => trivial))
      (forall_congr' (fun tried => forall_congr' (fun failure => forall_congr' (fun ended => ?_))))
    exact undoEdit_iff replaced (keeps tried failure ended) (undone _ _ _ _ ran ended) failure

end Overwrite

section Sample

open PhotoSync.Sample

def failing (call : Nat) : Outside := { steady 7 with fault := fun number => if number = call then some .refused else none }

def picture : Media := ⟨"file:///p/a.jpg", "/p/a.jpg", "/p", none, 0, 3, 0, none, .localOnly, true⟩

def editing : EditEvent := ⟨0, "device", "event"⟩

end Sample
end PhotoSync.Library
