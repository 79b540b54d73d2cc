import PhotoSync.Library.Edit
import PhotoSync.Library.Scan
import PhotoSync.Runs.CrashSafe
import PhotoSync.Runs.Drift
import PhotoSync.Runs.Spared

set_option autoImplicit false

namespace PhotoSync
open Relational Transaction Durable Posix Program Store Table
variable {id : Nat} {s t : Store} {uri folder : String} {source : Media} {actor : Bool}

section Index

def Skips (desktop : Desktop) (s : Store) (path : Path) (found : Stat) : Prop := unchanged desktop s.unchangedIndex path found = true

theorem skipped_not_scanned {desktop : Desktop} {volume : Volume} {s : Store} {path : Path} {found : Stat}
    (there : volume.fs.stat path = .ok found) (skips : Skips desktop s path found) :
    scanFile desktop volume s.unchangedIndex path = none := by
  unfold scanFile
  rw [there]
  dsimp only
  rw [if_pos]
  rw [Bool.or_eq_true]
  exact .inr skips

def UniqueUris (s : Store) : Prop :=
  ∀ first second row other, s.media.get first = some row → s.media.get second = some other → row.uri = other.uri → first = second

structure Indexes (s : Store) (uri : String) (id : Nat) (row : Media) : Prop where
  held : s.media.get id = some row
  named : row.uri = uri
  only : ∀ other found, s.media.get other = some found → found.uri = uri → other = id

theorem Indexes.index {row : Media} (indexes : Indexes s uri id row) :
    s.unchangedIndex uri = if row.live then some (row.fileMtimeNs, row.fileSize) else none := by
  have test : ∀ other found, s.media.get other = some found → (found.live && found.uri == uri) = true → other = id ∧ found = row := by
    intro other found read chosen
    rw [Bool.and_eq_true, beq_iff_eq] at chosen
    have same := indexes.only other found read chosen.2
    rw [same, indexes.held] at read
    exact ⟨same, (Option.some.inj read).symm⟩
  unfold unchangedIndex
  cases located : s.media.last? (fun _ found => found.live && found.uri == uri) with
  | some picked =>
    obtain ⟨present, chosen⟩ := last?_some located
    obtain ⟨_, same⟩ := test picked.1 picked.2 present chosen
    rw [Bool.and_eq_true] at chosen
    rw [Option.map_some, same, if_pos (by rw [← same]; exact chosen.1)]
  | none =>
    have unchosen := last?_none.mp located id row indexes.held
    rw [indexes.named, beq_self_eq_true, Bool.and_true] at unchosen
    rw [Option.map_none, unchosen]
    rfl

theorem Indexes.modify {row : Media} (indexes : Indexes s uri id row) (target : Nat) (change : Media → Media)
    (kept : ∀ found, (change found).uri = found.uri) (media : t.media = s.media.modify target change) :
    Indexes t uri id (if id = target then change row else row) := by
  have reads : ∀ other, t.media.get other = if other = target then (s.media.get other).map change else s.media.get other := by
    intro other
    rw [media, get_modify]
  refine ⟨?_, ?_, fun other found read named => ?_⟩
  · rw [reads, indexes.held]
    split
    · rfl
    · rfl
  · split
    · rw [kept, indexes.named]
    · exact indexes.named
  · rw [reads] at read
    split at read
    · obtain ⟨before, held, rfl⟩ := Option.map_eq_some_iff.mp read
      exact indexes.only other before held ((kept before).symm.trans named)
    · exact indexes.only other found read named

theorem Indexes.skips_iff {desktop : Desktop} {path : Path} {row : Media}
    (indexes : Indexes s (desktop.fromPath path) id row) (found : Stat) (epoch : 0 ≤ found.modified) :
    Skips desktop s path found ↔ found.modified < 2 ^ 63 ∧ row.live = true ∧ row.fileMtimeNs = found.modified ∧
      row.fileSize = found.size := by
  unfold Skips unchanged
  rw [indexes.index]
  by_cases small : found.modified < 2 ^ 63
  · have time : indexTime found.modified = some found.modified := if_pos ⟨epoch, small⟩
    rw [time, Option.any_some]
    cases live : row.live with
    | false => simp
    | true => simp only [if_true, beq_iff_eq, Option.some.injEq, Prod.mk.injEq, small, true_and]
  · have time : indexTime found.modified = none := if_neg (fun range => small range.2)
    rw [time, Option.any_none]
    exact iff_of_false Bool.false_ne_true (fun range => small range.1)

end Index

section Rows

theorem insertMediaItem_indexes {item : NewMediaItem} (done : s.insertMediaItem item = .ok t) :
    Indexes t item.uri s.media.next item.indexed := by
  unfold insertMediaItem at done
  split at done
  · cases done
  · next absent =>
    cases done
    refine ⟨get_insert_next _ _, rfl, fun other found read named => ?_⟩
    rw [get_insert] at read
    split at read
    · next same => exact same
    · have free := first?_none.mp absent other found read
      rw [beq_eq_false_iff_ne] at free
      exact absurd named free

theorem updateMediaLocation_indexes {platform : Platform} {path : String} {mtime : Int} {stamp : EditEvent} {row : Media}
    (held : s.media.get id = some row) (done : updateMediaLocation platform id path folder mtime stamp s = .ok t) :
    Indexes t (platform.fileUri path) id (row.movedTo (platform.fileUri path) path folder mtime) := by
  obtain ⟨located, placed, followed, follow, ⟨noted, outcome⟩, recorded, rest⟩ := bind3_ok done
  cases rest
  have kept : followed.media = located.media := by
    refine loop_keeps (fun now => now.media = located.media) (fun move _ before after same stepped => ?_) rfl follow
    obtain rfl := setEntryPath_eq stepped
    exact same
  obtain ⟨entries, journal, same⟩ := note_recorded recorded
  have media : t.media = located.media := by rw [same, ← kept]
  obtain ⟨alone, rfl⟩ := setMediaUri_ok placed
  refine ⟨?_, rfl, fun other found read named => ?_⟩
  · rw [media, updateMedia, get_modify_self, held]
    rfl
  · by_contra here
    rw [media, updateMedia, get_modify_of_ne here] at read
    exact alone other found read here named

theorem updateMediaEditMetadata_indexes {item : NewMediaItem} {stamp : EditEvent} {row : Media}
    (indexes : Indexes s uri id row) (done : updateMediaEditMetadata id item stamp s = .ok t) :
    Indexes t uri id { row with fileMtimeNs := item.fileMtimeNs, fileSize := item.fileSize, thumbnailReady := false } := by
  obtain ⟨⟨noted, outcome⟩, recorded, rest⟩ := bind_ok.mp done
  cases rest
  obtain ⟨entries, journal, same⟩ := note_recorded recorded
  have media : t.media = s.media.modify id (fun row =>
      { row with fileMtimeNs := item.fileMtimeNs, fileSize := item.fileSize, thumbnailReady := false }) := by
    rw [same]
    rfl
  have rewritten := indexes.modify id _ (fun _ => by rfl) media
  rw [if_pos rfl] at rewritten
  exact rewritten

theorem upsertItem_indexes {publication : Option String} {item : NewMediaItem × EditEvent} {before after : Store × List Nat}
    (unique : UniqueUris before.1)
    (done : upsertItem publication before item = .ok after) (written : after.2 ≠ before.2) :
    ∃ id row, Indexes after.1 item.1.uri id row ∧ row.live = true ∧ row.fileMtimeNs = item.1.fileMtimeNs ∧
      row.fileSize = item.1.fileSize := by
  obtain ⟨_, same⟩ | ⟨_, id, row, held, named, _, stored⟩ | ⟨_, absent, rfl⟩ := upsertItem_cases done
  · rw [same] at written
    exact absurd rfl written
  · have indexes : Indexes before.1 item.1.uri id row :=
      ⟨held, named, fun other found read equal => unique other id found row read held (equal.trans named.symm)⟩
    have rewritten := indexes.modify id item.1.scanned (fun _ => rfl) (upsertItem_media stored)
    rw [if_pos rfl] at rewritten
    refine ⟨id, item.1.scanned row, rewritten, ?_, rfl, rfl⟩
    · simp only [Media.live, NewMediaItem.scanned, Option.isNone_none, Bool.true_and]
      split
      · rfl
      · next near => exact bne_iff_ne.mpr near
  · refine ⟨before.1.media.next, item.1.indexed, ⟨get_insert_next _ _, rfl, fun other found read named => ?_⟩, rfl, rfl, rfl⟩
    rw [get_insert] at read
    split at read
    · next same => exact same
    · have free := first?_none.mp absent other found read
      rw [beq_eq_false_iff_ne] at free
      exact absurd named free

theorem setMediaUri_unique (change : Media → Media) (unique : UniqueUris s) (done : s.setMediaUri id uri change = .ok t) :
    UniqueUris t := by
  obtain ⟨alone, rfl⟩ := setMediaUri_ok done
  intro first second row other one two same
  by_cases here : first = id <;> by_cases there : second = id
  · exact here.trans there.symm
  · rw [here] at one
    simp only [updateMedia, get_modify_self, Option.map_eq_some_iff] at one
    obtain ⟨_, _, rfl⟩ := one
    simp only [updateMedia, get_modify_of_ne there] at two
    exact absurd same.symm (alone second other two there)
  · rw [there] at two
    simp only [updateMedia, get_modify_self, Option.map_eq_some_iff] at two
    obtain ⟨_, _, rfl⟩ := two
    simp only [updateMedia, get_modify_of_ne here] at one
    exact absurd same (alone first row one here)
  · simp only [updateMedia, get_modify_of_ne here] at one
    simp only [updateMedia, get_modify_of_ne there] at two
    exact unique first second row other one two same

theorem bindAdmitted_media (s t : Store) (capture : Capture) (photo : RemotePhoto) (media : Nat)
    (done : s.bindAdmitted capture photo media = .ok t) :
    t.media = s.media.modify media (fun row => { row with
      isFavorite := admittedFavorite capture photo, storageLocation := .both, thumbnailReady := true }) := by
  obtain ⟨asset, _, master, _, path, _, rest⟩ := bind3_ok done
  split at rest
  · cases rest
  · obtain rfl := setEntryPhoto_eq rest
    simp only [updateEntry, updateMedia, modify_modify]

theorem admission_indexes {publication : String} {photo : RemotePhoto} {item : NewMediaItem} {stamp : EditEvent}
    (unique : UniqueUris s) (done : s.admission publication photo item stamp = .ok t) :
    ∃ id row, Indexes t item.uri id row ∧ row.live = true ∧ row.fileMtimeNs = item.fileMtimeNs ∧ row.fileSize = item.fileSize := by
  obtain ⟨capture, _, _, _, entry, _, renamed, previous, rest⟩ := bind4_ok done
  obtain ⟨⟨indexed, ids⟩, upserted, media, chosen, bound, binds, verified, verifies, rest⟩ := bind4_ok rest
  cases rest
  have uniqueRenamed : UniqueUris renamed := by
    unfold renamePrevious at previous
    split at previous
    · cases previous
      exact unique
    · exact setMediaUri_unique _ unique previous
  obtain ⟨_, once, last⟩ := bind_ok.mp upserted
  cases last
  have some : ids ≠ [] := by
    rintro rfl
    cases chosen
  obtain ⟨id, row, indexes, live, time, size⟩ := upsertItem_indexes uniqueRenamed once some
  have kept : verified.media = indexed.media.modify media (fun found => { found with
      isFavorite := admittedFavorite capture photo, storageLocation := .both, thumbnailReady := true }) := by
    rw [(verifyStaged_same _ _ _ verifies).2]
    exact bindAdmitted_media indexed bound capture photo media binds
  refine ⟨id, _, indexes.modify media _ (fun _ => by rfl) kept, ?_⟩
  split
  · have present : row.trashedAt.isNone = true := ((Bool.and_eq_true _ _).mp live).1
    exact ⟨(Bool.and_eq_true _ _).mpr ⟨present, rfl⟩, time, size⟩
  · exact ⟨live, time, size⟩

end Rows

section Admit

open Program
variable {calendar : Calendar} {platform : Platform} {hash : Bytes → String} {call : PairCall calendar} {start world final : World}
  {site : Site}

theorem preparePair_item (pair : PreparedPair) (ran : (preparePair platform hash call).run start = (final, .ok pair)) :
    pair.item.uri = platform.fileUri pair.target ∧ pair.details.size = some pair.item.fileSize ∧
      ∃ number file, final.disk.stat pair.next = some (number, file) ∧ pair.item.fileMtimeNs = file.modified := by
  unfold preparePair at ran
  obtain ⟨_, _, _, ran⟩ := run_bind_ok.mp ran
  obtain ⟨_, _, _, ran⟩ := run_bind_ok.mp ran
  obtain ⟨_, _, _, ran⟩ := run_bind_ok.mp ran
  obtain ⟨_, capture, _, ran⟩ := run_bind_ok.mp ran
  obtain ⟨_, relative, _, ran⟩ := run_bind_ok.mp ran
  obtain ⟨_, target, _, ran⟩ := run_bind_ok.mp ran
  obtain ⟨_, parent, _, ran⟩ := run_bind_ok.mp ran
  obtain ⟨_, _, _, ran⟩ := run_bind_ok.mp ran
  obtain ⟨_, old, _, ran⟩ := run_bind_ok.mp ran
  obtain ⟨_, row, _, ran⟩ := run_bind_ok.mp ran
  obtain ⟨_, _, _, ran⟩ := run_bind_ok.mp ran
  obtain ⟨_, _, _, ran⟩ := run_bind_ok.mp ran
  obtain ⟨prepared, _, _, ran⟩ := run_bind_ok.mp ran
  obtain ⟨_, modified, measured, ran⟩ := run_bind_ok.mp ran
  unfold modifiedOf at measured
  rw [run_bind, statOf, run_read] at measured
  dsimp only at measured
  split at measured
  · exact absurd measured run_fail
  · next number file found =>
    obtain ⟨rfl, rfl⟩ := run_pure.mp measured
    rw [run_bind, stampAt, run_read] at ran
    obtain ⟨rfl, rfl⟩ := run_pure.mp ran
    unfold placedItem
    split
    · exact ⟨rfl, rfl, number, file, found, rfl⟩
    · exact ⟨rfl, rfl, number, file, found, rfl⟩

theorem backUp_ok (pair : PreparedPair) (apart : pair.next ≠ pair.backup ∧ pair.backup ≠ pair.target)
    (ran : (backUp pair).run world = (final, .ok ())) :
    ∃ disk, final = { world with disk := disk } ∧ disk.stat pair.target = world.disk.stat pair.target ∧
      disk.stat pair.next = world.disk.stat pair.next := by
  unfold backUp at ran
  split at ran
  · obtain ⟨disk, linked, rfl⟩ := onDisk_ok ran
    have stats := (world.disk.stat_hardLink linked).2.2
    exact ⟨disk, rfl, by rw [stats, if_neg (Ne.symm apart.2)], by rw [stats, if_neg apart.1]⟩
  · obtain ⟨rfl, _⟩ := run_pure.mp ran
    exact ⟨final.disk, rfl, rfl, rfl⟩

theorem cleanUp_keeps {details : RecoveryDetails} {backup target : String} (apart : backup ≠ target)
    (given : details.target = some target) {publication : String}
    (ran : (do
      removeFile backup
      cleanupRenamedSource details
      onStore (fun s => .ok (s.cleanPublication publication)) : Routine Unit).run world = (final, .ok ())) :
    final.disk.stat target = world.disk.stat target ∧ final.store.media = world.store.media := by
  obtain ⟨unbacked, _, removing, ran⟩ := run_bind_ok.mp ran
  obtain ⟨cleaned, _, cleaning, ran⟩ := run_bind_ok.mp ran
  obtain ⟨store, written, rfl⟩ := onStore_ok ran
  cases written
  let Kept : World → Prop := fun after => after.disk.stat target = world.disk.stat target ∧ after.store = world.store
  have removes : Holds Kept (fun _ _ => True) (removeFile backup) world := by
    refine holds_removeFile ⟨rfl, rfl⟩ (fun disk stats => ⟨⟨?_, rfl⟩, trivial⟩)
    rw [stats, if_neg (Ne.symm apart)]
  have cleans : Kept unbacked → Holds Kept (fun _ _ => True) (cleanupRenamedSource details) unbacked := by
    refine holds_cleanupRenamedSource (fun old held disk _ other kept removed => ⟨?_, kept.2⟩)
    have different : target ≠ old := fun same => other (by rw [given, same])
    rw [(held.disk.stat_remove removed).2, if_neg different]
    exact kept.1
  have first := removes.run.1
  rw [removing] at first
  have second := (cleans first).run.1
  rw [cleaning] at second
  refine ⟨second.1, ?_⟩
  rw [second.2]
  rfl

theorem placePair_ok (pair : PreparedPair) (held : Nat × File Bytes) (next : world.disk.stat pair.next = some held)
    (apart : pair.next ≠ pair.target ∧ pair.next ≠ pair.backup ∧ pair.backup ≠ pair.target)
    (fresh : ∀ old, world.disk.stat pair.target = some old → old.1 ≠ held.1) (placed : pair.details.target = some pair.target)
    (ran : (placePair hash call pair).run world = (final, .ok ())) :
    final.disk.stat pair.target = some held ∧ ∃ s admitted : Store, s.media = world.store.media ∧
      s.admission call.id call.photo pair.item call.stamp = .ok admitted ∧ final.store.media = admitted.media := by
  unfold placePair at ran
  obtain ⟨_, _, recorded, ran⟩ := run_bind_ok.mp ran
  obtain ⟨store, written, rfl⟩ := onStore_ok recorded
  rw [run_bind, statOf, run_read] at ran
  obtain ⟨_, _, demanded, ran⟩ := run_bind_ok.mp ran
  obtain ⟨rfl, _⟩ := demand_ok demanded
  obtain ⟨_, _, backing, ran⟩ := run_bind_ok.mp ran
  obtain ⟨backed, rfl, target, source⟩ := backUp_ok pair apart.2 backing
  obtain ⟨_, _, moving, ran⟩ := run_bind_ok.mp ran
  obtain ⟨moved, renamed, rfl⟩ := onDisk_ok moving
  have arrived : moved.stat pair.target = some held := by
    rcases (backed.stat_rename renamed).2 with ⟨same, _⟩ | ⟨_, stats⟩
    · have equal := backed.stat_of_names same
      rw [source, target] at equal
      exact absurd rfl (fresh held (equal.symm.trans next))
    · rw [stats, if_neg (Ne.symm apart.1), if_pos rfl, source, next]
  obtain ⟨_, outcome, admitting, ran⟩ := run_bind_ok.mp ran
  cases outcome with
  | error =>
    obtain ⟨_, _, _, ran⟩ := run_bind_ok.mp ran
    exact absurd ran run_fail
  | ok =>
    obtain ⟨admitted, done, rfl⟩ := onStore_ok (run_attempt_ok admitting)
    obtain ⟨last, media⟩ := cleanUp_keeps apart.2.2 placed ran
    refine ⟨last.trans arrived, store, admitted, ?_, done, media⟩
    obtain ⟨_, published, _, _, rest⟩ := bind2_ok written
    cases rest
    obtain ⟨_, _, _, _, rest⟩ := bind2_ok published
    cases rest
    rfl

theorem publishPair_indexes (publishes : Publishes call start site) (unique : UniqueUris start.store)
    (ran : (publishPair platform hash call).run start = (final, .ok ())) :
    ∃ number file id row, final.disk.stat site.target = some (number, file) ∧
      Indexes final.store (platform.fileUri site.target) id row ∧ row.live = true ∧ row.fileMtimeNs = file.modified ∧
      row.fileSize = file.content.length := by
  obtain ⟨world, pair, prepared, ran⟩ := run_bind_ok.mp ran
  have readies : Holds (Quiet site start) (fun answer after => ∀ pair, answer = .ok pair → PairReady site hash start pair after)
    (preparePair platform hash call) start := preparePair_holds publishes
  have ready := readies.run.2 pair
  rw [prepared] at ready
  have ready := ready rfl
  obtain ⟨uri, size, number, file, found, time⟩ := preparePair_item pair prepared
  obtain ⟨inode, modified, copy, apart⟩ := ready.next
  obtain ⟨target, next, backup, old⟩ := ready.own
  rw [next, copy] at found
  cases found
  have arrives := placePair_ok pair (number, ⟨site.content, modified⟩) (by rw [next]; exact copy)
    (by rw [target, next, backup]; exact ⟨site.nextApart, site.temporaries, site.backupApart⟩)
    (by rw [target, ready.target]; exact apart) (by rw [target]; exact ready.described.target) ran
  rw [target] at arrives uri
  obtain ⟨placed, s, admitted, before, done, media⟩ := arrives
  have kept : UniqueUris s := by
    unfold UniqueUris
    rw [before, ready.store]
    exact unique
  obtain ⟨id, row, indexes, live, stamped, sized⟩ := admission_indexes kept done
  rw [uri] at indexes
  have described := ready.described.size
  rw [size, Option.some.injEq] at described
  refine ⟨number, ⟨site.content, modified⟩, id, row, placed, ⟨?_, indexes.named, ?_⟩, live, stamped.trans time, sized.trans described⟩
  · rw [media]
    exact indexes.held
  · rw [media]
    exact indexes.only

end Admit

namespace Library

variable {desktop : Desktop} {outside : Outside} {library final : Library}

theorem metadata_ran (calm : ∀ number, outside.fault number = none) {path : Path} {found : Except AppError Stat}
    (ran : (metadata outside path).attempt.run library = (final, .ok found)) :
    Same library final ∧ found = ((library.tree.stat path).mapError Fault.error).mapError .io := by
  obtain ⟨rfl, ⟨_, answered⟩ | ⟨error, met, _⟩⟩ := ask_ran (run_attempt_ok ran)
  · exact ⟨⟨rfl, rfl⟩, answered⟩
  · rw [calm] at met
    cases met

theorem metadata_found (calm : ∀ number, outside.fault number = none) {path : Path} {found : Except AppError Stat} {stat : Stat}
    (ran : (metadata outside path).attempt.run library = (final, .ok found)) (there : final.tree.stat path = .ok stat) :
    Same library final ∧ found = .ok stat := by
  obtain ⟨same, answered⟩ := metadata_ran calm ran
  rw [← same.1, there] at answered
  exact ⟨same, answered⟩

theorem readBack_ok (ran : (readBack outside actor id).run library = (final, .ok ())) : Same library final := by
  unfold readBack at ran
  split at ran
  · obtain ⟨middle, row, read, rest⟩ := run_bind_ok.mp ran
    obtain ⟨rfl, _⟩ := query_ok read
    obtain ⟨rfl, _⟩ := run_pure.mp rest
    exact ⟨rfl, rfl⟩
  · obtain ⟨rfl, _⟩ := run_pure.mp ran
    exact ⟨rfl, rfl⟩

theorem mediaItem_ok {row : Media} (ran : (mediaItem outside id).run library = (final, .ok row)) :
    Same library final ∧ library.store.media.get id = some row := by
  obtain ⟨rfl, _, read⟩ := query_ok ran
  exact ⟨⟨rfl, rfl⟩, requireRow_ok.mp read⟩

theorem copyToUnique_files (source : Path) (taken : AppError) (candidates : List Path) :
    FilesOnly (copyToUnique outside source taken candidates) := by
  induction candidates with
  | nil => exact .fail taken
  | cons candidate rest ih =>
    unfold copyToUnique
    refine (change_files _).attempt.bind (fun created => ?_)
    cases created with
    | error failure =>
      dsimp only
      split
      · exact ih
      · exact .fail failure
    | ok =>
      refine FilesOnly.bind (FilesOnly.attempt ?_) (fun filled => ?_)
      · exact (ask_files _).bind (fun content => (change_files _).bind (fun _ =>
          settle_files.bind (fun _ => settle_files.bind (fun _ => settle_files))))
      · cases filled with
        | ok => exact .pure candidate
        | error failure => exact (change_files _).regardless.bind (fun _ => .fail failure)

theorem dropSource_files (source placed : Path) : FilesOnly (dropSource outside source placed) := by
  refine (change_files _).attempt.bind (fun removed => ?_)
  cases removed with
  | ok => exact .pure placed
  | error failure => exact (change_files _).regardless.bind (fun _ => .fail failure)

theorem moveToUnique_files {source : Path} {taken : AppError} {all candidates : List Path} :
    FilesOnly (moveToUnique outside source taken all candidates) := by
  induction candidates with
  | nil => exact .fail taken
  | cons candidate rest ih =>
    unfold moveToUnique
    refine (change_files _).attempt.bind (fun linked => ?_)
    cases linked with
    | ok => exact dropSource_files source candidate
    | error failure =>
      dsimp only
      split
      · exact ih
      · split
        · exact (copyToUnique_files source taken all).bind (fun copied => dropSource_files source copied)
        · exact .fail failure

theorem insertMediaItem_ran (actor : Bool) (item : NewMediaItem)
    (ran : (insertMediaItem outside actor item).run library = (final, .ok ())) :
    final.tree = library.tree ∧ Indexes final.store item.uri library.store.media.next item.indexed := by
  unfold insertMediaItem at ran
  rw [run_bind, run_read] at ran
  obtain ⟨written, _, committed, rest⟩ := run_bind_ok.mp ran
  obtain ⟨tree, stored⟩ := commit_written committed
  have same := readBack_ok rest
  refine ⟨same.1.trans tree, ?_⟩
  rw [same.2]
  exact insertMediaItem_indexes stored

theorem updateMediaLocation_ran (calm : ∀ number, outside.fault number = none) {path folder : Path} {stamp : EditEvent}
    {row : Media} {found : Stat} (held : library.store.media.get id = some row)
    (ran : (updateMediaLocation desktop outside id path folder stamp).run library = (final, .ok ()))
    (there : final.tree.stat path = .ok found) :
    final.tree = library.tree ∧ Indexes final.store (desktop.fromPath path) id
      (row.movedTo (desktop.fromPath path) (desktop.text path) (desktop.text folder) (tsNs found.modified)) := by
  unfold updateMediaLocation at ran
  obtain ⟨asked, answer, met, rest⟩ := run_bind_ok.mp ran
  rw [run_bind, clockNow, run_read] at rest
  obtain ⟨tree, stored⟩ := commit_written rest
  rw [tree] at there
  obtain ⟨same, rfl⟩ := metadata_found calm met there
  rw [same.2] at stored
  exact ⟨tree.trans same.1, updateMediaLocation_indexes held stored⟩

theorem tsNs_small (time : Int) (epoch : 0 ≤ time) (small : time < 2 ^ 63) : tsNs time = time := if_pos ⟨by omega, small⟩

theorem copiedTime_exact_iff (found : Stat) (now : Int) (epoch : 0 ≤ found.modified) (small : found.modified < 2 ^ 63) :
    tsNs (copiedTime (.ok found) now) = found.modified ↔ found.modified % nanosPerSecond = 0 := by
  have cut : copiedTime (.ok found) now = found.modified / nanosPerSecond * nanosPerSecond := by
    refine if_pos ⟨epoch, ?_⟩
    unfold nanosPerSecond lastSecond
    omega
  have low : 0 ≤ found.modified / nanosPerSecond * nanosPerSecond := by unfold nanosPerSecond; omega
  have high : found.modified / nanosPerSecond * nanosPerSecond < 2 ^ 63 := by unfold nanosPerSecond; omega
  rw [cut, tsNs_small _ low high]
  unfold nanosPerSecond
  omega

theorem moved_skips_iff {path : Path} {found : Stat} {row : Media} {column : String}
    (indexes : Indexes s (desktop.fromPath path) id (row.movedTo uri column folder (tsNs found.modified)))
    (epoch : 0 ≤ found.modified) :
    Skips desktop s path found ↔ found.modified < 2 ^ 63 ∧ row.live = true ∧ row.fileSize = found.size := by
  rw [indexes.skips_iff found epoch]
  refine and_congr_right (fun small => ?_)
  have time : (row.movedTo uri column folder (tsNs found.modified)).fileMtimeNs = found.modified := tsNs_small _ epoch small
  rw [time]
  exact ⟨fun facts => ⟨facts.1, facts.2.2⟩, fun facts => ⟨facts.1, rfl, facts.2⟩⟩

section Writers
variable (calm : ∀ number, outside.fault number = none) {path : Path} {found : Stat}
include calm

theorem addCopy_skips_iff {actor : Bool} {item : Media} {folder : Path}
    (ran : (addCopy desktop outside actor item folder).run library = (final, .ok path))
    (there : final.tree.stat path = .ok found) (epoch : 0 ≤ found.modified) :
    Skips desktop final.store path found ↔
      found.modified < 2 ^ 63 ∧ item.fileSize = found.size ∧ found.modified % nanosPerSecond = 0 := by
  unfold addCopy at ran
  obtain ⟨copied, target, _, rest⟩ := run_bind_ok.mp ran
  obtain ⟨asked, answer, met, rest⟩ := run_bind_ok.mp rest
  rw [run_bind, clockNow, run_read] at rest
  obtain ⟨written, outcome, inserted, rest⟩ := run_bind_ok.mp rest
  cases outcome with
  | error =>
    obtain ⟨_, _, _, failed⟩ := run_bind_ok.mp rest
    exact absurd failed run_fail
  | ok =>
    obtain ⟨rfl, rfl⟩ := run_pure.mp rest
    obtain ⟨tree, indexes⟩ := insertMediaItem_ran _ _ (run_attempt_ok inserted)
    rw [tree] at there
    obtain ⟨_, rfl⟩ := metadata_found calm met there
    rw [indexes.skips_iff found epoch]
    refine and_congr_right (fun small => ?_)
    rw [and_comm (a := item.fileSize = found.size), ← copiedTime_exact_iff found (outside.now asked.calls) epoch small]
    exact ⟨fun facts => ⟨facts.2.1, facts.2.2⟩, fun facts => ⟨rfl, facts.1, facts.2⟩⟩

theorem addMove_skips_iff {actor : Bool} {id : Nat} {item : Media} {folder : Path} {stamp : EditEvent}
    (held : library.store.media.get id = some item)
    (ran : (addMove desktop outside actor id item folder stamp).run library = (final, .ok path))
    (there : final.tree.stat path = .ok found) (epoch : 0 ≤ found.modified) :
    Skips desktop final.store path found ↔ found.modified < 2 ^ 63 ∧ item.live = true ∧ item.fileSize = found.size := by
  unfold addMove at ran
  obtain ⟨moved, target, placed, rest⟩ := run_bind_ok.mp ran
  obtain ⟨written, outcome, updated, rest⟩ := run_bind_ok.mp rest
  cases outcome with
  | error =>
    obtain ⟨_, _, _, failed⟩ := run_bind_ok.mp rest
    exact absurd failed run_fail
  | ok =>
    obtain ⟨rfl, rfl⟩ := run_pure.mp rest
    obtain ⟨located, _, relocated, reading⟩ := run_bind_ok.mp (run_attempt_ok updated)
    have same := readBack_ok reading
    rw [same.1] at there
    rw [← moveToUnique_files _ _ _ placed] at held
    obtain ⟨_, indexes⟩ := updateMediaLocation_ran calm held relocated there
    rw [same.2]
    exact moved_skips_iff indexes epoch

theorem renameMediaFile_skips_iff {id : Nat} {requested : String} {stamp : EditEvent} {item : Media}
    (indexes : Indexes library.store (desktop.fromPath (.ofText item.path)) id item)
    (ran : (renameMediaFile desktop outside id requested stamp).run library = (final, .ok path))
    (there : final.tree.stat path = .ok found) (epoch : 0 ≤ found.modified) :
    Skips desktop final.store path found ↔ found.modified < 2 ^ 63 ∧ item.live = true ∧ item.fileSize = found.size ∧
      (path = .ofText item.path → item.fileMtimeNs = found.modified) := by
  unfold renameMediaFile at ran
  obtain ⟨asked, row, read, ran⟩ := run_bind_ok.mp ran
  obtain ⟨same, held⟩ := mediaItem_ok read
  obtain rfl : item = row := Option.some.inj (indexes.held.symm.trans held)
  obtain ⟨named, target, lifted, rest⟩ := run_bind_ok.mp ran
  obtain ⟨rfl, _⟩ := run_lift.mp lifted
  split at rest
  · next still =>
    obtain ⟨rfl, rfl⟩ := run_pure.mp rest
    rw [still, same.2, indexes.skips_iff found epoch]
    refine and_congr_right (fun small => and_congr_right (fun live => ?_))
    exact ⟨fun facts => ⟨facts.2, fun _ => facts.1⟩, fun facts => ⟨facts.2 rfl, facts.1⟩⟩
  · next away =>
    obtain ⟨looked, present, tested, rest⟩ := run_bind_ok.mp rest
    have untouched : looked.store = named.store := ((ask_files _).attempt.bind (fun _ => FilesOnly.pure _)) _ _ _ tested
    split at rest
    · exact absurd rest run_fail
    · obtain ⟨moved, _, renamed, rest⟩ := run_bind_ok.mp rest
      have kept : moved.store = library.store := ((change_files _ _ _ _ renamed).trans untouched).trans same.2
      split at rest
      · exact absurd rest run_fail
      · next parent _ =>
        obtain ⟨written, outcome, updated, rest⟩ := run_bind_ok.mp rest
        cases outcome with
        | error =>
          obtain ⟨_, _, _, failed⟩ := run_bind_ok.mp rest
          exact absurd failed run_fail
        | ok =>
          obtain ⟨located, _, relocated, reading⟩ := run_bind_ok.mp (run_attempt_ok updated)
          obtain ⟨after, _⟩ := mediaItem_ok reading
          dsimp only at rest
          split at rest
          · obtain ⟨rfl, rfl⟩ := run_pure.mp rest
            rw [after.1] at there
            rw [← kept] at held
            obtain ⟨_, placed⟩ := updateMediaLocation_ran calm held relocated there
            rw [after.2, moved_skips_iff placed epoch]
            refine and_congr_right (fun small => and_congr_right (fun live => ?_))
            exact ⟨fun size => ⟨size, fun still => absurd still away⟩, And.left⟩
          · obtain ⟨_, _, _, failed⟩ := run_bind_ok.mp rest
            exact absurd failed run_fail

omit calm in
theorem editedMetadata_ran {item : NewMediaItem} (ran : (editedMetadata desktop outside source path).run library = (final, .ok item))
    (there : final.tree.stat path = .ok found) :
    Same library final ∧ item.uri = desktop.fromPath path ∧ item.fileMtimeNs = tsNs found.modified ∧ item.fileSize = found.size := by
  unfold editedMetadata at ran
  obtain ⟨asked, stat, looked, rest⟩ := run_bind_ok.mp ran
  obtain ⟨opened, content, read, rest⟩ := run_bind_ok.mp rest
  obtain ⟨rfl, rfl⟩ := run_pure.mp rest
  obtain ⟨rfl, _, answered⟩ := ask_ok looked
  obtain ⟨rfl, _⟩ := ask_ok read
  have there : library.tree.stat path = .ok found := there
  rw [there] at answered
  cases answered
  exact ⟨⟨rfl, rfl⟩, rfl, rfl, rfl⟩

omit calm in
theorem insertEdited_ran {item : NewMediaItem} {stamp : EditEvent} (unique : UniqueUris library.store)
    (ran : (insertEdited outside item stamp).run library = (final, .ok ())) :
    final.tree = library.tree ∧ ∃ id row, Indexes final.store item.uri id row ∧ row.live = true ∧
      row.fileMtimeNs = item.fileMtimeNs ∧ row.fileSize = item.fileSize := by
  unfold insertEdited at ran
  rw [run_bind, run_read] at ran
  obtain ⟨written, _, committed, rest⟩ := run_bind_ok.mp ran
  obtain ⟨tree, stored⟩ := commit_written committed
  cases done : upsertItem none (library.store, []) (item, stamp) with
  | error =>
    simp [upsertMediaItems, done, Bind.bind, Except.bind, Except.map] at stored
  | ok after =>
    have upserted : library.store.upsertMediaItems [(item, stamp)] none = .ok after := by
      simp [upsertMediaItems, done, Bind.bind, Except.bind, Pure.pure, Except.pure]
    rw [upserted] at stored rest
    have kept : after.1 = written.store := Except.ok.inj stored
    split at rest
    · exact absurd rest run_fail
    · next empty =>
      obtain ⟨same, _⟩ := run_pure.mp rest
      rw [same, ← kept]
      refine ⟨tree, upsertItem_indexes unique done (fun none => empty ?_)⟩
      exact List.isEmpty_iff.mpr none

omit calm in
theorem recorded_skips_iff {row : Media} (indexes : Indexes s (desktop.fromPath path) id row)
    (time : row.fileMtimeNs = tsNs found.modified) (size : row.fileSize = found.size) (epoch : 0 ≤ found.modified) :
    Skips desktop s path found ↔ found.modified < 2 ^ 63 ∧ row.live = true := by
  rw [indexes.skips_iff found epoch, time, size]
  refine and_congr_right (fun small => ?_)
  rw [tsNs_small _ epoch small]
  exact ⟨fun facts => facts.1, fun live => ⟨live, rfl, rfl⟩⟩

omit calm in
theorem acquire_files (held : Path) : FilesOnly (acquire outside held) := (ask_files _).bind (fun _ => .pure ())

omit calm in
theorem stage_files (encoded : Encoded) : FilesOnly (stage outside encoded) := settle_files.bind (fun _ => .lift encoded)

omit calm in
theorem editedMetadata_files (source : Media) : FilesOnly (editedMetadata desktop outside source path) :=
  (ask_files _).bind (fun _ => (ask_files _).bind (fun _ => .pure _))

omit calm in
theorem saveCopy_skips_iff {encoded : Encoded} {timestamp : Nat} {stamp : EditEvent} (unique : UniqueUris library.store)
    (ran : (saveCopy desktop outside source encoded timestamp stamp).run library = (final, .ok path))
    (there : final.tree.stat path = .ok found) (epoch : 0 ≤ found.modified) :
    Skips desktop final.store path found ↔ found.modified < 2 ^ 63 := by
  unfold saveCopy at ran
  obtain ⟨acquired, _, first, ran⟩ := run_bind_ok.mp ran
  obtain ⟨staged, content, second, ran⟩ := run_bind_ok.mp ran
  rw [run_bind, run_read] at ran
  generalize generateEditedPath staged.tree (.ofText source.path) timestamp = target at ran
  obtain ⟨persisted, _, third, ran⟩ := run_bind_ok.mp ran
  obtain ⟨synced, _, fourth, ran⟩ := run_bind_ok.mp ran
  obtain ⟨described, item, metadata, ran⟩ := run_bind_ok.mp ran
  obtain ⟨written, outcome, inserted, ran⟩ := run_bind_ok.mp ran
  cases outcome with
  | error =>
    obtain ⟨_, _, _, failed⟩ := run_bind_ok.mp ran
    exact absurd failed run_fail
  | ok =>
    obtain ⟨rfl, rfl⟩ := run_pure.mp ran
    have kept : described.store = library.store := by
      rw [editedMetadata_files _ _ _ _ metadata, settle_files _ _ _ fourth, change_files _ _ _ _ third,
        stage_files _ _ _ _ second, acquire_files _ _ _ _ first]
    rw [← kept] at unique
    obtain ⟨tree, id, row, indexes, live, time, size⟩ := insertEdited_ran unique (run_attempt_ok inserted)
    rw [tree] at there
    obtain ⟨_, uri, stamped, sized⟩ := editedMetadata_ran metadata there
    rw [uri] at indexes
    rw [recorded_skips_iff indexes (time.trans stamped) (size.trans sized) epoch]
    exact ⟨And.left, fun small => ⟨small, live⟩⟩

omit calm in
theorem atomicCopy_files (source target : Path) : FilesOnly (atomicCopy outside source target) :=
  (ask_files _).bind (fun _ => settle_files.bind (fun _ => (change_files _).bind (fun _ => settle_files)))

omit calm in
theorem saveOverwrite_skips_iff {encoded : Encoded} {stamp : EditEvent}
    (indexes : Indexes library.store (desktop.fromPath (.ofText source.path)) id source)
    (ran : (saveOverwrite desktop outside actor id source encoded stamp).run library = (final, .ok path))
    (there : final.tree.stat path = .ok found) (epoch : 0 ≤ found.modified) :
    Skips desktop final.store path found ↔ found.modified < 2 ^ 63 ∧ source.live = true := by
  unfold saveOverwrite at ran
  obtain ⟨acquired, _, first, ran⟩ := run_bind_ok.mp ran
  obtain ⟨measured, before, second, ran⟩ := run_bind_ok.mp ran
  obtain ⟨staged, content, third, ran⟩ := run_bind_ok.mp ran
  obtain ⟨permitted, _, fourth, ran⟩ := run_bind_ok.mp ran
  obtain ⟨synced, _, fifth, ran⟩ := run_bind_ok.mp ran
  obtain ⟨rechecked, current, sixth, ran⟩ := run_bind_ok.mp ran
  split at ran
  · exact absurd ran run_fail
  · obtain ⟨saved, _, seventh, ran⟩ := run_bind_ok.mp ran
    obtain ⟨persisted, _, eighth, ran⟩ := run_bind_ok.mp ran
    obtain ⟨settled, _, ninth, ran⟩ := run_bind_ok.mp ran
    have kept : settled.store = library.store := by
      rw [settle_files _ _ _ ninth, change_files _ _ _ _ eighth, atomicCopy_files _ _ _ _ _ seventh, ask_files _ _ _ _ sixth,
        settle_files _ _ _ fifth, settle_files _ _ _ fourth, stage_files _ _ _ _ third, ask_files _ _ _ _ second,
        acquire_files _ _ _ _ first]
    obtain ⟨written, outcome, recorded, ran⟩ := run_bind_ok.mp ran
    cases outcome with
    | error =>
      obtain ⟨restored, back, _, ran⟩ := run_bind_ok.mp ran
      cases back with
      | ok | error => exact absurd ran run_fail
    | ok =>
      obtain ⟨rfl, rfl⟩ := run_pure.mp ran
      obtain ⟨described, item, metadata, rest⟩ := run_bind_ok.mp (run_attempt_ok recorded)
      obtain ⟨updated, _, committed, reading⟩ := run_bind_ok.mp rest
      have after := readBack_ok reading
      obtain ⟨tree, stored⟩ := commit_written committed
      rw [after.1, tree] at there
      obtain ⟨same, _, stamped, sized⟩ := editedMetadata_ran metadata there
      rw [same.2, kept] at stored
      rw [after.2]
      have rewritten := updateMediaEditMetadata_indexes indexes stored
      have skips := recorded_skips_iff rewritten stamped sized epoch
      exact skips

end Writers

inductive Writer where
  | albumCopy (actor : Bool) (id : Nat) (folder : Path) (stamp : EditEvent)
  | albumMove (actor : Bool) (id : Nat) (folder : Path) (stamp : EditEvent)
  | rename (id : Nat) (requested : String) (stamp : EditEvent)
  | saveCopy (source : Media) (encoded : Encoded) (timestamp : Nat) (stamp : EditEvent)
  | overwrite (actor : Bool) (id : Nat) (encoded : Encoded) (stamp : EditEvent)

namespace Writer

def task (desktop : Desktop) (outside : Outside) : Writer → Task Path
  | albumCopy actor id folder stamp => do
    let item ← mediaItem outside id
    addOne desktop outside actor id item folder .copy stamp
  | albumMove actor id folder stamp => do
    let item ← mediaItem outside id
    addOne desktop outside actor id item folder .move stamp
  | rename id requested stamp => renameMediaFile desktop outside id requested stamp
  | saveCopy source encoded timestamp stamp => Library.saveCopy desktop outside source encoded timestamp stamp
  | overwrite actor id encoded stamp => do
    let source ← mediaItem outside id
    saveOverwrite desktop outside actor id source encoded stamp

def photo : Writer → Option Nat
  | albumCopy _ id _ _ => some id
  | albumMove _ id _ _ => some id
  | rename id _ _ => some id
  | saveCopy _ _ _ _ => none
  | overwrite _ id _ _ => some id

def Accurate (item : Media) (path : Path) (found : Stat) : Writer → Prop
  | albumCopy _ _ _ _ => item.fileSize = found.size ∧ found.modified % nanosPerSecond = 0
  | albumMove _ _ _ _ => item.live = true ∧ item.fileSize = found.size
  | rename _ _ _ => item.live = true ∧ item.fileSize = found.size ∧ (path = .ofText item.path → item.fileMtimeNs = found.modified)
  | saveCopy _ _ _ _ => True
  | overwrite _ _ _ _ => item.live = true

def Records (library : Library) (path : Path) (found : Stat) (writer : Writer) : Prop :=
  ∀ id item, writer.photo = some id → library.store.media.get id = some item → writer.Accurate item path found

theorem records_iff {writer : Writer} {path : Path} {found : Stat} {item : Media} (photo : writer.photo = some id)
    (held : library.store.media.get id = some item) :
    writer.Records library path found ↔ writer.Accurate item path found := by
  refine ⟨fun every => every id item photo held, fun met other row same read => ?_⟩
  rw [photo] at same
  cases same
  rw [held] at read
  cases read
  exact met

end Writer

-- Rows that are found by the URI of their path, and by no other row's.
structure Addressed (desktop : Desktop) (s : Store) : Prop where
  unique : UniqueUris s
  named : ∀ id row, s.media.get id = some row → row.uri = desktop.fromPath (.ofText row.path)

theorem Addressed.indexes {row : Media} (addressed : Addressed desktop s) (held : s.media.get id = some row) :
    Indexes s (desktop.fromPath (.ofText row.path)) id row :=
  ⟨held, addressed.named id row held, fun other found read same =>
    addressed.unique other id found row read held (same.trans (addressed.named id row held).symm)⟩

theorem Same.indexes {row : Media} (same : Same library final) (indexes : Indexes library.store uri id row) :
    Indexes final.store uri id row := by
  rw [same.2]
  exact indexes

theorem writer_skips_iff (calm : ∀ number, outside.fault number = none) (writer : Writer) {path : Path} {found : Stat}
    (addressed : Addressed desktop library.store)
    (ran : (writer.task desktop outside).run library = (final, .ok path)) (there : final.tree.stat path = .ok found)
    (epoch : 0 ≤ found.modified) :
    Skips desktop final.store path found ↔ found.modified < 2 ^ 63 ∧ writer.Records library path found := by
  cases writer with
  | albumCopy =>
    obtain ⟨asked, item, read, ran⟩ := run_bind_ok.mp ran
    obtain ⟨_, held⟩ := mediaItem_ok read
    rw [Writer.records_iff rfl held]
    exact addCopy_skips_iff calm ran there epoch
  | albumMove actor id =>
    obtain ⟨asked, item, read, ran⟩ := run_bind_ok.mp ran
    obtain ⟨same, held⟩ := mediaItem_ok read
    have kept : asked.store.media.get id = some item := by rw [same.2, held]
    rw [Writer.records_iff rfl held]
    exact addMove_skips_iff calm kept ran there epoch
  | rename =>
    obtain ⟨asked, item, read, _⟩ := run_bind_ok.mp ran
    obtain ⟨_, held⟩ := mediaItem_ok read
    rw [Writer.records_iff rfl held]
    exact renameMediaFile_skips_iff calm (addressed.indexes held) ran there epoch
  | saveCopy =>
    rw [saveCopy_skips_iff addressed.unique ran there epoch]
    exact ⟨fun small => ⟨small, fun _ _ never => nomatch never⟩, And.left⟩
  | overwrite =>
    obtain ⟨asked, item, read, ran⟩ := run_bind_ok.mp ran
    obtain ⟨same, held⟩ := mediaItem_ok read
    rw [Writer.records_iff rfl held]
    exact saveOverwrite_skips_iff (same.indexes (addressed.indexes held)) ran there epoch

end Library

namespace Sample

def shelf : Library where
  tree := .ofPaths [("/p", .directory true), ("/p/a.jpg", .file [1, 2, 3] 0), ("/q", .directory true)]
  store := { Store.empty with
    media := Table.empty.insert ⟨"file:///p/a.jpg", "/p/a.jpg", "/p", none, 0, 3, 0, none, .localOnly, true⟩ }
  calls := 0

def steady (now : Int) : Outside := ⟨fun _ => none, fun _ => now, fun _ _ => false, fun _ => ""⟩

def copying : Library.Writer := .albumCopy false 1 (.ofText "/q") ⟨0, "device", "event"⟩

def copied (now : Int) : Library × Except AppError Path := (copying.task .verbatim (steady now)).run shelf

def rescanned (library : Library) : Volume := ⟨library.tree.fileSystem, fun _ => some none, fun _ => []⟩

theorem shelf_rows {row : Media} (read : shelf.store.media.get id = some row) :
    id = 1 ∧ row = ⟨"file:///p/a.jpg", "/p/a.jpg", "/p", none, 0, 3, 0, none, .localOnly, true⟩ := by
  simp only [shelf, get_insert, get_empty] at read
  split at read
  · next first => exact ⟨first, (Option.some.inj read).symm⟩
  · cases read

theorem shelf_addressed : Library.Addressed .verbatim shelf.store := by
  refine ⟨fun first second row other one two _ => ?_, fun id row read => ?_⟩
  · rw [(shelf_rows one).1, (shelf_rows two).1]
  · rw [(shelf_rows read).2]
    decide +kernel

theorem replacing_unique : UniqueUris replacing.store := by
  have one : replacing.store.media.any (fun id _ => id != 1) = false := by decide +kernel
  intro first second row other here there _
  have left := any_eq_false.mp one first row here
  have right := any_eq_false.mp one second other there
  rw [bne_eq_false_iff_eq] at left right
  rw [left, right]

end Sample

-- After a write of the app the scan takes the short-circuit exactly where the
-- writer has recorded the file as it is, and then the file is not read again.
theorem own_writes_skipped_iff (desktop : Desktop) :
    (∀ (outside : Outside) (library final : Library) (writer : Library.Writer) (path : Path) (found : Stat),
      (∀ number, outside.fault number = none) → Library.Addressed desktop library.store →
      (writer.task desktop outside).run library = (final, .ok path) → final.tree.stat path = .ok found → 0 ≤ found.modified →
      (Skips desktop final.store path found ↔ found.modified < 2 ^ 63 ∧ writer.Records library path found)) ∧
    (∀ (calendar : Calendar) (hash : Bytes → String) (call : PairCall calendar) (start final : World) (site : Site),
      Publishes call start site → UniqueUris start.store →
      (publishPair desktop.platform hash call).run start = (final, .ok ()) →
      ∃ number file, final.disk.stat site.target = some (number, file) ∧ (0 ≤ file.modified →
        (Skips desktop final.store (.ofText site.target) ⟨.file, file.modified, file.content.length⟩ ↔ file.modified < 2 ^ 63))) ∧
    (∀ (volume : Volume) (s : Store) (path : Path) (found : Stat), volume.fs.stat path = .ok found →
      Skips desktop s path found → scanFile desktop volume s.unchangedIndex path = none) := by
  refine ⟨?_, ?_, ?_⟩
  · intro outside library final writer path found calm addressed ran there epoch
    exact Library.writer_skips_iff calm writer addressed ran there epoch
  · intro calendar hash call start final site publishes unique ran
    obtain ⟨number, file, id, row, placed, indexes, live, time, size⟩ := publishPair_indexes publishes unique ran
    refine ⟨number, file, placed, fun epoch => ?_⟩
    have skips := Indexes.skips_iff indexes ⟨.file, file.modified, file.content.length⟩ epoch
    rw [skips]
    exact ⟨And.left, fun small => ⟨small, live, time, size⟩⟩
  · intro volume s path found there skips
    exact skipped_not_scanned there skips

open Sample in
theorem copies_at_whole_seconds_are_skipped : (copied 2000000000).2 = .ok (.ofText "/q/a.jpg") ∧
    Skips .verbatim (copied 2000000000).1.store (.ofText "/q/a.jpg") ⟨.file, 2000000000, 3⟩ ∧
    ((publishPair Desktop.verbatim.platform sha replacement).run replacing).2 = .ok () ∧
    Skips .verbatim ((publishPair Desktop.verbatim.platform sha replacement).run replacing).1.store (.ofText "/p/b")
      ⟨.file, 0, 4⟩ := by
  have ended : (copied 2000000000).2 = .ok (.ofText "/q/a.jpg") := by decide +kernel
  have there : (copied 2000000000).1.tree.stat (.ofText "/q/a.jpg") = .ok ⟨.file, 2000000000, 3⟩ := by decide +kernel
  have published : ((publishPair Desktop.verbatim.platform sha replacement).run replacing).2 = .ok () := by decide +kernel
  have placed : ((publishPair Desktop.verbatim.platform sha replacement).run replacing).1.disk.stat "/p/b" =
    some (4, ⟨[1, 2, 3, 4], 0⟩) := by decide +kernel
  have ran : copied 2000000000 = ((copied 2000000000).1, .ok (.ofText "/q/a.jpg")) := by
    rw [← ended]
  have done : (publishPair Desktop.verbatim.platform sha replacement).run replacing =
      (((publishPair Desktop.verbatim.platform sha replacement).run replacing).1, .ok ()) := by
    rw [← published]
  refine ⟨ended, ?_, published, ?_⟩
  · refine ((own_writes_skipped_iff .verbatim).1 (steady 2000000000) shelf (copied 2000000000).1 copying (.ofText "/q/a.jpg")
      ⟨.file, 2000000000, 3⟩ (fun _ => rfl) shelf_addressed ran there (by decide)).mpr ⟨by decide, ?_⟩
    intro id item _ held
    rw [(shelf_rows held).2]
    exact ⟨rfl, by decide⟩
  · obtain ⟨number, file, found, iff⟩ := (own_writes_skipped_iff .verbatim).2.1 _ sha replacement replacing _ replaced
      replacement_publishes replacing_unique done
    rw [show replaced.target = "/p/b" from rfl, placed] at found
    cases found
    exact (iff (by decide)).mpr (by decide)

open Sample in
theorem fractional_copy_is_rescanned : (copied 1500000000).2 = .ok (.ofText "/q/a.jpg") ∧
    (copied 1500000000).1.tree.stat (.ofText "/q/a.jpg") = .ok ⟨.file, 1500000000, 3⟩ ∧
    ¬ Skips .verbatim (copied 1500000000).1.store (.ofText "/q/a.jpg") ⟨.file, 1500000000, 3⟩ ∧
    (scanFile .verbatim (rescanned (copied 1500000000).1) (copied 1500000000).1.store.unchangedIndex (.ofText "/q/a.jpg")).any
      (fun item => ((copied 1500000000).1.store.mediaOfUri item.uri).any (fun row => item.changes row.2)) = true := by
  unfold Skips
  decide +kernel

end PhotoSync
