import PhotoSync.Library.Reconcile
import PhotoSync.Runs.Spared

set_option autoImplicit false

namespace PhotoSync
open Relational Transaction Durable Posix Program Store Table

namespace Trash

def topDirectory (uid : String) (root : Path) : Option Path :=
  match root.parent, root.fileName with
  | some above, some last =>
    if last.bytes = utf8 uid ∧ above.fileName.any (fun name => name.bytes == utf8 ".Trash") then above.parent
    else if last.bytes = utf8 (".Trash-" ++ uid) then some above
    else none
  | _, _ => none

def recordedPath (content : Bytes) : Option Path :=
  ((content.splitOn 10).find? (fun line => (utf8 "Path=").isPrefixOf line)).map (fun line =>
    .parse (percentDecodeBytes (line.drop 5)))

def Names (fs : FileSystem) (uid : String) (root original object : Path) : Prop :=
  ∃ names name actual content recorded, fs.list (infoDir root) = .ok names ∧ name ∈ names ∧
    name.bytes = actual ++ utf8 ".trashinfo" ∧ fs.read ((infoDir root).child name) = .ok content ∧
    recordedPath content = some recorded ∧ object = (filesDir root).join (.parse actual) ∧ fs.existsAt object = true ∧
    original = (match topDirectory uid root with
      | some top => top.join recorded
      | none => recorded)

-- The file of a path is in one of the trashes: as an entry, or inside a trashed directory.
def Inside (fs : FileSystem) (uid : String) (trashRoots : List Path) (path : Path) : Prop :=
  ∃ root ∈ trashRoots, ∃ original object, Names fs uid root original object ∧
    (original = path ∨ ∃ inner, inner ≠ [] ∧ path = original.below inner ∧ fs.isDir object = true ∧
      fs.isFile (object.below inner) = true)

end Trash

variable {s : Store} {media : Nat}

section Kept
variable (desktop : Desktop) (volume : Volume) (mediaRoots trashRoots : List Path) (clock : Clock)

theorem mem_markIds (s : Store) (id : Nat × EditEvent)
    (member : id ∈ (prepareTrashReconcile desktop volume mediaRoots trashRoots clock s).markIds) :
    ∃ row, s.media.get id.1 = some row ∧ row.trashedAt = none := by
  obtain ⟨found, listed, rfl⟩ := List.mem_map.mp member
  obtain ⟨answer, given, marked⟩ := List.mem_filterMap.mp listed
  obtain ⟨media, _, rfl⟩ := List.mem_map.mp given
  unfold admission at marked
  split at marked
  · next id row located =>
    split at marked
    · cases marked
    · next live =>
      cases marked
      refine ⟨row, (first?_some located).1, ?_⟩
      simpa using live
  · split at marked <;> cases marked

theorem mem_newItems {s : Store} {item : NewMediaItem × EditEvent}
    (member : item ∈ (prepareTrashReconcile desktop volume mediaRoots trashRoots clock s).newItems) :
    s.mediaOfUri item.1.uri = none := by
  obtain ⟨found, listed, rfl⟩ := List.mem_map.mp member
  obtain ⟨answer, given, inserted⟩ := List.mem_filterMap.mp listed
  obtain ⟨media, _, rfl⟩ := List.mem_map.mp given
  unfold admission at inserted
  split at inserted
  · split at inserted <;> cases inserted
  · next absent =>
    split at inserted
    · next item processed =>
      cases inserted
      unfold processFileAt at processed
      split at processed
      · cases processed
        exact absent
      · cases processed
    · cases inserted

theorem mem_pruneIds (s : Store) (id : Nat) :
    (id, clock.stamp id) ∈ (prepareTrashReconcile desktop volume mediaRoots trashRoots clock s).pruneIds ↔
      ∃ row, s.media.get id = some row ∧ prunable desktop volume trashRoots row = true := by
  unfold prepareTrashReconcile
  simp only [List.mem_map, Prod.exists, Prod.mk.injEq]
  constructor
  · rintro ⟨other, row, selected, rfl, _⟩
    exact ⟨row, mem_select.mp selected⟩
  · rintro ⟨row, read, chosen⟩
    exact ⟨id, row, mem_select.mpr ⟨read, chosen⟩, rfl, rfl⟩

theorem pruneIds_fst {s : Store} {id : Nat × EditEvent}
    (member : id ∈ (prepareTrashReconcile desktop volume mediaRoots trashRoots clock s).pruneIds) :
    id = (id.1, clock.stamp id.1) := by
  obtain ⟨found, _, rfl⟩ := List.mem_map.mp member
  rfl

variable {desktop volume mediaRoots trashRoots clock}

theorem reconcile_holds {row : Media} (held : s.media.get media = some row) (trashed : row.trashedAt.isSome = true)
    (crashed : Store → Prop) (ends : Except StoreError Unit → Store → Prop) (wide : ∀ now, Spared media s now → crashed now)
    (pruning : ∀ before, Spared media s before → Holds crashed ends (.forEach pruneRow (prepareTrashReconcile desktop volume mediaRoots trashRoots clock s).pruneIds) before)
    (failed : ∀ failure before, Spared media s before → ends (.error failure) before) :
    Holds crashed ends (reconcileTrash desktop volume mediaRoots trashRoots clock) s := by
  refine Holds.bind (Holds.read (wide s .refl) ?_)
  have marking : ∀ id ∈ (prepareTrashReconcile desktop volume mediaRoots trashRoots clock s).markIds, ∀ before,
      Spared media s before → Holds (Spared media s) (fun _ _ => True) (markMissing clock.now id) before := by
    intro id member before spared
    have different : id.1 ≠ media := by
      rintro rfl
      obtain ⟨live, read, untrashed⟩ := mem_markIds desktop volume mediaRoots trashRoots clock s id member
      rw [held] at read
      cases read
      simp [untrashed] at trashed
    refine Holds.onward (Holds.act spared (fun after done => ?_) (fun _ _ => trivial)) (fun _ after kept => ?_)
    · cases done
      exact ⟨spared.trans (.markTrashed id.1 _ different), trivial⟩
    · exact Holds.act kept (fun after done => ⟨kept.trans (.commitTrashMetadata _ done), trivial⟩) (fun _ _ => trivial)
  refine Holds.bind ((Holds.forEach .refl marking).mono wide (fun answer before spared _ => ?_))
  cases answer with
  | error failure => exact failed failure before spared
  | ok value =>
    have still : before.media.get media = some row := by
      rw [spared.row]
      exact held
    have others : ∀ item ∈ (prepareTrashReconcile desktop volume mediaRoots trashRoots clock s).newItems, row.uri ≠ item.1.uri := by
      intro item member same
      have absent := mem_newItems desktop volume mediaRoots trashRoots clock member
      have none := first?_none.mp absent media row held
      simp [same] at none
    refine Holds.bind (Holds.transact (wide before spared) (fun after inserted done => ?_)
      (fun failure _ => failed failure before spared))
    obtain ⟨kept, apart⟩ := Spared.upsertMediaItems _ _ _ row still others done
    have indexed : Spared media s after := spared.trans kept
    have inserting : ∀ id ∈ inserted, ∀ before, Spared media s before →
        Holds (Spared media s) (fun _ _ => True) (markInserted clock.now id) before := by
      intro id member before spared
      refine Holds.act spared (fun after done => ?_) (fun _ _ => trivial)
      cases done
      exact ⟨spared.trans (.markTrashed id _ (fun same => apart (same ▸ member))), trivial⟩
    refine ⟨wide after indexed, Holds.bind ((Holds.forEach indexed inserting).mono wide (fun answer before spared _ => ?_))⟩
    cases answer with
    | error failure => exact failed failure before spared
    | ok => exact pruning before spared

theorem reconcile_spares {row : Media} (held : s.media.get media = some row) (trashed : row.trashedAt.isSome = true)
    (known : prunable desktop volume trashRoots row = false) :
    Holds (Spared media s) (fun _ _ => True) (reconcileTrash desktop volume mediaRoots trashRoots clock) s := by
  refine reconcile_holds held trashed _ _ (fun _ spared => spared) (fun before spared => ?_)
    (fun _ _ _ => trivial)
  refine Holds.forEach spared (fun id member before spared => ?_)
  have different : id.1 ≠ media := by
    rintro rfl
    rw [pruneIds_fst desktop volume mediaRoots trashRoots clock member] at member
    obtain ⟨found, read, chosen⟩ := (mem_pruneIds desktop volume mediaRoots trashRoots clock s id.1).mp member
    rw [held] at read
    cases read
    rw [known] at chosen
    cases chosen
  refine Holds.act spared (fun after done => ⟨spared.trans (.commitPermanentDeletions _ ?_ done), trivial⟩)
    (fun _ _ => trivial)
  intro other only
  rw [List.mem_singleton.mp only]
  exact different

theorem commitPermanentDeletions_gone {t : Store} (id : Nat × EditEvent)
    (trashed : ∀ row, s.media.get id.1 = some row → row.trashedAt.isSome = true)
    (done : commitPermanentDeletions [id] s = .ok t) : t.media.get id.1 = none := by
  unfold commitPermanentDeletions at done
  rw [List.foldlM_cons] at done
  obtain ⟨middle, step, rest⟩ := bind_ok.mp done
  cases rest
  split at step
  · obtain ⟨⟨last, outcome⟩, noted, rest⟩ := bind_ok.mp step
    cases rest
    obtain ⟨entries, journal, same⟩ := note_recorded noted
    rw [same]
    simp only [deleteMedia, get_delete]
    cases read : s.media.get id.1 with
    | none => rfl
    | some row => simp [Option.filter, trashed row read]
  · next absent =>
    cases step
    cases read : s.media.get id.1 with
    | none => rfl
    | some row => simp [read, trashed row read] at absent

theorem reconcile_prunes {row : Media} (held : s.media.get media = some row) (trashed : row.trashedAt.isSome = true)
    (unknown : prunable desktop volume trashRoots row = true)
    (done : ((reconcileTrash desktop volume mediaRoots trashRoots clock).run s).2 = .ok ()) :
    ((reconcileTrash desktop volume mediaRoots trashRoots clock).run s).1.media.get media = none := by
  let gone (now : Store) : Prop := now.media.get media = none
  let known (now : Store) : Prop := now.media.get media = some row ∨ gone now
  have still : ∀ now, known now → ∀ found, now.media.get media = some found → found.trashedAt.isSome = true := by
    rintro now (here | here) found read
    · rw [here] at read
      cases read
      exact trashed
    · rw [here] at read
      cases read
  have member := (mem_pruneIds desktop volume mediaRoots trashRoots clock s media).mpr ⟨row, held, unknown⟩
  have holds : Holds known (fun answer after => answer = .ok () → gone after)
      (reconcileTrash desktop volume mediaRoots trashRoots clock) s := by
    refine reconcile_holds held trashed known _ (fun now spared => .inl (spared.row.trans held))
      (fun before spared => ?_) (fun failure _ _ ok => by cases ok)
    refine Holds.forEach_met member (.inl (spared.row.trans held)) (fun before kept => ?_) (fun id _ before kept => ?_)
    · refine Holds.act kept (fun after done => ?_) (fun failure _ ok => by cases ok)
      have none := commitPermanentDeletions_gone _ (still before kept) done
      exact ⟨.inr none, fun _ => none⟩
    · refine Holds.act kept (fun after done => ?_) (fun failure _ here => here)
      by_cases same : id.1 = media
      · have none := commitPermanentDeletions_gone id (by rw [same]; exact still before kept) done
        rw [same] at none
        exact ⟨.inr none, fun _ => none⟩
      · have spared : Spared media before after := by
          refine .commitPermanentDeletions [id] (fun other only => ?_) done
          rw [List.mem_singleton.mp only]
          exact same
        exact ⟨kept.imp (spared.row.trans ·) (spared.row.trans ·), fun here => spared.row.trans here⟩
  exact holds.run.2 done

variable (desktop volume trashRoots)

-- A trashed row is told from a deleted one by its path alone: the path is there
-- again, or its folder is not, or an entry that the scan can read records it.
def Legible (row : Media) : Prop :=
  volume.fs.existsAt (.ofText row.path) = true ∨ (Path.ofText row.path).parent.any volume.fs.isDir = false ∨
    ∃ entry ∈ Trash.scanTrashEntries desktop volume.fs trashRoots, entry.original = .ofText row.path

theorem legible_iff {row : Media} (trashed : row.trashedAt.isSome = true) :
    Legible desktop volume trashRoots row ↔ prunable desktop volume trashRoots row = false := by
  unfold Legible prunable
  rw [trashed]
  cases volume.fs.existsAt (.ofText row.path) <;> cases (Path.ofText row.path).parent.any volume.fs.isDir <;> simp

def Keeps (uid : String) (s after : Store) : Prop := ∀ id row, s.media.get id = some row → row.trashedAt.isSome = true →
    Trash.Inside volume.fs uid trashRoots (.ofText row.path) → Spared id s after

theorem reconcile_keeps_iff_legible (mediaRoots : List Path) (clock : Clock) (uid : String) (s : Store) :
    ((∀ id row, s.media.get id = some row → row.trashedAt.isSome = true →
        Trash.Inside volume.fs uid trashRoots (.ofText row.path) → Legible desktop volume trashRoots row) →
      Keeps volume trashRoots uid s ((reconcileTrash desktop volume mediaRoots trashRoots clock).run s).1 ∧
      ∀ count, Keeps volume trashRoots uid s
        ((reconcileTrash desktop volume mediaRoots trashRoots clock).crash count s)) ∧
    (((reconcileTrash desktop volume mediaRoots trashRoots clock).run s).2 = .ok () →
      Keeps volume trashRoots uid s ((reconcileTrash desktop volume mediaRoots trashRoots clock).run s).1 →
      ∀ id row, s.media.get id = some row → row.trashedAt.isSome = true →
        Trash.Inside volume.fs uid trashRoots (.ofText row.path) → Legible desktop volume trashRoots row) := by
  refine ⟨fun legible => ?_, fun done keeps id row held trashed inside => ?_⟩
  · have spares : ∀ id row, s.media.get id = some row → row.trashedAt.isSome = true →
        Trash.Inside volume.fs uid trashRoots (.ofText row.path) →
        Holds (Spared id s) (fun _ _ => True) (reconcileTrash desktop volume mediaRoots trashRoots clock) s :=
      fun id row held trashed inside => reconcile_spares held trashed
        ((legible_iff desktop volume trashRoots trashed).mp (legible id row held trashed inside))
    exact ⟨fun id row held trashed inside => (spares id row held trashed inside).run.1,
      fun count id row held trashed inside => (spares id row held trashed inside).crash count⟩
  · rw [legible_iff desktop volume trashRoots trashed]
    by_contra unknown
    have gone := reconcile_prunes held trashed (Bool.not_eq_false _ ▸ unknown) done
    have kept := (keeps id row held trashed inside).row
    rw [gone, held] at kept
    cases kept

end Kept

-- A disk mounted at /m with the trash of user 1000, and one trashed photo of the folder /m/pics.
def mountedDisk (recorded : String) : Volume where
  fs := (Tree.ofPaths [("/m", .directory true), ("/m/pics", .directory true), ("/m/.Trash-1000", .directory true),
    ("/m/.Trash-1000/info", .directory true), ("/m/.Trash-1000/files", .directory true),
    ("/m/.Trash-1000/info/a.jpg.trashinfo", .file (utf8 ("[Trash Info]\nPath=" ++ recorded ++ "\n")) 0),
    ("/m/.Trash-1000/files/a.jpg", .file [1] 0)]).fileSystem
  extract := fun _ => some none
  trashRootsFor := fun _ => [.ofText "/m/.Trash-1000"]

def trashedPhoto : Media := ⟨"file:///m/pics/a.jpg", "/m/pics/a.jpg", "/m/pics", none, 0, 1, 0, some 1, .both, true⟩

def noonClock : Clock := ⟨12, fun _ => ⟨12, "device", "event"⟩, fun _ => ⟨12, "device", "event"⟩⟩

theorem mounted_inside (recorded : String) (named : recorded = "/m/pics/a.jpg" ∨ recorded = "pics/a.jpg") :
    Trash.Inside (mountedDisk recorded).fs "1000" [.ofText "/m/.Trash-1000"] (.ofText "/m/pics/a.jpg") := by
  refine ⟨.ofText "/m/.Trash-1000", List.mem_singleton.mpr rfl, .ofText "/m/pics/a.jpg",
    .ofText "/m/.Trash-1000/files/a.jpg", ?_, .inl rfl⟩
  rcases named with rfl | rfl
  · exact ⟨[⟨utf8 "a.jpg.trashinfo", by decide +kernel⟩], ⟨utf8 "a.jpg.trashinfo", by decide +kernel⟩, utf8 "a.jpg",
      utf8 "[Trash Info]\nPath=/m/pics/a.jpg\n", .ofText "/m/pics/a.jpg", by decide +kernel, by decide +kernel,
      by decide +kernel, by decide +kernel, by decide +kernel, by decide +kernel, by decide +kernel, by decide +kernel⟩
  · exact ⟨[⟨utf8 "a.jpg.trashinfo", by decide +kernel⟩], ⟨utf8 "a.jpg.trashinfo", by decide +kernel⟩, utf8 "a.jpg",
      utf8 "[Trash Info]\nPath=pics/a.jpg\n", .ofText "pics/a.jpg", by decide +kernel, by decide +kernel,
      by decide +kernel, by decide +kernel, by decide +kernel, by decide +kernel, by decide +kernel, by decide +kernel⟩

theorem absolute_trash_is_kept :
    Trash.Inside (mountedDisk "/m/pics/a.jpg").fs "1000" [.ofText "/m/.Trash-1000"] (.ofText trashedPhoto.path) ∧
    Spared 1 (.ofPhoto "/m" "pics/a.jpg" trashedPhoto)
      ((reconcileTrash .verbatim (mountedDisk "/m/pics/a.jpg") [.ofText "/m"] [.ofText "/m/.Trash-1000"] noonClock).run
        (.ofPhoto "/m" "pics/a.jpg" trashedPhoto)).1 := by
  refine ⟨mounted_inside _ (.inl rfl), ?_⟩
  have keeps := (reconcile_keeps_iff_legible .verbatim (mountedDisk "/m/pics/a.jpg") [.ofText "/m/.Trash-1000"]
    [.ofText "/m"] noonClock "1000" (.ofPhoto "/m" "pics/a.jpg" trashedPhoto)).1 (fun id row held trashed _ => by
      obtain ⟨rfl, rfl⟩ := ofPhoto_only held
      exact (legible_iff _ _ _ trashed).mpr (by decide +kernel))
  exact keeps.1 1 trashedPhoto (by decide +kernel) (by decide) (mounted_inside _ (.inl rfl))

-- The path is recorded as the specification asks, relative to the mount: the
-- row goes and the deletion is recorded for the cloud.
theorem mounted_trash_is_deleted :
    Trash.Inside (mountedDisk "pics/a.jpg").fs "1000" [.ofText "/m/.Trash-1000"] (.ofText trashedPhoto.path) ∧
    (((reconcileTrash .verbatim (mountedDisk "pics/a.jpg") [.ofText "/m"] [.ofText "/m/.Trash-1000"] noonClock).run
      (.ofPhoto "/m" "pics/a.jpg" trashedPhoto)).1.media.get 1 = none) ∧
    ((reconcileTrash .verbatim (mountedDisk "pics/a.jpg") [.ofText "/m"] [.ofText "/m/.Trash-1000"] noonClock).run
      (.ofPhoto "/m" "pics/a.jpg" trashedPhoto)).1.journal = [⟨1, .deletion, 1⟩] :=
  ⟨mounted_inside _ (.inr rfl), by decide +kernel, by decide +kernel⟩

end PhotoSync
