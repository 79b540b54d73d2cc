import PhotoSync.Runs.TrashKept

set_option autoImplicit false

namespace PhotoSync
open Relational Transaction Durable Posix Program Store Table Option List

namespace Trash

-- The first entry that records the path is the one of this file.
def OwnEntry (entries : List TrashEntry) (path file : Path) : Prop :=
  ∃ before entry after, entries = before ++ entry :: after ∧ (∀ other ∈ before, other.original ≠ path) ∧
    entry.original = path ∧ entry.filePath = file

theorem infoDir_parent (root : Path) (name : FileName) : (((infoDir root).child name).parent.bind Path.parent) = some root := by
  have info : (Path.ofText "info").parts = [.name ⟨utf8 "info", by decide +kernel⟩] := by decide +kernel
  have shape : (infoDir root).parts = root.parts ++ [.name ⟨utf8 "info", by decide +kernel⟩] := by
    unfold infoDir Path.join
    rw [info]
    split
    · next first => cases first
    · split
      · next empty => rw [info, empty, nil_append]
      · rfl
  have outer : ((infoDir root).child name).parent = some (infoDir root) := by
    simp [Path.child, Path.below, Path.parent]
  rw [outer, bind_some]
  unfold Path.parent
  rw [shape]
  simp

variable (desktop : Desktop) (fs : FileSystem)

theorem trashEntry_file {root : Path} {name : FileName} {entry : TrashEntry} (read : trashEntry desktop fs root name = some entry) :
    (filesDirFor entry.infoPath).join (.ofText entry.actualName) = entry.filePath := by
  unfold trashEntry at read
  obtain ⟨fileName, _, read⟩ := bind_eq_some_iff.mp read
  obtain ⟨actual, _, read⟩ := bind_eq_some_iff.mp read
  obtain ⟨bytes, _, read⟩ := bind_eq_some_iff.mp read
  obtain ⟨content, _, read⟩ := bind_eq_some_iff.mp read
  obtain ⟨recorded, _, read⟩ := bind_eq_some_iff.mp read
  dsimp only at read
  split at read
  · cases read
    unfold filesDirFor
    rw [infoDir_parent]
  · cases read

theorem scanned_file (trashRoots : List Path) (entry : TrashEntry) (member : entry ∈ scanTrashEntries desktop fs trashRoots) :
    (filesDirFor entry.infoPath).join (.ofText entry.actualName) = entry.filePath := by
  obtain ⟨root, _, inside⟩ := mem_flatMap.mp member
  unfold rootEntries at inside
  split at inside
  · obtain ⟨name, _, read⟩ := mem_filterMap.mp inside
    exact trashEntry_file desktop fs read
  · cases inside

theorem trashedFile_iff (uri : String) (trashRoots : List Path) (file : Path) : trashedFile desktop fs uri trashRoots = .ok file ↔
      ∃ path, desktop.toPath uri = some path ∧ OwnEntry (scanTrashEntries desktop fs trashRoots) path file := by
  have resolved : ∀ path, (∃ found, resolveTrashEntry desktop fs path trashRoots = .ok found ∧
      (filesDirFor found.2).join (.ofText found.1) = file) ↔
      OwnEntry (scanTrashEntries desktop fs trashRoots) path file := by
    intro path
    unfold resolveTrashEntry findTrashEntry
    constructor
    · rintro ⟨found, done, here⟩
      split at done
      · next pair located =>
        cases done
        obtain ⟨entry, first, rfl⟩ := map_eq_some_iff.mp located
        obtain ⟨own, before, after, split, others⟩ := find?_eq_some_iff_append.mp first
        refine ⟨before, entry, after, split, fun other member same => ?_, by simpa using own, ?_⟩
        · simpa [same] using others other member
        · rw [← here]
          exact (scanned_file desktop fs trashRoots entry (mem_of_find?_eq_some first)).symm
      · cases done
    · rintro ⟨before, entry, after, split, others, own, rfl⟩
      have first : (scanTrashEntries desktop fs trashRoots).find? (fun entry => entry.original == path) = some entry := by
        refine find?_eq_some_iff_append.mpr ⟨by simpa using own, before, after, split, fun other member => ?_⟩
        simpa using others other member
      refine ⟨(entry.actualName, entry.infoPath), by rw [first]; rfl, ?_⟩
      exact scanned_file desktop fs trashRoots entry (mem_of_find?_eq_some first)
  unfold trashedFile toPath
  constructor
  · intro done
    obtain ⟨path, read, found, resolves, rest⟩ := bind2_ok done
    cases rest
    split at read
    · next known =>
      cases read
      exact ⟨path, known, (resolved path).mp ⟨found, resolves, rfl⟩⟩
    · cases read
  · rintro ⟨path, known, own⟩
    obtain ⟨found, resolves, rfl⟩ := (resolved path).mpr own
    rw [known]
    exact bind_ok.mpr ⟨path, rfl, bind_ok.mpr ⟨found, resolves, rfl⟩⟩

end Trash

def HasRow (id : Nat) (uri : String) (s : Store) : Prop := ∃ row, s.media.get id = some row ∧ row.uri = uri

def HasTrashed (id : Nat) (uri : String) (s : Store) : Prop :=
  ∃ row, s.media.get id = some row ∧ row.uri = uri ∧ row.trashedAt.isSome = true

section Rows
variable {id : Nat} {uri : String} {s t : Store}

theorem HasRow.markTrashed (has : HasRow id uri s) (other : Nat) (now : Int) : HasRow id uri (s.markTrashed other now) := by
  obtain ⟨row, read, named⟩ := has
  simp only [HasRow, Store.markTrashed, Store.updateMedia, get_modify, read]
  split
  · exact ⟨_, rfl, named⟩
  · exact ⟨row, rfl, named⟩

theorem HasRow.trashed (has : HasRow id uri s) (now : Int) : HasTrashed id uri (s.markTrashed id now) := by
  obtain ⟨row, read, named⟩ := has
  refine ⟨{ row with trashedAt := some now }, ?_, named, rfl⟩
  simp only [Store.markTrashed, Store.updateMedia, get_modify_self, read, map_some]

theorem HasTrashed.markTrashed (has : HasTrashed id uri s) (other : Nat) (now : Int) : HasTrashed id uri (s.markTrashed other now) := by
  by_cases same : other = id
  · subst same
    obtain ⟨row, read, named, _⟩ := has
    exact HasRow.trashed ⟨row, read, named⟩ now
  · obtain ⟨row, read, rest⟩ := has
    exact ⟨row, by rw [(Spared.markTrashed other now same).row]; exact read, rest⟩

theorem HasTrashed.spared (has : HasTrashed id uri s) (spared : Spared id s t) : HasTrashed id uri t := by
  obtain ⟨row, read, rest⟩ := has
  exact ⟨row, by rw [spared.row]; exact read, rest⟩

theorem commitTrashMetadata_media {ids : List (Nat × EditEvent)} (done : commitTrashMetadata ids s = .ok t) : t.media = s.media := by
  refine loop_keeps (fun now => now.media = s.media) (fun id _ before after same stepped => ?_) rfl done
  obtain ⟨⟨last, outcome⟩, noted, rest⟩ := bind_ok.mp stepped
  cases rest
  obtain ⟨entries, journal, only⟩ := note_recorded noted
  rw [only]
  exact same

theorem upsertMediaItems_indexes (items : List (NewMediaItem × EditEvent)) (after : Store × List Nat)
    (item : NewMediaItem × EditEvent) (member : item ∈ items) (free : s.publishesTo item.1.path none = false)
    (absent : s.mediaOfUri item.1.uri = none) (done : s.upsertMediaItems items none = .ok after) :
    ∃ id ∈ after.2, s.media.next ≤ id ∧ HasRow id item.1.uri after.1 := by
  let fresh (now : Store) : Prop := s.media.next ≤ now.media.next ∧
    ∀ id row, now.media.get id = some row → row.uri = item.1.uri → s.media.next ≤ id
  let inv (rest : List (NewMediaItem × EditEvent)) (now : Store × List Nat) : Prop :=
    Untouched s now.1 ∧ fresh now.1 ∧ (item ∈ rest ∨ ∃ id ∈ now.2, s.media.next ≤ id ∧ HasRow id item.1.uri now.1)
  have start : inv items (s, []) := by
    refine ⟨.refl, ⟨Nat.le_refl _, fun id row read named => ?_⟩, .inl member⟩
    have other := first?_none.mp absent id row read
    simp [named] at other
  have each : ∀ first rest before now, inv (first :: rest) before → upsertItem none before first = .ok now → inv rest now := by
    intro first rest before now held stepped
    obtain ⟨untouched, ⟨grown, old⟩, wanted⟩ := held
    refine ⟨untouched.trans (upsertItem_untouched stepped), ?_⟩
    have blocked : before.1.publishesTo item.1.path none = false := by
      unfold publishesTo at free ⊢
      rw [untouched.publications]
      exact free
    obtain ⟨held, rfl⟩ | ⟨_, id, row, present, named, answer, written⟩ | ⟨_, none, rfl⟩ := upsertItem_cases stepped
    · refine ⟨⟨grown, old⟩, wanted.imp_left (fun there => ?_)⟩
      rcases mem_cons.mp there with rfl | later
      · rw [blocked] at held
        cases held
      · exact later
    · have media := upsertItem_media written
      have rows : ∀ other found, now.1.media.get other = some found →
          ∃ before', before.1.media.get other = some before' ∧ before'.uri = found.uri := by
        intro other found read
        rw [media, get_modify] at read
        split at read
        · obtain ⟨old, held, rfl⟩ := map_eq_some_iff.mp read
          exact ⟨old, held, rfl⟩
        · exact ⟨found, read, rfl⟩
      have stays : ∀ other uri, HasRow other uri before.1 → HasRow other uri now.1 := by
        rintro other uri ⟨found, read, same⟩
        simp only [HasRow, media, get_modify, read]
        split
        · exact ⟨_, rfl, same⟩
        · exact ⟨found, rfl, same⟩
      refine ⟨⟨by rw [media]; exact grown, fun other found read same => ?_⟩, ?_⟩
      · obtain ⟨before', held, uri⟩ := rows other found read
        exact old other before' held (uri.trans same)
      · rcases wanted with there | ⟨held, listed, new, has⟩
        · rcases mem_cons.mp there with rfl | later
          · exact .inr ⟨id, by rw [answer]; simp, old id row present named, stays id _ ⟨row, present, named⟩⟩
          · exact .inl later
        · exact .inr ⟨held, by rw [answer]; exact mem_append_left _ listed, new, stays held _ has⟩
    · have stays : ∀ other uri, HasRow other uri before.1 →
          HasRow other uri { before.1 with media := before.1.media.insert first.1.indexed } := by
        rintro other uri ⟨found, read, same⟩
        refine ⟨found, ?_, same⟩
        rw [get_insert, if_neg (Nat.ne_of_lt (lt_next read))]
        exact read
      refine ⟨⟨Nat.le_succ_of_le grown, fun other found read same => ?_⟩, ?_⟩
      · rw [get_insert] at read
        split at read
        · next here => rw [here]; exact grown
        · exact old other found read same
      · rcases wanted with there | ⟨held, listed, new, has⟩
        · rcases mem_cons.mp there with rfl | later
          · exact .inr ⟨before.1.media.next, by simp, grown, item.1.indexed, get_insert_next _ _, rfl⟩
          · exact .inl later
        · exact .inr ⟨held, mem_append_left _ listed, new, stays held _ has⟩
  obtain ⟨_, _, wanted⟩ := loop_remaining inv each start done
  exact wanted.resolve_left not_mem_nil

end Rows

variable {media : TrashedMedia}

section Planned
variable (desktop : Desktop) (volume : Volume) (mediaRoots trashRoots : List Path) (clock : Clock)

def plannedUri (s : Store) (media : TrashedMedia) : Option String :=
  match admission desktop volume s media with
  | .skip => none
  | .mark id => (s.media.get id).map Media.uri
  | .insert item => some item.uri

variable {desktop volume mediaRoots trashRoots clock}
variable {s : Store} {id : Nat} {item : NewMediaItem} {uri : String}

theorem admission_mark (marked : admission desktop volume s media = .mark id) :
    ∃ row, s.media.get id = some row ∧ row.uri = desktop.fromPath media.original ∧ row.trashedAt = none := by
  unfold admission at marked
  split at marked
  · next other row located =>
    obtain ⟨present, named⟩ := first?_some located
    split at marked
    · cases marked
    · next live =>
      cases marked
      exact ⟨row, present, by simpa using named, by simpa using live⟩
  · split at marked <;> cases marked

theorem admission_insert (inserted : admission desktop volume s media = .insert item) :
    s.mediaOfUri item.uri = none ∧ item.uri = desktop.fromPath media.original ∧ item.path = desktop.text media.original := by
  unfold admission at inserted
  split at inserted
  · split at inserted <;> cases inserted
  · next absent =>
    split at inserted
    · next processed =>
      cases inserted
      unfold processFileAt at processed
      split at processed
      · cases processed
        exact ⟨absent, rfl, rfl⟩
      · cases processed
    · cases inserted

theorem plannedUri_eq (planned : plannedUri desktop volume s media = some uri) : uri = desktop.fromPath media.original := by
  unfold plannedUri at planned
  split at planned
  · cases planned
  · next id marked =>
    obtain ⟨row, read, named, _⟩ := admission_mark marked
    rw [read, map_some] at planned
    cases planned
    exact named
  · next item inserted =>
    cases planned
    exact (admission_insert inserted).2.1

theorem pruning_keeps {before : Store} (has : HasTrashed id uri before)
    (apart : ∀ row, s.media.get id = some row → row.trashedAt = none) : Holds (HasTrashed id uri) (fun _ _ => True)
      (.forEach pruneRow (prepareTrashReconcile desktop volume mediaRoots trashRoots clock s).pruneIds) before := by
  refine Holds.forEach has (fun other member before has => ?_)
  have different : other.1 ≠ id := by
    rintro rfl
    rw [pruneIds_fst desktop volume mediaRoots trashRoots clock member] at member
    obtain ⟨row, read, chosen⟩ := (mem_pruneIds desktop volume mediaRoots trashRoots clock s other.1).mp member
    simp [prunable, apart row read] at chosen
  refine Holds.act has (fun after done => ⟨has.spared (.commitPermanentDeletions [other] (fun one only => ?_) done),
    trivial⟩) (fun _ _ => trivial)
  rw [mem_singleton.mp only]
  exact different

theorem marked_row (member : media ∈ trashedMedia desktop volume mediaRoots trashRoots)
    (marked : admission desktop volume s media = .mark id) : Holds (fun _ => True) (fun answer after => answer = .ok () →
        ∃ id, HasTrashed id (desktop.fromPath media.original) after)
      (reconcileTrash desktop volume mediaRoots trashRoots clock) s := by
  obtain ⟨row, held, named, live⟩ := admission_mark marked
  have listed : (id, clock.stamp id) ∈ (prepareTrashReconcile desktop volume mediaRoots trashRoots clock s).markIds :=
    mem_map.mpr ⟨id, mem_filterMap.mpr ⟨_, mem_map.mpr ⟨media, member, rfl⟩, by rw [marked]; rfl⟩, rfl⟩
  have anyMark : ∀ (other : Nat × EditEvent) before, HasRow id (desktop.fromPath media.original) before →
      Holds (HasRow id (desktop.fromPath media.original))
        (fun answer after => (HasTrashed id (desktop.fromPath media.original) before ∨ (other.1 = id ∧ answer = .ok ())) →
          HasTrashed id (desktop.fromPath media.original) after)
        (markMissing clock.now other) before := by
    intro other before has
    refine Holds.bind (Holds.act has (fun after done => ?_) (fun failure failing => by cases failing))
    cases done
    have kept := has.markTrashed other.1 clock.now
    refine ⟨kept, Holds.act kept (fun after done => ?_) (fun failure failing reached => ?_)⟩
    · have same := commitTrashMetadata_media done
      refine ⟨by unfold HasRow; rw [same]; exact kept, fun reached => ?_⟩
      have trashed : HasTrashed id (desktop.fromPath media.original) (before.markTrashed other.1 clock.now) := by
        rcases reached with earlier | ⟨here, _⟩
        · exact earlier.markTrashed other.1 clock.now
        · rw [here]
          exact has.trashed clock.now
      unfold HasTrashed
      rw [same]
      exact trashed
    · rcases reached with earlier | ⟨_, ok⟩
      · exact earlier.markTrashed other.1 clock.now
      · cases ok
  refine Holds.bind (Holds.read trivial (Holds.bind ?_))
  refine (Holds.forEach_met listed ⟨row, held, named⟩
    (fun before has => (anyMark (id, clock.stamp id) before has).mono (fun _ kept => kept)
      (fun answer after _ reached ok => reached (.inr ⟨rfl, ok⟩)))
    (fun other _ before has => (anyMark other before has).mono (fun _ kept => kept)
      (fun answer after _ reached earlier => reached (.inl earlier)))).mono (fun _ _ => trivial) ?_
  intro answer before _ reached
  cases answer with
  | error => exact fun ok => by cases ok
  | ok value =>
    have has := reached rfl
    refine Holds.bind (Holds.transact trivial (fun after inserted done => ⟨trivial, ?_⟩) (fun _ _ ok => by cases ok))
    have indexed : HasTrashed id (desktop.fromPath media.original) after := by
      obtain ⟨found, read, same, old⟩ := has
      refine HasTrashed.spared ⟨found, read, same, old⟩ (Spared.upsertMediaItems _ none _ found read (fun item there clash => ?_) done).1
      have absent := mem_newItems desktop volume mediaRoots trashRoots clock there
      have none := first?_none.mp absent id row held
      simp [named, ← same, clash] at none
    refine Holds.bind ((Holds.forEach indexed (fun other _ before has => ?_)).mono (fun _ _ => trivial)
      (fun answer before has _ => ?_))
    · refine Holds.act has (fun after done => ?_) (fun _ _ => trivial)
      cases done
      exact ⟨has.markTrashed other clock.now, trivial⟩
    · cases answer with
      | error => exact fun ok => by cases ok
      | ok =>
        refine (pruning_keeps has (fun found read => ?_)).mono (fun _ _ => trivial)
          (fun _ after has _ _ => ⟨id, has⟩)
        rw [held] at read
        cases read
        exact live

theorem inserted_row (member : media ∈ trashedMedia desktop volume mediaRoots trashRoots)
    (inserts : admission desktop volume s media = .insert item) (free : s.publishesTo item.path none = false) :
    Holds (fun _ => True) (fun answer after => answer = .ok () → ∃ id, HasTrashed id (desktop.fromPath media.original) after)
      (reconcileTrash desktop volume mediaRoots trashRoots clock) s := by
  obtain ⟨absent, named, _⟩ := admission_insert inserts
  rw [← named]
  have listed : (item, clock.found item) ∈ (prepareTrashReconcile desktop volume mediaRoots trashRoots clock s).newItems :=
    mem_map.mpr ⟨item, mem_filterMap.mpr ⟨_, mem_map.mpr ⟨media, member, rfl⟩, by rw [inserts]; rfl⟩, rfl⟩
  let ready (now : Store) : Prop := now.publications = s.publications ∧ now.media.next = s.media.next ∧
    ∀ id row, now.media.get id = some row → row.uri ≠ item.uri
  have start : ready s := by
    refine ⟨rfl, rfl, fun id row read same => ?_⟩
    have other := first?_none.mp absent id row read
    simp [same] at other
  have marking : ∀ id ∈ (prepareTrashReconcile desktop volume mediaRoots trashRoots clock s).markIds, ∀ before,
      ready before → Holds ready (fun _ _ => True) (markMissing clock.now id) before := by
    intro id _ before held
    refine Holds.onward (Holds.act held (fun after done => ?_) (fun _ _ => trivial)) (fun _ before held => ?_)
    · cases done
      refine ⟨⟨held.1, held.2.1, fun other row read => ?_⟩, trivial⟩
      simp only [markTrashed, updateMedia, get_modify] at read
      split at read
      · obtain ⟨old, there, rfl⟩ := map_eq_some_iff.mp read
        exact held.2.2 other old there
      · exact held.2.2 other row read
    · refine Holds.act held (fun after done => ?_) (fun _ _ => trivial)
      have same := commitTrashMetadata_media done
      refine ⟨⟨?_, by rw [same]; exact held.2.1, by rw [same]; exact held.2.2⟩, trivial⟩
      have steps : Steps .none _ _ := noteEach_steps (fun _ _ => .refl) done
      exact steps.publications.trans held.1
  refine Holds.bind (Holds.read trivial (Holds.bind ?_))
  refine (Holds.forEach start marking).mono (fun _ _ => trivial) (fun answer before held _ => ?_)
  cases answer with
  | error => exact fun ok => by cases ok
  | ok value =>
    obtain ⟨publications, next, absent⟩ := held
    refine Holds.bind (Holds.transact trivial (fun after inserted done => ⟨trivial, ?_⟩) (fun _ _ ok => by cases ok))
    have unblocked : before.publishesTo item.path none = false := by
      unfold publishesTo at free ⊢
      rw [publications]
      exact free
    have missing : before.mediaOfUri item.uri = none := first?_none.mpr (fun id row read => by simpa using absent id row read)
    obtain ⟨id, answered, new, has⟩ := upsertMediaItems_indexes _ _ _ listed unblocked missing done
    have reaches : Holds (HasRow id item.uri) (fun answer after => answer = .ok () → HasTrashed id item.uri after)
        (.forEach (markInserted clock.now) inserted) after := by
      refine Holds.forEach_met answered has (fun before has => ?_) (fun other _ before has => ?_)
      · refine Holds.act has (fun after done => ?_) (fun _ failing => by cases failing)
        cases done
        exact ⟨has.markTrashed id clock.now, fun _ => has.trashed clock.now⟩
      · refine Holds.act has (fun after done => ?_) (fun _ failing => by cases failing)
        cases done
        exact ⟨has.markTrashed other clock.now, fun earlier => earlier.markTrashed other clock.now⟩
    refine Holds.bind (reaches.mono (fun _ _ => trivial) (fun answer before _ reached => ?_))
    cases answer with
    | error => exact fun ok => by cases ok
    | ok =>
      refine (pruning_keeps (reached rfl) (fun found read => ?_)).mono (fun _ _ => trivial)
        (fun _ after has _ _ => ⟨id, has⟩)
      exact absurd (lt_next read) (Nat.not_lt.mpr (next ▸ new))

-- Every row that the reconciliation marks or inserts is in the trash once the commit is through, and restoring finds
-- the file it was admitted from exactly if the first entry that records the path of its URI is that file's own.
theorem admitted_rows_resolve_iff (desktop : Desktop) (volume : Volume) (mediaRoots trashRoots : List Path) (clock : Clock) (s : Store) :
    ((∀ media ∈ trashedMedia desktop volume mediaRoots trashRoots, ∀ uri, plannedUri desktop volume s media = some uri →
        Trash.trashedFile desktop volume.fs uri trashRoots = .ok media.file) ↔
      ∀ media ∈ trashedMedia desktop volume mediaRoots trashRoots, ∀ uri, plannedUri desktop volume s media = some uri →
        ∃ path, desktop.toPath uri = some path ∧ Trash.OwnEntry (Trash.scanTrashEntries desktop volume.fs trashRoots) path media.file) ∧
    (((reconcileTrash desktop volume mediaRoots trashRoots clock).run s).2 = .ok () →
      ∀ media ∈ trashedMedia desktop volume mediaRoots trashRoots, ∀ uri, plannedUri desktop volume s media = some uri →
        s.publishesTo (desktop.text media.original) none = false →
        ∃ id, HasTrashed id uri ((reconcileTrash desktop volume mediaRoots trashRoots clock).run s).1) := by
  refine ⟨?_, fun done media member uri planned free => ?_⟩
  · simp only [Trash.trashedFile_iff]
  · rw [plannedUri_eq planned]
    unfold plannedUri at planned
    split at planned
    · cases planned
    · next id marked => exact (marked_row member marked).run.2 done
    · next item inserts =>
      rw [← (admission_insert inserts).2.2] at free
      exact (inserted_row member inserts free).run.2 done

end Planned

def photoInTrash : TrashedMedia := ⟨.ofText "/m/pics/a.jpg", .ofText "/m/.Trash-1000/files/a.jpg"⟩

theorem deleted_photo_resolves : (∃ id, HasTrashed id "file:///m/pics/a.jpg"
      ((reconcileTrash .verbatim (mountedDisk "/m/pics/a.jpg") [.ofText "/m"] [.ofText "/m/.Trash-1000"] noonClock).run
        .empty).1) ∧
    Trash.trashedFile .verbatim (mountedDisk "/m/pics/a.jpg").fs "file:///m/pics/a.jpg" [.ofText "/m/.Trash-1000"] =
      .ok photoInTrash.file := by
  have resolves := admitted_rows_resolve_iff .verbatim (mountedDisk "/m/pics/a.jpg") [.ofText "/m"]
    [.ofText "/m/.Trash-1000"] noonClock .empty
  have only : trashedMedia .verbatim (mountedDisk "/m/pics/a.jpg") [.ofText "/m"] [.ofText "/m/.Trash-1000"] =
    [photoInTrash] := by decide +kernel
  have planned : plannedUri .verbatim (mountedDisk "/m/pics/a.jpg") .empty photoInTrash = some "file:///m/pics/a.jpg" := by
    decide +kernel
  have member : photoInTrash ∈ trashedMedia .verbatim (mountedDisk "/m/pics/a.jpg") [.ofText "/m"]
    [.ofText "/m/.Trash-1000"] := by rw [only]; exact List.mem_singleton.mpr rfl
  refine ⟨resolves.2 rfl photoInTrash member _ planned rfl, resolves.1.mpr ?_ photoInTrash member _ planned⟩
  intro media listed uri named
  rw [only, List.mem_singleton] at listed
  subst listed
  rw [planned] at named
  cases named
  exact ⟨.ofText "/m/pics/a.jpg", by decide +kernel, [], ⟨.ofText "/m/pics/a.jpg", "a.jpg",
    .ofText "/m/.Trash-1000/info/a.jpg.trashinfo", .ofText "/m/.Trash-1000/files/a.jpg"⟩, [], by decide +kernel,
    fun other inside => absurd inside List.not_mem_nil, rfl, rfl⟩

def folderInTrash : Volume where
  fs := (Tree.ofPaths [("/m", .directory true), ("/m/pics", .directory true), ("/m/.Trash-1000", .directory true),
    ("/m/.Trash-1000/info", .directory true), ("/m/.Trash-1000/files", .directory true),
    ("/m/.Trash-1000/info/album.trashinfo", .file (utf8 "[Trash Info]\nPath=/m/pics/album\n") 0),
    ("/m/.Trash-1000/files/album", .directory true), ("/m/.Trash-1000/files/album/b.jpg", .file [1] 0)]).fileSystem
  extract := fun _ => some none
  trashRootsFor := fun _ => [.ofText "/m/.Trash-1000"]

theorem photo_of_trashed_folder_is_stuck : trashedMedia .verbatim folderInTrash [.ofText "/m"] [.ofText "/m/.Trash-1000"] =
      [⟨.ofText "/m/pics/album/b.jpg", .ofText "/m/.Trash-1000/files/album/b.jpg"⟩] ∧
    (((reconcileTrash .verbatim folderInTrash [.ofText "/m"] [.ofText "/m/.Trash-1000"] noonClock).run .empty).1.media.get 1
      = some ⟨"file:///m/pics/album/b.jpg", "/m/pics/album/b.jpg", "/m/pics/album", none, 0, 1, 0, some 12, .localOnly, false⟩) ∧
    Trash.trashedFile .verbatim folderInTrash.fs "file:///m/pics/album/b.jpg" [.ofText "/m/.Trash-1000"] =
      invalid "no verified trash entry for /m/pics/album/b.jpg" := by
  refine ⟨by decide +kernel, by decide +kernel, ?_⟩
  decide +kernel

end PhotoSync
