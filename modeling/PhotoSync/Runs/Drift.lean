import PhotoSync.Runs.Synced

set_option autoImplicit false

namespace PhotoSync
open Relational Transaction Store Table Option List

structure Tells (row : Entry) (item : Media) (later : Entry) (shown : Media) : Prop where
  acked : later.ackedMetadataVersion = row.ackedMetadataVersion
  version : row.metadataVersion ≤ later.metadataVersion
  drift : later.localMetadata (some shown) = row.localMetadata (some item) ∨ later.ackedMetadataVersion < later.metadataVersion

theorem Tells.refl (row : Entry) (item : Media) : Tells row item row item := ⟨rfl, Nat.le_refl _, .inl rfl⟩

theorem Tells.trans (first second third : Entry) (one two three : Media) (before : Tells first one second two)
    (after : Tells second two third three) : Tells first one third three := by
  refine ⟨after.acked.trans before.acked, Nat.le_trans before.version after.version, ?_⟩
  rcases after.drift with same | pending
  · rcases before.drift with equal | pending
    · exact .inl (same.trans equal)
    · have version := after.version
      have acked := after.acked
      exact .inr (by omega)
  · exact .inr pending

theorem Tells.counted (row later : Entry) (item shown : Media) (tells : Tells row item later shown)
    (counted : row.ackedMetadataVersion ≤ row.metadataVersion) :
    later.ackedMetadataVersion ≤ later.metadataVersion := by
  have version := tells.version
  have acked := tells.acked
  omega

theorem Tells.marked (row : Entry) (item shown : Media) (stamp : EditEvent)
    (counted : row.ackedMetadataVersion ≤ row.metadataVersion) : Tells row item (row.mark .metadata stamp) shown :=
  ⟨rfl, Nat.le_succ _, .inr (Nat.lt_succ_of_le counted)⟩

def Follows (entry media : Nat) (s t : Store) : Prop :=
  ∀ row item, Synced s entry media row item → row.ackedMetadataVersion ≤ row.metadataVersion →
    ∃ later shown, Synced t entry media later shown ∧ Tells row item later shown

theorem Follows.refl (entry media : Nat) (s : Store) : Follows entry media s s :=
  fun row item synced _ => ⟨row, item, synced, .refl row item⟩

theorem Follows.trans (entry media : Nat) (first second third : Store) (before : Follows entry media first second)
    (after : Follows entry media second third) : Follows entry media first third := by
  intro row item synced counted
  obtain ⟨middle, seen, half, sofar⟩ := before row item synced counted
  obtain ⟨later, shown, whole, rest⟩ := after middle seen half (sofar.counted _ _ _ _ counted)
  exact ⟨later, shown, whole, sofar.trans _ _ _ _ _ _ rest⟩

section Follows
variable {s t : Store} (entry media : Nat)

theorem Follows.noted (id : Nat) (change : Media → Media) (stamp : EditEvent) (outcome : Option DirtyOutcome)
    (done : (s.updateMedia id change).note id .metadata stamp = .ok (t, outcome))
    (path : ∀ row, (change row).path = row.path) (folder : ∀ row, (change row).folderPath = row.folderPath) :
    Follows entry media s t := by
  intro row item synced counted
  by_cases own : id = media
  · rw [own] at done
    exact ⟨_, _, (synced.updateMedia change (path item) (folder item)).note_own done, .marked row item _ stamp counted⟩
  · exact ⟨row, item, (synced.updateOther change own).note_other own done, .refl row item⟩

theorem setFavorite_follows {ids : List Nat} {favorite : Bool} {stamp : EditEvent}
    (done : setFavorite ids favorite stamp s = .ok t) : Follows entry media s t := by
  refine loop_relates (Follows entry media) (.refl entry media) (.trans entry media)
    (fun id _ before after stepped => ?_) done
  obtain ⟨changed, set, ⟨noted, outcome⟩, recorded, rest⟩ := bind2_ok stepped
  cases rest
  unfold setMediaFavorite at set
  split at set
  · cases set
    exact .noted entry media id _ stamp outcome recorded (fun _ => rfl) (fun _ => rfl)
  · cases set

theorem restoreTrashedMetadata_follows (ids : List (Nat × EditEvent))
    (done : restoreTrashedMetadata ids s = .ok t) : Follows entry media s t := by
  refine loop_relates (Follows entry media) (.refl entry media) (.trans entry media)
    (fun id _ before after stepped => ?_) done
  obtain ⟨⟨noted, outcome⟩, recorded, rest⟩ := bind_ok.mp stepped
  cases rest
  exact .noted entry media id.1 _ id.2 outcome recorded (fun _ => rfl) (fun _ => rfl)

theorem externallyTrashed_follows {id : Nat} {now : Int} {stamp : EditEvent}
    (done : s.removeOrTrashLiveRow id true now stamp = .ok t) : Follows entry media s t := by
  obtain ⟨⟨noted, outcome⟩, recorded, rest⟩ := bind_ok.mp done
  cases rest
  exact .noted entry media id _ stamp outcome recorded (fun _ => rfl) (fun _ => rfl)

end Follows

section Trash
variable {s t : Store} {entry media : Nat} {row : Entry} {item : Media}

theorem Synced.retouch (synced : Synced s entry media row item) {ids : List Nat} {mark : Option Int}
    (done : ids.foldlM (fun (s : Store) id => do
      let _ ← requireRow (s.media.get id)
      return s.updateMedia id (fun row => { row with trashedAt := mark })) s = .ok t) :
    ∃ shown, Synced t entry media row shown ∧ (shown = { item with trashedAt := mark } ∧ media ∈ ids ∨ shown = item ∧ media ∉ ids) := by
  let inv (rest : List Nat) (now : Store) : Prop := (∀ id ∈ rest, id ∈ ids) ∧ ∃ shown,
    Synced now entry media row shown ∧ (shown = { item with trashedAt := mark } ∧ media ∈ ids ∨
      shown = item ∧ (media ∈ ids → media ∈ rest))
  have finish : inv [] t := by
    refine loop_remaining inv ?_
      ⟨fun _ member => member, item, synced, .inr ⟨rfl, fun member => member⟩⟩ done
    rintro id rest now after ⟨listed, shown, held, marks⟩ stepped
    obtain ⟨_, _, done⟩ := bind_ok.mp stepped
    cases done
    refine ⟨fun other member => listed other (mem_cons_of_mem _ member), ?_⟩
    by_cases own : id = media
    · have member : media ∈ ids := own ▸ listed id mem_cons_self
      rw [own]
      refine ⟨{ shown with trashedAt := mark }, held.updateMedia _ rfl rfl, .inl ⟨?_, member⟩⟩
      rcases marks with ⟨marked, _⟩ | ⟨same, _⟩
      · rw [marked]
      · rw [same]
    · refine ⟨shown, held.updateOther _ own, ?_⟩
      rcases marks with marked | ⟨same, waiting⟩
      · exact .inl marked
      · exact .inr ⟨same, fun member => (mem_cons.mp (waiting member)).resolve_left (Ne.symm own)⟩
  obtain ⟨_, shown, held, marked | ⟨same, waiting⟩⟩ := finish
  · exact ⟨shown, held, .inl marked⟩
  · exact ⟨shown, held, .inr ⟨same, fun member => nomatch waiting member⟩⟩

theorem Synced.committed (synced : Synced s entry media row item) (ids : List (Nat × EditEvent))
    (done : commitTrashMetadata ids s = .ok t) :
    ∃ later, Synced t entry media later item ∧ later.ackedMetadataVersion = row.ackedMetadataVersion ∧
      row.metadataVersion ≤ later.metadataVersion ∧
      (row.metadataVersion < later.metadataVersion ∨ later = row ∧ media ∉ ids.map Prod.fst) := by
  let inv (rest : List (Nat × EditEvent)) (now : Store) : Prop := ∃ later, Synced now entry media later item ∧
    later.ackedMetadataVersion = row.ackedMetadataVersion ∧ row.metadataVersion ≤ later.metadataVersion ∧
    (row.metadataVersion < later.metadataVersion ∨ later = row ∧ (media ∈ ids.map Prod.fst → media ∈ rest.map Prod.fst))
  have finish : inv [] t := by
    refine loop_remaining inv ?_ ⟨row, synced, rfl, Nat.le_refl _, .inr ⟨rfl, fun member => member⟩⟩ done
    rintro id rest now after ⟨later, held, acked, version, told⟩ stepped
    obtain ⟨⟨noted, outcome⟩, recorded, rest⟩ := bind_ok.mp stepped
    cases rest
    by_cases own : id.1 = media
    · rw [own] at recorded
      exact ⟨_, held.note_own recorded, acked, Nat.le_succ_of_le version, .inl (Nat.lt_succ_of_le version)⟩
    · refine ⟨later, held.note_other own recorded, acked, version, ?_⟩
      rcases told with told | ⟨same, waiting⟩
      · exact .inl told
      · refine .inr ⟨same, fun member => ?_⟩
        exact (mem_cons.mp (waiting member)).resolve_left (Ne.symm own)
  obtain ⟨later, held, acked, version, told | ⟨same, waiting⟩⟩ := finish
  · exact ⟨later, held, acked, version, .inl told⟩
  · exact ⟨later, held, acked, version, .inr ⟨same, fun member => nomatch waiting member⟩⟩

theorem movedToTrash_follows (ids : List (Nat × EditEvent)) {now : Int} {middle : Store}
    (marked : markEachTrashed (ids.map Prod.fst) now s = .ok middle)
    (committed : commitTrashMetadata ids middle = .ok t) : Follows entry media s t := by
  intro row item synced counted
  obtain ⟨shown, held, marks⟩ := synced.retouch marked
  obtain ⟨later, kept, acked, version, told | ⟨rfl, absent⟩⟩ := held.committed ids committed
  · exact ⟨later, shown, kept, acked, version, .inr (by omega)⟩
  · rcases marks with ⟨_, present⟩ | ⟨rfl, _⟩
    · exact absurd present absent
    · exact ⟨later, shown, kept, acked, version, .inl rfl⟩

theorem Synced.rolledBack (synced : Synced s entry media row item) (ids : List Nat) (now : Int) (middle : Store)
    (live : media ∈ ids → item.trashedAt = none ∨ row.ackedMetadataVersion < row.metadataVersion)
    (marked : markEachTrashed ids now s = .ok middle) (undone : unmarkEachTrashed ids middle = .ok t) :
    ∃ later shown, Synced t entry media later shown ∧ Tells row item later shown := by
  obtain ⟨seen, held, marks⟩ := synced.retouch marked
  obtain ⟨shown, kept, unmarks⟩ := held.retouch undone
  refine ⟨row, shown, kept, rfl, Nat.le_refl _, ?_⟩
  rcases unmarks with ⟨same, member⟩ | ⟨same, absent⟩
  · rcases live member with live | pending
    · refine .inl (congrArg (fun media => row.localMetadata (some media)) ?_)
      rw [same]
      rcases marks with ⟨earlier, _⟩ | ⟨earlier, _⟩
      · rw [earlier, ← live]
      · rw [earlier, ← live]
    · exact .inr pending
  · rcases marks with ⟨_, member⟩ | ⟨earlier, _⟩
    · exact absurd member absent
    · rw [same, earlier]
      exact .inl rfl

end Trash

section Scan
variable {s t : Store} {entry media : Nat} {row : Entry} {item : Media}

theorem Synced.upsert (now after : Store × List Nat) (synced : Synced now.1 entry media row item) (found : NewMediaItem × EditEvent)
    (place : found.1.uri = item.uri → found.1.path = item.path ∧ found.1.folderPath = item.folderPath)
    (done : upsertItem none now found = .ok after) :
    (Synced after.1 entry media row item ∧ (media ∈ after.2 → media ∈ now.2)) ∨
    (found.1.uri = item.uri ∧ ∃ later, (later = row ∨ later = row.mark .content found.2) ∧
      Synced after.1 entry media later (found.1.scanned item)) := by
  obtain ⟨_, rfl⟩ | ⟨_, id, indexed, present, named, answer, written⟩ | ⟨_, _, rfl⟩ := upsertItem_cases done
  · exact .inl ⟨synced, fun member => member⟩
  · by_cases own : id = media
    · rw [own, synced.indexed] at present
      cases present
      obtain ⟨path, folder⟩ := place named.symm
      have rewritten : Synced (now.1.updateMedia media found.1.scanned) entry media row (found.1.scanned item) :=
        synced.updateMedia found.1.scanned path folder
      rw [own] at written
      obtain same | ⟨_, outcome, recorded⟩ := written
      · exact .inr ⟨named.symm, row, .inl rfl, by rw [same]; exact rewritten⟩
      · exact .inr ⟨named.symm, _, .inr rfl, rewritten.note_own recorded⟩
    · have other := synced.updateOther found.1.scanned own
      have listed : media ∈ after.2 → media ∈ now.2 := by
        intro member
        rw [answer] at member
        rcases mem_append.mp member with old | new
        · exact old
        · exact absurd (mem_singleton.mp new).symm own
      obtain same | ⟨_, outcome, recorded⟩ := written
      · exact .inl ⟨by rw [same]; exact other, listed⟩
      · exact .inl ⟨other.note_other own recorded, listed⟩
  · refine .inl ⟨synced.insertMedia found.1.indexed, fun member => ?_⟩
    rcases mem_append.mp member with old | new
    · exact old
    · exact absurd (mem_singleton.mp new) (Nat.ne_of_lt (lt_next synced.indexed))

structure ScansQuietly (row : Entry) (item : Media) (found : NewMediaItem) : Prop where
  path : found.path = item.path
  folder : found.folderPath = item.folderPath
  quiet : (found.takenAt = item.takenAt ∧ item.trashedAt = none) ∨ row.ackedMetadataVersion < row.metadataVersion

theorem Synced.scanned (synced : Synced s entry media row item) (items : List (NewMediaItem × EditEvent))
    (quietly : ∀ found ∈ items, found.1.uri = item.uri → ScansQuietly row item found.1)
    (ids : List Nat) (done : s.upsertMediaItems items none = .ok (t, ids)) :
    ∃ later shown, Synced t entry media later shown ∧ Tells row item later shown := by
  let inv (now : Store × List Nat) : Prop := ∃ later shown, Synced now.1 entry media later shown ∧
    Tells row item later shown ∧ later.baseline = row.baseline ∧ later.relativePath = row.relativePath ∧
    shown.uri = item.uri ∧ shown.path = item.path ∧ shown.folderPath = item.folderPath ∧
    (shown.takenAt = item.takenAt ∧ shown.trashedAt = item.trashedAt ∧ shown.isFavorite = item.isFavorite ∨
      row.ackedMetadataVersion < row.metadataVersion)
  have finish : inv (t, ids) := by
    refine loop_keeps inv ?_
      ⟨row, item, synced, .refl row item, rfl, rfl, rfl, rfl, rfl, .inl ⟨rfl, rfl, rfl⟩⟩ done
    rintro found member now after ⟨later, shown, held, tells, baseline, path, uri, place, folder, same⟩ stepped
    have quiet : found.1.uri = shown.uri → ScansQuietly row item found.1 := fun named =>
      quietly found member (named.trans uri)
    rcases held.upsert now after found (fun named => ⟨(quiet named).path.trans place.symm,
      (quiet named).folder.trans folder.symm⟩) stepped with ⟨kept, _⟩ | ⟨named, next, changed, kept⟩
    · exact ⟨later, shown, kept, tells, baseline, path, uri, place, folder, same⟩
    · have scan := quiet named
      have columns : next.ackedMetadataVersion = later.ackedMetadataVersion ∧
          next.metadataVersion = later.metadataVersion ∧ next.baseline = later.baseline ∧
          next.relativePath = later.relativePath := by
        rcases changed with rfl | rfl
        · exact ⟨rfl, rfl, rfl, rfl⟩
        · exact ⟨rfl, rfl, rfl, rfl⟩
      obtain ⟨acked, version, based, placed⟩ := columns
      have values : (found.1.scanned shown).takenAt = item.takenAt ∧ (found.1.scanned shown).trashedAt = item.trashedAt ∧
          (found.1.scanned shown).isFavorite = item.isFavorite ∨ row.ackedMetadataVersion < row.metadataVersion := by
        rcases scan.quiet with ⟨date, live⟩ | pending
        · rcases same with ⟨_, _, favorite⟩ | pending
          · exact .inl ⟨date, live.symm, favorite⟩
          · exact .inr pending
        · exact .inr pending
      have ackedRow := acked.trans tells.acked
      have versionRow : row.metadataVersion ≤ next.metadataVersion := version ▸ tells.version
      refine ⟨next, found.1.scanned shown, kept, ⟨ackedRow, versionRow, ?_⟩, based.trans baseline,
        placed.trans path, uri, scan.path, scan.folder, values⟩
      rcases values with ⟨date, trashed, favorite⟩ | pending
      · refine .inl ?_
        simp only [Entry.localMetadata, any_some, map_some, bind_some, trashed, favorite, date, based.trans baseline, placed.trans path]
      · exact .inr (by omega)
  obtain ⟨later, shown, held, tells, _⟩ := finish
  exact ⟨later, shown, held, tells⟩

end Scan

section Reconcile
variable {s t : Store} {entry media : Nat} {row : Entry} {item : Media}

theorem Synced.deleteMedia (synced : Synced s entry media row item) (test : Nat → Media → Bool)
    (kept : test media item = false) : Synced (s.deleteMedia test) entry media row item := by
  have indexed : (s.media.delete test).get media = some item := by
    rw [get_delete, synced.indexed, filter_some, kept]
    rfl
  have linked : { row with media := row.media.filter (fun id => ((s.media.delete test).get id).isSome) } = row := by
    have same : row.media.filter (fun id => ((s.media.delete test).get id).isSome) = row.media := by
      rw [synced.link, filter_some, indexed]
      rfl
    rw [same]
  refine ⟨?_, indexed, synced.link, synced.active, ?_, synced.recording, ?_⟩
  · refine (get_update _ _ _).trans ?_
    rw [synced.entry, map_some, linked]
  · obtain ⟨found, job, read, present, covered, under⟩ := claimedPath_eq_some.mp synced.here
    rw [synced.indexed] at read
    cases read
    exact claimedPath_eq_some.mpr ⟨item, job, indexed, present, covered, under⟩
  · refine synced.unique.same (fun id found read => ?_)
    obtain ⟨old, present, same⟩ := map_eq_some_iff.mp ((get_update _ _ _).symm.trans read)
    rw [← same]
    exact ⟨old, present, rfl, rfl⟩

theorem Synced.pruned (synced : Synced s entry media row item) (id : Nat × EditEvent)
    (live : id.1 = media → item.trashedAt = none) (done : commitPermanentDeletions [id] s = .ok t) :
    Synced t entry media row item := by
  obtain ⟨middle, stepped, rest⟩ := bind_ok.mp done
  cases rest
  dsimp only at stepped
  split at stepped
  · next trashed =>
    have different : id.1 ≠ media := by
      intro own
      rw [own, synced.indexed, any_some, live own] at trashed
      cases trashed
    obtain ⟨⟨noted, outcome⟩, recorded, rest⟩ := bind_ok.mp stepped
    cases rest
    refine (synced.note_other different recorded).deleteMedia _ ?_
    simp [Ne.symm different]
  · cases stepped
    exact synced

theorem Synced.markOthers {ids : List Nat} (now : Int) (synced : Synced s entry media row item) (absent : media ∉ ids) :
    Synced (ids.foldl (fun (s : Store) id => s.markTrashed id now) s) entry media row item := by
  induction ids generalizing s with
  | nil => exact synced
  | cons id rest ih =>
    rw [mem_cons, not_or] at absent
    exact ih (synced.updateOther _ (Ne.symm absent.1)) absent.2

theorem Synced.reconciled (synced : Synced s entry media row item)
    (counted : row.ackedMetadataVersion ≤ row.metadataVersion) {plan : TrashReconcilePlan} {now : Int}
    (foreign : ∀ found ∈ plan.newItems, found.1.uri ≠ item.uri)
    (unpruned : media ∈ plan.pruneIds.map Prod.fst → item.trashedAt = none ∧ media ∉ plan.markIds.map Prod.fst)
    (done : Store.commitTrashReconcile plan now s = .ok t) :
    ∃ later shown, Synced t entry media later shown ∧ Tells row item later shown := by
  obtain ⟨marked, marks, ⟨indexed, inserted⟩, upserts, prunes⟩ := bind2_ok done
  obtain ⟨later, shown, held, tells, uri, untouched⟩ : ∃ later shown, Synced marked entry media later shown ∧
      Tells row item later shown ∧ shown.uri = item.uri ∧ (media ∉ plan.markIds.map Prod.fst → shown = item) := by
    refine loop_keeps (fun now => ∃ later shown, Synced now entry media later shown ∧ Tells row item later shown ∧
      shown.uri = item.uri ∧ (media ∉ plan.markIds.map Prod.fst → shown = item)) ?_
      ⟨row, item, synced, .refl row item, rfl, fun _ => rfl⟩ marks
    rintro id member before after ⟨later, shown, held, tells, uri, untouched⟩ stepped
    obtain ⟨middle, once, rest⟩ := bind_ok.mp stepped
    cases rest
    obtain ⟨⟨noted, outcome⟩, recorded, rest⟩ := bind_ok.mp once
    cases rest
    by_cases own : id.1 = media
    · rw [own] at recorded
      refine ⟨_, _, (held.updateMedia _ rfl rfl).note_own recorded,
        tells.trans _ _ _ _ _ _ (.marked later shown _ id.2 (tells.counted _ _ _ _ counted)), uri, fun absent => ?_⟩
      exact absurd (mem_map.mpr ⟨id, member, own⟩) absent
    · exact ⟨later, shown, (held.updateOther _ own).note_other own recorded, tells, uri, untouched⟩
  obtain ⟨stays, absent⟩ : Synced indexed entry media later shown ∧ media ∉ inserted := by
    refine loop_keeps (fun (now : Store × List Nat) => Synced now.1 entry media later shown ∧ media ∉ now.2) ?_
      ⟨held, not_mem_nil⟩ upserts
    rintro found member before after ⟨stays, absent⟩ stepped
    have other : found.1.uri ≠ shown.uri := fun same => foreign found member (same.trans uri)
    rcases stays.upsert before after found (fun same => absurd same other) stepped with ⟨kept, listed⟩ | ⟨same, _⟩
    · exact ⟨kept, fun present => absent (listed present)⟩
    · exact absurd same other
  refine ⟨later, shown, ?_, tells⟩
  refine loop_keeps (fun now => Synced now entry media later shown) ?_
    (stays.markOthers now absent) prunes
  intro id member before after kept stepped
  refine kept.pruned id (fun own => ?_) stepped
  obtain ⟨live, unmarked⟩ := unpruned (mem_map.mpr ⟨id, member, own⟩)
  rw [untouched unmarked]
  exact live

end Reconcile

section Location
variable {s t : Store} {entry media : Nat} {row : Entry} {item : Media}

theorem mem_followers {s : Store} {media : Nat} {path : String} (found : Nat × String) :
    found ∈ s.followers media path ↔ ∃ row job, s.entries.get found.1 = some row ∧ row.media = some media ∧
      s.jobs.get row.job = some job ∧ relativeUnder job.localRoot path = some found.2 := by
  simp only [followers, mem_filterMap, Prod.exists, mem_select, beq_iff_eq]
  constructor
  · rintro ⟨id, row, ⟨present, linked⟩, made⟩
    split at made
    · cases made
    · next job read =>
      obtain ⟨relative, under, rfl⟩ := map_eq_some_iff.mp made
      exact ⟨row, job, present, linked, read, under⟩
  · rintro ⟨row, job, present, linked, read, under⟩
    refine ⟨found.1, row, ⟨present, linked⟩, ?_⟩
    simp only [read, under, map_some]

theorem follow_entry (s t : Store) (entry : Nat) (row : Entry) (path : String) (moves : List (Nat × String))
    (read : s.entries.get entry = some row) (unique : s.PathsUnique) (listed : entry ∈ moves.map Prod.fst)
    (target : ∀ move ∈ moves, move.1 = entry → move.2 = path)
    (done : moves.foldlM (fun (s : Store) found => s.setEntryPath found.1 found.2 (fun entry => entry)) s = .ok t) :
    (∃ entries, t = { s with entries := entries }) ∧ t.PathsUnique ∧ t.entries.get entry = some { row with relativePath := path } := by
  let inv (rest : List (Nat × String)) (now : Store) : Prop := (∃ entries, now = { s with entries := entries }) ∧
    now.PathsUnique ∧ (∀ move ∈ rest, move.1 = entry → move.2 = path) ∧
    (now.entries.get entry = some { row with relativePath := path } ∨ now.entries.get entry = some row ∧ entry ∈ rest.map Prod.fst)
  have finish : inv [] t := by
    refine loop_remaining inv ?_ ⟨⟨_, rfl⟩, unique, target, .inr ⟨read, listed⟩⟩ done
    rintro move rest now after ⟨⟨entries, same⟩, unique, target, found⟩ stepped
    have moved := setEntryPath_eq stepped
    refine ⟨⟨_, by rw [moved, same]; rfl⟩, unique.setEntryPath move.1 move.2 stepped,
      fun other member => target other (mem_cons_of_mem _ member), ?_⟩
    by_cases own : move.1 = entry
    · have here := target move mem_cons_self own
      rw [moved, own, here]
      refine .inl ((get_modify_self _ _ _).trans ?_)
      rcases found with found | ⟨found, _⟩
      · rw [found]
        rfl
      · rw [found]
        rfl
    · have untouched : after.entries.get entry = now.entries.get entry := by
        rw [moved]
        exact get_modify_of_ne (Ne.symm own)
      rw [untouched]
      rcases found with found | ⟨found, waiting⟩
      · exact .inl found
      · exact .inr ⟨found, (mem_cons.mp waiting).resolve_left (Ne.symm own)⟩
  obtain ⟨frame, unique, _, found | ⟨_, never⟩⟩ := finish
  · exact ⟨frame, unique, found⟩
  · cases never

theorem Synced.renameOther (synced : Synced s entry media row item) {other : Nat} {path : String}
    (different : other ≠ entry) (done : s.setEntryPath other path (fun entry => entry) = .ok t) :
    Synced t entry media row item := by
  have unique := synced.unique.setEntryPath other path done
  obtain rfl := setEntryPath_eq done
  refine ⟨?_, synced.indexed, synced.link, synced.active, synced.here, synced.recording, unique⟩
  exact (get_modify_of_ne (Ne.symm different)).trans synced.entry

def Store.reaches (s : Store) (job : Nat) (path folder : String) : Bool :=
  (s.jobs.get job).any (fun row => (relativeUnder row.localRoot path).isSome && row.inScope folder)

def Media.movedTo (uri path folder : String) (mtime : Int) (item : Media) : Media :=
  { item with path := path, folderPath := folder, fileMtimeNs := mtime, uri := uri }

theorem updateMediaLocation_ok {platform : Platform} {id : Nat} {path folder : String} {mtime : Int} {stamp : EditEvent}
    (done : updateMediaLocation platform id path folder mtime stamp s = .ok t) :
    ∃ followed outcome, (s.followers id path).foldlM (fun (s : Store) found =>
        s.setEntryPath found.1 found.2 (fun entry => entry))
        (s.updateMedia id (Media.movedTo (platform.fileUri path) path folder mtime)) = .ok followed ∧
      followed.note id .metadata stamp = .ok (t, outcome) := by
  obtain ⟨located, placed, followed, follow, ⟨noted, outcome⟩, recorded, rest⟩ := bind3_ok done
  cases rest
  obtain ⟨_, rfl⟩ := setMediaUri_ok placed
  exact ⟨followed, outcome, follow, recorded⟩

theorem Synced.followed (synced : Synced s entry media row item) (uri path folder : String) (mtime : Int) (followed : Store)
    (inside : s.reaches row.job path folder = true)
    (follow : (s.followers media path).foldlM (fun (s : Store) found =>
      s.setEntryPath found.1 found.2 (fun entry => entry))
      (s.updateMedia media (Media.movedTo uri path folder mtime)) = .ok followed) :
    ∃ relative, Synced followed entry media { row with relativePath := relative }
      (item.movedTo uri path folder mtime) := by
  obtain ⟨job, present, fits⟩ := (any_eq_true _ _).mp inside
  rw [Bool.and_eq_true] at fits
  obtain ⟨relative, under⟩ := isSome_iff_exists.mp fits.1
  have listed : (entry, relative) ∈ s.followers media path := (mem_followers _).mpr ⟨row, job, synced.entry, synced.link, present, under⟩
  have target : ∀ move ∈ s.followers media path, move.1 = entry → move.2 = relative := by
    intro move member same
    obtain ⟨other, root, read, _, found, below⟩ := (mem_followers _).mp member
    rw [same, synced.entry] at read
    cases read
    rw [present] at found
    cases found
    rw [under] at below
    exact (some.inj below).symm
  obtain ⟨⟨entries, frame⟩, unique, moved⟩ := follow_entry (s.updateMedia media (Media.movedTo uri path folder mtime))
    followed entry row relative (s.followers media path) synced.entry synced.unique (mem_map.mpr ⟨_, listed, rfl⟩) target follow
  have indexed : followed.media.get media = some (item.movedTo uri path folder mtime) := by
    rw [frame]
    exact (get_modify_self _ _ _).trans (congrArg _ synced.indexed)
  have covered : followed.covers job (item.movedTo uri path folder mtime) = true := by
    obtain ⟨_, again, _, read, covers, _⟩ := claimedPath_eq_some.mp synced.here
    rw [present] at read
    cases read
    rw [Store.covers, Bool.and_eq_true] at covers ⊢
    rw [frame]
    exact ⟨covers.1, fits.2⟩
  have root : followed.jobs.get row.job = some job := by
    rw [frame]
    exact present
  refine ⟨relative, moved, indexed, synced.link, synced.active, ?_, ?_, unique⟩
  · exact claimedPath_eq_some.mpr ⟨_, job, indexed, root, covered, under⟩
  · rw [frame]
    exact synced.recording

theorem Synced.relocated (synced : Synced s entry media row item) (platform : Platform)
    (counted : row.ackedMetadataVersion ≤ row.metadataVersion) (id : Nat) (path folder : String) (mtime : Int)
    (stamp : EditEvent) (inside : id = media → s.reaches row.job path folder = true)
    (done : updateMediaLocation platform id path folder mtime stamp s = .ok t) :
    ∃ later shown, Synced t entry media later shown ∧ Tells row item later shown := by
  obtain ⟨followed, outcome, follow, recorded⟩ := updateMediaLocation_ok done
  by_cases own : id = media
  · rw [own] at follow recorded
    obtain ⟨relative, arrived⟩ := synced.followed _ path folder mtime followed (inside own) follow
    exact ⟨_, _, arrived.note_own recorded, rfl, Nat.le_succ _, .inr (Nat.lt_succ_of_le counted)⟩
  · have kept : Synced followed entry media row item := by
      refine loop_keeps (fun now => Synced now entry media row item) ?_
        (synced.updateOther _ own) follow
      intro move member before after held stepped
      refine held.renameOther (fun same => own ?_) stepped
      obtain ⟨other, _, read, linked, _⟩ := (mem_followers _).mp member
      rw [same, synced.entry] at read
      cases read
      exact some.inj (linked.symm.trans synced.link)
    exact ⟨row, item, kept.note_other own recorded, .refl row item⟩

end Location

-- The operations that tell of what they do to the row. A rollback finds it live, a move stays where the job records
-- changes, a scan finds it at its place, live and with its date, and a reconciliation neither indexes its file anew
-- nor prunes it. Where the entry owes its metadata already, a rollback and a scan may also change what is shown.
def tellsOf (entry media : Nat) (s : Store) (operation : LocalOperation) : Prop :=
  ∀ row item, s.entries.get entry = some row → s.media.get media = some item →
    match operation with
    | .trashRolledBack ids _ => media ∈ ids → item.trashedAt = none ∨ row.ackedMetadataVersion < row.metadataVersion
    | .updateMediaLocation id path folder _ _ => id = media → s.reaches row.job path folder = true
    | .scanned items => ∀ found ∈ items, found.1.uri = item.uri → ScansQuietly row item found.1
    | .reconcileTrash plan _ => (∀ found ∈ plan.newItems, found.1.uri ≠ item.uri) ∧
      (media ∈ plan.pruneIds.map Prod.fst → item.trashedAt = none ∧ media ∉ plan.markIds.map Prod.fst)
    | _ => True

theorem operation_follows {platform : Platform} {entry media : Nat} {s t : Store} {operation : LocalOperation}
    (tells : tellsOf entry media s operation) (done : operation.perform platform s = .ok t) :
    Follows entry media s t := by
  intro row item synced counted
  have condition := tells row item synced.entry synced.indexed
  cases operation with
  | setFavorite => exact setFavorite_follows entry media done row item synced counted
  | movedToTrash ids =>
    obtain ⟨middle, marked, committed⟩ := bind_ok.mp done
    exact movedToTrash_follows ids marked committed row item synced counted
  | trashRolledBack ids now =>
    obtain ⟨middle, marked, undone⟩ := bind_ok.mp done
    exact synced.rolledBack ids now middle condition marked undone
  | restoreTrashed ids => exact restoreTrashedMetadata_follows entry media ids done row item synced counted
  | updateMediaLocation id path folder mtime stamp =>
    exact synced.relocated platform counted id path folder mtime stamp condition done
  | scanned items =>
    obtain ⟨⟨scanned, ids⟩, upserted, rest⟩ := bind_ok.mp done
    cases rest
    exact synced.scanned items condition ids upserted
  | externallyTrashed =>
    exact externallyTrashed_follows entry media done row item synced counted
  | reconcileTrash => exact synced.reconciled counted condition.1 condition.2 done

theorem local_metadata_never_drifts (platform : Platform) (s : Store) (entry media : Nat) (row : Entry)
    (item : Media) (unique : s.EntriesUnique) (recording : s.recording = true)
    (read : s.entries.get entry = some row) (indexed : s.media.get media = some item) (link : row.media = some media)
    (active : row.retired = false) (here : s.claimedPath media row.job = some row.relativePath)
    (acknowledged : row.ackedMetadataVersion = row.metadataVersion) (operations : List LocalOperation)
    (tells : Meets (LocalOperation.perform platform) (tellsOf entry media) s operations) (last : Entry)
    (reached : (run (LocalOperation.perform platform) s operations).entries.get entry = some last)
    (drifts : (run (LocalOperation.perform platform) s operations).localMetadata entry ≠ s.localMetadata entry) :
    last.ackedMetadataVersion < last.metadataVersion := by
  have synced : Synced s entry media row item := ⟨read, indexed, link, active, here, recording, unique.path⟩
  obtain ⟨later, shown, held, told⟩ := run_keeps
    (fun now => ∃ later shown, Synced now entry media later shown ∧ Tells row item later shown)
    (fun before operation after sofar condition done => by
      obtain ⟨middle, seen, half, told⟩ := sofar
      obtain ⟨later, shown, whole, rest⟩ := operation_follows condition done
        middle seen half (told.counted _ _ _ _ (Nat.le_of_eq acknowledged))
      exact ⟨later, shown, whole, told.trans _ _ _ _ _ _ rest⟩) ⟨row, item, synced, .refl row item⟩ tells
  rw [held.entry] at reached
  cases reached
  rcases told.drift with same | pending
  · rw [held.localMetadata, synced.localMetadata, same] at drifts
    exact absurd rfl drifts
  · exact pending

def Sample.uploaded : List Command := Sample.opening ++ [.save Sample.epoch (Sample.operation .create ⟨1, 0, 1, 0⟩),
    .confirm Sample.epoch (Sample.operation .create ⟨1, 0, 1, 0⟩) (some (Sample.answer false)) true]

open Sample in
theorem favorite_is_told : ∃ last, (run (LocalOperation.perform platform) (run (Command.execute platform) .empty uploaded)
        [.setFavorite [1] true stamp]).entries.get 1 = some last ∧
      last.ackedMetadataVersion < last.metadataVersion := by
  have present : ((run (Command.execute platform) .empty uploaded).entries.get 1).any (fun row =>
    row.media == some 1 && !row.retired && row.job == 1 && row.relativePath == "a"
      && row.ackedMetadataVersion == row.metadataVersion) = true := by decide +kernel
  obtain ⟨row, read, facts⟩ := (Option.any_eq_true _ _).mp present
  simp only [Bool.and_eq_true, beq_iff_eq, Bool.not_eq_true'] at facts
  obtain ⟨⟨⟨⟨link, active⟩, job⟩, path⟩, acknowledged⟩ := facts
  have indexed : ((run (Command.execute platform) .empty uploaded).media.get 1).isSome = true := by
    decide +kernel
  obtain ⟨item, indexed⟩ := Option.isSome_iff_exists.mp indexed
  have kept : ((run (LocalOperation.perform platform) (run (Command.execute platform) .empty
    uploaded) [.setFavorite [1] true stamp]).entries.get 1).isSome = true := by decide +kernel
  obtain ⟨last, reached⟩ := Option.isSome_iff_exists.mp kept
  refine ⟨last, reached, local_metadata_never_drifts platform _ 1 1 row item (.of_rows _ (by decide +kernel))
    (by decide +kernel) read indexed link active ?_ acknowledged [.setFavorite [1] true stamp]
    ⟨fun _ _ _ _ => trivial, trivial⟩ last reached ?_⟩
  · rw [job, path]
    decide +kernel
  · intro same
    have differs : ¬ ((run (LocalOperation.perform platform) (run (Command.execute platform) .empty
      uploaded) [.setFavorite [1] true stamp]).localMetadata 1).toOption =
      ((run (Command.execute platform) .empty uploaded).localMetadata 1).toOption := by decide +kernel
    exact differs (congrArg Except.toOption same)

def Sample.trashed : List Command := Sample.uploaded ++ [.markTrashed 1 7, .commitMovedToTrash [(1, Sample.stamp)],
    .save Sample.epoch { Sample.operation .modify ⟨2, 1, 1, 0⟩ with id := "trash" },
    .confirm Sample.epoch { Sample.operation .modify ⟨2, 1, 1, 0⟩ with id := "trash" } (some (Sample.answer false)) true]

theorem restored_file_is_not_told : (run (Command.execute Sample.platform) .empty Sample.trashed).recording = true ∧
    (run (Command.execute Sample.platform) .empty Sample.trashed).claimedPath 1 1 = some "a" ∧
    ((run (Command.execute Sample.platform) .empty Sample.trashed).localMetadata 1).toOption = some ⟨1, 0, none, "a"⟩ ∧
    ((run (LocalOperation.perform Sample.platform) (run (Command.execute Sample.platform) .empty Sample.trashed)
      [.scanned [(Sample.item, Sample.stamp)]]).localMetadata 1).toOption = some ⟨0, 0, none, "a"⟩ ∧
    ∃ first last, (run (Command.execute Sample.platform) .empty Sample.trashed).entries.get 1 = some first ∧
      first.retired = false ∧ first.photoId = some "photo" ∧ first.ackedMetadataVersion = first.metadataVersion ∧
      (run (LocalOperation.perform Sample.platform) (run (Command.execute Sample.platform) .empty Sample.trashed)
        [.scanned [(Sample.item, Sample.stamp)]]).entries.get 1 = some last ∧
      last.metadataVersion = last.ackedMetadataVersion := by
  refine ⟨by decide +kernel, by decide +kernel, by decide +kernel, by decide +kernel, ?_⟩
  have start : ((run (Command.execute Sample.platform) .empty Sample.trashed).entries.get 1).any (fun row =>
      !row.retired && row.photoId == some "photo" && row.ackedMetadataVersion == row.metadataVersion) = true := by
    decide +kernel
  have finish : ((run (LocalOperation.perform Sample.platform) (run (Command.execute Sample.platform) .empty
      Sample.trashed) [.scanned [(Sample.item, Sample.stamp)]]).entries.get 1).any (fun row =>
      row.metadataVersion == row.ackedMetadataVersion) = true := by decide +kernel
  obtain ⟨first, read, facts⟩ := (Option.any_eq_true _ _).mp start
  obtain ⟨last, reached, same⟩ := (Option.any_eq_true _ _).mp finish
  simp only [Bool.and_eq_true, beq_iff_eq, Bool.not_eq_true'] at facts
  exact ⟨first, last, read, facts.1.1, facts.1.2, facts.2, reached, beq_iff_eq.mp same⟩

end PhotoSync
