import PhotoSync.Runs.Placed

set_option autoImplicit false

namespace PhotoSync
open Relational Transaction Store Table

structure ChoiceSettled (t : Store) (entry : Nat) (photo : RemotePhoto) : Prop where
  acknowledged : ∃ row, t.entries.get entry = some row ∧ row.ackedMetadataVersion = row.metadataVersion ∧
    row.ackedContentVersion = row.contentVersion ∧ row.dirty = .clean
  placed : ∃ id row capture, t.publications.get id = some row ∧ row.entry = some entry ∧ row.state = .pending ∧
    row.capture = some capture ∧ capture.projection = some photo ∧
    ∀ other found, t.publications.get other = some found → found.entry = some entry → found.unfinished = true → other = id

def Store.givesWay (s : Store) (row : Entry) (photo : RemotePhoto) : Bool :=
  (s.linkedMedia row).any (fun media => media.storageLocation == .cloudOnly) ||
    (!(row.metadataPending && localEventWins row.events.metadata photo.events.metadata) &&
      !(row.contentPending && localEventWins row.events.content photo.events.content))

def Store.OwnName (platform : Platform) (s : Store) (job entry : Nat) (photo : RemotePhoto) : Prop :=
  ∀ id row, s.publications.get id = some row → row.publicationId = publicationName platform job photo → row.entry = some entry

section Effects
variable {s t : Store} {job entry : Nat} {photo : RemotePhoto}

theorem settleInPlace_publications (s : Store) (job entry : Nat) (decision : Entry.Settlement) :
    (s.settleInPlace job entry decision).publications = s.publications.update (fun _ row =>
      if row.entry == some entry && row.state == .pending then { row with state := .superseded } else row) := by
  obtain ⟨_, _, same⟩ := settleInPlace_eq s job entry decision
  rw [same]
  rfl

theorem repairAvailability_tasks (s : Store) (entry : Nat) (photo : RemotePhoto) :
    (s.repairAvailability entry photo).tasks = s.tasks := by
  obtain ⟨_, same, _⟩ := repairAvailability_eq s entry photo
  rw [same]

theorem acceptCloud_publications (idle : s.busy entry = false) (id : Nat) (row : Publication) :
    (s.acceptCloud job entry photo).publications.get id = some row ↔ s.publications.get id = some row ∧ row.entry ≠ some entry := by
  simp only [acceptCloud, get_delete, Option.filter_eq_some_iff]
  refine and_congr_right (fun read => ?_)
  rw [busy, Bool.or_eq_false_iff] at idle
  have quiet := any_eq_false.mp idle.2 id row read
  by_cases own : row.entry = some entry
  · simp only [own, beq_self_eq_true, Bool.true_and, beq_eq_false_iff_ne] at quiet
    simp [own, quiet]
  · simp [own]

end Effects

section Scheduled
variable {platform : Platform} {s t : Store} {job entry localVersion : Nat} {decision : Entry.Settlement} {capture : Capture}
  {fresh : Publication}

theorem Schedule.adds (schedule : Schedule platform s t job entry localVersion decision capture fresh)
    (vacant : ∀ id row, s.publications.get id = some row → row.publicationId ≠ publicationName platform job decision.photo) :
    t.publications = (s.publications.update (fun _ row => standDown job decision.photo.photoId
      (publicationName platform job decision.photo) row)).insert fresh := by
  rw [schedule.publications, upsert]
  split
  · next found _ located =>
    obtain ⟨read, named⟩ := first?_some located
    rw [get_update, Option.map_eq_some_iff] at read
    obtain ⟨old, present, rfl⟩ := read
    rw [beq_iff_eq, (standDown_lowered _ _ _ old).publicationId] at named
    exact absurd named (vacant found old present)
  · rfl

theorem Schedule.denied (schedule : Schedule platform s t job entry localVersion decision capture fresh)
    (foreign : ∀ id row, s.publications.get id = some row → row.entry ≠ some entry)
    (taken : ∃ id row, s.publications.get id = some row ∧ row.publicationId = publicationName platform job decision.photo) :
    ∀ id row, t.publications.get id = some row → row.entry ≠ some entry := by
  intro id row read
  rw [schedule.publications, upsert] at read
  split at read
  · rw [get_modify, get_update] at read
    split at read
    · rw [Option.map_map, Option.map_eq_some_iff] at read
      obtain ⟨old, present, rfl⟩ := read
      rw [Function.comp, (reschedule_from capture _).entry, (standDown_lowered _ _ _ old).entry]
      exact foreign id old present
    · rw [Option.map_eq_some_iff] at read
      obtain ⟨old, present, rfl⟩ := read
      rw [(standDown_lowered _ _ _ old).entry]
      exact foreign id old present
  · next missing =>
    obtain ⟨found, held, present, named⟩ := taken
    have passed := first?_none.mp missing found (standDown job decision.photo.photoId
      (publicationName platform job decision.photo) held) (by rw [get_update, present]; rfl)
    rw [standDown_named named, named, beq_self_eq_true] at passed
    cases passed

end Scheduled

section Resolution
variable {platform : Platform} {s : Store} {job entry : Nat} {photo : RemotePhoto} {row : Entry} {missing : Bool}

theorem ChoiceSettled.unplaced {t : Store} (foreign : ∀ id row, t.publications.get id = some row → row.entry ≠ some entry) :
    ¬ ChoiceSettled t entry photo := by
  rintro ⟨_, id, row, _, read, own, _⟩
  exact foreign id row read own

theorem resolveProjection_settles_iff (after : Store × ProjectedContent) (read : s.entries.get entry = some row)
    (bound : row.photoId = some photo.photoId) (fresh : row.baseline = none) (clean : row.dirty = .clean)
    (visible : photo.isHidden = false)
    (foreign : ∀ id publication, s.publications.get id = some publication → publication.entry ≠ some entry)
    (done : resolveProjection platform s job entry photo missing = .ok after) : ChoiceSettled after.1 entry photo ↔
      (missing || (!(row.metadataPending && localEventWins row.events.metadata photo.events.metadata) &&
        !(row.contentPending && localEventWins row.events.content photo.events.content))) = true ∧
      ∀ id publication, s.publications.get id = some publication → publication.publicationId ≠ publicationName platform job photo := by
  obtain ⟨row', again, rest⟩ := bind_ok.mp done
  rw [requireRow_ok, read] at again
  cases again
  have clear : conflictReason row photo missing = none := by simp [conflictReason, visible, bound]
  rw [clear] at rest
  obtain ⟨settled, stored, rest⟩ := bind_ok.mp rest
  obtain ⟨_, rfl⟩ := setEntryPhoto_ok read stored
  have metadata : (s.settlement job row photo missing).preserveMetadata =
      (!missing && (row.metadataPending && localEventWins row.events.metadata photo.events.metadata)) := by
    simp [settlement, fresh, Bool.and_assoc]
  have content : (s.settlement job row photo missing).keepContent =
      (!missing && (row.contentPending && localEventWins row.events.content photo.events.content)) := by
    simp [settlement, fresh, clean, show (NativeDirty.clean == .delete) = false from rfl,
      show (NativeDirty.clean == .new) = false from rfl]
  have needed : (missing || (!(s.settlement job row photo missing).keepContent &&
      (!row.baseline.any photo.sameContent || (!(s.settlement job row photo missing).preserveMetadata &&
        row.relativePath != photo.relativePath)))) = (missing || !(s.settlement job row photo missing).keepContent) := by
    simp [fresh]
  have alive : (s.settlement job row photo missing).keepDelete = false := by
    simp [settlement, clean, show (NativeDirty.clean == .delete) = false from rfl]
  dsimp only at rest
  rw [needed, content] at rest
  generalize (row.metadataPending && localEventWins row.events.metadata photo.events.metadata) = edited at metadata ⊢
  generalize (row.contentPending && localEventWins row.events.content photo.events.content) = replaced at content rest ⊢
  split at rest
  · next places =>
    obtain ⟨placed, scheduled, rest⟩ := bind_ok.mp rest
    cases rest
    obtain ⟨capture, publication, schedule⟩ := schedulePlacement_ok scheduled
    have stored : placed.entries.get entry = some { Entry.settle (s.settlement job row photo missing) row with
        photoId := some photo.photoId } := by
      rw [schedule.entries]
      exact (get_modify_self _ _ _).trans (by rw [read]; rfl)
    constructor
    · intro chosen
      refine ⟨?_, fun id other present named => chosen.unplaced (schedule.denied foreign ⟨id, other, present, named⟩)⟩
      obtain ⟨_, held, _, _, settled⟩ := chosen.acknowledged
      rw [stored, Option.some.injEq] at held
      subst held
      change (s.settlement job row photo missing).dirty = .clean at settled
      rw [Entry.Settlement.dirty, alive, metadata, content] at settled
      revert places settled
      cases missing <;> cases edited <;> cases replaced <;> simp
    · rintro ⟨yields, vacant⟩
      have silent : (!missing && edited) = false ∧ (!missing && replaced) = false := by
        revert yields
        cases missing <;> cases edited <;> cases replaced <;> simp
      obtain ⟨_, _, own, _, _, _, pending, captured⟩ := schedule.opened
      have added := schedule.adds vacant
      refine ⟨⟨_, stored, ?_, ?_, ?_⟩, s.publications.next, publication, capture, ?_, own, pending, captured, schedule.captured.2.2.2.2, ?_⟩
      · simp [Entry.settle, metadata, silent.1]
      · simp [Entry.settle, content, silent.2]
      · simp [Entry.settle, Entry.Settlement.dirty, alive, metadata, content, silent.1, silent.2]
      · rw [added]
        exact get_insert_next _ _
      · intro other found present owned _
        rw [added, get_insert] at present
        split at present
        · assumption
        · rw [get_update, Option.map_eq_some_iff] at present
          obtain ⟨old, known, rfl⟩ := present
          rw [(standDown_lowered _ _ _ old).entry] at owned
          exact absurd owned (foreign other old known)
  · next stays =>
    cases rest
    refine iff_of_false (ChoiceSettled.unplaced (fun id publication present => ?_)) ?_
    · rw [settleInPlace_publications, get_update, Option.map_eq_some_iff] at present
      obtain ⟨old, known, rfl⟩ := present
      rw [(Lowers.superseded old _).entry]
      exact foreign id old known
    · revert stays
      cases missing <;> cases edited <;> cases replaced <;> simp

theorem applyAction_useCloud {t : Store} {version number : Nat} {document : Option ConflictDocument}
    {recovery : Option String} {stamp : EditEvent} {conflict : Conflict} (read : s.entries.get entry = some row)
    (opened : s.openConflict entry = some (number, conflict)) (remote : conflict.remote = some photo)
    (done : s.applyAction platform job entry version document .useCloud recovery stamp = .ok t) :
    row.job = job ∧ s.busy entry = false ∧ photo.isHidden = false ∧ ∃ asset master bound after,
      s.setEntryPhoto entry photo.photoId (Entry.bindIdentity photo asset master) = .ok bound ∧
      projectPublication platform (bound.acceptCloud job entry photo) job photo [] = .ok after ∧
      t = (after.1.setBaseline entry (some photo)).resolveConflicts entry (fun _ => true) := by
  obtain ⟨row', found, rest⟩ := bind_ok.mp done
  rw [requireRow_ok, read, Option.filter_eq_some_iff, beq_iff_eq] at found
  obtain ⟨same, own⟩ := found
  cases same
  obtain ⟨_, _, _, idle, _, _, rest⟩ := bind3_ok rest
  rw [ensure_ok, Bool.not_eq_true', Bool.or_eq_false_iff, Bool.or_eq_false_iff] at idle
  rw [opened] at rest
  obtain ⟨decided, chosen, rest⟩ := bind_ok.mp rest
  cases rest
  unfold decideOpen at chosen
  rw [remote] at chosen
  obtain ⟨_, visible, _, _, asset, _, master, _, rest⟩ := bind4_ok chosen
  obtain ⟨bound, stored, _, _, after, projected, rest⟩ := bind3_ok rest
  cases rest
  rw [ensure_ok, Bool.not_eq_true'] at visible
  exact ⟨own, idle.1.1, visible, asset, master, bound, after, stored, projected, rfl⟩

theorem ChoiceSettled.rebased (t : Store) :
    ChoiceSettled ((t.setBaseline entry (some photo)).resolveConflicts entry (fun _ => true)) entry photo ↔
      ChoiceSettled t entry photo := by
  have entries : ((t.setBaseline entry (some photo)).resolveConflicts entry (fun _ => true)).entries.get entry =
    (t.entries.get entry).map (fun row => { row with baseline := some photo }) := get_modify_self _ _ _
  constructor
  · rintro ⟨⟨row, read, held⟩, placed⟩
    rw [entries, Option.map_eq_some_iff] at read
    obtain ⟨old, present, rfl⟩ := read
    exact ⟨⟨old, present, held⟩, placed⟩
  · rintro ⟨⟨row, read, held⟩, placed⟩
    exact ⟨⟨{ row with baseline := some photo }, by rw [entries, read]; rfl, held⟩, placed⟩

-- Choosing the cloud's version settles the entry exactly where no pending edit
-- of it wins by its event, and no other entry's publication has the name.
theorem use_cloud_settles_iff (platform : Platform) (s t : Store) (job entry version number : Nat)
    (document : Option ConflictDocument) (recovery : Option String) (stamp : EditEvent) (conflict : Conflict)
    (photo : RemotePhoto) (row : Entry) (read : s.entries.get entry = some row)
    (opened : s.openConflict entry = some (number, conflict)) (remote : conflict.remote = some photo)
    (done : s.applyAction platform job entry version document .useCloud recovery stamp = .ok t) :
    ChoiceSettled t entry photo ↔ s.givesWay row photo = true ∧ s.OwnName platform job entry photo := by
  obtain ⟨rfl, idle, visible, asset, master, bound, after, stored, projected, rfl⟩ := applyAction_useCloud read opened remote done
  obtain ⟨alone, rfl⟩ := setEntryPhoto_ok read stored
  let chosen : Entry := (row.bindIdentity photo asset master).acceptCloud
  generalize made : (updateEntry s entry _).acceptCloud row.job entry photo = accepted at projected
  have present : accepted.entries.get entry = some chosen := by
    rw [← made]
    exact (Table.get_modify_self _ _ _).trans (by rw [updateEntry, Table.get_modify_self, read]; rfl)
  have single : accepted.photoTaken entry chosen.job photo.photoId = false := by
    rw [← made]
    exact (photoTaken_updateEntry _).trans ((photoTaken_updateEntry _).trans alone)
  have rows : ∀ id publication, accepted.publications.get id = some publication ↔
      s.publications.get id = some publication ∧ publication.entry ≠ some entry := by
    rw [← made]
    exact acceptCloud_publications idle
  have untouched := repairAvailability_untouched accepted entry photo
  have resting : (accepted.repairAvailability entry photo).busy entry = false := by
    rw [busy, issuedFor, publishingFor, Bool.or_eq_false_iff, untouched.publications]
    refine ⟨?_, Table.any_eq_false.mpr (fun id publication held => ?_)⟩
    · rw [busy, Bool.or_eq_false_iff] at idle
      rw [repairAvailability_tasks, ← made]
      exact idle.1
    · simp [((rows id publication).mp held).2]
  have absent : (((accepted.repairAvailability entry photo).linkedMedia chosen).any (fun media =>
      media.storageLocation == .cloudOnly) && !(accepted.repairAvailability entry photo).busy entry &&
        chosen.dirty != .delete) = (s.linkedMedia row).any (fun media => media.storageLocation == .cloudOnly) := by
    rw [repairAvailability_cloudOnly, resting, ← made]
    exact (Bool.and_true _).trans (Bool.and_true _)
  have resolved := projectPublication_resolves present rfl single rfl projected
  rw [absent] at resolved
  have kept : (accepted.repairAvailability entry photo).entries.get entry = some chosen := by
    rw [repairAvailability_entries, present]
  rw [ChoiceSettled.rebased, resolveProjection_settles_iff after kept rfl rfl rfl visible (fun id publication held =>
    ((rows id publication).mp (untouched.publications ▸ held)).2) resolved, untouched.publications]
  refine and_congr Iff.rfl ⟨fun vacant id publication held named => ?_, fun own id publication held named => ?_⟩
  · by_contra foreign
    exact vacant id publication ((rows id publication).mpr ⟨held, foreign⟩) named
  · obtain ⟨there, foreign⟩ := (rows id publication).mp held
    exact foreign (own id publication there named)

end Resolution

namespace Sample

def stampedBy (theirs : Option EditEvent) : RemotePhoto := { version "A" with events := ⟨none, theirs, none⟩ }

-- A file appears where a received photo is still to be placed, and after its
-- identity was given up for adoption the photo is received again.
def disputed (photo : RemotePhoto) : Store := run (Command.execute telling) .empty (connecting ++
  [.saveDeltaPage 1 (versionRecords "A") "A", .promote 1 ⟨[photo], [], []⟩ "A" [],
    .upsertMediaItems [(⟨"file:///p/b", "/p/b", "/p", none, 7, 0⟩, stamp)], .forgetIdentityForAdoption 1 1 1,
    .saveDeltaPage 1 (versionRecords "A") "B", .promote 1 ⟨[photo], [], []⟩ "B" []])

def choosing (photo : RemotePhoto) : Result Store :=
  (disputed photo).applyAction telling 1 1 1 (((disputed photo).openConflict 1).map (fun found => found.2.document))
    .useCloud (some "copy") stamp

end Sample

open Sample in
theorem later_photo_is_chosen : ∃ t, choosing (stampedBy (some ⟨2, "phone", "theirs"⟩)) = .ok t ∧
    ChoiceSettled t 1 (stampedBy (some ⟨2, "phone", "theirs"⟩)) := by
  let photo := stampedBy (some ⟨2, "phone", "theirs"⟩)
  obtain ⟨t, done, _⟩ := ok_of_any (choosing photo) (fun _ => true) (by decide +kernel)
  have found : ((disputed photo).openConflict 1).any (fun found => found.2.remote == some photo) = true := by
    decide +kernel
  have held : ((disputed photo).entries.get 1).any (fun row => (disputed photo).givesWay row photo) = true := by
    decide +kernel
  have own : (disputed photo).publications.any (fun _ row => row.entry != some 1) = false := by decide +kernel
  obtain ⟨⟨number, conflict⟩, opened, remote⟩ := (Option.any_eq_true _ _).mp found
  obtain ⟨row, read, gives⟩ := (Option.any_eq_true _ _).mp held
  refine ⟨t, done, (use_cloud_settles_iff telling (disputed photo) t 1 1 1 number _ (some "copy") stamp
    conflict photo row read opened (beq_iff_eq.mp remote) done).mpr ⟨gives, fun id publication present _ => ?_⟩⟩
  simpa using Table.any_eq_false.mp own id publication present

-- Neither side has an event, so the file's own edit stands against the choice:
-- it is still to be sent, and nothing is to be placed.
open Sample in
theorem chosen_photo_is_not_placed : ∃ t conflict, choosing (stampedBy none) = .ok t ∧
    ((disputed (stampedBy none)).openConflict 1).map Prod.snd = some conflict ∧
    conflict.remote = some (stampedBy none) ∧
    (t.entries.get 1).any (fun row => row.contentPending && row.dirty == .modified) = true ∧
    t.publications.any (fun _ row => row.entry == some 1) = false := by
  obtain ⟨t, done, facts⟩ := ok_of_any (choosing (stampedBy none)) (fun t =>
    (t.entries.get 1).any (fun row => row.contentPending && row.dirty == .modified) &&
      !t.publications.any (fun _ row => row.entry == some 1)) (by decide +kernel)
  have found : (((disputed (stampedBy none)).openConflict 1).map Prod.snd).any (fun conflict =>
    conflict.remote == some (stampedBy none)) = true := by decide +kernel
  obtain ⟨conflict, opened, remote⟩ := (Option.any_eq_true _ _).mp found
  rw [Bool.and_eq_true, Bool.not_eq_true'] at facts
  exact ⟨t, conflict, done, opened, beq_iff_eq.mp remote, facts.1, facts.2⟩

end PhotoSync
