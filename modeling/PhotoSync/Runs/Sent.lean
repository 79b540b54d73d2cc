import PhotoSync.Runs.DeleteConfirm
import PhotoSync.Service.Upload

set_option autoImplicit false

namespace PhotoSync
open Relational Transaction Store Table Command Option List

structure Later (before after : Entry) : Prop where
  versions : VersionsLe before after
  metadata : after.localVersion = before.localVersion → after.metadataVersion = before.metadataVersion
  content : after.localVersion = before.localVersion → after.contentVersion = before.contentVersion

theorem Later.refl (entry : Entry) : Later entry entry := ⟨.refl entry, fun _ => rfl, fun _ => rfl⟩

variable {policy : Policy} {first second third : Entry} {now : Store} {generation : String}

theorem Later.unmoved (before : Later first second) (after : Later second third) (same : third.localVersion = first.localVersion) :
    second.localVersion = first.localVersion ∧ third.localVersion = second.localVersion := by
  have up := before.versions.localVersion
  have down := after.versions.localVersion
  omega

theorem Later.trans (before : Later first second) (after : Later second third) : Later first third := by
  refine ⟨before.versions.trans after.versions, fun same => ?_, fun same => ?_⟩
  · obtain ⟨low, high⟩ := before.unmoved after same
    exact (after.metadata high).trans (before.metadata low)
  · obtain ⟨low, high⟩ := before.unmoved after same
    exact (after.content high).trans (before.content low)

theorem EntryStep.later (guards : Guards) (id : Nat) (before after : Entry) (step : EntryStep guards id before after) :
    Later before after := by
  have both : after.localVersion = before.localVersion →
      after.metadataVersion = before.metadataVersion ∧ after.contentVersion = before.contentVersion := by
    cases step with
    | frame _ same => exact fun _ => ⟨same.metadataVersion, same.contentVersion⟩
    | mark category => cases category <;> simp [Entry.mark, Entry.withChange]
    | _ =>
      simp [Entry.relocate, Entry.confirmUpload, Entry.acknowledge, Entry.confirmDelete, Entry.settle, Entry.adopt,
        Entry.forgetIdentity, Entry.retire, Entry.recreate, Entry.withBothEvents, Entry.deleteCloud,
        Entry.bindIdentity, Entry.keepLocal, Entry.acceptCloud, Entry.admission]
  exact ⟨step.versions_le, fun same => (both same).1, fun same => (both same).2⟩

theorem Moves.later {s t : Store} (moves : Moves policy s t) (id : Nat) (row : Entry) (given : id < s.entries.next)
    (read : t.entries.get id = some row) : ∃ old, s.entries.get id = some old ∧ Later old row :=
  moves.entries.origin (fun _ => Later) (fun _ => .refl)
    (fun id _ _ _ sofar step => sofar.trans (EntryStep.later _ id _ _ step)) id row given read

-- An id still names the entry it named, and no counter of the entry has gone back.
def Store.Precedes (s t : Store) : Prop := s.entries.next ≤ t.entries.next ∧ ∀ id row, id < s.entries.next →
  t.entries.get id = some row → ∃ old, s.entries.get id = some old ∧ Later old row

theorem entries_never_go_back (platform : Platform) (s : Store) (commands : List Command) :
    s.Precedes (run (execute platform) s commands) := by
  refine run_keeps s.Precedes ?_ ⟨Nat.le_refl _, fun _ row _ read => ⟨row, read, .refl row⟩⟩
    (meets_of_forall (fun _ _ _ => trivial))
  intro before command after ⟨grown, sofar⟩ _ done
  have moves := execute_moves done
  refine ⟨Nat.le_trans grown moves.entries.next_le, fun id row given read => ?_⟩
  obtain ⟨middle, found, recent⟩ := moves.later id row (Nat.lt_of_lt_of_le given grown) read
  obtain ⟨old, first, early⟩ := sofar id middle given found
  exact ⟨old, first, early.trans recent⟩

structure Seen (entry : DirtyEntry) (now : Store) : Prop where
  given : entry.entryId < now.entries.next
  later : ∀ row, now.entries.get entry.entryId = some row → Later entry.columns row

structure Between (entry : DirtyEntry) (read now : Store) : Prop where
  given : entry.entryId < now.entries.next
  between : ∀ row, now.entries.get entry.entryId = some row →
    ∃ old, read.entries.get entry.entryId = some old ∧ Later entry.columns old ∧ Later old row

theorem Seen.between {entry : DirtyEntry} (seen : Seen entry now) : Between entry now now :=
  ⟨seen.given, fun row read => ⟨row, read, seen.later row read, .refl row⟩⟩

theorem Seen.moves {entry : DirtyEntry} {s t : Store} (seen : Seen entry s) (moves : Moves policy s t) : Seen entry t := by
  refine ⟨Nat.lt_of_lt_of_le seen.given moves.entries.next_le, fun row read => ?_⟩
  obtain ⟨old, present, later⟩ := moves.later entry.entryId row seen.given read
  exact (seen.later old present).trans later

theorem Between.moves {entry : DirtyEntry} {read s t : Store} (between : Between entry read s) (moves : Moves policy s t) :
    Between entry read t := by
  refine ⟨Nat.lt_of_lt_of_le between.given moves.entries.next_le, fun row found => ?_⟩
  obtain ⟨middle, present, later⟩ := moves.later entry.entryId row between.given found
  obtain ⟨old, first, since, sofar⟩ := between.between middle present
  exact ⟨old, first, since, sofar.trans later⟩

theorem Between.fixed {entry : DirtyEntry} {read : Store} (between : Between entry read now)
    (current : now.uplinkEntryVersion entry.columns.job entry.entryId = some entry.columns.localVersion) :
    ∃ old, read.entries.get entry.entryId = some old ∧ old.metadataVersion = entry.columns.metadataVersion ∧
      old.contentVersion = entry.columns.contentVersion := by
  obtain ⟨row, picked, same⟩ := map_eq_some_iff.mp current
  obtain ⟨present, _⟩ := filter_eq_some_iff.mp picked
  obtain ⟨old, found, since, after⟩ := between.between row present
  obtain ⟨unmoved, _⟩ := since.unmoved after same
  exact ⟨old, found, since.metadata unmoved, since.content unmoved⟩

def Store.metadataVersionOf (s : Store) (entry : Nat) : Option Nat := (s.entries.get entry).map Entry.metadataVersion

def Store.contentVersionOf (s : Store) (entry : Nat) : Option Nat := (s.entries.get entry).map Entry.contentVersion

structure PreparedResources.SameFiles (first second : PreparedResources) : Prop where
  original : first.original.path = second.original.path ∧ first.original.digest = second.original.digest
  thumbnail : first.thumbnail.path = second.thumbnail.path ∧ first.thumbnail.digest = second.thumbnail.digest

theorem PreparedResources.SameFiles.refl (resources : PreparedResources) : resources.SameFiles resources := ⟨⟨rfl, rfl⟩, ⟨rfl, rfl⟩⟩

def Service.Read (service : Service) (operation : Issued) (holds : Reading → Prop) : Prop :=
  ∃ reading ∈ service.readings, reading.operation = operation.id ∧
    reading.columns.localMetadataThen reading.baseline operation.entry = .ok operation.preparation.metadata ∧ holds reading

def Service.Copied (service : Service) (operation : Issued) (resources : PreparedResources) (holds : Snapshot → Prop) : Prop :=
  ∃ snapshot ∈ service.snapshots, snapshot.operation = operation.id ∧ resources.SameFiles snapshot.resources ∧ holds snapshot

def Reading.At (reading : Reading) (entry version : Nat) : Prop :=
  reading.columns.metadataVersionOf entry = some version ∧ reading.baseline.metadataVersionOf entry = some version

def Snapshot.At (snapshot : Snapshot) (entry version : Nat) : Prop :=
  snapshot.original.contentVersionOf entry = some version ∧ snapshot.thumbnail.contentVersionOf entry = some version

structure Service.Grounded (service : Service) (operation : Issued) : Prop where
  metadata : service.Read operation (fun reading => reading.At operation.entry operation.versions.metadataVersion)
  content : ∀ resources, operation.preparation.resources = some resources →
    service.Copied operation resources (fun snapshot => snapshot.At operation.entry operation.versions.contentVersion)
  created : operation.phase = .create → operation.preparation.resources.isSome = true
  composed : operation.phase ≠ .delete → ∀ body, operation.body = some body → ∃ zone, operation.bodyFor zone = .ok body

structure Service.Preparing (service : Service) (entry : DirtyEntry) (operation : Issued) : Prop where
  own : operation.entry = entry.entryId
  versions : operation.versions = entry.columns.versions
  metadata : service.Read operation (fun reading =>
    Between entry reading.columns service.store ∧ Between entry reading.baseline service.store)
  content : ∀ resources, operation.preparation.resources = some resources → service.Copied operation resources
    (fun snapshot => Between entry snapshot.original service.store ∧ Between entry snapshot.thumbnail service.store)
  unsent : operation.phase ≠ .delete → operation.body = none

structure Service.Rendered (service : Service) (entry : DirtyEntry) (phase : UploadPhase)
    (thumbnail : Option (PreparedResource × Store)) : Prop where
  read : ∀ found, thumbnail = some found → Between entry found.2 service.store
  created : phase = .create → thumbnail.isSome = true

def Service.Holds (service : Service) : Activity → Prop
  | .listed entry _ => Seen entry service.store
  | .current entry _ => Seen entry service.store
  | .rendered entry phase thumbnail => Seen entry service.store ∧ service.Rendered entry phase thumbnail
  | .reading entry phase thumbnail columns =>
    Seen entry service.store ∧ service.Rendered entry phase thumbnail ∧ Between entry columns service.store
  | .captured entry thumbnail operation =>
    Seen entry service.store ∧ service.Rendered entry operation.phase thumbnail ∧ service.Preparing entry operation ∧
      operation.preparation.resources = none
  | .prepared entry operation =>
    service.Preparing entry operation ∧ (operation.phase = .create → operation.preparation.resources.isSome = true)
  | .verified operation => service.Grounded operation
  | .executing operation => service.Grounded operation

structure Service.Sound (service : Service) : Prop where
  activities : ∀ activity ∈ service.activities, service.Holds activity
  tasks : service.store.tasks.All (fun task => service.Grounded task.issued)

structure Service.Extends (before after : Service) : Prop where
  moves : ∃ policy, Moves policy before.store after.store
  readings : ∀ reading ∈ before.readings, reading ∈ after.readings
  snapshots : ∀ snapshot ∈ before.snapshots, snapshot ∈ after.snapshots

section Extends
variable {before after : Service}
variable {operation : Issued}

section
variable (extension : before.Extends after)

include extension

theorem Service.Read.extends {holds weaker : Reading → Prop}
    (weaken : ∀ reading, holds reading → weaker reading) (read : before.Read operation holds) :
    after.Read operation weaker := by
  obtain ⟨reading, member, own, values, held⟩ := read
  exact ⟨reading, extension.readings reading member, own, values, weaken reading held⟩

theorem Service.Copied.extends {resources : PreparedResources}
    {holds weaker : Snapshot → Prop} (weaken : ∀ snapshot, holds snapshot → weaker snapshot)
    (copied : before.Copied operation resources holds) : after.Copied operation resources weaker := by
  obtain ⟨snapshot, member, own, files, held⟩ := copied
  exact ⟨snapshot, extension.snapshots snapshot member, own, files, weaken snapshot held⟩

theorem Service.Grounded.extends (grounded : before.Grounded operation) : after.Grounded operation :=
  ⟨grounded.metadata.extends extension (fun _ held => held),
    fun resources prepared => (grounded.content resources prepared).extends extension (fun _ held => held),
    grounded.created, grounded.composed⟩

theorem Service.Preparing.extends {entry : DirtyEntry}
    (preparing : before.Preparing entry operation) : after.Preparing entry operation := by
  obtain ⟨policy, moves⟩ := extension.moves
  refine ⟨preparing.own, preparing.versions, ?_, fun resources prepared => ?_, preparing.unsent⟩
  · exact preparing.metadata.extends extension (fun _ held => ⟨held.1.moves moves, held.2.moves moves⟩)
  · exact (preparing.content resources prepared).extends extension (fun _ held => ⟨held.1.moves moves, held.2.moves moves⟩)

theorem Service.Rendered.extends {entry : DirtyEntry} {phase : UploadPhase}
    {thumbnail : Option (PreparedResource × Store)} (rendered : before.Rendered entry phase thumbnail) :
    after.Rendered entry phase thumbnail := by
  obtain ⟨policy, moves⟩ := extension.moves
  exact ⟨fun found same => (rendered.read found same).moves moves, rendered.created⟩

theorem Service.Holds.extends (activity : Activity) (holds : before.Holds activity) : after.Holds activity := by
  obtain ⟨policy, moves⟩ := extension.moves
  cases activity with
  | listed | current => exact Seen.moves holds moves
  | rendered => exact ⟨holds.1.moves moves, holds.2.extends extension⟩
  | reading =>
    exact ⟨holds.1.moves moves, holds.2.1.extends extension, holds.2.2.moves moves⟩
  | captured =>
    exact ⟨holds.1.moves moves, holds.2.1.extends extension, holds.2.2.1.extends extension, holds.2.2.2⟩
  | prepared => exact ⟨holds.1.extends extension, holds.2⟩
  | verified | executing => exact Service.Grounded.extends extension holds

end
end Extends

section Steps
variable {before after : Service}

theorem Service.Sound.extends (sound : before.Sound) (extension : before.Extends after)
    (activities : ∀ activity ∈ after.activities, activity ∈ before.activities ∨ after.Holds activity)
    (tasks : after.store.tasks.All (fun task => after.Grounded task.issued)) : after.Sound := by
  refine ⟨fun activity member => ?_, tasks⟩
  rcases activities activity member with old | new
  · exact Service.Holds.extends extension activity (sound.activities activity old)
  · exact new

theorem Service.Sound.tasks_moves (sound : before.Sound) (extension : before.Extends after)
    (moves : Moves policy before.store after.store) (saved : ∀ issued, policy.save issued → after.Grounded issued) :
    after.store.tasks.All (fun task => after.Grounded task.issued) := by
  have born : ∀ task, (taskRules policy.save).born task → after.Grounded task.issued := fun task fresh => saved _ fresh.1
  refine moves.tasks.all _ born (fun _ first second step held => ?_)
    (fun id task read => (sound.tasks id task read).extends extension)
  cases step with
  | frame _ same =>
    rw [same.issued]
    exact held
  | rewrite issued _ _ allowed => exact saved issued allowed

theorem Service.Sound.quiet (sound : before.Sound) (extension : before.Extends after) (store : after.store = before.store)
    (activities : ∀ activity ∈ after.activities, activity ∈ before.activities ∨ after.Holds activity) : after.Sound := by
  refine sound.extends extension activities (fun id task read => ?_)
  rw [store] at read
  exact (sound.tasks id task read).extends extension

theorem Service.Sound.proceed (sound : before.Sound) (extension : before.Extends after) (index : Nat) (activity : Activity)
    (store : after.store = before.store) (activities : after.activities = before.activities.set index activity)
    (holds : after.Holds activity) : after.Sound := by
  refine sound.quiet extension store (fun other member => ?_)
  rw [activities] at member
  rcases mem_or_eq_of_mem_set member with old | rfl
  · exact .inl old
  · exact .inr holds

theorem Service.Extends.uploads (service : Service) (activities : List Activity) :
    service.Extends { service with activities := activities } :=
  ⟨⟨.none, .refl⟩, fun _ member => member, fun _ member => member⟩

theorem Service.Sound.become (sound : before.Sound) (index : Nat) (activity : Activity)
    (holds : (before.become index activity).Holds activity) : (before.become index activity).Sound :=
  sound.proceed (.uploads before _) index activity rfl rfl holds

theorem Service.Sound.join (sound : before.Sound) (activity : Activity) (holds : before.Holds activity) :
    Service.Sound { before with activities := before.activities ++ [activity] } := by
  refine sound.quiet (.uploads before _) rfl (fun other member => ?_)
  rcases mem_append.mp member with old | new
  · exact .inl old
  · rw [mem_singleton] at new
    rw [new]
    exact .inr (Service.Holds.extends (.uploads before _) activity holds)

theorem Service.Sound.saveAs (sound : before.Sound) (index : Nat) (epoch : Epoch) (operation : Issued)
    (grounded : before.Grounded operation) (done : before.saveAs index epoch operation = .ok after) : after.Sound := by
  obtain ⟨store, saved, rest⟩ := bind_ok.mp done
  cases rest
  have moves : Moves { Policy.none with save := fun stored => stored = operation } before.store store :=
    (saveIssued_steps rfl saved).toMoves
  have extension : before.Extends { before.become index (.executing operation) with store := store } :=
    ⟨⟨_, moves⟩, fun _ member => member, fun _ member => member⟩
  refine sound.extends extension (fun other member => ?_) (sound.tasks_moves extension moves (fun issued same => ?_))
  · rcases mem_or_eq_of_mem_set member with old | rfl
    · exact .inl old
    · exact .inr (grounded.extends extension)
  · rw [same]
    exact grounded.extends extension

end Steps

section Upload
variable {service after : Service}

theorem DirtyEntry.issue_preparing (entry : DirtyEntry) (phase : UploadPhase) (names : Names) (config : Nat)
    (generation : String) (metadata : LocalMetadata) (zone : ZoneId) :
    let operation := entry.issue phase names config generation metadata zone
    operation.entry = entry.entryId ∧ operation.versions = entry.columns.versions ∧ operation.phase = phase ∧
      operation.preparation.metadata = metadata ∧ operation.preparation.resources = none ∧
      (phase ≠ .delete → operation.body = none) := by
  unfold DirtyEntry.issue
  by_cases delete : phase = .delete
  · simp [delete, DirtyEntry.operation]
  · simp [delete, DirtyEntry.operation]

theorem capture_sound (sound : service.Sound) {index : Nat} {names : Names} {config : Nat} {zone : ZoneId}
    {platform : Platform} (done : service.perform platform (.capture index names config generation zone) = .ok after) :
    after.Sound := by
  simp only [Service.perform] at done
  split at done
  · next entry phase thumbnail columns found =>
    obtain ⟨metadata, read, _, _, rest⟩ := bind2_ok done
    cases rest
    obtain ⟨seen, rendered, between⟩ := sound.activities _ (mem_of_getElem? found)
    obtain ⟨own, versions, same, values, resources, unsent⟩ := entry.issue_preparing phase names config generation metadata zone
    generalize entry.issue phase names config generation metadata zone = operation at *
    have extension : service.Extends { service.become index (.captured entry thumbnail operation) with
        readings := ⟨operation.id, columns, service.store⟩ :: service.readings } :=
      ⟨⟨.none, .refl⟩, fun _ member => mem_cons_of_mem _ member, fun _ member => member⟩
    refine sound.proceed extension index _ rfl rfl ⟨seen, ?_, ⟨own, versions, ?_, ?_, ?_⟩, resources⟩
    · rw [same]
      exact rendered.extends extension
    · exact ⟨_, mem_cons_self, rfl, by rw [own, values]; exact read, between, seen.between⟩
    · rw [resources]
      nofun
    · rw [same]
      exact unsent
  · cases done

theorem snapshot_sound (sound : service.Sound) {index : Nat} {path : String} {digest : ContentDigest}
    {platform : Platform} (done : service.perform platform (.snapshot index path digest generation) = .ok after) :
    after.Sound := by
  simp only [Service.perform] at done
  split at done
  · next entry thumbnail taken operation found =>
    cases done
    obtain ⟨seen, rendered, preparing, _⟩ := sound.activities _ (mem_of_getElem? found)
    generalize made : PreparedResources.mk ⟨path, digest, none, none⟩ thumbnail = resources
    have extension : service.Extends { service.become index (.prepared entry (operation.withResources generation resources)) with
        snapshots := ⟨operation.id, service.store, taken, resources⟩ :: service.snapshots } :=
      ⟨⟨.none, .refl⟩, fun _ member => member, fun _ member => mem_cons_of_mem _ member⟩
    refine sound.proceed extension index _ rfl rfl ⟨⟨preparing.own, preparing.versions, ?_, ?_, preparing.unsent⟩, fun _ => rfl⟩
    · exact preparing.metadata.extends extension (fun _ held => held)
    · intro _ same
      cases same
      exact ⟨_, mem_cons_self, rfl, .refl _, seen.between, rendered.read _ rfl⟩
  · cases done

variable {operation : Issued}

theorem Service.Preparing.grounded {entry : DirtyEntry} (preparing : service.Preparing entry operation)
    (created : operation.phase = .create → operation.preparation.resources.isSome = true)
    (current : service.store.uplinkEntryVersion entry.columns.job entry.entryId = some entry.columns.localVersion) :
    service.Grounded operation := by
  have fixed : ∀ read, Between entry read service.store →
      read.metadataVersionOf operation.entry = some operation.versions.metadataVersion ∧
      read.contentVersionOf operation.entry = some operation.versions.contentVersion := by
    intro read between
    obtain ⟨old, found, metadata, content⟩ := between.fixed current
    rw [preparing.own, preparing.versions]
    exact ⟨by simp [metadataVersionOf, found, metadata, Entry.versions],
      by simp [contentVersionOf, found, content, Entry.versions]⟩
  refine ⟨?_, fun resources prepared => ?_, created, fun upload body composed => ?_⟩
  · obtain ⟨reading, member, own, values, columns, baseline⟩ := preparing.metadata
    exact ⟨reading, member, own, values, (fixed _ columns).1, (fixed _ baseline).1⟩
  · obtain ⟨snapshot, member, own, files, original, thumbnail⟩ := preparing.content resources prepared
    exact ⟨snapshot, member, own, files, (fixed _ original).2, (fixed _ thumbnail).2⟩
  · rw [preparing.unsent upload] at composed
    cases composed

theorem Service.Grounded.changeResource (grounded : service.Grounded operation) (unsent : operation.body = none)
    (role : AssetRole) (rewrite : PreparedResource → PreparedResource)
    (same : ∀ resource, (rewrite resource).path = resource.path ∧ (rewrite resource).digest = resource.digest) :
    service.Grounded (operation.changeResource role rewrite) := by
  refine ⟨grounded.metadata, fun resources prepared => ?_, fun create => ?_, fun _ body composed => ?_⟩
  · obtain ⟨old, present, rfl⟩ := map_eq_some_iff.mp prepared
    obtain ⟨snapshot, member, own, files, held⟩ := grounded.content old present
    refine ⟨snapshot, member, own, ?_, held⟩
    cases role with
    | original =>
      exact ⟨⟨(same _).1.trans files.original.1, (same _).2.trans files.original.2⟩, files.thumbnail⟩
    | thumbnail =>
      exact ⟨files.original, ⟨(same _).1.trans files.thumbnail.1, (same _).2.trans files.thumbnail.2⟩⟩
  · exact (isSome_map ..).trans (grounded.created create)
  · cases unsent.symm.trans composed

theorem Service.Grounded.compose (grounded : service.Grounded operation) (zone : ZoneId) (body : RequestBody)
    (made : operation.bodyFor zone = .ok body) : service.Grounded { operation with body := some body } := by
  refine ⟨grounded.metadata, grounded.content, grounded.created, fun _ sent same => ?_⟩
  cases same
  exact ⟨zone, made⟩

theorem perform_sound {platform : Platform} {event : ServiceEvent} (sound : service.Sound)
    (done : service.perform platform event = .ok after) : after.Sound := by
  cases event with
  | elsewhere =>
    obtain ⟨_, foreign, store, executed, rest⟩ := bind2_ok done
    cases rest
    rw [ensure_ok] at foreign
    have moves := execute_moves executed
    have extension : service.Extends { service with store := store } := ⟨⟨_, moves⟩, fun _ member => member, fun _ member => member⟩
    refine sound.extends extension (fun _ member => .inl member) (sound.tasks_moves extension moves (fun issued saved => ?_))
    obtain ⟨epoch, rfl⟩ := policyOf_save saved
    simp [belongsToUpload] at foreign
  | list =>
    obtain ⟨row, found, _, _, rest⟩ := bind2_ok done
    cases rest
    rw [requireRow_ok] at found
    refine sound.join _ ⟨lt_next found, fun current read => ?_⟩
    cases found.symm.trans read
    exact .refl row
  | check index =>
    simp only [Service.perform] at done
    split at done
    · next entry phase found =>
      obtain ⟨_, _, rest⟩ := bind_ok.mp done
      cases rest
      exact sound.become index _ (sound.activities _ (mem_of_getElem? found))
    · cases done
  | render index =>
    simp only [Service.perform] at done
    split at done
    · next entry phase found =>
      obtain ⟨_, _, rest⟩ := bind_ok.mp done
      cases rest
      have seen : Seen entry service.store := sound.activities _ (mem_of_getElem? found)
      refine sound.become index _ ⟨seen, fun taken same => ?_, fun _ => rfl⟩
      cases same
      exact seen.between
    · cases done
  | skipContent index =>
    simp only [Service.perform] at done
    split at done
    · next entry phase found =>
      obtain ⟨_, idle, rest⟩ := bind_ok.mp done
      cases rest
      rw [ensure_ok] at idle
      refine sound.become index _ ⟨sound.activities _ (mem_of_getElem? found), nofun, fun create => ?_⟩
      simp [DirtyEntry.contentDue, create] at idle
    · cases done
  | readColumns index =>
    simp only [Service.perform] at done
    split at done
    · next entry phase thumbnail found =>
      cases done
      obtain ⟨seen, rendered⟩ := sound.activities _ (mem_of_getElem? found)
      exact sound.become index _ ⟨seen, ⟨rendered.read, rendered.created⟩, seen.between⟩
    · cases done
  | capture => exact capture_sound sound done
  | snapshot => exact snapshot_sound sound done
  | keepContent index =>
    simp only [Service.perform] at done
    split at done
    · next entry operation found =>
      cases done
      obtain ⟨_, rendered, preparing, _⟩ := sound.activities _ (mem_of_getElem? found)
      refine sound.become index _ ⟨preparing.extends (.uploads service _), fun create => ?_⟩
      cases rendered.created create
    · cases done
  | verify index =>
    simp only [Service.perform] at done
    split at done
    · next entry operation found =>
      obtain ⟨_, current, rest⟩ := bind_ok.mp done
      cases rest
      rw [ensure_ok, beq_iff_eq] at current
      obtain ⟨preparing, created⟩ := sound.activities _ (mem_of_getElem? found)
      exact sound.become index _ ((preparing.grounded created current).extends (.uploads service _))
    · cases done
  | save index epoch =>
    simp only [Service.perform] at done
    split at done
    · next operation found =>
      exact sound.saveAs index epoch operation (sound.activities _ (mem_of_getElem? found)) done
    · cases done
  | resume task =>
    obtain ⟨row, found, _, _, rest⟩ := bind2_ok done
    cases rest
    rw [requireRow_ok] at found
    exact sound.join _ (sound.tasks task row found)
  | reserve index epoch role | publish index epoch role =>
    simp only [Service.perform] at done
    split at done
    · next operation found =>
      obtain ⟨_, unsent, rest⟩ := bind_ok.mp done
      rw [ensure_ok, isNone_iff_eq_none] at unsent
      have grounded : service.Grounded operation := sound.activities _ (mem_of_getElem? found)
      refine sound.saveAs index epoch _ ?_ rest
      exact grounded.changeResource unsent role _ (fun _ => ⟨rfl, rfl⟩)
    · cases done
  | compose index epoch zone =>
    simp only [Service.perform] at done
    split at done
    · next operation found =>
      obtain ⟨_, _, body, made, rest⟩ := bind2_ok done
      have grounded : service.Grounded operation := sound.activities _ (mem_of_getElem? found)
      exact sound.saveAs index epoch _ (grounded.compose zone body made) rest
    · cases done
  | confirm index epoch response leaseHeld =>
    simp only [Service.perform] at done
    split at done
    · next operation found =>
      obtain ⟨store, confirmed, rest⟩ := bind_ok.mp done
      cases rest
      have executed : (Command.confirm epoch operation response leaseHeld).execute platform service.store = .ok store := confirmed
      have moves := execute_moves executed
      have extension : service.Extends { service with store := store } := ⟨⟨_, moves⟩, fun _ member => member, fun _ member => member⟩
      refine sound.extends extension (fun _ member => .inl member)
        (sound.tasks_moves extension moves (fun issued saved => False.elim saved))
    · cases done
  | abandon =>
    cases done
    exact sound.quiet (.uploads service _) rfl (fun _ member => .inl (mem_of_mem_eraseIdx member))

end Upload

theorem sound_empty : Service.empty.Sound := by
  refine ⟨fun _ member => ?_, fun id task read => ?_⟩
  · cases member
  · cases read

theorem run_sound (platform : Platform) (events : List ServiceEvent) : (run (Service.perform platform) .empty events).Sound := by
  refine run_keeps Service.Sound ?_ sound_empty (meets_of_forall (fun _ _ _ => trivial))
  intro before event after sound _ done
  exact perform_sound sound done

theorem stored_operations_are_grounded (platform : Platform) (events : List ServiceEvent) :
    (run (Service.perform platform) .empty events).store.tasks.All
      (fun task => (run (Service.perform platform) .empty events).Grounded task.issued) :=
  (run_sound platform events).tasks

section Confirm
variable (s t : Store) (epoch : Epoch) (operation : Issued) (response : Option (List ConfirmedRecord)) (leaseHeld : Bool)

theorem confirmEntry_others (records : List ConfirmedRecord) (generation : String) (id : Nat)
    (other : id ≠ operation.entry) (done : s.confirmEntry operation records generation = .ok t) :
    t.entries.get id = s.entries.get id := by
  obtain ⟨_, rfl, _⟩ := confirmEntry_eq done
  exact get_modify_of_ne other

theorem confirmBaseline_others (records : List ConfirmedRecord) (id : Nat) (other : id ≠ operation.entry)
    (done : s.confirmBaseline epoch operation records = .ok t) : t.entries.get id = s.entries.get id := by
  obtain ⟨_, _, rfl⟩ := confirmBaseline_eq done
  exact get_modify_of_ne other

theorem confirm_others {id : Nat} (other : id ≠ operation.entry) {row : Entry} (read : t.entries.get id = some row)
    (done : s.confirm epoch operation response leaseHeld = .ok t) :
    ∃ old, s.entries.get id = some old ∧ row = { old with media := row.media } := by
  obtain ⟨records, generation, entered, based, _, _, _, _, bound, baseline, rfl⟩ := confirm_ok done
  have first : entered.entries.get id = s.entries.get id := confirmEntry_others _ _ _ _ _ id other bound
  have kept : based.entries.get id = s.entries.get id := (confirmBaseline_others _ _ _ _ _ id other baseline).trans first
  have sofar : ((based.confirmMedia operation).confirmTask operation).entries.get id = s.entries.get id :=
    (congrArg (fun table => table.get id) (updateEntryMedia_entries based _ _)).trans kept
  unfold confirmCleanup at read
  split at read
  · obtain ⟨link, dropped⟩ := dropCloudRow_entry ((based.confirmMedia operation).confirmTask operation) ((((
      (based.confirmMedia operation).confirmTask operation).entries.get operation.entry).filter
        (settledDeletion operation)).bind Entry.media) id
    have remains := (get_delete _ _ id).symm.trans read
    rw [filter_eq_some_iff, dropped, sofar] at remains
    obtain ⟨old, present, rfl⟩ := map_eq_some_iff.mp remains.1
    exact ⟨old, present, rfl⟩
  · exact ⟨row, sofar.symm.trans read, rfl⟩

theorem confirm_raises {entry : Nat} {row acked : Entry} (before : s.entries.get entry = some row)
    (after : t.entries.get entry = some acked) (done : s.confirm epoch operation response leaseHeld = .ok t) :
    (row.ackedMetadataVersion < acked.ackedMetadataVersion → entry = operation.entry ∧ operation.phase ≠ .delete ∧
      operation.metadataSent = true ∧ acked.ackedMetadataVersion = operation.versions.metadataVersion) ∧
    (row.ackedContentVersion < acked.ackedContentVersion → entry = operation.entry ∧ operation.phase ≠ .delete ∧
      operation.contentSent = true ∧ acked.ackedContentVersion = operation.versions.contentVersion) := by
  have raised : ∀ (sent : Bool) (old version : Nat), old < max old (if sent = true then version else 0) →
      sent = true ∧ max old (if sent = true then version else 0) = version := by
    intro sent old version more
    cases sent with
    | false => simp at more
    | true =>
      rw [if_pos rfl] at more ⊢
      exact ⟨rfl, by omega⟩
  by_cases own : entry = operation.entry
  · by_cases delete : operation.phase = .delete
    · rw [own] at before after
      rw [confirm_delete_entry s t epoch operation response leaseHeld delete before done] at after
      split at after
      · cases after
      · cases after
        exact ⟨fun more => absurd more (Nat.lt_irrefl _), fun more => absurd more (Nat.lt_irrefl _)⟩
    · rw [own] at before after
      obtain ⟨_, _, _, _, now⟩ := confirm_upload_entry delete before done
      cases now.symm.trans after
      exact ⟨fun more => ⟨own, delete, raised _ _ _ more⟩, fun more => ⟨own, delete, raised _ _ _ more⟩⟩
  · obtain ⟨old, present, same⟩ := confirm_others s t epoch operation response leaseHeld own after done
    cases before.symm.trans present
    rw [same]
    exact ⟨fun more => absurd more (Nat.lt_irrefl _), fun more => absurd more (Nat.lt_irrefl _)⟩

theorem confirm_composed (done : s.confirm epoch operation response leaseHeld = .ok t) : ∃ body, operation.body = some body := by
  obtain ⟨records, _, _, _, _, _, _, batch, _⟩ := confirm_ok done
  unfold confirmsBatch at batch
  split at batch
  · cases batch
  · next body same => exact ⟨body, same⟩

end Confirm

-- The request carries the metadata of the operation, and the values were read
-- at exactly the given version of its entry.
def Service.SentMetadata (service : Service) (operation : Issued) (version : Nat) : Prop :=
  (∃ body, operation.body = some body ∧ body.CarriesMetadata operation) ∧
    service.Read operation (fun reading => reading.At operation.entry version)

-- The request carries the resources of the operation, and the files were read
-- at exactly the given version of its entry.
def Service.SentContent (service : Service) (operation : Issued) (version : Nat) : Prop :=
  ∃ resources, operation.preparation.resources = some resources ∧
    (∃ body, operation.body = some body ∧ body.CarriesContent operation resources) ∧
    service.Copied operation resources (fun snapshot => snapshot.At operation.entry version)

theorem only_what_was_sent_is_acknowledged (platform : Platform) (events : List ServiceEvent) (index : Nat)
    (epoch : Epoch) (response : Option (List ConfirmedRecord)) (leaseHeld : Bool) (operation : Issued) (after : Service)
    (entry : Nat) (row acked : Entry)
    (executing : (run (Service.perform platform) .empty events).activities[index]? = some (.executing operation))
    (done : (run (Service.perform platform) .empty events).perform platform (.confirm index epoch response leaseHeld) = .ok after)
    (before : (run (Service.perform platform) .empty events).store.entries.get entry = some row)
    (now : after.store.entries.get entry = some acked) :
    (row.ackedMetadataVersion < acked.ackedMetadataVersion →
      entry = operation.entry ∧ after.SentMetadata operation acked.ackedMetadataVersion) ∧
    (row.ackedContentVersion < acked.ackedContentVersion →
      entry = operation.entry ∧ after.SentContent operation acked.ackedContentVersion) := by
  have sound := run_sound platform events
  generalize run (Service.perform platform) .empty events = service at *
  have grounded : service.Grounded operation := sound.activities _ (List.mem_of_getElem? executing)
  simp only [Service.perform, executing] at done
  obtain ⟨store, confirmed, rest⟩ := bind_ok.mp done
  cases rest
  obtain ⟨body, same⟩ := confirm_composed _ _ _ _ _ _ confirmed
  obtain ⟨metadata, content⟩ := confirm_raises _ _ _ _ _ _ before now confirmed
  constructor
  · intro more
    obtain ⟨own, upload, sent, version⟩ := metadata more
    obtain ⟨zone, made⟩ := grounded.composed upload body same
    refine ⟨own, ⟨body, same, operation.bodyFor_metadata made sent⟩, ?_⟩
    rw [version]
    exact grounded.metadata
  · intro more
    obtain ⟨own, upload, sent, version⟩ := content more
    obtain ⟨zone, made⟩ := grounded.composed upload body same
    have present : operation.preparation.resources.isSome = true := by
      rcases Bool.or_eq_true_iff.mp sent with create | resources
      · exact grounded.created (beq_iff_eq.mp create)
      · exact resources
    obtain ⟨resources, prepared⟩ := Option.isSome_iff_exists.mp present
    refine ⟨own, resources, prepared, ⟨body, same, operation.bodyFor_content made prepared⟩, ?_⟩
    rw [version]
    exact grounded.content resources prepared

namespace Sample

def uploading : List ServiceEvent := (opening ++ [Command.noteLocalChange 1 .metadata stamp]).map ServiceEvent.elsewhere ++
    [.list 1 .create, .check 0, .render 0 "t" digest, .readColumns 0,
      .capture 0 ⟨"operation", "photo", "master", "content"⟩ 1 "generation" zone, .snapshot 0 "o" digest "content",
      .verify 0, .save 0 epoch, .reserve 0 epoch .original "session", .publish 0 epoch .original asset,
      .publish 0 epoch .thumbnail asset, .compose 0 epoch zone]

def accepted (sent : RecordOperation) : ConfirmedRecord :=
  ⟨⟨sent.record.recordName, sent.record.recordType, none, some "1", some sent.record.fields, none, false⟩, false⟩

def atRequest : Service := run (Service.perform platform) .empty uploading

def request : List RecordOperation :=
  match atRequest.activities.head? with
  | some (.executing operation) => (operation.body.map RequestBody.operations).getD []
  | _ => []

def answered : ServiceEvent := .confirm 0 epoch (some (request.map accepted)) true

def executes : Activity → Bool
  | .executing _ => true
  | _ => false

end Sample

theorem first_upload_acknowledges_what_it_sent : ∃ operation after,
    Sample.atRequest.perform Sample.platform Sample.answered = .ok after ∧
      after.SentMetadata operation 1 ∧ after.SentContent operation 1 := by
  have sent : Sample.atRequest.activities.head?.any Sample.executes = true := by decide +kernel
  have done := ok_of_isOk (Service.perform Sample.platform) Sample.atRequest Sample.answered (by decide +kernel)
  have before : (Sample.atRequest.store.entries.get 1).any (fun row =>
    row.ackedMetadataVersion == 0 && row.ackedContentVersion == 0) = true := by decide +kernel
  have now : ((step (Service.perform Sample.platform) Sample.atRequest Sample.answered).store.entries.get 1).any (fun row =>
    row.ackedMetadataVersion == 1 && row.ackedContentVersion == 1) = true := by decide +kernel
  obtain ⟨activity, head, executing⟩ := (Option.any_eq_true _ _).mp sent
  obtain ⟨row, read, unsent⟩ := (Option.any_eq_true _ _).mp before
  obtain ⟨acked, found, raised⟩ := (Option.any_eq_true _ _).mp now
  simp only [Bool.and_eq_true, beq_iff_eq] at unsent raised
  unfold Sample.executes at executing
  split at executing
  · next operation =>
    obtain ⟨metadata, content⟩ := only_what_was_sent_is_acknowledged Sample.platform Sample.uploading 0 Sample.epoch
      (some (Sample.request.map Sample.accepted)) true operation _ 1 row acked
      (List.head?_eq_getElem? ▸ head) done read found
    rw [unsent.1, raised.1] at metadata
    rw [unsent.2, raised.2] at content
    exact ⟨operation, _, done, (metadata Nat.one_pos).2, (content Nat.one_pos).2⟩
  · cases executing

end PhotoSync
