import PhotoSync.Lib.Evolve
import PhotoSync.Store.Entry
import PhotoSync.Store.Paths

set_option autoImplicit false

namespace PhotoSync
open Relational

-- Rows an operation may add: no history, and work to do only without identity.
structure EntryBorn (entry : Entry) : Prop where
  active : entry.retired = false
  work : entry.dirty = .clean ∨ entry.dirty = .new ∧ entry.photoId = none
  localVersion : entry.localVersion = 0
  metadataVersion : entry.metadataVersion = 0
  contentVersion : entry.contentVersion = 0
  deletionVersion : entry.deletionVersion = 0
  ackedMetadata : entry.ackedMetadataVersion = 0
  ackedContent : entry.ackedContentVersion = 0
  ackedDeletion : entry.ackedDeletionVersion = 0

-- A change that leaves every obligation column alone: links, revisions, digests, baselines and diagnostics.
structure Frame (before after : Entry) : Prop where
  job : after.job = before.job
  path : after.relativePath = before.relativePath
  retired : after.retired = before.retired
  dirty : after.dirty = before.dirty
  localVersion : after.localVersion = before.localVersion
  metadataVersion : after.metadataVersion = before.metadataVersion
  contentVersion : after.contentVersion = before.contentVersion
  deletionVersion : after.deletionVersion = before.deletionVersion
  ackedMetadata : after.ackedMetadataVersion = before.ackedMetadataVersion
  ackedContent : after.ackedContentVersion = before.ackedContentVersion
  ackedDeletion : after.ackedDeletionVersion = before.ackedDeletionVersion
  photoId : after.photoId = before.photoId

theorem Frame.refl (entry : Entry) : Frame entry entry := by
  constructor <;> rfl

structure SettleGuard (decision : Entry.Settlement) (entry : Entry) : Prop where
  identity : entry.photoId = none ∨ entry.photoId = some decision.photo.photoId
  delete : decision.keepDelete = true ↔ entry.dirty = .delete
  deleteKeeps : decision.keepDelete = true → decision.keepContent = true
  metadata : decision.preserveMetadata = true → entry.metadataPending = true ∧ entry.photoId ≠ none
  content : decision.keepContent = true →
    (entry.dirty = .delete ∨ entry.contentPending = true ∨ entry.dirty = .new) ∧ entry.photoId ≠ none

-- Where a change of an entry depends on more than the row, the transaction that makes it names the condition it met.
structure Guards where
  confirm : Nat → Issued → Entry → Prop
  confirmDelete : Nat → Issued → Entry → Prop
  forget : Nat → Entry → Prop
  admission : Nat → RemotePhoto → Entry → Prop
  retire : Nat → Entry → Prop
  rename : Nat → String → Entry → Prop
  rebind : Nat → Prop

-- The life of one entry. Every change of an obligation column by any operation of the store is one of these.
inductive EntryStep (guards : Guards) (id : Nat) : Entry → Entry → Prop where
  | frame (before after : Entry) (same : Frame before after) : EntryStep guards id before after
  | rename (entry : Entry) (path : String) (allowed : guards.rename id path entry) :
    EntryStep guards id entry { entry with relativePath := path }
  | relocate (entry : Entry) (path : String) (allowed : guards.rename id path entry) : EntryStep guards id entry (entry.relocate path)
  | mark (entry : Entry) (category : ChangeCategory) (stamp : EditEvent)
    (active : entry.retired = true → category = .deletion) : EntryStep guards id entry (entry.mark category stamp)
  | confirmUpload (entry : Entry) (operation : Issued) (assetRevision masterRevision : Option String)
    (generation : String) (upload : operation.phase ≠ .delete) (allowed : guards.confirm id operation entry) :
    EntryStep guards id entry (entry.confirmUpload operation assetRevision masterRevision generation)
  | confirmDelete (entry : Entry) (operation : Issued) (delete : operation.phase = .delete)
    (allowed : guards.confirmDelete id operation entry) :
    EntryStep guards id entry (entry.confirmDelete operation.versions)
  | settle (entry : Entry) (decision : Entry.Settlement) (guard : SettleGuard decision entry) :
    EntryStep guards id entry (entry.settle decision)
  | adopt (entry : Entry) (media : Nat) (photo : RemotePhoto) (assetRevision masterRevision generation : String)
    (unbound : entry.photoId = none) (kept : entry.dirty ≠ .delete) :
    EntryStep guards id entry (entry.adopt media photo assetRevision masterRevision generation)
  | forget (entry : Entry) (allowed : guards.forget id entry) : EntryStep guards id entry entry.forgetIdentity
  | retire (entry : Entry) (kept : entry.dirty ≠ .delete) (allowed : guards.retire id entry) : EntryStep guards id entry entry.retire
  | recreate (entry : Entry) (stamp : EditEvent) (unbound : entry.photoId = none) (kept : entry.dirty ≠ .delete) :
    EntryStep guards id entry (entry.recreate stamp)
  | deleteCloud (entry : Entry) (stamp : EditEvent) : EntryStep guards id entry (entry.deleteCloud stamp)
  | keepLocal (entry : Entry) (photo : RemotePhoto) (assetRevision masterRevision : String) (stamp : EditEvent)
    (kept : entry.dirty ≠ .delete) (decided : guards.rebind id) :
    EntryStep guards id entry ((entry.bindIdentity photo assetRevision masterRevision).keepLocal stamp)
  | useCloud (entry : Entry) (assetRevision masterRevision : String) (decision : Entry.Settlement)
    (kept : entry.dirty ≠ .delete)
    (guard : SettleGuard decision (entry.bindIdentity decision.photo assetRevision masterRevision).acceptCloud)
    (decided : guards.rebind id) :
    EntryStep guards id entry
      ((entry.bindIdentity decision.photo assetRevision masterRevision).acceptCloud.settle decision)
  | admission (entry : Entry) (media : Nat) (photo : RemotePhoto) (assetRevision masterRevision : String)
    (generation : Option String) (path : String) (allowed : guards.admission id photo entry)
    (renamed : guards.rename id path entry) :
    EntryStep guards id entry (entry.admission media photo assetRevision masterRevision generation path)

def entryRules (guards : Guards) (gone : Nat → Entry → Prop) : Rules Entry := ⟨EntryBorn, EntryStep guards, gone⟩

structure VersionsLe (before after : Entry) : Prop where
  localVersion : before.localVersion ≤ after.localVersion
  metadataVersion : before.metadataVersion ≤ after.metadataVersion
  contentVersion : before.contentVersion ≤ after.contentVersion
  deletionVersion : before.deletionVersion ≤ after.deletionVersion

theorem VersionsLe.refl (entry : Entry) : VersionsLe entry entry := ⟨Nat.le_refl _, Nat.le_refl _, Nat.le_refl _, Nat.le_refl _⟩

theorem VersionsLe.trans {first second third : Entry} (before : VersionsLe first second)
    (after : VersionsLe second third) : VersionsLe first third :=
  ⟨Nat.le_trans before.localVersion after.localVersion, Nat.le_trans before.metadataVersion after.metadataVersion,
    Nat.le_trans before.contentVersion after.contentVersion, Nat.le_trans before.deletionVersion after.deletionVersion⟩

theorem EntryStep.versions_le {guards : Guards} {id : Nat} {before after : Entry}
    (step : EntryStep guards id before after) : VersionsLe before after := by
  cases step with
  | frame _ same =>
    exact ⟨Nat.le_of_eq same.localVersion.symm, Nat.le_of_eq same.metadataVersion.symm,
      Nat.le_of_eq same.contentVersion.symm, Nat.le_of_eq same.deletionVersion.symm⟩
  | mark category => cases category <;> constructor <;> simp [Entry.mark, Entry.withChange]
  | _ =>
    constructor <;>
      simp [Entry.relocate, Entry.confirmUpload, Entry.acknowledge, Entry.confirmDelete, Entry.settle, Entry.adopt,
        Entry.forgetIdentity, Entry.retire, Entry.recreate, Entry.withBothEvents, Entry.deleteCloud,
        Entry.bindIdentity, Entry.keepLocal, Entry.acceptCloud, Entry.admission]

end PhotoSync
