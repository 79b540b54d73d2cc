import PhotoSync.Store.Configuration
import PhotoSync.Store.Promotion
import PhotoSync.Store.Publication
import PhotoSync.Store.Runtime

set_option autoImplicit false

namespace PhotoSync
open Relational Transaction

-- The writes of the database actor: the local library's own mutations, the configuration writes, the receive and
-- publication writes, and the runtime commands. Clocks, stamps, random identifiers, lease checks and answers of the
-- system trash are parameters.
inductive Command where
  | noteLocalChange (media : Nat) (category : ChangeCategory) (stamp : EditEvent)
  | upsertMediaItems (items : List (NewMediaItem × EditEvent))
  | insertMediaItem (item : NewMediaItem)
  | setFavorite (ids : List Nat) (favorite : Bool) (stamp : EditEvent)
  | markTrashed (id : Nat) (now : Int)
  | rollbackTrashed (id : Nat)
  | commitMovedToTrash (ids : List (Nat × EditEvent))
  | restoreTrashed (ids : List (Nat × EditEvent))
  | deleteTrashedRows (ids : List (Nat × EditEvent))
  | deleteLiveMediaByPaths (removed : List Store.Vanished)
  | deleteLiveMediaUnderFolders (vanished : List Store.Vanished)
  | deleteLiveMediaByFolder (folder : String)
  | deleteMediaRow (id : Nat)
  | resetLibraryDatabase
  | resetAccountData
  | updateMediaLocation (id : Nat) (path folder : String) (mtime : Int) (stamp : EditEvent)
  | updateMediaEditMetadata (id : Nat) (item : NewMediaItem) (stamp : EditEvent)
  | createJob (job : NewSyncJob)
  | setJobPaused (id : Nat) (paused : Bool)
  | deleteJob (id : Nat)
  | setUploadAlbums (id : Nat) (albums : List String)
  | queueEdit (id : Nat) (edit : JobEdit)
  | applyChange (id revision : Nat)
  | beginReset (token : String)
  | failReset (token error : String)
  | finishReset (token : String)
  | resumeLocalChanges
  | clearAccount
  | selectAccount (job : Option Nat)
  | beginReceive (job : Nat) (zoneNamespace : NativeNamespace) (generation scope zoneName owner : String)
  | pinSnapshot (job : Nat) (snapshot zoneToken : String)
  | saveBootstrapPage (job : Nat) (recordType : String) (marker : Option String) (count : Nat)
  | saveDeltaPage (job : Nat) (records : List NativeRecord) (next : String)
  | promote (job : Nat) (graph : RemoteGraph) (target : String) (digests : LocalDigests)
  | advanceApplied (job : Nat)
  | adoptConfirmedHead (job : Nat) (token : String)
  | resetReceive (job : Nat)
  | stageResource (job : Nat) (asset : String) (role : AssetRole) (path : String)
  | verifyResource (job : Nat) (asset : String) (role : AssetRole) (cache : String)
  | failResource (job : Nat) (asset : String) (role : AssetRole)
  | beginPublication (request : Store.PublicationRequest)
  | completePublication (id : String)
  | thumbnailReady (publication : String) (media : Nat) (mtime : Int) (asset : String)
  | discardPendingDeletions (job : Nat)
  | confirmAbsentDeletion (epoch : Epoch) (entry version : Nat) (leaseHeld : Bool)
  | retireIssued (epoch : Epoch) (operation : Issued) (rejected : Bool)
  | userAction (job entry version : Nat) (conflict : Option ConflictDocument) (action : PhotoAction)
    (recovery : Option String) (stamp : EditEvent)
  | uploadFailed (epoch : Epoch) (entry : Nat) (reason : String)
  | begin (epoch : Epoch)
  | observeLocal (job : Nat) (paths : List String)
  | beginCollision (id : String) (capture : Capture) (details : RecoveryDetails)
  | finishCollision (id : String)
  | abortCollision (id : String)
  | forgetIdentityForAdoption (job entry version : Nat)
  | enroll (epoch : Epoch)
  | endCycle (epoch : Epoch)
  | save (epoch : Epoch) (issued : Issued)
  | confirm (epoch : Epoch) (operation : Issued) (response : Option (List ConfirmedRecord)) (leaseHeld : Bool)
  | cleanPublication (id : String)
  | rollback (id : String)
  | publishing (id : String) (details : RecoveryDetails)
  | admission (id : String) (photo : RemotePhoto) (item : NewMediaItem) (stamp : EditEvent)
  | conflict (job entry : Nat) (detail : String)

variable {s : Store} {command : Command} {id : Nat}
variable {row : Entry} {sent : Issued}

namespace Command

def execute (platform : Platform) (s : Store) : Command → Result Store
  | .noteLocalChange media category stamp => do
    let (s, _) ← s.note media category stamp
    return s
  | .upsertMediaItems items => do
    let (s, _) ← s.upsertMediaItems items none
    return s
  | .insertMediaItem item => s.insertMediaItem item
  | .setFavorite ids favorite stamp => Store.setFavorite ids favorite stamp s
  | .markTrashed id now => do
    let _ ← requireRow (s.media.get id)
    return s.markTrashed id now
  | .rollbackTrashed id => .ok (s.unmarkTrashed id)
  | .commitMovedToTrash ids => Store.commitTrashMetadata ids s
  | .restoreTrashed ids => Store.restoreTrashedMetadata ids s
  | .deleteTrashedRows ids => Store.commitPermanentDeletions ids s
  | .deleteLiveMediaByPaths removed => Store.deleteLiveMediaByPaths platform removed s
  | .deleteLiveMediaUnderFolders vanished => Store.deleteLiveMediaUnderFolders vanished s
  | .deleteLiveMediaByFolder folder => .ok (s.deleteLiveMediaByFolder folder)
  | .deleteMediaRow id => .ok (s.deleteMediaItem id)
  | .resetLibraryDatabase => .ok s.resetLibraryDatabase
  | .resetAccountData => .ok s.resetAccountData
  | .updateMediaLocation id path folder mtime stamp => Store.updateMediaLocation platform id path folder mtime stamp s
  | .updateMediaEditMetadata id item stamp => Store.updateMediaEditMetadata id item stamp s
  | .createJob job => s.createJob job
  | .setJobPaused id paused => .ok (s.setJobPaused id paused)
  | .deleteJob id => s.deleteJob id
  | .setUploadAlbums id albums => s.setUploadAlbums id albums
  | .queueEdit id edit => s.queueEdit id edit
  | .applyChange id revision => s.applyChange id revision
  | .beginReset token => .ok (s.beginReset token)
  | .failReset token error => .ok (s.failReset token error)
  | .finishReset token => .ok (s.finishReset token)
  | .resumeLocalChanges => .ok s.resumeLocalChanges
  | .clearAccount => .ok s.clearAccount
  | .selectAccount job => s.selectAccount job
  | .beginReceive job zoneNamespace generation scope zoneName owner =>
    .ok (s.beginReceive job zoneNamespace generation scope zoneName owner)
  | .pinSnapshot job snapshot zoneToken => s.pinSnapshot job snapshot zoneToken
  | .saveBootstrapPage job recordType marker count => s.saveBootstrapPage job recordType marker count
  | .saveDeltaPage job records next => s.saveDeltaPage platform job records next
  | .promote job graph target digests => s.promote platform job graph target digests
  | .advanceApplied job => s.advanceApplied job
  | .adoptConfirmedHead job token => s.adoptConfirmedHead job token
  | .resetReceive job => .ok (s.resetReceive job)
  | .stageResource job asset role path => s.stageResource job asset role path
  | .verifyResource job asset role cache => s.verifyResource job asset role cache
  | .failResource job asset role => .ok (s.failResource job asset role)
  | .beginPublication request => .ok (s.beginPublication request)
  | .completePublication id => s.completePublication id
  | .thumbnailReady publication media mtime asset => .ok (s.thumbnailReady publication media mtime asset)
  | .discardPendingDeletions job => .ok (s.discardPendingDeletions job)
  | .confirmAbsentDeletion epoch entry version leaseHeld => s.confirmAbsentDeletion epoch entry version leaseHeld
  | .retireIssued epoch operation rejected => s.retireIssued epoch operation rejected
  | .userAction job entry version document action recovery stamp =>
    s.applyAction platform job entry version document action recovery stamp
  | .uploadFailed epoch entry reason => s.uploadFailed epoch entry reason
  | .begin epoch => s.beginCycle epoch
  | .observeLocal job paths => paths.foldlM (Store.observePath job) s
  | .beginCollision id capture details => s.beginCollision id capture details
  | .finishCollision id => s.finishCollision platform id
  | .abortCollision id => .ok (s.abortCollision id)
  | .forgetIdentityForAdoption job entry version => s.forgetIdentityForAdoption job entry version
  | .enroll epoch => s.enroll epoch
  | .endCycle epoch => .ok (s.endCycle epoch)
  | .save epoch issued => s.saveIssued epoch issued
  | .confirm epoch operation response leaseHeld => s.confirm epoch operation response leaseHeld
  | .cleanPublication id => .ok (s.cleanPublication id)
  | .rollback id => .ok (s.rollback id)
  | .publishing id details => s.publishing id details
  | .admission id photo item stamp => s.admission id photo item stamp
  | .conflict job entry detail => .ok (s.writeConflict job entry detail none)

def policyOf (s : Store) : Command → Policy
  | .upsertMediaItems items => { Policy.none with place := fun _ row => ∃ item ∈ items, row.uri = item.1.uri }
  | .resetAccountData => { Policy.none with drop := fun _ _ => True }
  | .finishReset token =>
    { Policy.none with drop := fun _ _ => s.reset.any (fun intent => intent.token == token) = true }
  | .updateMediaLocation .. | .finishCollision _ =>
    { Policy.none with guards := { Guards.none with rename := fun _ _ _ => True } }
  | .deleteJob job => { Policy.none with drop := fun _ row => row.job = job }
  | .applyChange job _ => { Policy.none with
    drop := fun _ row => row.job = job ∧ (s.pendingChange job).any PendingChange.delete = true }
  | .discardPendingDeletions job => { Policy.none with drop := fun _ row => row.job = job ∧ row.dirty = .delete }
  | .confirmAbsentDeletion epoch entry version _ =>
    { Policy.none with drop := fun id row => id = entry ∧ s.absentDeletion entry epoch.job version row = true }
  | .saveDeltaPage .. => { Policy.none with
    guards := { Guards.none with rename := fun _ _ row => isPlaceholder row.relativePath = true ∨ row.dirty ≠ .delete }
    drop := fun _ row => Store.isPlaceholderEntry row = true }
  | .promote _ graph _ _ => { Policy.none with
      guards := { Guards.none with
        rename := fun _ _ row => isPlaceholder row.relativePath = true ∨ row.dirty ≠ .delete
        retire := fun _ row => ∃ name ∈ graph.tombstones, row.photoId = some name }
      drop := fun _ row => Store.isPlaceholderEntry row = true ∨
        (∃ name ∈ graph.tombstones, row.photoId = some name) ∧ row.dirty = .delete }
  | .userAction _ entry _ document _ _ _ => { Policy.none with
      guards := { Guards.none with
        retire := fun id _ => id = entry ∧ document.any ConflictDocument.buries = true
        rebind := fun id => id = entry } }
  | .forgetIdentityForAdoption _ entry _ => { Policy.none with
    guards := { Guards.none with forget := fun id row => id = entry ∧ s.entries.get id = some row } }
  | .save _ issued => { Policy.none with save := fun stored => stored = issued }
  | .confirm _ operation _ _ => { Policy.none with
      guards := { Guards.none with
        confirm := fun id sent row => id = operation.entry ∧ sent = operation ∧ Evidence s operation ∧ s.entries.get id = some row
        confirmDelete := fun id sent row => id = operation.entry ∧ sent = operation ∧ Evidence s operation ∧
          s.entries.get id = some row }
      drop := fun id row => id = operation.entry ∧ operation.phase = .delete ∧ Store.settledDeletion operation row = true
      place := fun media _ => (s.entries.get operation.entry).bind Entry.media = some media }
  | .admission publication photo item _ => { Policy.none with
      guards := { Guards.none with
        rename := fun _ _ _ => True
        admission := fun id received row => received = photo ∧ ∃ capture,
          s.captureOf publication "missing publication capture" = .ok capture ∧ id = capture.entry ∧
            s.entries.get id = some row ∧ row.dirty = capture.dirty }
      place := fun _ row => row.uri = item.uri }
  | _ => .none

theorem policyOf_save {issued : Issued} (saved : (policyOf s command).save issued) : ∃ epoch, command = .save epoch issued := by
  cases command with
  | save epoch stored =>
    have same : issued = stored := saved
    exact ⟨epoch, by rw [same]⟩
  | _ => exact False.elim saved

theorem policyOf_confirm (allowed : (policyOf s command).guards.confirm id sent row) :
    ∃ epoch response leaseHeld, command = .confirm epoch sent response leaseHeld ∧ id = sent.entry ∧
      Evidence s sent ∧ s.entries.get id = some row := by
  cases command with
  | confirm epoch operation response leaseHeld =>
    obtain ⟨own, rfl, evidence, read⟩ : id = operation.entry ∧ sent = operation ∧ Evidence s operation ∧
      s.entries.get id = some row := allowed
    exact ⟨epoch, response, leaseHeld, rfl, own, evidence, read⟩
  | _ => exact False.elim allowed

theorem policyOf_confirmDelete (allowed : (policyOf s command).guards.confirmDelete id sent row) :
    ∃ epoch response leaseHeld, command = .confirm epoch sent response leaseHeld ∧ id = sent.entry ∧
      Evidence s sent ∧ s.entries.get id = some row := by
  cases command with
  | confirm epoch operation response leaseHeld =>
    obtain ⟨own, rfl, evidence, read⟩ : id = operation.entry ∧ sent = operation ∧ Evidence s operation ∧
      s.entries.get id = some row := allowed
    exact ⟨epoch, response, leaseHeld, rfl, own, evidence, read⟩
  | _ => exact False.elim allowed

theorem policyOf_forget (allowed : (policyOf s command).guards.forget id row) :
    ∃ job version, command = .forgetIdentityForAdoption job id version ∧ s.entries.get id = some row := by
  cases command with
  | forgetIdentityForAdoption job entry version =>
    obtain ⟨rfl, read⟩ : id = entry ∧ s.entries.get id = some row := allowed
    exact ⟨job, version, rfl, read⟩
  | _ => exact False.elim allowed

theorem policyOf_retire (allowed : (policyOf s command).guards.retire id row) :
    (∃ job graph target digests, command = .promote job graph target digests ∧ ∃ name ∈ graph.tombstones, row.photoId = some name) ∨
    ∃ job version document action recovery stamp, command = .userAction job id version document action recovery stamp ∧
      document.any ConflictDocument.buries = true := by
  cases command with
  | promote job graph target digests => exact .inl ⟨job, graph, target, digests, rfl, allowed⟩
  | userAction job entry version document action recovery stamp =>
    obtain ⟨rfl, buried⟩ : id = entry ∧ document.any ConflictDocument.buries = true := allowed
    exact .inr ⟨job, version, document, action, recovery, stamp, rfl, buried⟩
  | _ => exact False.elim allowed

theorem policyOf_admission {photo : RemotePhoto} (allowed : (policyOf s command).guards.admission id photo row) :
    ∃ publication item stamp capture, command = .admission publication photo item stamp ∧
      s.captureOf publication "missing publication capture" = .ok capture ∧ id = capture.entry ∧
      s.entries.get id = some row ∧ row.dirty = capture.dirty := by
  cases command with
  | admission publication received item stamp =>
    obtain ⟨rfl, capture, captured, own, read, same⟩ : photo = received ∧ ∃ capture,
      s.captureOf publication "missing publication capture" = .ok capture ∧ id = capture.entry ∧
        s.entries.get id = some row ∧ row.dirty = capture.dirty := allowed
    exact ⟨publication, item, stamp, capture, rfl, captured, own, read, same⟩
  | _ => exact False.elim allowed

def receives : Command → Bool
  | .resetAccountData | .deleteJob _ | .applyChange .. | .finishReset _ => true
  | .beginReceive .. | .pinSnapshot .. | .saveBootstrapPage .. | .saveDeltaPage .. | .promote .. => true
  | .advanceApplied _ | .adoptConfirmedHead .. | .resetReceive _ => true
  | .stageResource .. | .verifyResource .. | .failResource .. | .beginPublication _ | .completePublication _ => true
  | .discardPendingDeletions _ | .confirmAbsentDeletion .. | .userAction .. => true
  | .beginCollision .. | .finishCollision _ | .abortCollision _ | .confirm .. => true
  | .cleanPublication _ | .rollback _ | .publishing .. | .admission .. => true
  | _ => false

theorem execute_steps {platform : Platform} {s t : Store} {command : Command} (quiet : command.receives = false)
    (done : execute platform s command = .ok t) : Steps (policyOf s command) s t := by
  cases command with
  | noteLocalChange =>
    obtain ⟨⟨_, _⟩, noted, rest⟩ := bind_ok.mp done
    cases rest
    exact note_steps noted
  | upsertMediaItems =>
    obtain ⟨⟨_, _⟩, upserted, rest⟩ := bind_ok.mp done
    cases rest
    refine upsertMediaItems_steps (fun item member _ _ same => ?_) upserted
    exact ⟨item, member, same⟩
  | insertMediaItem => exact insertMediaItem_steps _ _ _ done
  | setFavorite => exact setFavorite_steps done
  | markTrashed =>
    obtain ⟨_, _, rest⟩ := bind_ok.mp done
    cases rest
    exact markTrashed_steps _ _ _
  | rollbackTrashed =>
    cases done
    exact unmarkTrashed_steps _ _
  | commitMovedToTrash => exact noteEach_steps (fun _ _ => .refl) done
  | restoreTrashed => exact noteEach_steps unmarkTrashed_steps done
  | deleteTrashedRows => exact commitPermanentDeletions_steps _ _ _ done
  | deleteLiveMediaByPaths => exact deleteLiveMediaByPaths_steps done
  | deleteLiveMediaUnderFolders => exact deleteLiveMediaUnderFolders_steps _ _ _ done
  | deleteLiveMediaByFolder | deleteMediaRow | resetLibraryDatabase =>
    cases done
    exact ⟨.deleteMedia _, rfl, rfl, rfl⟩
  | updateMediaLocation =>
    exact updateMediaLocation_steps (fun _ _ _ => trivial) done
  | updateMediaEditMetadata => exact updateMediaEditMetadata_steps done
  | createJob => exact createJob_steps _ _ _ done
  | setUploadAlbums =>
    obtain rfl := setUploadAlbums_eq done
    exact ⟨.elsewhere rfl rfl rfl, rfl, rfl, rfl⟩
  | queueEdit => exact queueEdit_steps done
  | resumeLocalChanges =>
    cases done
    unfold Store.resumeLocalChanges
    split
    · exact .refl
    · exact ⟨.elsewhere rfl rfl rfl, rfl, rfl, rfl⟩
  | clearAccount =>
    cases done
    exact clearAccount_steps _
  | selectAccount => exact selectAccount_steps done
  | thumbnailReady =>
    cases done
    exact thumbnailReady_steps
  | retireIssued => exact retireIssued_steps done
  | uploadFailed => exact uploadFailed_steps done
  | begin => exact beginCycle_steps _ _ _ done
  | observeLocal job paths =>
    exact .loop _ paths (fun path _ before after stepped => observePath_steps stepped) done
  | forgetIdentityForAdoption =>
    exact forgetIdentityForAdoption_steps (fun _ read _ => ⟨rfl, read⟩) done
  | enroll => exact enroll_steps _ _ _ done
  | save => exact saveIssued_steps rfl done
  | conflict =>
    cases done
    unfold Store.writeConflict
    split <;> exact ⟨.elsewhere rfl rfl rfl, rfl, rfl, rfl⟩
  | setJobPaused | beginReset | failReset | endCycle =>
    cases done
    exact ⟨.elsewhere rfl rfl rfl, rfl, rfl, rfl⟩
  | _ => cases quiet

theorem execute_moves {platform : Platform} {s t : Store} {command : Command}
    (done : execute platform s command = .ok t) : Moves (policyOf s command) s t := by
  by_cases quiet : command.receives = false
  · exact (execute_steps quiet done).toMoves
  cases command with
  | resetAccountData =>
    cases done
    exact resetAccountData_moves _ (fun _ _ => trivial)
  | deleteJob => exact deleteJob_moves (fun _ _ same => same) done
  | applyChange => exact applyChange_moves (fun removal _ _ same => ⟨same, removal⟩) done
  | finishReset =>
    cases done
    exact finishReset_moves _ _ (fun current _ _ => current)
  | beginReceive =>
    cases done
    exact beginReceive_moves
  | pinSnapshot => exact pinSnapshot_moves done
  | saveBootstrapPage => exact saveBootstrapPage_moves done
  | saveDeltaPage =>
    exact saveDeltaPage_moves ⟨fun _ _ _ allowed => allowed, fun _ _ placeholder => placeholder⟩ done
  | promote =>
    exact promote_moves ⟨fun _ _ _ allowed => allowed, fun _ _ placeholder => .inl placeholder⟩
      ⟨fun _ _ named => named, fun _ _ named deleting => .inr ⟨named, deleting⟩⟩ done
  | advanceApplied => exact advanceApplied_moves _ _ _ done
  | adoptConfirmedHead => exact adoptConfirmedHead_moves done
  | stageResource => exact stageResource_moves done
  | verifyResource => exact verifyResource_moves done
  | beginPublication =>
    cases done
    exact beginPublication_moves _ _
  | completePublication => exact completePublication_moves _ _ _ done
  | discardPendingDeletions =>
    cases done
    exact discardPendingDeletions_moves _ _ (fun _ _ own deleting => ⟨own, deleting⟩)
  | confirmAbsentDeletion =>
    exact confirmAbsentDeletion_moves (fun _ absent => ⟨rfl, absent⟩) done
  | userAction =>
    exact applyAction_moves rfl (fun buried _ _ => ⟨rfl, buried⟩) done
  | beginCollision => exact beginCollision_moves done
  | finishCollision => exact finishCollision_moves (fun _ _ _ => trivial) done
  | confirm =>
    exact confirm_moves (fun _ _ linked => linked)
      (fun _ evidence _ read => ⟨rfl, rfl, evidence, read⟩) (fun _ evidence _ read => ⟨rfl, rfl, evidence, read⟩)
      (fun phase _ settled => ⟨rfl, phase, settled⟩) done
  | publishing => exact publishing_moves done
  | admission =>
    exact admission_moves (fun _ _ _ => trivial) (fun _ _ same => same)
      (fun capture _ captured read same => ⟨rfl, capture, captured, rfl, read, same⟩) done
  | resetReceive | failResource | abortCollision | cleanPublication | rollback =>
    cases done
    exact .elsewhere rfl rfl rfl
  | _ => exact absurd rfl quiet

end Command
end PhotoSync
