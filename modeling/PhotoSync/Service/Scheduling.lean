import Mathlib.Data.List.Infix
import PhotoSync.Lib.Crash
import PhotoSync.Store.Command

set_option autoImplicit false

namespace PhotoSync
open Relational Transaction

inductive SyncCause where
  | quota
  | network
  | credential
  | serverBusy
  | conflict
  | incompatible
  | checksum
  | unknown
deriving DecidableEq, Repr

inductive SyncClass where
  | retryable
  | needsUser
  | unsupported
deriving DecidableEq, Repr

def SyncCause.class : SyncCause → SyncClass
  | .quota | .credential => .needsUser
  | .incompatible => .unsupported
  | .network | .serverBusy | .conflict | .checksum | .unknown => .retryable

def serviceCodes : List (String × SyncCause) :=
  [("STORAGE_QUOTA_EXCEEDED", .quota), ("AUTHENTICATION_REQUIRED", .credential), ("SERVER_BUSY", .serverBusy),
    ("UPLOAD_TIMEOUT", .serverBusy), ("PATH_CONFLICT", .conflict), ("IDEMPOTENCY_CONFLICT", .conflict),
    ("UPLOAD_STATE_CONFLICT", .conflict), ("UPLOAD_PHASE_MISMATCH", .conflict), ("UPLOAD_LEASE_LOST", .conflict),
    ("UPLOAD_LOCK_BUSY", .conflict), ("UPLOAD_BUSY", .conflict), ("EXPIRED_SYNC_TOKEN", .conflict),
    ("UNSUPPORTED_CAPABILITY", .incompatible), ("UNSUPPORTED_MEDIA_TYPE", .incompatible),
    ("CHECKSUM_MISMATCH", .checksum), ("UPLOAD_SIZE_MISMATCH", .checksum), ("UPLOAD_INTERRUPTED", .checksum),
    ("INVALID_THUMBNAIL", .checksum)]

def mentions (detail code : String) : Bool := decide (code.toList <:+: detail.toList)

def classifyDetail (detail : String) : SyncCause :=
  match serviceCodes.find? (fun row => mentions detail row.1) with
  | some row => row.2
  | none =>
    if mentions detail "network is unavailable" then .network
    else if mentions detail "authentication failed" || mentions detail "HTTP 401" || mentions detail "HTTP 403"
    then .credential
    else if mentions detail "rate limiting" || mentions detail "HTTP 429" || mentions detail "HTTP 503"
    then .serverBusy
    else if mentions detail "capability is unsupported" || mentions detail "HTTP 413" then .incompatible
    else if mentions detail "HTTP 404" then .conflict
    else .unknown

def unattendedRetryIsWorthwhile (cause : Option SyncCause) : Bool := !cause.any (fun cause => cause.class == .needsUser)

namespace Store

def jobIsSelected (s : Store) (id : Nat) : Bool := (s.jobs.get id).any s.connectionEnabled

def listJobs (s : Store) : List (Nat × Job) := s.jobs.select (fun _ job => s.connectionEnabled job)

def hasUnfinishedWork (s : Store) (id : Nat) : Bool :=
  if s.conflicts.any (fun _ row => row.job == id && row.isOpen) then false
  else decide (0 < s.unresolved id) || s.entries.any (fun _ row => row.job == id && row.dirty != .clean)

end Store

structure JobWork where
  requested : Bool
  working : Bool
deriving DecidableEq, Repr

-- What a stop of the process keeps: the database, the switch and the last error of each job; and the memory it loses.
structure SyncService where
  store : Store
  syncEnabled : Bool
  lastError : Nat → Option String
  work : Nat → JobWork
  active : Nat → Bool
  resetWorking : Bool

namespace SyncService

def restart (service : SyncService) : SyncService :=
  { service with work := fun _ => ⟨false, false⟩, active := fun _ => false, resetWorking := false }

def failureCause (service : SyncService) (id : Nat) : Option SyncCause :=
  ((service.lastError id).filter (fun detail => !detail.toList.all Char.isWhitespace)).map classifyDetail

def hasPendingWork (service : SyncService) (id : Nat) : Bool :=
  service.resetWorking || service.store.reset.isSome || service.store.hasChange id || (service.work id).working

def isJobRunning (service : SyncService) (id : Nat) : Bool := service.active id

def startResetWorker (service : SyncService) : SyncService := { service with resetWorking := true }

def requestJobSync (service : SyncService) (id : Nat) : SyncService :=
  if service.store.reset.isSome then service.startResetWorker
  else { service with work := Function.update service.work id ⟨true, true⟩ }

def requestJobs (considers : SyncService → Nat → Job → Bool) (service : SyncService) : Result SyncService := do
  let store ← service.store.selectAccount none
  let service := { service with store := store }
  if !service.syncEnabled || service.store.reset.isSome then return service
  let service := { service with store := service.store.resumeLocalChanges }
  return service.store.listJobs.foldl (fun service found =>
    if considers service found.1 found.2 && !service.hasPendingWork found.1 && !service.isJobRunning found.1
    then service.requestJobSync found.1 else service) service

def requestScheduledSync : SyncService → Result SyncService :=
  requestJobs (fun service id job => !job.paused && unattendedRetryIsWorthwhile (service.failureCause id))

def resumeUnfinishedWork : SyncService → Result SyncService :=
  requestJobs (fun service id job => !job.paused && unattendedRetryIsWorthwhile (service.failureCause id)
    && service.store.hasUnfinishedWork id)

def requestAllSync : SyncService → Result SyncService := requestJobs (fun _ _ job => !job.paused)

open Durable Program in
-- The durable steps of the worker: the job is paused, then the change that was
-- read is installed. The answer tells whether the job is gone.
def applyPendingJob (id : Nat) : Program Store StoreError Bool := do
  if ← read (fun s => s.reset.isSome) then return false
  if ← read (fun s => (s.jobs.get id).isNone) then return true
  match ← read (fun s => s.pendingChange id) with
  | none => return false
  | some pending => do
    act (fun s => .ok (s.setJobPaused id true))
    act (fun s => s.applyChange id pending.revision)
    read (fun s => (s.jobs.get id).isNone)

open Durable Program in
def acceptEdit (id : Nat) (edit : JobEdit) : Program Store StoreError Bool := do
  act (fun s => s.queueEdit id edit)
  applyPendingJob id

end SyncService
end PhotoSync
