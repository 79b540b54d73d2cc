import PhotoSync.Runs.Session
import PhotoSync.Service.Scheduling

set_option autoImplicit false

namespace PhotoSync
open Relational Transaction Store Table

namespace Store

def account (s : Store) : Option Int := s.selectedAccount.or (s.firstConnection.map (fun found => accountIdentity found.1 found.2))

def selects (s : Store) (id : Nat) : Bool := (s.jobs.get id).any (fun job => (s.connections.get job.connection).any (fun row =>
    s.account == some (accountIdentity job.connection row)))

end Store

section Accounts
variable {s t : Store}

theorem selectAccount_account (done : s.selectAccount none = .ok t) :
    t.jobs = s.jobs ∧ t.changes = s.changes ∧ t.reset = s.reset ∧ t.connections = s.connections.update (fun id row =>
        if s.hasJob id then { row with enabled := s.account == some (accountIdentity id row) } else row) := by
  unfold selectAccount at done
  simp only [chosenAccount, bind, Except.bind] at done
  split at done
  · cases done
    exact ⟨rfl, rfl, rfl, rfl⟩
  · cases done
    exact ⟨rfl, rfl, rfl, rfl⟩

theorem selectAccount_succeeds (s : Store) : ∃ t, s.selectAccount none = .ok t := by
  unfold selectAccount
  simp only [chosenAccount, bind, Except.bind]
  split
  · exact ⟨_, rfl⟩
  · exact ⟨_, rfl⟩

theorem selectAccount_selects (done : s.selectAccount none = .ok t) (id : Nat) : t.jobIsSelected id = s.selects id := by
  obtain ⟨jobs, _, _, connections⟩ := selectAccount_account done
  unfold jobIsSelected selects connectionEnabled
  rw [jobs, connections]
  cases read : s.jobs.get id with
  | none => rfl
  | some job =>
    have used : s.hasJob job.connection = true := by
      unfold hasJob
      rw [any_iff]
      exact ⟨id, job, read, by simp⟩
    rw [Option.any_some, Option.any_some, get_update]
    cases s.connections.get job.connection with
    | none => rfl
    | some => simp [used]

end Accounts

namespace SyncService

structure Idle (service : SyncService) : Prop where
  work : ∀ id, service.work id = ⟨false, false⟩
  active : ∀ id, service.active id = false
  resetWorking : service.resetWorking = false

theorem restart_idle (service : SyncService) : service.restart.Idle := ⟨fun _ => rfl, fun _ => rfl, rfl⟩

inductive Trigger where
  | resume
  | scheduled
  | all
deriving DecidableEq, Repr

def Trigger.run : Trigger → SyncService → Result SyncService
  | .resume => resumeUnfinishedWork
  | .scheduled => requestScheduledSync
  | .all => requestAllSync

theorem requestLoop_skips (considers : SyncService → Nat → Job → Bool) (jobs : List (Nat × Job)) (service : SyncService)
    (id : Nat) : let after := jobs.foldl (fun service found =>
      if considers service found.1 found.2 && !service.hasPendingWork found.1 && !service.isJobRunning found.1
      then service.requestJobSync found.1 else service) service
    after.store = service.store ∧ (service.store.hasChange id = true → after.work id = service.work id) := by
  induction jobs generalizing service with
  | nil => exact ⟨rfl, fun _ => rfl⟩
  | cons found rest ih =>
    rw [List.foldl_cons]
    split
    · next chosen =>
      have store : (service.requestJobSync found.1).store = service.store := by
        unfold requestJobSync startResetWorker
        split
        · rfl
        · rfl
      have work : service.store.hasChange id = true → (service.requestJobSync found.1).work id = service.work id := by
        intro queued
        have other : found.1 ≠ id := by
          rintro rfl
          simp [hasPendingWork, queued] at chosen
        unfold requestJobSync startResetWorker
        split
        · rfl
        · exact Function.update_of_ne (Ne.symm other) _ _
      obtain ⟨same, left⟩ := ih (service.requestJobSync found.1)
      refine ⟨same.trans store, fun queued => (left ?_).trans (work queued)⟩
      rw [store]
      exact queued
    · exact ih service

theorem resumeLocalChanges_jobs (s : Store) : s.resumeLocalChanges.jobs = s.jobs ∧
    s.resumeLocalChanges.changes = s.changes ∧ s.resumeLocalChanges.connections = s.connections := by
  unfold resumeLocalChanges
  split
  · exact ⟨rfl, rfl, rfl⟩
  · exact ⟨rfl, rfl, rfl⟩

theorem requestJobs_skips (considers : SyncService → Nat → Job → Bool) (service : SyncService) :
    ∃ after, requestJobs considers service = .ok after ∧ ∀ id, after.store.jobIsSelected id = service.store.selects id ∧
        after.store.hasChange id = service.store.hasChange id ∧
        (service.store.hasChange id = true → after.work id = service.work id) := by
  obtain ⟨t, selected⟩ := selectAccount_succeeds service.store
  have selects := selectAccount_selects selected
  have changes : ∀ id, t.hasChange id = service.store.hasChange id := by
    intro id
    unfold hasChange
    rw [(selectAccount_account selected).2.1]
  obtain ⟨jobs, queue, connections⟩ := resumeLocalChanges_jobs t
  have resumed : ∀ id, t.resumeLocalChanges.jobIsSelected id = service.store.selects id ∧
      t.resumeLocalChanges.hasChange id = service.store.hasChange id := by
    intro id
    rw [← selects id, ← changes id]
    unfold jobIsSelected connectionEnabled hasChange
    rw [jobs, queue, connections]
    exact ⟨rfl, rfl⟩
  unfold requestJobs
  simp only [selected, bind, Except.bind]
  split
  · exact ⟨_, rfl, fun id => ⟨selects id, changes id, fun _ => rfl⟩⟩
  · refine ⟨_, rfl, fun id => ?_⟩
    obtain ⟨same, left⟩ := requestLoop_skips considers t.resumeLocalChanges.listJobs
      { service with store := t.resumeLocalChanges } id
    rw [same]
    exact ⟨(resumed id).1, (resumed id).2, fun queued => left ((resumed id).2.trans queued)⟩

-- While no worker runs, a trigger asks for the worker of every selected job
-- with a queued change exactly when there is none.
theorem queued_change_requested_iff (trigger : Trigger) (service : SyncService) (idle : service.Idle) :
    (∃ after, trigger.run service = .ok after ∧ ∀ id, after.store.jobIsSelected id = true →
      after.store.hasChange id = true → (after.work id).requested = true) ↔
    ∀ id, service.store.selects id = true → service.store.hasChange id = false := by
  have skips : ∃ after, trigger.run service = .ok after ∧ ∀ id, after.store.jobIsSelected id = service.store.selects id ∧
        after.store.hasChange id = service.store.hasChange id ∧
        (service.store.hasChange id = true → after.work id = service.work id) := by
    have shape : ∃ considers, trigger.run = requestJobs considers := by
      unfold Trigger.run resumeUnfinishedWork requestScheduledSync requestAllSync
      cases trigger with
      | resume | scheduled | all => exact ⟨_, rfl⟩
    obtain ⟨considers, same⟩ := shape
    rw [same]
    exact requestJobs_skips considers service
  obtain ⟨after, ran, facts⟩ := skips
  constructor
  · rintro ⟨again, same, requested⟩ id selected
    rw [ran] at same
    cases same
    rw [Bool.eq_false_iff]
    intro queued
    obtain ⟨selection, change, work⟩ := facts id
    have asked := requested id (selection.trans selected) (change.trans queued)
    rw [work queued, idle.work id] at asked
    cases asked
  · intro free
    refine ⟨after, ran, fun id selected queued => ?_⟩
    obtain ⟨selection, change, _⟩ := facts id
    rw [selection] at selected
    rw [change, free id selected] at queued
    cases queued

end SyncService

namespace Sample

def restarted (store : Store) : SyncService :=
  SyncService.restart ⟨store, true, fun _ => none, fun _ => ⟨true, true⟩, fun _ => false, false⟩

def editDirection : Durable.Program Store StoreError Bool := SyncService.acceptEdit 1 (.direction .uploadOnly)

end Sample

-- The edit was installed before the stop, and nothing is queued.
open Sample in
theorem installed_edit_is_not_queued :
    let store := (editDirection.run (run (Command.execute platform) .empty [.createJob job])).1
    (store.jobs.get 1).map Job.direction = some .uploadOnly ∧ ∃ after, SyncService.Trigger.resume.run (restarted store) = .ok after ∧
        ∀ id, after.store.jobIsSelected id = true → after.store.hasChange id = true → (after.work id).requested = true := by
  intro store
  refine ⟨by decide +kernel, ?_⟩
  refine (SyncService.queued_change_requested_iff .resume (restarted store) (SyncService.restart_idle _)).mpr
    (fun id selected => ?_)
  have empty : store.changes = [] := by decide +kernel
  change store.hasChange id = false
  unfold hasChange
  rw [empty]
  rfl

-- The process stops after the edit was accepted, or after the job was paused
-- for it: no trigger asks for the worker again, and a paused job stays paused.
open Sample in
theorem accepted_edit_is_stranded :
    let before := run (Command.execute platform) .empty [.createJob job]
    (∀ count ∈ [1, 5], ∀ trigger ∈ [SyncService.Trigger.resume, .scheduled, .all],
      ((restarted (editDirection.crash count before)).store.jobIsSelected 1 &&
        (restarted (editDirection.crash count before)).store.hasChange 1 &&
        (trigger.run (restarted (editDirection.crash count before))).toOption.any (fun after =>
          after.store.jobIsSelected 1 && after.store.hasChange 1 && !(after.work 1).requested)) = true) ∧
    ((editDirection.crash 5 before).jobs.get 1).any Job.paused = true := by
  decide +kernel

end PhotoSync
