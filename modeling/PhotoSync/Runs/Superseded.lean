import PhotoSync.Runs.Session

set_option autoImplicit false

namespace PhotoSync
open Relational Transaction Store Table Option
variable {command : Command} {leaseHeld : Bool}
variable {operation : Issued} {job : Job} {entry : Nat} {change : PendingChange}

section Frames

structure SameJobs (s t : Store) : Prop where
  jobs : t.jobs = s.jobs
  changes : t.changes = s.changes

variable {s t u : Store}

theorem SameJobs.trans (first : SameJobs s t) (second : SameJobs t u) : SameJobs s u :=
  ⟨second.jobs.trans first.jobs, second.changes.trans first.changes⟩

theorem confirmBaseline_jobs (epoch : Epoch) (operation : Issued) (records : List ConfirmedRecord)
    (done : s.confirmBaseline epoch operation records = .ok t) : SameJobs s t := by
  obtain ⟨_, _, rfl⟩ := confirmBaseline_eq done
  exact ⟨rfl, rfl⟩

theorem confirmEntry_jobs (operation : Issued) (records : List ConfirmedRecord) (generation : String)
    (done : s.confirmEntry operation records generation = .ok t) : SameJobs s t := by
  obtain ⟨_, rfl, _⟩ := confirmEntry_eq done
  exact ⟨rfl, rfl⟩

theorem confirmCleanup_jobs (operation : Issued) : SameJobs s (s.confirmCleanup operation) := by
  unfold confirmCleanup
  split
  · unfold dropCloudRow
    split
    · exact ⟨rfl, rfl⟩
    · exact ⟨rfl, rfl⟩
  · exact ⟨rfl, rfl⟩

theorem confirmMedia_jobs (operation : Issued) : SameJobs s (s.confirmMedia operation) := by
  unfold confirmMedia
  rw [(s.updateEntryMedia_eq _ _).choose_spec]
  exact ⟨rfl, rfl⟩

theorem confirm_jobs {epoch : Epoch} {response : Option (List ConfirmedRecord)}
    (done : s.confirm epoch operation response leaseHeld = .ok t) : SameJobs s t := by
  obtain ⟨records, generation, first, second, _, _, _, _, entry, baseline, rfl⟩ := confirm_ok done
  have resolved : SameJobs first (first.resolveConflicts operation.entry confirmSettles) := ⟨rfl, rfl⟩
  have confirmed : SameJobs s second := ((confirmEntry_jobs _ _ _ entry).trans resolved).trans (confirmBaseline_jobs _ _ _ baseline)
  have told : SameJobs (second.confirmMedia operation) ((second.confirmMedia operation).confirmTask operation) := ⟨rfl, rfl⟩
  exact ((confirmed.trans (confirmMedia_jobs operation)).trans told).trans (confirmCleanup_jobs operation)

theorem enroll_jobs (epoch : Epoch) (done : s.enroll epoch = .ok t) : SameJobs s t := by
  obtain ⟨_, _, row, _, rest⟩ := bind2_ok done
  refine loop_relates SameJobs (fun _ => ⟨rfl, rfl⟩) (fun _ _ _ => .trans) (fun found _ before after stepped => ?_) rest
  unfold enrollMedia at stepped
  split at stepped
  · cases stepped
  · split at stepped
    · obtain ⟨_, rfl⟩ := insertEntry_ok stepped
      exact ⟨rfl, rfl⟩
    · cases stepped
      exact ⟨rfl, rfl⟩

theorem saveIssued_jobs {epoch : Epoch} {issued : Issued} (done : s.saveIssued epoch issued = .ok t) : SameJobs s t := by
  obtain ⟨_, _, _, _, rest⟩ := bind2_ok done
  split at rest
  · obtain ⟨_, _, rest⟩ := bind_ok.mp rest
    cases rest
    exact ⟨rfl, rfl⟩
  · obtain ⟨_, _, rest⟩ := bind_ok.mp rest
    cases rest
    exact ⟨rfl, rfl⟩

theorem retireIssued_jobs {epoch : Epoch} {rejected : Bool} (done : s.retireIssued epoch operation rejected = .ok t) : SameJobs s t := by
  obtain ⟨_, _, _, _, rest⟩ := bind2_ok done
  split at rest
  · cases rest
  · obtain ⟨_, _, rest⟩ := bind_ok.mp rest
    cases rest
    exact ⟨rfl, rfl⟩

theorem uploadFailed_jobs {epoch : Epoch} {reason : String} (done : s.uploadFailed epoch entry reason = .ok t) : SameJobs s t := by
  obtain ⟨_, _, _, _, rest⟩ := bind2_ok done
  cases rest
  exact ⟨rfl, rfl⟩

theorem confirmAbsentDeletion_jobs {epoch : Epoch} {version : Nat}
    (done : s.confirmAbsentDeletion epoch entry version leaseHeld = .ok t) : SameJobs s t := by
  obtain ⟨_, _, _, _, _, _, rest⟩ := bind3_ok done
  cases rest
  exact ⟨rfl, rfl⟩

end Frames

section Generations

structure Floor (id low high : Nat) (s : Store) : Prop where
  installed : ∀ job, s.jobs.get id = some job → s.hasChange id = false → low ≤ job.configGeneration
  queued : ∀ change, (id, change) ∈ s.changes → high ≤ change.revision

variable {id low high : Nat} {s t : Store}

theorem hasChange_false (s : Store) (id : Nat) : s.hasChange id = false ↔ ∀ change, (id, change) ∉ s.changes := by
  unfold hasChange
  rw [List.any_eq_false]
  constructor
  · intro none change member
    exact none (id, change) member (by simp)
  · intro none found member same
    rw [beq_iff_eq] at same
    exact none found.2 (by rw [← same]; exact member)

theorem pendingChange_mem {s : Store} {id : Nat} (found : s.pendingChange id = some change) : (id, change) ∈ s.changes := by
  obtain ⟨before, after, shape, _⟩ := List.lookup_eq_some_iff.mp found
  simp [shape]

theorem mem_writeChange {s : Store} {id other : Nat} {found : PendingChange} : (other, found) ∈ (s.writeChange id change).changes ↔
      (other ≠ id ∧ (other, found) ∈ s.changes) ∨ (other = id ∧ found = change) := by
  simp [writeChange, and_comm]

section
variable (floor : Floor id low high s)

include floor

theorem Floor.same (same : SameJobs s t) : Floor id low high t := by
  refine ⟨fun job read free => floor.installed job (by rw [← same.jobs]; exact read) ?_, fun change member => ?_⟩
  · rw [hasChange_false] at free ⊢
    rw [← same.changes]
    exact free
  · rw [same.changes] at member
    exact floor.queued change member

theorem Floor.jobs (changes : t.changes = s.changes) (rises : ∀ job, t.jobs.get id = some job →
      ∃ old, s.jobs.get id = some old ∧ old.configGeneration ≤ job.configGeneration) : Floor id low high t := by
  refine ⟨fun job read free => ?_, fun change member => floor.queued change (by rw [← changes]; exact member)⟩
  obtain ⟨old, present, higher⟩ := rises job read
  rw [hasChange_false, changes, ← hasChange_false] at free
  exact Nat.le_trans (floor.installed old present free) higher

theorem Floor.modify (target : Nat) (change : Job → Job)
    (rises : ∀ job, job.configGeneration ≤ (change job).configGeneration) : Floor id low high (s.updateJob target change) := by
  refine floor.jobs rfl (fun job read => ?_)
  simp only [updateJob, get_modify] at read
  split at read
  · obtain ⟨old, present, rfl⟩ := map_eq_some_iff.mp read
    exact ⟨old, present, rises old⟩
  · exact ⟨job, read, Nat.le_refl _⟩

theorem Floor.queueEdit (near : high ≤ low + 1) (target : Nat) (edit : JobEdit)
    (done : s.queueEdit target edit = .ok t) : Floor id low high t := by
  rcases queueEdit_cases done with ⟨_, rfl⟩ | ⟨job, _, read, rfl⟩
  · exact floor
  · generalize pendingIs : (s.pendingChange target).getD ⟨0, none, none, false⟩ = pending
    constructor
    · intro row there free
      rw [hasChange_false] at free
      have other : id ≠ target := by
        rintro rfl
        exact free _ ((mem_writeChange).mpr (.inr ⟨rfl, rfl⟩))
      refine floor.installed row there ((hasChange_false s id).mpr (fun change member => ?_))
      exact free change ((mem_writeChange).mpr (.inl ⟨other, member⟩))
    · intro change member
      rcases (mem_writeChange).mp member with ⟨_, before⟩ | ⟨rfl, rfl⟩
      · exact floor.queued change before
      · dsimp only
        cases found : s.pendingChange id with
        | some old =>
          have above := floor.queued old (pendingChange_mem found)
          rw [found, getD_some] at pendingIs
          subst pendingIs
          omega
        | none =>
          have free : s.hasChange id = false := by
            rw [hasChange_false]
            intro change inside
            have absent := List.lookup_eq_none_iff.mp found (id, change) inside
            simp at absent
          have above := floor.installed job read free
          omega

theorem Floor.deleteJobs (test : Nat → Job → Bool) : Floor id low high (s.deleteJobs test) := by
  constructor
  · intro job read free
    simp only [Store.deleteJobs, Store.deleteEntries, get_delete, filter_eq_some_iff] at read
    refine floor.installed job read.1 ?_
    rw [hasChange_false] at free ⊢
    intro change member
    refine free change ?_
    simp only [Store.deleteJobs, List.mem_filter, Bool.not_eq_true']
    refine ⟨member, ?_⟩
    rw [read.1]
    simpa using read.2
  · intro change member
    simp only [Store.deleteJobs, List.mem_filter] at member
    exact floor.queued change member.1

theorem deleteJob_floor (target : Nat) (done : s.deleteJob target = .ok t) : Floor id low high t := by
  obtain ⟨_, rfl⟩ := deleteJob_eq done
  exact (floor.deleteJobs (fun other _ => other == target)).same ⟨rfl, rfl⟩

theorem Floor.applyChange (order : low ≤ high) (target revision : Nat)
    (done : s.applyChange target revision = .ok t) : Floor id low high t := by
  obtain rfl | ⟨pending, _, found, current, _, outcome⟩ := applyChange_cases done
  · exact floor
  · split at outcome
    · exact deleteJob_floor floor target outcome
    · subst outcome
      constructor
      · intro job read free
        simp only [Store.updateJob, get_modify] at read
        split at read
        · next own =>
          subst own
          obtain ⟨old, _, rfl⟩ := map_eq_some_iff.mp read
          have above := floor.queued pending (pendingChange_mem found)
          dsimp only
          omega
        · next other =>
          refine floor.installed job read ?_
          rw [hasChange_false] at free ⊢
          intro change member
          exact free change (List.mem_filter.mpr ⟨member, by simpa using other⟩)
      · intro change member
        exact floor.queued change (List.mem_filter.mp member).1

end

theorem installPending_rises (changes : List (Nat × PendingChange)) (s : Store) {id : Nat}
    (read : (changes.foldl installPending s).jobs.get id = some job) :
    ∃ old, s.jobs.get id = some old ∧ job.cycleId = old.cycleId ∧ old.configGeneration ≤ job.configGeneration ∧
      ∀ change, (id, change) ∈ changes → change.revision ≤ job.configGeneration := by
  induction changes generalizing s with
  | nil => exact ⟨job, read, rfl, Nat.le_refl _, by simp⟩
  | cons change rest ih =>
    obtain ⟨middle, there, cycle, above, rises⟩ := ih (s.installPending change) read
    unfold installPending at there
    split at there
    · simp only [deleteJobs, deleteEntries, get_delete, filter_eq_some_iff] at there
      refine ⟨middle, there.1, cycle, above, fun found member => ?_⟩
      rcases List.mem_cons.mp member with same | later
      · subst same
        simp at there
      · exact rises found later
    · simp only [updateJob, get_modify] at there
      split at there
      · obtain ⟨old, present, rfl⟩ := map_eq_some_iff.mp there
        dsimp only at above
        refine ⟨old, present, cycle, by omega, fun found member => ?_⟩
        rcases List.mem_cons.mp member with same | later
        · subst same
          dsimp only at above
          omega
        · exact rises found later
      · next other =>
        refine ⟨middle, there, cycle, above, fun found member => ?_⟩
        rcases List.mem_cons.mp member with same | later
        · subst same
          exact absurd rfl other
        · exact rises found later

theorem Floor.finishReset (floor : Floor id low high s) (order : low ≤ high) (token : String) :
    Floor id low high (s.finishReset token) := by
  unfold Store.finishReset
  split
  · exact floor
  · constructor
    · intro job read _
      simp only [get_update, map_eq_some_iff] at read
      obtain ⟨installed, there, rfl⟩ := read
      obtain ⟨old, present, _, above, rises⟩ := installPending_rises s.changes s there
      dsimp only
      cases free : s.hasChange id with
      | false =>
        have bottom := floor.installed old present free
        omega
      | true =>
        obtain ⟨⟨key, change⟩, member, same⟩ := List.any_eq_true.mp free
        rw [beq_iff_eq] at same
        subst same
        have bottom := floor.queued change member
        have top := rises change member
        omega
    · intro change member
      cases member

end Generations

section Cycles
variable {epoch : Epoch} {s t : Store} {platform : Platform}

namespace Command

def epoch? : Command → Option Epoch
  | .save epoch _ | .confirm epoch _ _ _ | .uploadFailed epoch _ _ | .retireIssued epoch _ _ | .enroll epoch
  | .confirmAbsentDeletion epoch _ _ _ => some epoch
  | _ => none

def configures : Command → Bool
  | .begin _ | .endCycle _ | .queueEdit _ _ | .applyChange _ _ | .setUploadAlbums _ _ | .beginReset _ | .failReset _ _
  | .finishReset _ | .setJobPaused _ _ => true
  | _ => false

end Command

def Supersedes (epoch : Epoch) (s : Store) : Command → Prop
  | .begin other => other.job = epoch.job ∧ (s.beginCycle other).isOk = true
  | .endCycle other => other.job = epoch.job ∧ other.cycle = epoch.cycle
  | .queueEdit id edit => id = epoch.job ∧ s.queueAnswer id edit = .ok true
  | .beginReset _ => True
  | _ => False

def Superseded (epoch : Epoch) (s : Store) : Prop := (∀ job, s.jobs.get epoch.job = some job → job.cycleId ≠ some epoch.cycle) ∨
    Floor epoch.job (epoch.config + 1) (epoch.config + 1) s

theorem epoch_command_jobs (own : command.epoch?.isSome = true) (done : command.execute platform s = .ok t) : SameJobs s t := by
  cases command with
  | save => exact saveIssued_jobs done
  | confirm => exact confirm_jobs done
  | uploadFailed => exact uploadFailed_jobs done
  | retireIssued => exact retireIssued_jobs done
  | enroll epoch => exact enroll_jobs epoch done
  | confirmAbsentDeletion => exact confirmAbsentDeletion_jobs done
  | _ => cases own

theorem beginCycle_ok {other : Epoch} (done : s.beginCycle other = .ok t) :
    (s.jobs.get other.job).any (fun job => job.configGeneration == other.config && !job.paused) = true ∧
      s.hasChange other.job = false ∧ t.changes = s.changes ∧
      t.jobs = s.jobs.modify other.job (fun job => { job with cycleId := some other.cycle }) := by
  obtain ⟨_, open_, rest⟩ := bind_ok.mp done
  rw [ensure_ok, Bool.and_eq_true, Bool.not_eq_true'] at open_
  cases rest
  exact ⟨open_.1, open_.2, rfl, rfl⟩

theorem configures_floor {id low high : Nat} (order : low ≤ high) (near : high ≤ low + 1) (floor : Floor id low high s)
    (own : command.configures = true) (done : command.execute platform s = .ok t) : Floor id low high t := by
  cases command with
  | begin other =>
    obtain ⟨_, _, changes, jobs⟩ := beginCycle_ok done
    have modified := floor.modify other.job (fun job => { job with cycleId := some other.cycle }) (fun _ => Nat.le_refl _)
    exact modified.same ⟨jobs, changes⟩
  | endCycle other =>
    cases done
    refine floor.modify other.job _ (fun job => ?_)
    split
    · exact Nat.le_refl _
    · exact Nat.le_refl _
  | queueEdit target edit => exact floor.queueEdit near target edit done
  | applyChange target revision => exact floor.applyChange order target revision done
  | setUploadAlbums target =>
    obtain rfl := setUploadAlbums_eq done
    exact floor.modify target _ (fun job => Nat.le_succ _)
  | beginReset =>
    cases done
    refine floor.jobs rfl (fun job read => ?_)
    simp only [beginReset, get_update, map_eq_some_iff] at read
    obtain ⟨old, present, rfl⟩ := read
    exact ⟨old, present, Nat.le_succ _⟩
  | failReset =>
    cases done
    exact floor.same ⟨rfl, rfl⟩
  | finishReset token =>
    cases done
    exact floor.finishReset order token
  | setJobPaused target =>
    cases done
    exact floor.modify target _ (fun job => Nat.le_refl _)
  | _ => cases own

inductive CycleFrom (s : Store) (command : Command) (id : Nat) (job : Job) : Prop where
  | kept (old : Job) (read : s.jobs.get id = some old) (same : job.cycleId = old.cycleId)
  | ended (none : job.cycleId = none)
  | begun (other : Epoch) (given : command = .begin other) (cycle : job.cycleId = some other.cycle)

theorem modified_cycle {id target : Nat} (change : Job → Job) (same : ∀ job, (change job).cycleId = job.cycleId)
    (read : (s.jobs.modify target change).get id = some job) : CycleFrom s command id job := by
  rw [get_modify] at read
  split at read
  · obtain ⟨old, present, rfl⟩ := map_eq_some_iff.mp read
    exact .kept old present (same old)
  · exact .kept job read rfl

theorem configures_cycle (own : command.configures = true) (done : command.execute platform s = .ok t) {id : Nat}
    (read : t.jobs.get id = some job) : CycleFrom s command id job := by
  cases command with
  | begin other =>
    obtain ⟨_, _, _, jobs⟩ := beginCycle_ok done
    rw [jobs, get_modify] at read
    split at read
    · obtain ⟨old, present, rfl⟩ := map_eq_some_iff.mp read
      exact .begun other rfl rfl
    · exact .kept job read rfl
  | endCycle =>
    cases done
    simp only [endCycle, get_modify] at read
    split at read
    · obtain ⟨old, present, rfl⟩ := map_eq_some_iff.mp read
      split
      · exact .ended rfl
      · exact .kept old present rfl
    · exact .kept job read rfl
  | queueEdit =>
    rcases queueEdit_cases done with ⟨_, rfl⟩ | ⟨_, _, _, rfl⟩
    · exact .kept job read rfl
    · exact .kept job read rfl
  | applyChange target =>
    obtain rfl | ⟨pending, _, _, _, _, outcome⟩ := applyChange_cases done
    · exact .kept job read rfl
    · split at outcome
      · obtain ⟨_, rfl⟩ := deleteJob_eq outcome
        have gone : (s.deleteJobs (fun other _ => other == target)).jobs.get id = some job := read
        simp only [deleteJobs, deleteEntries, get_delete, filter_eq_some_iff] at gone
        exact .kept job gone.1 rfl
      · subst outcome
        exact modified_cycle _ (fun _ => by rfl) read
  | setUploadAlbums =>
    obtain rfl := setUploadAlbums_eq done
    exact modified_cycle _ (fun _ => by rfl) read
  | beginReset =>
    cases done
    simp only [beginReset, get_update, map_eq_some_iff] at read
    obtain ⟨old, present, rfl⟩ := read
    exact .kept old present rfl
  | failReset =>
    cases done
    exact .kept job read rfl
  | finishReset =>
    cases done
    unfold finishReset at read
    split at read
    · exact .kept job read rfl
    · simp only [get_update, map_eq_some_iff] at read
      obtain ⟨installed, there, rfl⟩ := read
      obtain ⟨old, present, cycle, _⟩ := installPending_rises s.changes s there
      exact .kept old present cycle
  | setJobPaused =>
    cases done
    exact modified_cycle _ (fun _ => by rfl) read
  | _ => cases own

-- A command that configures, or is a cycle's own, or leaves the jobs alone. It
-- does not begin the epoch's cycle again.
def Governed (platform : Platform) (epoch : Epoch) (s : Store) (command : Command) : Prop :=
  (command.configures = true ∨ command.epoch?.isSome = true ∨ ∀ t, command.execute platform s = .ok t → SameJobs s t) ∧
    ∀ other, command = .begin other → other.cycle ≠ epoch.cycle

theorem Governed.cases (command : Command) (governed : Governed platform epoch s command)
    (done : command.execute platform s = .ok t) : command.configures = true ∨ SameJobs s t := by
  obtain ⟨configures | own | same, _⟩ := governed
  · exact .inl configures
  · exact .inr (epoch_command_jobs own done)
  · exact .inr (same t done)

theorem governed_superseded (governed : Governed platform epoch s command) (superseded : Superseded epoch s)
    (done : command.execute platform s = .ok t) : Superseded epoch t := by
  have fresh := governed.2
  rcases governed.cases command done with configures | same
  · rcases superseded with other | floor
    · refine .inl (fun job read => ?_)
      cases configures_cycle configures done read with
      | kept old present same =>
        rw [same]
        exact other old present
      | ended none => simp [none]
      | begun later given cycle =>
        rw [cycle, ne_eq, some.injEq]
        exact fresh later given
    · exact .inr (configures_floor (Nat.le_refl _) (Nat.le_succ _) floor configures done)
  · rcases superseded with other | floor
    · refine .inl (fun job read => other job ?_)
      rw [← same.jobs]
      exact read
    · exact .inr (floor.same same)

theorem governed_floor (governed : Governed platform epoch s command)
    (floor : Floor epoch.job epoch.config (epoch.config + 1) s) (done : command.execute platform s = .ok t) :
    Floor epoch.job epoch.config (epoch.config + 1) t := by
  rcases governed.cases command done with configures | same
  · exact configures_floor (Nat.le_succ _) (Nat.le_refl _) floor configures done
  · exact floor.same same

theorem begun_floor (done : s.beginCycle epoch = .ok t) : Floor epoch.job epoch.config (epoch.config + 1) t := by
  obtain ⟨open_, free, changes, jobs⟩ := beginCycle_ok done
  rw [hasChange_false] at free
  refine ⟨fun job read _ => ?_, fun change member => absurd (by rw [← changes]; exact member) (free change)⟩
  rw [jobs, get_modify, if_pos rfl] at read
  obtain ⟨old, present, rfl⟩ := map_eq_some_iff.mp read
  rw [present] at open_
  simp only [any_some, Bool.and_eq_true, beq_iff_eq] at open_
  exact Nat.le_of_eq open_.1.symm

theorem event_supersedes (event : Command) (floor : Floor epoch.job epoch.config (epoch.config + 1) s)
    (supersedes : Supersedes epoch s event) (fresh : ∀ other, event = .begin other → other.cycle ≠ epoch.cycle) :
    Superseded epoch (step (Command.execute platform) s event) := by
  cases event with
  | begin other =>
    obtain ⟨same, accepted⟩ := supersedes
    have done := ok_of_isOk (Command.execute platform) s (.begin other) accepted
    generalize step (Command.execute platform) s (.begin other) = after at done ⊢
    obtain ⟨_, _, _, jobs⟩ := beginCycle_ok done
    refine .inl (fun job read => ?_)
    rw [jobs, get_modify, if_pos same.symm] at read
    obtain ⟨old, present, rfl⟩ := map_eq_some_iff.mp read
    rw [ne_eq, some.injEq]
    exact fresh other rfl
  | endCycle other =>
    obtain ⟨same, cycle⟩ := supersedes
    rw [step_of_ok rfl]
    refine .inl (fun job read => ?_)
    simp only [endCycle, get_modify, if_pos same.symm, map_eq_some_iff] at read
    obtain ⟨old, present, rfl⟩ := read
    rw [cycle]
    split
    · simp
    · next other => exact other
  | queueEdit id edit =>
    obtain ⟨rfl, answer⟩ := supersedes
    have accepted : (s.queueEdit epoch.job edit).isOk = true := by
      rw [queueEdit_answer, answer]
      rfl
    have done := ok_of_isOk (Command.execute platform) s (.queueEdit epoch.job edit) accepted
    generalize step (Command.execute platform) s (.queueEdit epoch.job edit) = after at done ⊢
    have higher := floor.queueEdit (Nat.le_refl _) epoch.job edit done
    refine .inr ⟨fun job read free => ?_, higher.queued⟩
    rcases queueEdit_cases done with ⟨refused, _⟩ | ⟨_, _, _, rfl⟩
    · rw [answer] at refused
      cases refused
    · rw [hasChange_false] at free
      exact absurd ((mem_writeChange).mpr (.inr ⟨rfl, rfl⟩)) (free _)
  | beginReset =>
    rw [step_of_ok rfl]
    refine .inr ⟨fun job read free => ?_, floor.queued⟩
    simp only [beginReset, get_update, map_eq_some_iff] at read
    obtain ⟨old, present, rfl⟩ := read
    exact Nat.succ_le_succ (floor.installed old present free)
  | _ => cases supersedes

theorem Superseded.refused (superseded : Superseded epoch s) : (s.validEpoch epoch).isOk = false := by
  cases answer : s.validEpoch epoch with
  | error => rfl
  | ok =>
    unfold validEpoch at answer
    rw [ensure_ok, Bool.and_eq_true, Bool.not_eq_true'] at answer
    obtain ⟨job, read, valid⟩ := (any_eq_true _ _).mp answer.1
    simp only [Bool.and_eq_true, beq_iff_eq] at valid
    rcases superseded with other | floor
    · exact absurd valid.1.1.2 (other job read)
    · have above := floor.installed job read answer.2
      omega

theorem epoch_command_valid (own : command.epoch? = some epoch) (done : command.execute platform s = .ok t) :
    (s.validEpoch epoch).isOk = true := by
  have valid : ∃ value, s.validEpoch epoch = .ok value := by
    cases command with
    | save _ _ | confirm _ _ _ _ | uploadFailed _ _ _ | retireIssued _ _ _ | enroll _ | confirmAbsentDeletion _ _ _ _ =>
      cases own
      obtain ⟨value, checked, _⟩ := bind_ok.mp done
      exact ⟨value, checked⟩
    | _ => cases own
  obtain ⟨value, checked⟩ := valid
  rw [checked]
  rfl

theorem superseded_epoch_never_writes (platform : Platform) (s : Store) (epoch : Epoch) (between later : List Command)
    (event : Command) (accepted : (s.beginCycle epoch).isOk = true)
    (before : Meets (Command.execute platform) (Governed platform epoch)
      (step (Command.execute platform) s (.begin epoch)) between)
    (supersedes : Supersedes epoch (run (Command.execute platform) s (.begin epoch :: between)) event)
    (fresh : ∀ other, event = .begin other → other.cycle ≠ epoch.cycle)
    (after : Meets (Command.execute platform) (Governed platform epoch)
      (run (Command.execute platform) s (.begin epoch :: between ++ [event])) later) :
    let last := run (Command.execute platform) s (.begin epoch :: between ++ event :: later)
    (last.validEpoch epoch).isOk = false ∧
      ∀ command : Command, command.epoch? = some epoch → step (Command.execute platform) last command = last := by
  intro last
  have done := ok_of_isOk (Command.execute platform) s (.begin epoch) accepted
  have floor := run_keeps (Floor epoch.job epoch.config (epoch.config + 1))
    (fun _ command _ start met finished => governed_floor met start finished) (begun_floor done) before
  have superseded : Superseded epoch
      (step (Command.execute platform) (run (Command.execute platform) s (.begin epoch :: between)) event) :=
    event_supersedes event floor supersedes fresh
  have refused : (last.validEpoch epoch).isOk = false := by
    refine Superseded.refused ?_
    have split : last = run (Command.execute platform)
        (step (Command.execute platform) (run (Command.execute platform) s (.begin epoch :: between)) event) later :=
      run_append (Command.execute platform) s (.begin epoch :: between) (event :: later)
    rw [split]
    rw [run_append] at after
    exact run_keeps _ (fun _ command _ start met finished => governed_superseded met start finished) superseded after
  refine ⟨refused, fun command own => ?_⟩
  rcases step_cases (Command.execute platform) last command with same | wrote
  · exact same
  · rw [epoch_command_valid own wrote] at refused
    cases refused

theorem edited_epoch_never_writes :
    let s := run (Command.execute Sample.platform) .empty [.createJob Sample.job, .insertMediaItem Sample.item]
    let last := run (Command.execute Sample.platform) s
      [.begin Sample.epoch, .enroll Sample.epoch, .queueEdit 1 (.direction .uploadOnly), .setJobPaused 1 true,
        .applyChange 1 2, .setJobPaused 1 false]
    last.entries.rows ≠ [] ∧ (last.validEpoch Sample.epoch).isOk = false ∧
      ∀ command : Command, command.epoch? = some Sample.epoch → step (Command.execute Sample.platform) last command = last := by
  intro s last
  refine ⟨by decide +kernel, ?_⟩
  refine superseded_epoch_never_writes Sample.platform s Sample.epoch [.enroll Sample.epoch]
    [.setJobPaused 1 true, .applyChange 1 2, .setJobPaused 1 false]
    (.queueEdit 1 (.direction .uploadOnly)) (by decide +kernel) ?_ ?_ ?_ ?_
  · exact ⟨⟨.inr (.inl rfl), fun _ given => by cases given⟩, trivial⟩
  · exact ⟨rfl, by decide +kernel⟩
  · exact fun _ given => by cases given
  · exact ⟨⟨.inl rfl, fun _ given => by cases given⟩, ⟨.inl rfl, fun _ given => by cases given⟩,
      ⟨.inl rfl, fun _ given => by cases given⟩, trivial⟩

end Cycles
end PhotoSync
