import PhotoSync.Runs.Superseded

set_option autoImplicit false

namespace PhotoSync
open Relational Transaction Store Table Option

structure Configuration where
  direction : SyncDirection
  upload : UploadScope × List String
  delete : Bool
deriving DecidableEq, Repr

def Configuration.ask (desired : Configuration) (edit : JobEdit) : Configuration :=
  if desired.delete then desired
  else match edit with
    | .direction value => { desired with direction := value }
    | .uploadAlbums albums => { desired with upload := (.selectedAlbums, albums) }
    | .delete => { desired with delete := true }

namespace Store

def overlay (job : Job) (change : Option PendingChange) : Configuration where
  direction := (change.bind PendingChange.direction).getD job.direction
  upload := match change.bind PendingChange.uploadAlbums with
    | some albums => (.selectedAlbums, albums)
    | none => (job.uploadScope, job.uploadAlbums)
  delete := change.any PendingChange.delete

def desired (s : Store) (id : Nat) : Option Configuration := (s.jobs.get id).map (fun job => overlay job (s.pendingChange id))

def OneChange (s : Store) : Prop := (s.changes.map Prod.fst).Nodup

instance (s : Store) : Decidable s.OneChange := inferInstanceAs (Decidable (s.changes.map Prod.fst).Nodup)

end Store

section Changes
variable {s t : Store}

theorem lookup_filter (changes : List (Nat × PendingChange)) (keep : Nat → Bool) (id : Nat) :
    (changes.filter (fun found => keep found.1)).lookup id = if keep id then changes.lookup id else none := by
  induction changes with
  | nil => simp
  | cons change rest ih =>
    obtain ⟨key, change⟩ := change
    by_cases same : id = key
    · subst same
      by_cases kept : keep id = true
      · simp [kept]
      · simp only [List.filter_cons, kept, if_false, ih, Bool.false_eq_true]
    · have differs : (id == key) = false := by simpa using same
      by_cases kept : keep key = true
      · simp only [List.filter_cons, kept, if_true, List.lookup_cons, differs, ih]
      · simp only [List.filter_cons, kept, if_false, List.lookup_cons, differs, ih, Bool.false_eq_true]

theorem pendingChange_write (s : Store) (id other : Nat) (change : PendingChange) :
    (s.writeChange id change).pendingChange other = if other = id then some change else s.pendingChange other := by
  unfold pendingChange writeChange
  rw [List.lookup_append, lookup_filter s.changes (fun key => key != id)]
  by_cases same : other = id
  · simp [same]
  · have differs : (other == id) = false := by simpa using same
    simp [same, List.lookup_cons, differs]

theorem Store.OneChange.filter (unique : s.OneChange) (test : Nat × PendingChange → Bool) :
    ((s.changes.filter test).map Prod.fst).Nodup :=
  (List.filter_sublist.map _).nodup unique

theorem Store.OneChange.write (unique : s.OneChange) (id : Nat) (change : PendingChange) : (s.writeChange id change).OneChange := by
  unfold Store.OneChange writeChange
  rw [List.map_append, List.nodup_append]
  refine ⟨unique.filter _, by simp, ?_⟩
  intro key member other same
  simp only [List.mem_map, List.mem_filter, bne_iff_ne] at member
  obtain ⟨found, ⟨_, different⟩, rfl⟩ := member
  simp only [List.map_cons, List.map_nil, List.mem_singleton] at same
  rw [same]
  exact different

end Changes

variable {id revision : Nat} {edit : JobEdit} {command : Command}

section Edits
variable {s t : Store}

theorem overlay_merge (job : Job) (pending : Option PendingChange) (edit : JobEdit) (revision : Nat)
    (kept : pending.any PendingChange.delete = false) :
    overlay job (some { mergeEdit (pending.getD ⟨0, none, none, false⟩) edit with revision := revision }) =
      (overlay job pending).ask edit := by
  cases pending with
  | none => cases edit <;> simp [overlay, mergeEdit, Configuration.ask]
  | some =>
    rw [any_some] at kept
    cases edit <;> simp [overlay, mergeEdit, Configuration.ask, kept]

theorem ask_current (job : Job) (pending : Option PendingChange) (edit : JobEdit)
    (kept : pending.any PendingChange.delete = false) : (overlay job pending).ask edit = overlay job pending ↔
      editIsCurrent job (pending.getD ⟨0, none, none, false⟩) edit = true := by
  unfold Configuration.ask
  rw [if_neg (by simp [overlay, kept])]
  cases edit with
  | direction value =>
    have same : editIsCurrent job (pending.getD ⟨0, none, none, false⟩) (.direction value) = true ↔
        value = (overlay job pending).direction := by
      cases pending with
      | none | some => simpa [overlay, editIsCurrent] using eq_comm
    rw [same]
    generalize overlay job pending = desired
    cases desired
    simp
  | uploadAlbums albums =>
    have same : editIsCurrent job (pending.getD ⟨0, none, none, false⟩) (.uploadAlbums albums) = true ↔
        (overlay job pending).upload = (.selectedAlbums, albums) := by
      cases pending with
      | none => simp [overlay, editIsCurrent]
      | some change =>
        cases queued : change.uploadAlbums with
        | none | some => simp [overlay, editIsCurrent, queued]
    rw [same, eq_comm]
    generalize overlay job pending = desired
    cases desired
    simp
  | delete => simp [overlay, editIsCurrent, kept]

theorem pending_delete (pending : Option PendingChange) :
    (pending.getD ⟨0, none, none, false⟩).delete = pending.any PendingChange.delete := by
  cases pending with
  | none | some => rfl

theorem queueAnswer_iff (s : Store) (id : Nat) (edit : JobEdit) :
    s.queueAnswer id edit = .ok true ↔ ∃ desired, s.desired id = some desired ∧ desired.ask edit ≠ desired := by
  unfold queueAnswer desired
  cases s.jobs.get id with
  | none => simp [invalid]
  | some job =>
    simp only [pending_delete, map_some, some.injEq, exists_eq_left']
    by_cases gone : (s.pendingChange id).any PendingChange.delete = true
    · rw [if_pos gone]
      have same : (overlay job (s.pendingChange id)).ask edit = overlay job (s.pendingChange id) := by
        unfold Configuration.ask
        exact if_pos gone
      rw [same]
      by_cases removal : edit = .delete
      · simp [removal]
      · simp [removal, invalid]
    · rw [if_neg gone, ne_eq, ask_current job _ edit (by simpa using gone)]
      simp

theorem desired_write (s : Store) (id other : Nat) (change : PendingChange) : (s.writeChange id change).desired other =
      if other = id then (s.jobs.get id).map (fun job => overlay job (some change)) else s.desired other := by
  unfold desired
  rw [pendingChange_write]
  by_cases same : other = id
  · rw [if_pos same, if_pos same, same]
    rfl
  · rw [if_neg same, if_neg same]
    rfl

theorem queueEdit_desired (accepted : s.queueAnswer id edit = .ok true) :
    ∃ t desired, s.queueEdit id edit = .ok t ∧ s.desired id = some desired ∧ desired.ask edit ≠ desired ∧
      t.desired id = some (desired.ask edit) ∧ ∀ other, other ≠ id → t.desired other = s.desired other := by
  obtain ⟨desired, wish, new⟩ := (queueAnswer_iff s id edit).mp accepted
  obtain ⟨job, read, same⟩ := map_eq_some_iff.mp wish
  have kept : (s.pendingChange id).any PendingChange.delete = false := by
    rw [Bool.eq_false_iff]
    intro gone
    refine new ?_
    unfold Configuration.ask
    rw [if_pos (by rw [← same]; exact gone)]
  have written := queueEdit_answer s id edit
  rw [accepted, read] at written
  refine ⟨_, desired, written, wish, new, ?_, fun other different => ?_⟩
  · rw [desired_write, if_pos rfl, read, map_some, overlay_merge job _ edit _ kept, same]
  · rw [desired_write, if_neg different]

theorem queueEdit_refused (platform : Platform) (refused : s.queueAnswer id edit ≠ .ok true) :
    step (Command.execute platform) s (.queueEdit id edit) = s := by
  have written : (Command.queueEdit id edit).execute platform s = s.queueEdit id edit := rfl
  unfold step
  rw [written, queueEdit_answer]
  cases answer : s.queueAnswer id edit with
  | error => rfl
  | ok accepted =>
    cases accepted with
    | false => rfl
    | true => exact absurd answer refused

theorem queueEdit_asks (platform : Platform) (id other : Nat) (edit : JobEdit) :
    (step (Command.execute platform) s (.queueEdit id edit)).desired other =
      if id = other then (s.desired other).map (fun desired => desired.ask edit) else s.desired other := by
  by_cases accepted : s.queueAnswer id edit = .ok true
  · obtain ⟨t, desired, done, wish, _, asked, rest⟩ := queueEdit_desired accepted
    rw [step_of_ok done]
    by_cases same : id = other
    · subst same
      rw [if_pos rfl, asked, wish, map_some]
    · rw [if_neg same]
      exact rest other (Ne.symm same)
  · rw [queueEdit_refused platform accepted]
    by_cases same : id = other
    · subst same
      rw [if_pos rfl]
      cases wish : s.desired id with
      | none => rfl
      | some desired =>
        rw [map_some, some.injEq]
        by_contra new
        exact accepted ((queueAnswer_iff s id edit).mpr ⟨desired, wish, fun kept => new kept.symm⟩)
    · rw [if_neg same]

end Edits

section Installs
variable {s t : Store}

def Realizes (s t : Store) : Prop :=
  ∀ id, t.desired id = s.desired id ∨ t.desired id = none ∧ (s.desired id).any Configuration.delete = true

theorem overlay_install (job : Job) {change : PendingChange} (kept : change.delete = false) :
    overlay (installChange change job) none = overlay job (some change) := by
  cases queued : change.uploadAlbums with
  | none | some => simp [overlay, installChange, kept, queued]

theorem deleteJobs_desired (s : Store) (id other : Nat) :
    (s.deleteJobs (fun key _ => key == id)).desired other = if other = id then none else s.desired other := by
  have read : (s.deleteJobs (fun key _ => key == id)).jobs.get other = (s.jobs.get other).filter (fun _ => !(other == id)) := by
    simp [deleteJobs, deleteEntries]
  unfold desired
  rw [read]
  by_cases same : other = id
  · simp [same]
  · have pending : (s.deleteJobs (fun key _ => key == id)).pendingChange other = s.pendingChange other := by
      unfold pendingChange deleteJobs
      have kept : (s.jobs.get other).any (fun _ => other == id) = false := by
        cases s.jobs.get other with
        | none => rfl
        | some => simpa using same
      exact (lookup_filter s.changes (fun key => !(s.jobs.get key).any (fun _ => key == id)) other).trans (by simp [kept])
    rw [pending, if_neg same]
    cases s.jobs.get other with
    | none => rfl
    | some => simp [same]

theorem applyChange_realizes (done : s.applyChange id revision = .ok t) : Realizes s t := by
  obtain rfl | ⟨change, job, found, _, read, outcome⟩ := applyChange_cases done
  · exact fun _ => .inl rfl
  · split at outcome
    · next removing =>
      obtain ⟨_, gone⟩ := deleteJob_eq outcome
      intro other
      have same : t.desired other = (s.deleteJobs (fun key _ => key == id)).desired other := by
        rw [gone]
        rfl
      rw [same, deleteJobs_desired]
      by_cases own : other = id
      · refine .inr ⟨if_pos own, ?_⟩
        subst own
        simp [desired, read, found, overlay, removing]
      · exact .inl (if_neg own)
    · next staying =>
      subst outcome
      refine fun other => .inl ?_
      unfold desired pendingChange updateJob
      rw [lookup_filter s.changes (fun key => key != id), get_modify]
      by_cases own : other = id
      · subst own
        have found : s.changes.lookup other = some change := found
        have installed := overlay_install job (by simpa using staying)
        simp only [read, found, bne_self_eq_false, if_true, map_some]
        exact congrArg some installed
      · simp [own]

theorem applyChange_stale (platform : Platform) (other : (s.pendingChange id).map PendingChange.revision ≠ some revision) :
    step (Command.execute platform) s (.applyChange id revision) = s := by
  have done : (Command.applyChange id revision).execute platform s = .ok s := by
    change s.applyChange id revision = .ok s
    unfold applyChange
    cases found : s.pendingChange id with
    | none => rfl
    | some change =>
      have differs : (change.revision != revision) = true := by simpa [found] using other
      simp [differs]
  exact step_of_ok done

theorem installPending_desired (changes : List (Nat × PendingChange)) (unique : (changes.map Prod.fst).Nodup) (s : Store)
    (id : Nat) (job : Job) (read : s.jobs.get id = some job) :
    (∃ installed, (changes.foldl installPending s).jobs.get id = some installed ∧
      overlay installed none = overlay job (changes.lookup id)) ∨
    ((changes.foldl installPending s).jobs.get id = none ∧ (changes.lookup id).any PendingChange.delete = true) := by
  induction changes generalizing s job with
  | nil => exact .inl ⟨job, read, rfl⟩
  | cons change rest ih =>
    obtain ⟨key, change⟩ := change
    rw [List.map_cons, List.nodup_cons] at unique
    by_cases own : id = key
    · subst own
      have none : rest.lookup id = none := by
        rw [List.lookup_eq_none_iff]
        intro found member
        have other : id ≠ found.1 := fun same => unique.1 (List.mem_map.mpr ⟨found, member, same.symm⟩)
        simpa using other
      rw [List.lookup_cons, beq_self_eq_true, List.foldl_cons]
      by_cases removing : change.delete = true
      · refine .inr ⟨?_, removing⟩
        have gone : (s.installPending (id, change)).jobs.get id = Option.none := by
          simp [installPending, removing, deleteJobs, deleteEntries, read]
        cases after : (rest.foldl installPending (s.installPending (id, change))).jobs.get id with
        | none => rfl
        | some =>
          obtain ⟨old, present, _⟩ := installPending_rises rest _ after
          rw [gone] at present
          cases present
      · have installed : (s.installPending (id, change)).jobs.get id = some { installChange change job with
            configGeneration := max job.configGeneration change.revision } := by
          simp [installPending, removing, updateJob, read]
        rcases ih unique.2 _ _ installed with ⟨last, after, same⟩ | ⟨_, gone⟩
        · refine .inl ⟨last, after, same.trans ?_⟩
          rw [none]
          exact overlay_install job (by simpa using removing)
        · rw [none] at gone
          cases gone
    · have differs : (id == key) = false := by simpa using own
      rw [List.lookup_cons, differs, List.foldl_cons]
      refine ih unique.2 _ job ?_
      unfold installPending
      split
      · simp [deleteJobs, deleteEntries, read, own]
      · simp [updateJob, get_modify, read, own]

theorem finishReset_realizes (unique : s.OneChange) (token : String) : Realizes s (s.finishReset token) := by
  unfold finishReset
  split
  · exact fun _ => .inl rfl
  · intro id
    have jobs : ∀ u : Store, (u.forgetCloudMedia.deleteEntries (fun _ _ => true)).jobs = u.jobs := fun _ => rfl
    simp only [desired, pendingChange, List.lookup_nil, get_update, jobs]
    cases read : s.jobs.get id with
    | none =>
      cases after : (s.changes.foldl installPending s).jobs.get id with
      | none => exact .inl rfl
      | some =>
        obtain ⟨old, present, _⟩ := installPending_rises s.changes s after
        rw [read] at present
        cases present
    | some job =>
      rcases installPending_desired s.changes unique s id job read with ⟨installed, after, same⟩ | ⟨gone, removing⟩
      · rw [after]
        exact .inl (congrArg some same)
      · rw [gone]
        exact .inr ⟨rfl, removing⟩

theorem beginReset_desired (token : String) (id : Nat) : (s.beginReset token).desired id = s.desired id := by
  unfold desired beginReset
  rw [get_update]
  cases s.jobs.get id with
  | none | some => rfl

theorem setJobPaused_desired (target : Nat) (paused : Bool) (id : Nat) : (s.setJobPaused target paused).desired id = s.desired id := by
  unfold desired setJobPaused updateJob
  rw [get_modify]
  cases s.jobs.get id with
  | none | some => split <;> rfl

end Installs

section Runs
variable {s t : Store} {platform : Platform}

def Command.Settings : Command → Prop
  | .queueEdit _ edit => ∃ submitted : JobEdit, submitted.normalize = .ok edit
  | .applyChange _ _ | .beginReset _ | .failReset _ _ | .finishReset _ | .setJobPaused _ _ => True
  | _ => False

def Command.asks (id : Nat) (desired : Configuration) : Command → Configuration
  | .queueEdit target edit => if target = id then desired.ask edit else desired
  | _ => desired

def asked (id : Nat) (commands : List Command) (desired : Configuration) : Configuration :=
  commands.foldl (fun desired command => command.asks id desired) desired

theorem deleteJob_oneChange (unique : s.OneChange) (id : Nat) (done : s.deleteJob id = .ok t) : t.OneChange := by
  obtain ⟨_, rfl⟩ := deleteJob_eq done
  exact unique.filter _

theorem settings_oneChange (own : command.Settings) (unique : s.OneChange) (done : command.execute platform s = .ok t) :
    t.OneChange := by
  cases command with
  | queueEdit id =>
    rcases queueEdit_cases done with ⟨_, rfl⟩ | ⟨_, _, _, rfl⟩
    · exact unique
    · exact unique.write id _
  | applyChange id revision =>
    have applied : s.applyChange id revision = .ok t := done
    unfold applyChange at applied
    split at applied
    · cases applied
      exact unique
    · split at applied
      · cases applied
        exact unique
      · obtain ⟨_, _, _, _, rest⟩ := bind2_ok applied
        split at rest
        · exact deleteJob_oneChange unique id rest
        · cases rest
          exact unique.filter _
  | beginReset | failReset | setJobPaused =>
    cases done
    exact unique
  | finishReset =>
    cases done
    unfold finishReset
    split
    · exact unique
    · exact List.nodup_nil
  | _ => exact own.elim

theorem settings_realize (own : command.Settings) (unique : s.OneChange) (id : Nat) :
    (step (Command.execute platform) s command).desired id = (s.desired id).map (fun desired => command.asks id desired) ∨
      (step (Command.execute platform) s command).desired id = none ∧
        (s.desired id).all (fun desired => (command.asks id desired).delete) = true := by
  have realized : ∀ t, Realizes s t → (∀ desired : Configuration, command.asks id desired = desired) →
      t.desired id = (s.desired id).map (fun desired => command.asks id desired) ∨
        t.desired id = none ∧ (s.desired id).all (fun desired => (command.asks id desired).delete) = true := by
    intro t realizes same
    simp only [same, map_id']
    refine (realizes id).imp (fun kept => kept) (fun gone => ⟨gone.1, ?_⟩)
    obtain ⟨desired, wish, removing⟩ := (any_eq_true _ _).mp gone.2
    simp [wish, removing]
  cases command with
  | queueEdit =>
    refine .inl ?_
    rw [queueEdit_asks]
    simp only [Command.asks]
    split
    · rfl
    · simp
  | applyChange target revision =>
    rcases step_cases (Command.execute platform) s (.applyChange target revision) with same | done
    · rw [same]
      exact realized s (fun _ => .inl rfl) (fun _ => rfl)
    · exact realized _ (applyChange_realizes done) (fun _ => rfl)
  | beginReset token => exact realized _ (fun id => .inl (beginReset_desired token id)) (fun _ => rfl)
  | failReset => exact realized _ (fun _ => .inl rfl) (fun _ => rfl)
  | finishReset token => exact realized _ (finishReset_realizes unique token) (fun _ => rfl)
  | setJobPaused target paused => exact realized _ (fun id => .inl (setJobPaused_desired target paused id)) (fun _ => rfl)
  | _ => exact own.elim

theorem asks_removed (id : Nat) (command : Command) {desired : Configuration} (removing : desired.delete = true) :
    command.asks id desired = desired := by
  cases command with
  | queueEdit =>
    simp only [Command.asks, Configuration.ask, if_pos removing, ite_self]
  | _ => rfl

theorem asked_removed (id : Nat) (commands : List Command) {desired : Configuration} (removing : desired.delete = true) :
    asked id commands desired = desired := by
  induction commands with
  | nil => rfl
  | cons command rest ih =>
    rw [asked, List.foldl_cons, asks_removed id command removing]
    exact ih

theorem settings_run (platform : Platform) {commands : List Command} (s : Store) (unique : s.OneChange)
    (own : ∀ command ∈ commands, command.Settings) (id : Nat) :
    (run (Command.execute platform) s commands).desired id = (s.desired id).map (asked id commands) ∨
      (run (Command.execute platform) s commands).desired id = none ∧
        (s.desired id).all (fun desired => (asked id commands desired).delete) = true := by
  induction commands generalizing s with
  | nil => exact .inl map_id'.symm
  | cons command rest ih =>
    have ours := own command List.mem_cons_self
    have after := ih (step (Command.execute platform) s command)
      (step_keeps Store.OneChange (fun _ command => command.Settings)
        (fun _ command _ start met done => settings_oneChange met start done) unique ours)
      (fun later member => own later (List.mem_cons_of_mem _ member))
    rcases settings_realize ours unique id with kept | ⟨gone, removing⟩
    · rw [kept] at after
      rw [map_map, all_map] at after
      exact after
    · refine .inr ⟨?_, ?_⟩
      · rw [gone] at after
        rcases after with after | after
        · exact after
        · exact after.1
      · cases wish : s.desired id with
        | none => rfl
        | some =>
          rw [wish, all_some] at removing
          rw [all_some, asked, List.foldl_cons]
          have same := asked_removed id rest removing
          unfold asked at same
          rw [same]
          exact removing

structure Desires (platform : Platform) (s : Store) : Prop where
  accepted : ∀ id submitted t, s.submitEdit id submitted = .ok (t, true) →
    ∃ edit desired, submitted.normalize = .ok edit ∧ s.desired id = some desired ∧ desired.ask edit ≠ desired ∧
      t.desired id = some (desired.ask edit) ∧ ∀ other, other ≠ id → t.desired other = s.desired other
  unchanged : ∀ id submitted t, s.submitEdit id submitted = .ok (t, false) → t = s
  refused : ∀ id edit, (s.queueEdit id edit).isOk = false → step (Command.execute platform) s (.queueEdit id edit) = s
  applied : ∀ id revision t, s.applyChange id revision = .ok t → Realizes s t
  stale : ∀ id revision, (s.pendingChange id).map PendingChange.revision ≠ some revision →
    step (Command.execute platform) s (.applyChange id revision) = s
  begun : ∀ token id, (s.beginReset token).desired id = s.desired id
  failed : ∀ token error id, (s.failReset token error).desired id = s.desired id
  finished : ∀ token, Realizes s (s.finishReset token)
  removing : ∀ id desired, s.desired id = some desired → desired.delete = true → ∀ submitted t, s.submitEdit id submitted ≠ .ok (t, true)

theorem submitEdit_ok {submitted : JobEdit} {changed : Bool} (done : s.submitEdit id submitted = .ok (t, changed)) :
    ∃ edit, submitted.normalize = .ok edit ∧ s.queueAnswer id edit = .ok changed ∧ s.queueEdit id edit = .ok t := by
  obtain ⟨edit, normal, answer, answered, after, queued, rest⟩ := bind3_ok done
  cases rest
  exact ⟨edit, normal, answered, queued⟩

theorem desires (unique : s.OneChange) : Desires platform s := by
  constructor
  · intro id submitted t done
    obtain ⟨edit, normal, answer, queued⟩ := submitEdit_ok done
    obtain ⟨u, desired, again, wish, new, asked, rest⟩ := queueEdit_desired answer
    rw [queued] at again
    cases again
    exact ⟨edit, desired, normal, wish, new, asked, rest⟩
  · intro id submitted t done
    obtain ⟨edit, _, answer, queued⟩ := submitEdit_ok done
    rcases queueEdit_cases queued with ⟨_, same⟩ | ⟨_, accepted, _⟩
    · exact same
    · rw [answer] at accepted
      cases accepted
  · intro id edit failure
    refine queueEdit_refused platform (fun accepted => ?_)
    obtain ⟨t, _, done, _⟩ := queueEdit_desired accepted
    rw [done] at failure
    cases failure
  · exact fun id revision t done => applyChange_realizes done
  · exact fun id revision other => applyChange_stale platform other
  · exact fun token id => beginReset_desired token id
  · exact fun _ _ _ => rfl
  · exact fun token => finishReset_realizes unique token
  · intro id desired wish removing submitted t done
    obtain ⟨edit, _, answer, _⟩ := submitEdit_ok done
    obtain ⟨other, again, new⟩ := (queueAnswer_iff s id edit).mp answer
    rw [wish] at again
    cases again
    exact new (if_pos removing)

-- In every state that the settings' commands lead to each of them does to the desired configuration what it says, and
-- that of a job that is still there is what was asked since, edit by edit.
theorem desired_is_last_asked (platform : Platform) (s : Store) (unique : s.OneChange) (commands : List Command)
    (own : ∀ command ∈ commands, command.Settings) :
    let t := run (Command.execute platform) s commands
    Desires platform t ∧ (∀ id, t.desired id = (s.desired id).map (asked id commands) ∨
        t.desired id = none ∧ (s.desired id).all (fun desired => (asked id commands desired).delete) = true) ∧
      ∀ id desired, s.desired id = some desired → desired.delete = true → t.desired id = some desired ∨ t.desired id = none := by
  intro t
  have met : Meets (Command.execute platform) (fun _ command => command.Settings) s commands :=
    meets_of_forall (fun _ command member => own command member)
  have still : t.OneChange := run_keeps Store.OneChange
    (fun _ command _ start met done => settings_oneChange met start done) unique met
  have runs := settings_run platform s unique own
  refine ⟨desires still, runs, fun id desired wish removing => ?_⟩
  rcases runs id with kept | gone
  · rw [wish, Option.map_some, asked_removed id commands removing] at kept
    exact .inl kept
  · exact .inr gone.1

-- Albums and direction are edited one after the other, the first edit is
-- installed alone, and a reset installs the second.
theorem edits_survive_reset :
    let s := run (Command.execute Sample.platform) .empty [.createJob Sample.job]
    let commands : List Command := [.queueEdit 1 (.uploadAlbums ["a", "b"]), .setJobPaused 1 true, .applyChange 1 2,
      .queueEdit 1 (.direction .uploadOnly), .beginReset "reset", .applyChange 1 3, .finishReset "reset"]
    let t := run (Command.execute Sample.platform) s commands
    t.desired 1 = some ⟨.uploadOnly, (.selectedAlbums, ["a", "b"]), false⟩ ∧ t.changes = [] ∧ Desires Sample.platform t ∧
      t.desired 1 = (s.desired 1).map (asked 1 commands) := by
  intro s commands t
  obtain ⟨desires, runs, _⟩ := desired_is_last_asked Sample.platform s (by decide +kernel) commands (by
    have albums : normalizeRelativeAlbums ["/b", "a", "b/"] = .ok ["a", "b"] := by decide +kernel
    have submitted : (JobEdit.uploadAlbums ["/b", "a", "b/"]).normalize = .ok (.uploadAlbums ["a", "b"]) := by
      change (normalizeRelativeAlbums ["/b", "a", "b/"]).bind (fun albums => .ok (JobEdit.uploadAlbums albums)) = _
      rw [albums]
      rfl
    simp only [commands, List.forall_mem_cons]
    exact ⟨⟨_, submitted⟩, trivial, trivial, ⟨.direction .uploadOnly, rfl⟩, trivial, trivial, trivial, by simp⟩)
  have there : (t.desired 1).isSome = true := by decide +kernel
  refine ⟨by decide +kernel, by decide +kernel, desires, (runs 1).resolve_right (fun gone => ?_)⟩
  rw [gone.1] at there
  cases there

end Runs
end PhotoSync
