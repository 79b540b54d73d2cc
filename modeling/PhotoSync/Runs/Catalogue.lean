import PhotoSync.Store.IntentCommand

set_option autoImplicit false

namespace PhotoSync
open Relational Transaction Store Table Option

def standDown (job : Nat) (photo name : String) (row : Publication) : Publication :=
  if row.job == job && row.photoId == some photo && row.publicationId != name && row.state == .pending
  then { row with state := .superseded } else row

theorem standDown_lowered (job : Nat) (photo name : String) (row : Publication) : Lowered row (standDown job photo name row) :=
  Lowers.superseded row _

variable {platform : Platform} {job entry : Nat} {capture : Capture} {photo name : String}
  {decision : Entry.Settlement} {fresh : Publication} {details : RecoveryDetails}

theorem standDown_named {row : Publication} (named : row.publicationId = name) : standDown job photo name row = row := by
  simp [standDown, named]

theorem standDown_not_pending {row : Publication} (own : row.job = job) (same : row.photoId = some photo)
    (other : row.publicationId ≠ name) : (standDown job photo name row).state ≠ .pending := by
  unfold standDown
  by_cases pending : row.state = .pending
  · simp [own, same, other, pending]
  · simp [pending]

variable {s t : Store} {localVersion : Nat} {id : String} {policy : IntentPolicy} {command : Command}

theorem stood_distinct (distinct : s.Identified) :
    (s.publications.update (fun _ row => standDown job photo name row)).Distinct Publication.publicationId := by
  refine distinct_of_origin _ distinct (fun id row read => ?_)
  rw [get_update, map_eq_some_iff] at read
  obtain ⟨old, present, rfl⟩ := read
  exact ⟨old, present, (standDown_lowered _ _ _ old).publicationId⟩

def reschedule (capture : Capture) (row : Publication) : Publication :=
  Store.setCapture { row with state := if row.state = .superseded then .pending else row.state } capture

structure RescheduledFrom (row later : Publication) : Prop where
  publicationId : later.publicationId = row.publicationId
  job : later.job = row.job
  entry : later.entry = row.entry
  photoId : later.photoId = row.photoId
  originalAssetId : later.originalAssetId = row.originalAssetId
  thumbnailAssetId : later.thumbnailAssetId = row.thumbnailAssetId
  publishing : later.state = .publishing → row.state = .publishing

theorem reschedule_from (capture : Capture) (row : Publication) : RescheduledFrom row (reschedule capture row) := by
  have kept : ∀ changed : Publication, RescheduledFrom changed (setCapture changed capture) := by
    intro changed
    unfold setCapture
    split <;> exact ⟨rfl, rfl, rfl, rfl, rfl, rfl, id⟩
  have same := kept { row with state := if row.state = .superseded then .pending else row.state }
  refine ⟨same.publicationId, same.job, same.entry, same.photoId, same.originalAssetId, same.thumbnailAssetId, ?_⟩
  intro still
  have raised := same.publishing still
  split at raised
  · cases raised
  · exact raised

theorem reschedule_capture (capture : Capture) (row : Publication) :
    (reschedule capture row).capture = row.capture ∨ (reschedule capture row).capture = some capture := by
  have kept : ∀ changed : Publication, (setCapture changed capture).capture = changed.capture ∨
      (setCapture changed capture).capture = some capture := by
    intro changed
    unfold setCapture
    split
    · exact .inl rfl
    · exact .inr rfl
  exact kept _

inductive ScheduledRow (s : Store) (job : Nat) (photo name : String) (capture : Capture) (fresh : Publication) (id : Nat)
    (row : Publication) : Prop where
  | other (old : Publication) (read : s.publications.get id = some old) (different : old.publicationId ≠ name)
    (same : row = standDown job photo name old)
  | named (old : Publication) (read : s.publications.get id = some old) (named : old.publicationId = name)
    (same : row = reschedule capture old)
  | fresh (missing : ∀ other old, s.publications.get other = some old → old.publicationId ≠ name) (same : row = fresh)

structure Schedule (platform : Platform) (s t : Store) (job entry localVersion : Nat) (decision : Entry.Settlement)
    (capture : Capture) (fresh : Publication) : Prop where
  configured : ∃ config, s.jobs.get job = some config ∧ capture.config = config.configGeneration
  captured : capture.job = job ∧ capture.entry = entry ∧ capture.localVersion = localVersion ∧
    capture.dirty = decision.dirty ∧ capture.projection = some decision.photo
  opened : fresh.publicationId = Store.publicationName platform job decision.photo ∧ fresh.job = job ∧
    fresh.entry = some entry ∧ fresh.photoId = some decision.photo.photoId ∧
    fresh.originalAssetId = some decision.photo.original.assetId ∧
    fresh.thumbnailAssetId = some decision.photo.thumbnail.assetId ∧ fresh.state = .pending ∧
    fresh.capture = some capture
  publications : t.publications = (s.publications.update (fun _ row => standDown job decision.photo.photoId
    (Store.publicationName platform job decision.photo) row)).upsert
      (fun row => row.publicationId == Store.publicationName platform job decision.photo) (reschedule capture) fresh
  entries : t.entries = s.entries
  jobs : t.jobs = s.jobs
  progress : t.progress = s.progress

theorem schedulePlacement_ok (done : schedulePlacement platform s job entry localVersion decision = .ok t) :
    ∃ capture fresh, Schedule platform s t job entry localVersion decision capture fresh := by
  obtain ⟨config, configured, row, _, rest⟩ := bind2_ok done
  rw [requireRow_ok] at configured
  cases rest
  let capture : Capture := {
    job := job, entry := entry, localVersion := localVersion, config := config.configGeneration
    dirty := decision.dirty, photo := none, contentGeneration := some decision.photo.contentGeneration
    preserveMetadata := decision.preserveMetadata, localRelativePath := some row.relativePath
    favorite := (s.linkedMedia row).map Media.isFavorite, takenAt := (s.linkedMedia row).bind Media.takenAt
    projection := some decision.photo }
  let fresh : Publication := {
    publicationId := publicationName platform job decision.photo, job := job, entry := some entry
    photoId := some decision.photo.photoId, masterId := some decision.photo.masterId
    originalAssetId := some decision.photo.original.assetId, thumbnailAssetId := some decision.photo.thumbnail.assetId
    state := .pending, capture := some capture, details := none }
  refine ⟨capture, fresh, ⟨config, configured, rfl⟩, ⟨rfl, rfl, rfl, rfl, rfl⟩,
    ⟨rfl, rfl, rfl, rfl, rfl, rfl, rfl, rfl⟩, ?_, rfl, rfl, rfl⟩
  unfold upsert
  cases located : first? (s.publications.update (fun _ row => standDown job decision.photo.photoId
    (publicationName platform job decision.photo) row))
    (fun _ row => row.publicationId == publicationName platform job decision.photo) with
  | none =>
    unfold standDown at located
    rw [located]
    rfl
  | some found =>
    unfold standDown at located
    rw [located]
    rfl

theorem Schedule.row (schedule : Schedule platform s t job entry localVersion decision capture fresh)
    (distinct : s.Identified) (id : Nat) (row : Publication) (read : t.publications.get id = some row) :
    ScheduledRow s job decision.photo.photoId (publicationName platform job decision.photo) capture fresh id row := by
  rw [schedule.publications] at read
  rcases get_upsert _ (stood_distinct distinct) (fun value => beq_iff_eq) read with
    ⟨kept, different⟩ | ⟨old, kept, named, same⟩ | ⟨_, same, missing⟩
  · rw [get_update, map_eq_some_iff] at kept
    obtain ⟨old, present, rfl⟩ := kept
    exact .other old present (by rw [← (standDown_lowered _ _ _ old).publicationId]; exact different) rfl
  · rw [get_update, map_eq_some_iff] at kept
    obtain ⟨before, present, rfl⟩ := kept
    rw [(standDown_lowered _ _ _ before).publicationId] at named
    rw [standDown_named named] at same
    exact .named before present named same
  · refine .fresh (fun other old present named => ?_) same
    have stays : (s.publications.update (fun _ row => standDown job decision.photo.photoId
        (publicationName platform job decision.photo) row)).get other =
        some (standDown job decision.photo.photoId (publicationName platform job decision.photo) old) := by
      rw [get_update, present, map_some]
    exact missing other _ stays ((standDown_lowered _ _ _ old).publicationId.trans named)

theorem Schedule.distinct (schedule : Schedule platform s t job entry localVersion decision capture fresh)
    (distinct : s.Identified) : t.Identified := by
  unfold Store.Identified
  rw [schedule.publications]
  exact distinct_upsert (publicationName platform job decision.photo) _ _ _ (stood_distinct distinct)
    (fun value => beq_iff_eq) (fun row => (reschedule_from capture row).publicationId) schedule.opened.1

structure Loosened (before after : Publication) : Prop where
  publicationId : after.publicationId = before.publicationId
  job : after.job = before.job
  photoId : after.photoId = before.photoId
  originalAssetId : after.originalAssetId = before.originalAssetId
  thumbnailAssetId : after.thumbnailAssetId = before.thumbnailAssetId
  capture : after.capture = before.capture
  entry : after.entry = before.entry ∨ after.entry = none
  unfinished : after.unfinished = true → before.unfinished = true
  publishing : after.state = .publishing → before.state = .publishing

theorem Lowered.loosened {before after : Publication} (lowered : Lowered before after) : Loosened before after :=
  ⟨lowered.publicationId, lowered.job, lowered.photoId, lowered.originalAssetId, lowered.thumbnailAssetId,
    lowered.capture, .inl lowered.entry, lowered.unfinished, lowered.publishing⟩

theorem Loosened.refl (row : Publication) : Loosened row row := (Lowered.refl row).loosened

theorem Loosened.unlinked (kept : Nat → Bool) (row : Publication) : Loosened row { row with entry := row.entry.filter kept } := by
  refine { Loosened.refl row with entry := ?_ }
  cases row.entry with
  | none => exact .inl rfl
  | some id => cases here : kept id <;> simp [here]

def Loosens (before after : Table Publication) : Prop :=
  ∀ id row, after.get id = some row → ∃ old, before.get id = some old ∧ Loosened old row

theorem deleteEntries_loosens (s : Store) (test : Nat → Entry → Bool) : Loosens s.publications (s.deleteEntries test).publications := by
  intro id row read
  simp only [deleteEntries, get_update, map_eq_some_iff] at read
  obtain ⟨old, present, rfl⟩ := read
  exact ⟨old, present, .unlinked _ old⟩

theorem deleteJobs_row {test : Nat → Job → Bool} {id : Nat} {row : Publication}
    (read : (s.deleteJobs test).publications.get id = some row) :
    (s.deleteEntries (fun _ entry => (s.jobs.get entry.job).any (test entry.job))).publications.get id = some row ∧
      (s.jobs.get row.job).any (test row.job) = false := by
  simp only [deleteJobs, get_delete, filter_eq_some_iff, Bool.not_eq_true'] at read
  exact read

theorem IntentStep.rows (step : IntentStep platform policy s t) :
    (∃ job entry localVersion decision capture fresh, policy.schedule job decision.photo ∧
      Schedule platform s t job entry localVersion decision capture fresh) ∨ Loosens s.publications t.publications := by
  cases step with
  | frame _ carried lowered =>
    refine .inr (fun id row read => ?_)
    obtain ⟨old, present, kept⟩ := lowered.publications id row read
    exact ⟨old, present, kept.loosened⟩
  | drop test => exact .inr (deleteEntries_loosens s test)
  | schedule _ job entry localVersion decision row read own bound kept allowed done =>
    obtain ⟨capture, fresh, schedule⟩ := schedulePlacement_ok done
    exact .inl ⟨job, entry, localVersion, decision, capture, fresh, allowed, schedule⟩
  | resources => exact .inr (fun id row read => ⟨row, read, .refl row⟩)
  | positions _ allowed entries publications =>
    rw [publications]
    exact .inr (fun id row read => ⟨row, read, .refl row⟩)
  | jobs =>
    exact .inr (fun id row read => deleteEntries_loosens s _ id row (deleteJobs_row read).1)
  | wipe _ allowed publications =>
    refine .inr (fun id row read => ?_)
    rw [publications] at read
    cases read

theorem addresses_cases (direct : command.addresses = true) (done : command.execute platform s = .ok t) :
    (∃ request, command = .beginPublication request) ∨ (∃ id capture details, command = .beginCollision id capture details) ∨
      (∃ id details, command = .publishing id details) ∨ t.publications = s.publications := by
  cases command with
  | beginPublication request => exact .inl ⟨request, rfl⟩
  | beginCollision id capture details => exact .inr (.inl ⟨id, capture, details, rfl⟩)
  | publishing id details => exact .inr (.inr (.inl ⟨id, details, rfl⟩))
  | beginReceive =>
    cases done
    refine .inr (.inr (.inr ?_))
    unfold beginReceive
    dsimp only
    split <;> split <;> rfl
  | stageResource | verifyResource =>
    obtain ⟨_, _, rest⟩ := bind_ok.mp done
    cases rest
    exact .inr (.inr (.inr rfl))
  | failResource =>
    cases done
    exact .inr (.inr (.inr rfl))
  | _ => cases direct

theorem Command.publications_keep {platform : Platform} (inv : Table Publication → Prop) {s t : Store}
    (command : Command) (start : inv s.publications) (done : command.execute platform s = .ok t)
    (loosen : ∀ before after, inv before → Loosens before after → inv after)
    (schedule : ∀ (before after : Store) job entry localVersion decision capture fresh, inv before.publications →
      (command.intentsOf s).schedule job decision.photo →
      Schedule platform before after job entry localVersion decision capture fresh → inv after.publications)
    (opens : ∀ request, command = .beginPublication request → inv (s.beginPublication request).publications)
    (collide : ∀ id capture details, command = .beginCollision id capture details →
      s.beginCollision id capture details = .ok t → inv t.publications)
    (publish : ∀ id details, command = .publishing id details → s.publishing id details = .ok t → inv t.publications) :
    inv t.publications := by
  cases direct : command.addresses with
  | false =>
    refine (Command.execute_intends direct done).keeps (fun u => inv u.publications) ?_ start
    intro before after kept step
    rcases step.rows with ⟨job, entry, localVersion, decision, capture, fresh, allowed, scheduled⟩ | loosened
    · exact schedule before after job entry localVersion decision capture fresh kept allowed scheduled
    · exact loosen _ _ kept loosened
  | true =>
    rcases addresses_cases direct done with
      ⟨request, rfl⟩ | ⟨id, capture, details, rfl⟩ | ⟨id, details, rfl⟩ | same
    · cases done
      exact opens request rfl
    · exact collide id capture details rfl done
    · exact publish id details rfl done
    · rw [same]
      exact start

def beginAgain (request : Store.PublicationRequest) (row : Publication) : Publication :=
  { row with
    entry := request.entry
    originalAssetId := request.original
    thumbnailAssetId := request.thumbnail
    state := if row.state = .superseded then .pending else row.state }

def begun (request : Store.PublicationRequest) : Publication where
  publicationId := request.publication
  job := request.job
  entry := request.entry
  photoId := some request.photo
  masterId := request.master
  originalAssetId := request.original
  thumbnailAssetId := request.thumbnail
  state := .pending
  capture := none
  details := none

inductive BegunRow (s : Store) (request : Store.PublicationRequest) (id : Nat) (row : Publication) : Prop where
  | other (old : Publication) (read : s.publications.get id = some old) (different : old.publicationId ≠ request.publication)
    (same : row = standDown request.job request.photo request.publication old)
  | named (old : Publication) (read : s.publications.get id = some old) (named : old.publicationId = request.publication)
    (same : row = old ∨ (request.entry.all (fun id => (s.entries.get id).isSome) = true ∧ row = beginAgain request old))
  | fresh (linked : request.entry.all (fun id => (s.entries.get id).isSome) = true)
    (missing : ∀ other old, s.publications.get other = some old → old.publicationId ≠ request.publication)
    (same : row = begun request)

theorem beginPublication_cases (s : Store) (request : Store.PublicationRequest) : (s.beginPublication request).publications =
      s.publications.update (fun _ row => standDown request.job request.photo request.publication row) ∨
    request.entry.all (fun id => (s.entries.get id).isSome) = true ∧ (s.beginPublication request).publications =
      (s.publications.update (fun _ row => standDown request.job request.photo request.publication row)).upsert
        (fun row => row.publicationId == request.publication) (beginAgain request) (begun request) := by
  unfold beginPublication upsert
  dsimp only
  cases located : first? (s.publications.update (fun _ row =>
    standDown request.job request.photo request.publication row)) (fun _ row => row.publicationId == request.publication) with
  | none =>
    unfold standDown at located
    rw [located]
    dsimp only
    split
    · next linked => exact .inr ⟨(Bool.and_eq_true _ _ ▸ linked).1, rfl⟩
    · exact .inl rfl
  | some found =>
    unfold standDown at located
    rw [located]
    dsimp only
    split
    · next linked => exact .inr ⟨linked, rfl⟩
    · exact .inl rfl

theorem beginPublication_row {request : Store.PublicationRequest} (distinct : s.Identified) {id : Nat} {row : Publication}
    (read : (s.beginPublication request).publications.get id = some row) : BegunRow s request id row := by
  rcases beginPublication_cases s request with stood | ⟨linked, opened⟩
  · rw [stood, get_update, map_eq_some_iff] at read
    obtain ⟨old, present, rfl⟩ := read
    by_cases named : old.publicationId = request.publication
    · exact .named old present named (.inl (standDown_named named))
    · exact .other old present named rfl
  · rw [opened] at read
    rcases get_upsert _ (stood_distinct distinct) (fun value => beq_iff_eq) read with
      ⟨kept, different⟩ | ⟨before, kept, named, same⟩ | ⟨_, same, missing⟩
    · rw [get_update, map_eq_some_iff] at kept
      obtain ⟨old, present, rfl⟩ := kept
      exact .other old present (by rw [← (standDown_lowered _ _ _ old).publicationId]; exact different) rfl
    · rw [get_update, map_eq_some_iff] at kept
      obtain ⟨old, present, rfl⟩ := kept
      rw [(standDown_lowered _ _ _ old).publicationId] at named
      rw [standDown_named named] at same
      exact .named old present named (.inr ⟨linked, same⟩)
    · refine .fresh linked (fun other old present named => ?_) same
      have stays : (s.publications.update (fun _ row => standDown request.job request.photo request.publication row)).get
          other = some (standDown request.job request.photo request.publication old) := by
        rw [get_update, present, map_some]
      exact missing other _ stays ((standDown_lowered _ _ _ old).publicationId.trans named)

theorem beginPublication_distinct (request : Store.PublicationRequest) (distinct : s.Identified) :
    (s.beginPublication request).publications.Distinct Publication.publicationId := by
  rcases beginPublication_cases s request with stood | ⟨_, opened⟩
  · rw [stood]
    exact stood_distinct distinct
  · rw [opened]
    exact distinct_upsert request.publication _ _ _ (stood_distinct distinct) (fun value => beq_iff_eq)
      (fun _ => rfl) rfl

theorem beginCollision_ok (done : s.beginCollision id capture details = .ok t) : s.checkPublication capture = .ok () ∧
    (∀ other row, s.publications.get other = some row → row.publicationId ≠ id) ∧
    t = { s with publications := s.publications.insert {
      publicationId := id, job := capture.job, entry := some capture.entry, photoId := capture.photo, masterId := none
      originalAssetId := none, thumbnailAssetId := none, state := .publishing, capture := some capture
      details := some details } } := by
  obtain ⟨_, checked, _, _, rest⟩ := bind2_ok done
  split at rest
  · cases rest
  · next absent =>
    cases rest
    refine ⟨checked, fun other row read named => absent ?_, rfl⟩
    cases located : s.publicationOf id with
    | some => rfl
    | none =>
      have unmatched := first?_none.mp located other row read
      simp [named] at unmatched

theorem publishing_ok (done : s.publishing id details = .ok t) :
    ∃ capture, s.captureOf id "missing publication capture" = .ok capture ∧ s.checkPublication capture = .ok () ∧
      t = s.updatePublication id (fun row => { row with state := .publishing, details := some details }) := by
  obtain ⟨capture, captured, _, checked, rest⟩ := bind2_ok done
  cases rest
  exact ⟨capture, captured, checked, rfl⟩

theorem captureOf_ok {message : String} (done : s.captureOf id message = .ok capture) :
    ∃ found row, s.publications.get found = some row ∧ row.publicationId = id ∧ row.capture = some capture := by
  unfold captureOf at done
  split at done
  · next held located =>
    cases done
    obtain ⟨⟨found, row⟩, first, captured⟩ := bind_eq_some_iff.mp located
    obtain ⟨present, named⟩ := first?_some first
    exact ⟨found, row, present, beq_iff_eq.mp named, captured⟩
  · cases done

theorem Intends.distinct (path : Intends platform policy s t) (distinct : s.Identified) : t.Identified := by
  refine path.keeps (fun u => u.Identified) (fun before after kept step => ?_) distinct
  rcases step.rows with ⟨_, _, _, _, _, _, _, schedule⟩ | loosens
  · exact schedule.distinct kept
  · refine distinct_of_origin _ kept (fun id row read => ?_)
    obtain ⟨old, present, loosened⟩ := loosens id row read
    exact ⟨old, present, loosened.publicationId⟩

theorem execute_distinct (distinct : s.Identified) (done : command.execute platform s = .ok t) : t.Identified := by
  refine command.publications_keep (fun table => table.Distinct Publication.publicationId) distinct done
    ?_ ?_ ?_ ?_ ?_
  · intro before after kept loosens
    refine distinct_of_origin _ kept (fun id row read => ?_)
    obtain ⟨old, present, loosened⟩ := loosens id row read
    exact ⟨old, present, loosened.publicationId⟩
  · intro before after job entry localVersion decision capture fresh kept _ schedule
    exact schedule.distinct kept
  · intro request _
    exact beginPublication_distinct request distinct
  · intro id capture details _ collided
    obtain ⟨_, missing, rfl⟩ := beginCollision_ok collided
    exact distinct_insert _ distinct missing
  · intro id details _ published
    obtain ⟨_, _, _, rfl⟩ := publishing_ok published
    refine distinct_of_origin _ distinct (fun found row read => ?_)
    simp only [updatePublication, get_update, map_eq_some_iff] at read
    obtain ⟨old, present, rfl⟩ := read
    exact ⟨old, present, by split <;> rfl⟩

theorem run_distinct (platform : Platform) (commands : List Command) :
    (run (Command.execute platform) empty commands).publications.Distinct Publication.publicationId := by
  refine run_keeps (fun s : Store => s.Identified) ?_
    (distinct_empty _) (meets_of_forall (fun _ _ _ => trivial))
  intro before command after distinct _ done
  exact execute_distinct distinct done

end PhotoSync
