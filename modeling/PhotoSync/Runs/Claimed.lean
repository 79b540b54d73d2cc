import PhotoSync.Runs.Staged

set_option autoImplicit false

namespace PhotoSync
open Relational Transaction Store Table

namespace Store

def current (s : Store) (row : Resource) : Bool := some row.generation == s.generationOf row.job

end Store

def Resource.awaits (row : Resource) : Bool := row.state == .pending || row.state == .failed

def AskedFor (s : Store) (resource : Resource) : Prop :=
  ∃ id row, s.publications.get id = some row ∧ row.unfinished = true ∧ row.names resource = true

def StillOwed (s : Store) : Prop := ∀ id resource, s.resources.get id = some resource → s.current resource = true → AskedFor s resource →
    resource.stagingPath = none → resource.awaits = true

def Publication.isFor (row : Publication) (job : Nat) (photo : RemotePhoto) : Bool :=
  row.job == job && row.originalAssetId == some photo.original.assetId
    && row.thumbnailAssetId == some photo.thumbnail.assetId

def NamedFor (platform : Platform) (schedule : Nat → RemotePhoto → Prop) (table : Table Publication) : Prop :=
  ∀ job photo, schedule job photo → ∀ id row, table.get id = some row →
    row.publicationId = Store.publicationName platform job photo → row.isFor job photo = true

def SameAssets (platform : Platform) (schedule : Nat → RemotePhoto → Prop) : Prop :=
  ∀ job photo owner other, schedule job photo → schedule owner other →
    Store.publicationName platform job photo = Store.publicationName platform owner other →
    job = owner ∧ photo.original.assetId = other.original.assetId ∧ photo.thumbnail.assetId = other.thumbnail.assetId

variable {platform : Platform} {job entry : Nat} {schedule : Nat → RemotePhoto → Prop} {row fresh : Publication}
  {photo : RemotePhoto} {decision : Entry.Settlement} {capture : Capture}

theorem Publication.names_same {later : Publication} (job : later.job = row.job)
    (original : later.originalAssetId = row.originalAssetId) (thumbnail : later.thumbnailAssetId = row.thumbnailAssetId)
    (resource : Resource) : later.names resource = row.names resource := by
  simp only [Publication.names, job, original, thumbnail]

theorem Loosened.names {before after : Publication} (loosened : Loosened before after) (resource : Resource) :
    after.names resource = before.names resource :=
  Publication.names_same loosened.job loosened.originalAssetId loosened.thumbnailAssetId resource

variable {s t : Store} {resource : Resource} {command : Command} {localVersion : Nat}

theorem AskedFor.of_origin (claimed : AskedFor t resource)
    (origin : ∀ id row, t.publications.get id = some row → row.unfinished = true → row.names resource = true → ∃ old, s.publications.get id = some old ∧ old.unfinished = true ∧ old.names resource = true) :
    AskedFor s resource := by
  obtain ⟨id, row, read, unfinished, names⟩ := claimed
  obtain ⟨old, present, still, named⟩ := origin id row read unfinished names
  exact ⟨id, old, present, still, named⟩

theorem AskedFor.loosens (loosens : Loosens s.publications t.publications) (claimed : AskedFor t resource) : AskedFor s resource := by
  apply claimed.of_origin
  intro id row read unfinished names
  obtain ⟨old, present, loosened⟩ := loosens id row read
  exact ⟨old, present, loosened.unfinished unfinished, (loosened.names resource).symm.trans names⟩

theorem StillOwed.of_origin (owed : StillOwed s) (resources : ∀ id row, t.resources.get id = some row → s.resources.get id = some row)
    (current : ∀ id row, t.resources.get id = some row → t.current row = true → s.current row = true)
    (claims : ∀ resource, AskedFor t resource → AskedFor s resource) : StillOwed t := by
  intro id row read now claimed unstaged
  exact owed id row (resources id row read) (current id row read now) (claims row claimed) unstaged

theorem current_same (progress : t.progress = s.progress) (row : Resource) : t.current row = s.current row := by
  simp only [current, generationOf, progressOf, progress]

theorem ResourceStep.awaits {before after : Resource} (step : ResourceStep (Unclaimed s) before after)
    (holds : s.current before = true → AskedFor s before → before.stagingPath = none → before.awaits = true)
    (now : s.current after = true) (claimed : AskedFor s after) (unstaged : after.stagingPath = none) :
    after.awaits = true := by
  cases step with
  | describe => exact holds now claimed unstaged
  | settle cache free =>
    obtain ⟨id, row, read, unfinished, names⟩ := claimed
    have apart := free id row read unfinished
    rw [show row.names before = true from names] at apart
    cases apart
  | reopen | refetch => rfl
  | retain staged =>
    have waits := holds now claimed unstaged
    simp [Resource.awaits, staged] at waits
  | verify uri ready =>
    have waits := holds now claimed unstaged
    rcases ready with staged | verified
    · simp [Resource.awaits, staged] at waits
    · simp [Resource.awaits, verified] at waits
  | upload => cases unstaged

theorem ResourceBorn.awaits {row : Resource} (born : ResourceBorn (Unclaimed s) row) (claimed : AskedFor s row)
    (unstaged : row.stagingPath = none) : row.awaits = true := by
  cases born with
  | owed pending => simp [Resource.awaits, pending]
  | held verified free =>
    obtain ⟨id, publication, read, unfinished, names⟩ := claimed
    rw [free id publication read unfinished] at names
    cases names
  | uploaded verified staged =>
    rw [unstaged] at staged
    cases staged

theorem isFor_names (own : row.isFor job photo = true) (names : row.names resource = true) :
    (resource.job == job && ((resource.assetId == photo.original.assetId && resource.role == .original)
      || (resource.assetId == photo.thumbnail.assetId && resource.role == .thumbnail))) = true := by
  simp only [Publication.isFor, Bool.and_eq_true, beq_iff_eq] at own
  simp only [Publication.names, own.1.1, own.1.2, own.2, Bool.and_eq_true, Bool.or_eq_true, beq_iff_eq, Option.some.injEq] at names ⊢
  refine ⟨names.1.symm, names.2.imp ?_ ?_⟩
  · rintro ⟨role, asset⟩
    exact ⟨asset.symm, role⟩
  · rintro ⟨role, asset⟩
    exact ⟨asset.symm, role⟩

structure Accounted (platform : Platform) (schedule : Nat → RemotePhoto → Prop) (s : Store) : Prop where
  distinct : s.publications.Distinct Publication.publicationId
  owed : StillOwed s
  recorded : NamedFor platform schedule s.publications

theorem NamedFor.loosen {before after : Table Publication} (recorded : NamedFor platform schedule before)
    (loosens : Loosens before after) : NamedFor platform schedule after := by
  intro job photo allowed id row read named
  obtain ⟨old, present, loosened⟩ := loosens id row read
  have held := recorded job photo allowed id old present (loosened.publicationId.symm.trans named)
  simpa only [Publication.isFor, loosened.job, loosened.originalAssetId, loosened.thumbnailAssetId] using held

theorem Schedule.recorded_assets (scheduled : Schedule platform s t job entry localVersion decision capture fresh)
    (distinct : s.Identified) (same : SameAssets platform schedule)
    (allowed : schedule job decision.photo) (recorded : NamedFor platform schedule s.publications) :
    NamedFor platform schedule t.publications := by
  intro owner photo also id row read named
  cases scheduled.row distinct id row read with
  | other old present different equal =>
    subst equal
    have lowered := standDown_lowered job decision.photo.photoId (publicationName platform job decision.photo) old
    have held := recorded owner photo also id old present (lowered.publicationId.symm.trans named)
    simpa only [Publication.isFor, lowered.job, lowered.originalAssetId, lowered.thumbnailAssetId] using held
  | named old present known equal =>
    subst equal
    have frame := reschedule_from capture old
    have held := recorded owner photo also id old present (frame.publicationId.symm.trans named)
    simpa only [Publication.isFor, frame.job, frame.originalAssetId, frame.thumbnailAssetId] using held
  | fresh missing equal =>
    subst equal
    obtain ⟨name, own, _, _, original, thumbnail, _⟩ := scheduled.opened
    obtain ⟨rfl, sameOriginal, sameThumbnail⟩ := same job decision.photo owner photo allowed also
      (name.symm.trans named)
    simp [Publication.isFor, own, original, thumbnail, sameOriginal, sameThumbnail]

theorem Schedule.owed (scheduled : Schedule platform s t job entry localVersion decision capture fresh)
    (distinct : s.Identified) (allowed : schedule job decision.photo) (recorded : NamedFor platform schedule s.publications)
    (resources : t.resources = s.resources.update (fun _ resource => if resource.job == job && some resource.generation == s.generationOf job && resource.stagingPath.isNone && ((resource.assetId == decision.photo.original.assetId && resource.role == .original) || (resource.assetId == decision.photo.thumbnail.assetId && resource.role == .thumbnail)) then { resource with state := .pending, verifiedCache := none } else resource))
    (owed : StillOwed s) : StillOwed t := by
  intro id resource read now claimed unstaged
  rw [resources, get_update, Option.map_eq_some_iff] at read
  obtain ⟨old, present, changed⟩ := read
  split at changed
  · subst changed
    rfl
  · next outside =>
    subst changed
    rw [current_same scheduled.progress] at now
    -- The version's own publication asks only for what was just taken back.
    have apart : ∀ row : Publication, row.isFor job decision.photo = true → row.names old = false := by
      intro row own
      by_contra names
      have asked := isFor_names own (by simpa using names)
      simp only [Bool.and_eq_true, beq_iff_eq] at asked
      simp only [current, beq_iff_eq] at now
      apply outside
      rw [asked.1] at now
      simp [asked.1, now, unstaged, asked.2]
    refine owed id old present now (claimed.of_origin ?_) unstaged
    intro key row read unfinished names
    cases scheduled.row distinct key row read with
    | other before there different equal =>
      subst equal
      have lowered := standDown_lowered job decision.photo.photoId (publicationName platform job decision.photo)
        before
      exact ⟨before, there, lowered.unfinished unfinished, (lowered.loosened.names old).symm.trans names⟩
    | named before there known equal =>
      subst equal
      have frame := reschedule_from capture before
      have held := recorded job decision.photo allowed key before there known
      rw [Publication.names_same frame.job frame.originalAssetId frame.thumbnailAssetId, apart before held] at names
      cases names
    | fresh missing equal =>
      subst equal
      obtain ⟨_, own, _, _, original, thumbnail, _⟩ := scheduled.opened
      rw [apart row (by simp [Publication.isFor, own, original, thumbnail])] at names
      cases names

theorem deleteJobs_current (s : Store) (test : Nat → Job → Bool) (row : Resource)
    (outside : (s.jobs.get row.job).any (test row.job) = false) : (s.deleteJobs test).current row = s.current row := by
  unfold current generationOf progressOf deleteJobs
  rw [first?_delete]
  · rfl
  · intro id progress own
    rw [beq_iff_eq.mp own]
    exact outside

theorem IntentStep.accounted {policy : IntentPolicy} (same : SameAssets platform policy.schedule)
    (accounted : Accounted platform policy.schedule s) (step : IntentStep platform policy s t) :
    Accounted platform policy.schedule t := by
  have distinct := (Intends.single step).distinct accounted.distinct
  cases step with
  | frame _ carried lowered =>
    have loosens : Loosens s.publications t.publications := fun id row read => by
      obtain ⟨old, present, kept⟩ := lowered.publications id row read
      exact ⟨old, present, kept.loosened⟩
    refine ⟨distinct, accounted.owed.of_origin (fun id row read => ?_) (fun _ row _ now => ?_) (fun _ => .loosens loosens),
      accounted.recorded.loosen loosens⟩
    · rw [lowered.resources] at read
      exact read
    · rw [current_same lowered.progress] at now
      exact now
  | drop test =>
    have loosens := deleteEntries_loosens s test
    exact ⟨distinct, accounted.owed.of_origin (fun _ _ read => read) (fun _ _ _ now => now) (fun _ => .loosens loosens),
      accounted.recorded.loosen loosens⟩
  | schedule _ job entry localVersion decision row read own bound kept allowed done =>
    obtain ⟨capture, fresh, scheduled⟩ := schedulePlacement_ok done
    exact ⟨distinct, scheduled.owed accounted.distinct allowed accounted.recorded
      (schedulePlacement_resources done) accounted.owed,
      scheduled.recorded_assets accounted.distinct same allowed accounted.recorded⟩
  | resources resources moved =>
    refine ⟨distinct, ?_, accounted.recorded⟩
    refine moved.all (fun row => s.current row = true → AskedFor s row → row.stagingPath = none → row.awaits = true)
      ?_ ?_ accounted.owed
    · intro row (born : ResourceBorn (Unclaimed s) row) _
      exact born.awaits
    · intro _ before after (step : ResourceStep (Unclaimed s) before after) holds
      exact step.awaits holds
  | positions _ allowed entries publications resources generations =>
    refine ⟨distinct, accounted.owed.of_origin (fun id row read => ?_) (fun _ row _ now => ?_) (fun resource claimed => ?_), ?_⟩
    · rw [resources] at read
      exact read
    · unfold current at now ⊢
      rw [generations] at now
      exact now
    · unfold AskedFor at claimed ⊢
      rw [publications] at claimed
      exact claimed
    · rw [publications]
      exact accounted.recorded
  | jobs test =>
    have loosens : Loosens s.publications (s.deleteJobs test).publications := fun id row read =>
      deleteEntries_loosens s _ id row (deleteJobs_row read).1
    have resources : ∀ id row, (s.deleteJobs test).resources.get id = some row →
        s.resources.get id = some row ∧ (s.jobs.get row.job).any (test row.job) = false := by
      intro id row read
      simp only [deleteJobs, get_delete, Option.filter_eq_some_iff, Bool.not_eq_true'] at read
      exact read
    refine ⟨distinct, accounted.owed.of_origin (fun id row read => (resources id row read).1) (fun id row read now => ?_)
      (fun _ => .loosens loosens), accounted.recorded.loosen loosens⟩
    rw [deleteJobs_current s test row (resources id row read).2] at now
    exact now
  | wipe _ allowed publications resources =>
    refine ⟨distinct, fun id row read => ?_, fun _ _ _ id row read => ?_⟩
    · rw [resources] at read
      cases read
    · rw [publications] at read
      cases read

theorem beginReceive_generation (s : Store) (job : Nat) (zoneNamespace : NativeNamespace)
    (generation scope zoneName owner : String) (other : Nat) :
    (s.beginReceive job zoneNamespace generation scope zoneName owner).generationOf other = s.generationOf other ∨
      other = job ∧ (s.beginReceive job zoneNamespace generation scope zoneName owner).generationOf other = some generation := by
  unfold beginReceive
  dsimp only
  generalize reset : (if (s.progressOf job).any (fun progress => !progress.isFor zoneNamespace generation scope) = true
    then (s.updateProgress job NativeProgress.cleared).clearJobPending job else s) = u
  have before : u.generationOf other = s.generationOf other := by
    split at reset
    · subst reset
      exact generationOf_update s _ other (fun id row => by split <;> rfl) (fun id row => by split <;> rfl)
    · rw [reset]
  rw [← before]
  split
  · next id found located =>
    obtain ⟨present, own⟩ := Table.first?_some located
    simp only [Bool.and_eq_true, beq_iff_eq] at own
    unfold generationOf progressOf
    rw [Table.modify, Table.first?_update _ _ _ (fun key row => by split <;> rfl)]
    cases first : u.progress.first? (fun _ row => row.job == other) with
    | none => exact .inl rfl
    | some head =>
      obtain ⟨key, row⟩ := head
      obtain ⟨reads, mine⟩ := Table.first?_some first
      by_cases here : key = id
      · subst here
        rw [present, Option.some.injEq] at reads
        subst reads
        refine .inr ⟨(beq_iff_eq.mp mine).symm.trans own.1.1, ?_⟩
        simp
      · exact .inl (by simp [here])
  · unfold generationOf progressOf
    rw [Table.first?_insert]
    cases first : u.progress.first? (fun _ row => row.job == other) with
    | some => exact .inl rfl
    | none =>
      by_cases mine : job = other
      · exact .inr ⟨mine.symm, by simp [mine]⟩
      · exact .inl (by simp [mine])

def recordedFor (platform : Platform) (s : Store) (job : Nat) (photo : RemotePhoto) : Bool :=
  !s.publications.any (fun _ row => row.publicationId == Store.publicationName platform job photo && !row.isFor job photo)

def sameAssets (photo other : RemotePhoto) : Bool :=
  photo.original.assetId == other.original.assetId && photo.thumbnail.assetId == other.thumbnail.assetId

def Store.PublicationRequest.names (request : Store.PublicationRequest) (resource : Resource) : Bool :=
  request.job == resource.job && ((resource.role == .original && request.original == some resource.assetId)
    || (resource.role == .thumbnail && request.thumbnail == some resource.assetId))

-- What a command must find for every unfinished publication to be fetched.
def keepsOwing (platform : Platform) (s : Store) : Command → Bool
  | .promote job graph _ _ => graph.photos.all (fun photo => recordedFor platform s job photo
      && graph.photos.all (fun other => Store.publicationName platform job photo != Store.publicationName platform job other
        || sameAssets photo other))
  | .userAction job entry _ _ .useCloud _ _ =>
    ((s.openConflict entry).bind (fun found => found.2.remote)).all (recordedFor platform s job)
  | .beginReceive job _ generation _ _ _ => s.generationOf job == some generation
      || !s.resources.any (fun _ row => row.job == job && row.generation == generation)
  | .verifyResource job asset role _ =>
    !s.resources.any (fun _ row => s.owedResource job asset role row && row.stagingPath.isNone)
  | .beginPublication request =>
    !s.publications.any (fun _ row => row.publicationId == request.publication && row.job != request.job)
      && !s.resources.any (fun _ row => s.current row && row.stagingPath.isNone && request.names row && !row.awaits)
  | .publishing id _ => !s.publications.any (fun _ row => row.publicationId == id && !row.unfinished)
  | _ => true

theorem recordedFor_row (holds : recordedFor platform s job photo = true) (id : Nat) (row : Publication)
    (read : s.publications.get id = some row) (named : row.publicationId = publicationName platform job photo) :
    row.isFor job photo = true := by
  rw [recordedFor, Bool.not_eq_true'] at holds
  simpa [named] using any_eq_false.mp holds id row read

theorem keepsOwing_recorded (careful : keepsOwing platform s command = true) :
    NamedFor platform (command.intentsOf s).schedule s.publications := by
  intro job photo scheduled
  cases command with
  | promote =>
    obtain ⟨rfl, member⟩ := scheduled
    have held := List.all_eq_true.mp careful photo member
    rw [Bool.and_eq_true] at held
    exact recordedFor_row held.1
  | userAction =>
    obtain ⟨rfl, rfl, found, conflict, remote⟩ := scheduled
    simp only [keepsOwing, conflict, Option.bind_some, remote, Option.all_some] at careful
    exact recordedFor_row careful
  | _ => exact scheduled.elim

theorem keepsOwing_assets (careful : keepsOwing platform s command = true) : SameAssets platform (command.intentsOf s).schedule := by
  intro job photo owner other scheduled also named
  cases command with
  | promote =>
    obtain ⟨rfl, member⟩ := scheduled
    obtain ⟨rfl, second⟩ := also
    have held := List.all_eq_true.mp careful photo member
    rw [Bool.and_eq_true] at held
    have pair := List.all_eq_true.mp held.2 other second
    simp only [named, bne_self_eq_false, Bool.false_or, sameAssets, Bool.and_eq_true, beq_iff_eq] at pair
    exact ⟨rfl, pair.1, pair.2⟩
  | userAction =>
    obtain ⟨rfl, _, found, conflict, remote⟩ := scheduled
    obtain ⟨rfl, _, again, twice, chosen⟩ := also
    rw [conflict, Option.some.injEq] at twice
    subst twice
    rw [remote, Option.some.injEq] at chosen
    subst chosen
    exact ⟨rfl, rfl, rfl⟩
  | _ => exact scheduled.elim

theorem setResource_owed {asset : String} {role : AssetRole} (change : Resource → Resource) (owed : StillOwed s)
    (changed : ∀ id row, s.resources.get id = some row → s.owedResource job asset role row = true → (change row).stagingPath = none → (change row).awaits = true) :
    StillOwed (s.setResource job asset role change) := by
  intro id row read now claimed unstaged
  simp only [setResource, get_update, Option.map_eq_some_iff] at read
  obtain ⟨old, present, equal⟩ := read
  split at equal
  · next mine =>
    subst equal
    exact changed id old present mine unstaged
  · subst equal
    exact owed id old present now claimed unstaged

theorem failResource_owed (s : Store) (job : Nat) (asset : String) (role : AssetRole) (owed : StillOwed s) :
    StillOwed (s.failResource job asset role) := by
  intro id row read now claimed unstaged
  simp only [failResource, setResource, get_update, Option.map_eq_some_iff] at read
  obtain ⟨_, ⟨old, present, rfl⟩, equal⟩ := read
  by_cases mine : s.owedResource job asset role old = true
  · simp only [mine, if_true] at equal
    split at equal <;> subst equal <;> rfl
  · simp only [mine, Bool.false_eq_true, if_false] at equal
    split at equal
    · next named =>
      subst equal
      simp only [Bool.and_eq_true, beq_iff_eq] at named
      simp only [current, beq_iff_eq] at now
      have generation : some old.generation = s.generationOf job := by
        rw [← named.1.1]
        exact now
      simp [owedResource, named.1.1, named.1.2, named.2, generation] at mine
    · subst equal
      exact owed id _ present now claimed unstaged

theorem beginPublication_owed {request : Store.PublicationRequest} (distinct : s.Identified) (owed : StillOwed s)
    (careful : keepsOwing platform s (.beginPublication request) = true) : StillOwed (s.beginPublication request) := by
  simp only [keepsOwing, Bool.and_eq_true, Bool.not_eq_true'] at careful
  have frame : (s.beginPublication request).resources = s.resources ∧ (s.beginPublication request).progress = s.progress := by
    unfold beginPublication
    dsimp only
    split <;> split <;> exact ⟨rfl, rfl⟩
  intro id resource read now claimed unstaged
  rw [frame.1] at read
  rw [current_same frame.2] at now
  by_cases asked : request.names resource = true
  · have held := any_eq_false.mp careful.2 id resource read
    simpa [now, unstaged, asked] using held
  · refine owed id resource read now (claimed.of_origin (fun key row reads unfinished names => ?_)) unstaged
    cases beginPublication_row distinct reads with
    | other old present different equal =>
      subst equal
      have lowered := standDown_lowered request.job request.photo request.publication old
      exact ⟨old, present, lowered.unfinished unfinished, (lowered.loosened.names resource).symm.trans names⟩
    | named old present known equal =>
      rcases equal with rfl | ⟨_, rfl⟩
      · exact ⟨row, present, unfinished, names⟩
      · have own : old.job = request.job := by
          simpa [known] using any_eq_false.mp careful.1 key old present
        refine absurd ?_ asked
        simpa only [Publication.names, beginAgain, own, Store.PublicationRequest.names] using names
    | fresh linked missing equal =>
      subst equal
      exact absurd names asked

theorem execute_owed (distinct : s.Identified) (owed : StillOwed s)
    (careful : keepsOwing platform s command = true) (done : command.execute platform s = .ok t) : StillOwed t := by
  have indirect : command.addresses = false → StillOwed t := by
    intro away
    have path := Command.execute_intends away done
    refine (path.keeps (Accounted platform (command.intentsOf s).schedule) (fun before after kept step => ?_)
      ⟨distinct, owed, keepsOwing_recorded careful⟩).owed
    exact step.accounted (keepsOwing_assets careful) kept
  cases command with
  | beginReceive job zoneNamespace generation scope zoneName owner =>
    have resources : (s.beginReceive job zoneNamespace generation scope zoneName owner).resources = s.resources ∧
        (s.beginReceive job zoneNamespace generation scope zoneName owner).publications = s.publications := by
      unfold beginReceive
      dsimp only
      split <;> split <;> exact ⟨rfl, rfl⟩
    cases done
    refine owed.of_origin (fun id row read => ?_) (fun id row read now => ?_) (fun resource claimed => ?_)
    · rw [resources.1] at read
      exact read
    · unfold current at now ⊢
      rcases beginReceive_generation s job zoneNamespace generation scope zoneName owner row.job with same | ⟨own, opened⟩
      · rw [same] at now
        exact now
      · rw [opened, beq_iff_eq, Option.some.injEq] at now
        rw [resources.1] at read
        simp only [keepsOwing, Bool.or_eq_true, beq_iff_eq, Bool.not_eq_true'] at careful
        rcases careful with kept | unused
        · rw [own, kept, now]
          exact beq_self_eq_true _
        · have held := any_eq_false.mp unused id row read
          simp [own, now] at held
    · unfold AskedFor at claimed ⊢
      rw [resources.2] at claimed
      exact claimed
  | stageResource =>
    obtain ⟨_, _, rest⟩ := bind_ok.mp done
    cases rest
    exact setResource_owed _ owed (fun _ _ _ _ none => by cases none)
  | verifyResource =>
    obtain ⟨_, _, rest⟩ := bind_ok.mp done
    cases rest
    refine setResource_owed _ owed (fun id row read mine unstaged => ?_)
    simp only [keepsOwing, Bool.not_eq_true'] at careful
    have held := any_eq_false.mp careful id row read
    have bare : row.stagingPath = none := unstaged
    simp [mine, bare] at held
  | failResource job asset role =>
    cases done
    exact failResource_owed s job asset role owed
  | beginPublication =>
    cases done
    exact beginPublication_owed distinct owed careful
  | beginCollision =>
    obtain ⟨_, _, rfl⟩ := beginCollision_ok done
    refine owed.of_origin (fun _ _ read => read) (fun _ _ _ now => now) (fun resource claimed => ?_)
    apply claimed.of_origin
    intro key row read unfinished names
    rw [get_insert] at read
    split at read
    · cases read
      simp [Publication.names] at names
    · exact ⟨row, read, unfinished, names⟩
  | publishing =>
    obtain ⟨_, _, _, rfl⟩ := publishing_ok done
    simp only [keepsOwing, Bool.not_eq_true'] at careful
    refine owed.of_origin (fun _ _ read => read) (fun _ _ _ now => now) (fun resource claimed => ?_)
    apply claimed.of_origin
    intro key row read unfinished names
    simp only [updatePublication, get_update, Option.map_eq_some_iff] at read
    obtain ⟨old, present, changed⟩ := read
    split at changed
    · next mine =>
      subst changed
      refine ⟨old, present, ?_, names⟩
      simpa [beq_iff_eq.mp mine] using any_eq_false.mp careful key old present
    · subst changed
      exact ⟨old, present, unfinished, names⟩
  | _ => exact indirect rfl

-- In every run that meets the condition, and so after every promote, a resource of the current generation that an
-- unfinished publication asks for and that has no staged bytes is still to be fetched.
theorem unplaced_asset_is_still_owed (platform : Platform) (commands : List Command)
    (careful : Meets (Command.execute platform) (fun s command => keepsOwing platform s command = true) .empty commands) :
    StillOwed (run (Command.execute platform) .empty commands) := by
  refine (run_keeps (fun s : Store => s.publications.Distinct Publication.publicationId ∧ StillOwed s)
    (fun before command after kept met done => ⟨?_, ?_⟩) ⟨Table.distinct_empty _, ?_⟩ careful).2
  · exact execute_distinct kept.1 done
  · exact execute_owed kept.1 kept.2 met done
  · intro id row read
    cases read

namespace Sample

def reconnecting (generation : String) : List Command :=
  [.beginReceive 1 ⟨"tenant", "container", "environment", "database"⟩ generation "scope" "zone" "owner"]

def twin : RemotePhoto := ⟨"twin", "twin-master", "A", "c", false, none, false, originalOf "A", thumbnailOf "A", digest.hex, .none⟩

def twinRecords : List NativeRecord := [⟨"twin-master", some masterRecordType, none, some "1", some [("photoId", textField "twin"),
      ("contentGeneration", textField "A"), ("thumbnailSourceOriginalSHA256", textField digest.hex),
      ("resOriginalRes", some ⟨some "ASSETID", some (.asset (originalOf "A"))⟩),
      ("resJPEGThumbRes", some ⟨some "ASSETID", some (.asset (thumbnailOf "A"))⟩)], none, false⟩,
   ⟨"twin", some assetRecordType, none, some "1", some [("relativePath", textField "c"),
      ("masterRef", some ⟨some "REFERENCE", some (.reference "twin-master" (some "NONE"))⟩),
      ("contentGeneration", textField "A"), ("isTrashed", integerField 0), ("isFavorite", integerField 0)], none, false⟩]

def receivingTwin : List Command := [.saveDeltaPage 1 twinRecords "T", .promote 1 ⟨[twin], [], []⟩ "T" []]

def settled : List Command := connecting ++ placed "A" ++ receiving "A"

def returning : List Command :=
  settled ++ reconnecting "other" ++ receivingTwin ++ reconnecting "generation" ++ [.promote 1 ⟨[], [], []⟩ "C" []]

end Sample

def claimedBare (s : Store) (test : Resource → Bool) : Bool :=
  (s.resources.get 1).any (fun resource => s.current resource && resource.stagingPath.isNone && test resource
    && s.publications.any (fun _ row => row.unfinished && row.names resource))

theorem claimedBare_row (s : Store) (test : Resource → Bool) (holds : claimedBare s test = true) :
    ∃ resource, s.resources.get 1 = some resource ∧ s.current resource = true ∧ AskedFor s resource ∧
      resource.stagingPath = none ∧ test resource = true := by
  obtain ⟨resource, read, found⟩ := (Option.any_eq_true _ _).mp holds
  simp only [Bool.and_eq_true, Option.isNone_iff_eq_none] at found
  obtain ⟨id, row, reads, asks⟩ := any_iff.mp found.2
  rw [Bool.and_eq_true] at asks
  exact ⟨resource, read, found.1.1.1, ⟨id, row, reads, asks.1, asks.2⟩, found.1.1.2, found.1.2⟩

open Sample in
theorem twin_takes_back_library_asset : ∃ resource,
    (run (Command.execute telling) .empty (settled ++ receivingTwin)).resources.get 1 = some resource ∧
    AskedFor (run (Command.execute telling) .empty (settled ++ receivingTwin)) resource ∧
    resource.awaits = true := by
  obtain ⟨resource, read, now, claimed, unstaged, _⟩ := claimedBare_row (run (Command.execute telling) .empty
    (settled ++ receivingTwin)) (fun _ => true) (by decide +kernel)
  exact ⟨resource, read, claimed, unplaced_asset_is_still_owed telling _ (by decide +kernel) 1 resource read now
    claimed unstaged⟩

-- The first photo's settled assets make the twin's publication ready.
open Sample in
theorem returning_generation_satisfies_twin : ¬ StillOwed (run (Command.execute telling) .empty returning) ∧
    (publicationIsReady (run (Command.execute telling) .empty returning)
      (publicationName telling 1 twin)).toOption = some true := by
  refine ⟨fun owed => ?_, by decide +kernel⟩
  obtain ⟨resource, read, now, claimed, unstaged, settled⟩ := claimedBare_row (run (Command.execute telling) .empty
    returning) (fun resource => resource.state == .verified) (by decide +kernel)
  have waits := owed 1 resource read now claimed unstaged
  simp [Resource.awaits, beq_iff_eq.mp settled] at waits

end PhotoSync
