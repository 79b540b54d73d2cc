import PhotoSync.Store.Intents

set_option autoImplicit false

namespace PhotoSync
open Relational Transaction Relation Store Table
variable {s t : Store} {recovery : Option String} {generation : String} {records : List ConfirmedRecord}
  {tombstones : List String} {id : Nat}

variable {job entry : Nat} {stamp : EditEvent} {photo : RemotePhoto} {operation : Issued} {keep : Bool}
  {epoch : Epoch} {digests : LocalDigests} {name : String}

section Promotion
variable {platform : Platform} {policy : IntentPolicy}

theorem admitProjected_receives (done : admitProjected platform s job photo = .ok t) : Receives s t := by
  unfold admitProjected at done
  split at done
  · cases done
    exact .refl
  · next entry _ _ =>
    obtain ⟨admitted, placed, rest⟩ := bind_ok.mp done
    cases rest
    have revised : ∀ (u : Store) (asset master : Option String), Receives u (u.updateEntry entry (fun row =>
        { row with
          assetRevision := asset.or row.assetRevision
          masterRevision := master.or row.masterRevision })) :=
      fun _ _ _ => .updateEntry entry _ (fun _ _ => ⟨rfl, fun _ => rfl, id⟩)
    exact (admitAssetMetadata_receives placed).trans ((Receives.updateEntryMedia entry _).trans
      ((revised _ _ _).trans (.elsewhere rfl rfl rfl rfl)))

theorem dropPhotoPlaceholders_intends (s : Store) (job : Nat) (photo : String) (receiving : ReceivePolicy policy) :
    Intends platform policy s (s.dropPhotoPlaceholders job photo) := by
  refine .single (.drop s _ (fun id row _ picked => receiving.placeholder id row ?_))
  simp only [Bool.and_eq_true] at picked
  exact picked.1

theorem releaseResources_intends (s : Store) (releases : Resource → Bool) : Intends platform policy s (s.releaseResources releases) := by
  refine .updateResources _ (fun _ row _ => ?_)
  split
  · exact .single (.describe row none row.expectedSha256 row.expectedSize)
  · exact .refl

theorem openPublication_eq (row : Publication) : openPublication row = row.unfinished := by
  unfold openPublication Publication.unfinished
  cases row.state <;> rfl

theorem baselineHolds_unclaimed (s : Store) {job : Nat} (row : Entry) {resource : Resource}
    (own : resource.job = job) (holds : s.baselineHolds job row resource.assetId = true) : Unclaimed s resource := by
  intro id publication read unfinished
  simp only [baselineHolds, Bool.and_eq_true, Bool.not_eq_true'] at holds
  have quiet := any_eq_false.mp holds.2 id publication read
  rw [openPublication_eq, unfinished, Bool.and_true] at quiet
  unfold Publication.names
  by_cases same : publication.job = resource.job
  · simp only [same, own, beq_self_eq_true, Bool.true_and, Bool.or_eq_false_iff] at quiet ⊢
    simp [quiet.1, quiet.2]
  · simp [same]

theorem obligeResource_intends {resource : RemoteResource} : Intends platform policy s (s.obligeResource job generation resource) := by
  unfold obligeResource
  split
  · refine .single (.resources s _ (.insert _ ?_))
    split
    · next holds =>
      obtain ⟨found, _, vouched⟩ := (Option.any_eq_true _ _).mp holds
      exact .held _ rfl (baselineHolds_unclaimed s found.2 rfl vouched)
    · exact .owed _ rfl rfl
  · next id old located =>
    obtain ⟨present, test⟩ := first?_some located
    simp only [Bool.and_eq_true, beq_iff_eq] at test
    refine .single (.resources s _ (.modify id _ (fun row read => ?_)))
    rw [present] at read
    cases read
    have described : ReflTransGen (ResourceStep (Unclaimed s)) old { old with
      recordName := some resource.recordName, expectedSha256 := some resource.expectedSha256
      expectedSize := some resource.expectedSize } := .single (.describe old _ _ _)
    refine described.trans ?_
    split
    · next settles =>
      rw [Bool.and_eq_true] at settles
      obtain ⟨found, _, vouched⟩ := (Option.any_eq_true _ _).mp settles.1
      refine .single (.settle _ _ (baselineHolds_unclaimed s found.2 test.1.1.1 ?_))
      rw [test.1.2]
      exact vouched
    · exact .refl

theorem promotePhoto_intends (receiving : ReceivePolicy policy) (allowed : policy.schedule job photo)
    (done : promotePhoto platform job generation digests s photo = .ok t) : Intends platform policy s t := by
  obtain ⟨⟨projected, content⟩, settled, admitted, placed, rest⟩ := bind2_ok done
  refine (projectPublication_intends _ receiving.carry allowed settled).trans ?_
  refine (Intends.receives receiving.carry (admitProjected_receives placed)).trans ?_
  refine (dropPhotoPlaceholders_intends admitted job photo.photoId receiving).trans ?_
  dsimp only at rest
  split at rest
  · split at rest <;> cases rest
    · exact .refl
    · exact releaseResources_intends _ _
  · cases rest
    exact (obligeResource_intends).trans (obligeResource_intends)

-- What a tombstone does to an entry it does not drop: it may end a photo, but
-- an entry still waiting for its deletion is the one it was.
structure Buried (before after : Entry) : Prop where
  job : after.job = before.job
  delete : after.dirty = .delete → before.dirty = .delete ∧ after.photoId = before.photoId

theorem Buried.refl (row : Entry) : Buried row row := ⟨rfl, fun deleting => ⟨deleting, rfl⟩⟩

theorem Buried.trans (first second third : Entry) (before : Buried first second) (after : Buried second third) : Buried first third where
  job := after.job.trans before.job
  delete := fun deleting => by
    obtain ⟨between, same⟩ := after.delete deleting
    obtain ⟨start, still⟩ := before.delete between
    exact ⟨start, same.trans still⟩

structure BuryPolicy (policy : IntentPolicy) (tombstones : List String) : Prop where
  carry : ∀ before after, Buried before after → policy.carry before after
  buried : ∀ id row, (∃ name ∈ tombstones, row.photoId = some name) → row.dirty = .delete → policy.drop id row

theorem retireConfirmed_intends (s : Store) (entry : Nat) (row : Entry)
    (carry : ∀ before after, Buried before after → policy.carry before after) :
    Intends platform policy s (s.retireConfirmed entry row) := by
  have media : ∀ (u : Store) (change : Media → Media), Carries Buried u (u.updateEntryMedia entry change) :=
    fun u change => .of_entries Buried.refl (u.updateEntryMedia_entries entry change)
  have retired : ∀ u : Store, Carries Buried u (u.retire entry) := fun u =>
    .updateEntry Buried.refl entry _ (fun _ _ => ⟨rfl, nofun⟩)
  have dropped : ∀ test, Carries Buried s (s.deleteMedia test) := fun test =>
    .deleteMedia test (fun _ _ => ⟨rfl, fun deleting => ⟨deleting, rfl⟩⟩)
  refine .single (.frame s _ (.mono carry ?_) ?_)
  · exact ((dropped _).trans Buried.trans (media _ _)).trans Buried.trans (retired _)
  · have touched := Untouched.updateEntryMedia (s := s.deleteMedia (fun id media =>
      row.media == some id && media.storageLocation == .cloudOnly)) entry
      (fun media => if media.storageLocation = .both then { media with storageLocation := .localOnly } else media)
    exact Untouched.lowers ⟨touched.publications, touched.resources, touched.progress⟩

theorem tombstoneEntry_intends (job : Nat) {row : Entry} (burying : BuryPolicy policy tombstones)
    (member : name ∈ tombstones) (read : s.entries.get entry = some row) (bound : row.photoId = some name) :
    Intends platform policy s (s.tombstoneEntry job entry row) := by
  have framed : ∀ {u v : Store}, Lowers u v → v.entries = u.entries → Intends platform policy u v := fun lowered same =>
    .single (.frame _ _ (.of_entries (fun row => burying.carry row row (.refl row)) same) lowered)
  refine .trans ?_ (framed (.supersedePending entry) rfl)
  split
  · next deleting =>
    refine .single (.drop s _ (fun id found again picked => ?_))
    simp only [Bool.and_eq_true, beq_iff_eq] at picked
    rw [picked.1, read] at again
    cases again
    exact burying.buried id row ⟨name, member, bound⟩ deleting
  · exact retireConfirmed_intends s entry row burying.carry
  · have written := Receives.writeConflict (s := s) job entry deletedReason none
    refine framed written.lowers ?_
    unfold writeConflict
    split <;> rfl

theorem buryRecord_intends (job : Nat) (generation : String) (s : Store) (burying : BuryPolicy policy tombstones)
    (member : name ∈ tombstones) : Intends platform policy s (buryRecord job generation s name) := by
  have cleared : ∀ (u : Store) (fragments : Table Fragment),
      Intends platform policy u { u with fragments := fragments } := fun u fragments =>
    .single (.frame _ _ (.of_entries (fun row => burying.carry row row (.refl row)) rfl)
      (Untouched.lowers ⟨rfl, rfl, rfl⟩))
  unfold buryRecord
  split
  · next entry row found =>
    obtain ⟨read, test⟩ := first?_some found
    simp only [Bool.and_eq_true, beq_iff_eq] at test
    exact (tombstoneEntry_intends job burying member read test.2).trans
      ((releaseResources_intends _ _).trans (cleared _ _))
  · exact (releaseResources_intends _ _).trans (cleared _ _)

theorem buryRecords_intends (job : Nat) (generation : String) (s : Store) (names tombstones : List String)
    (burying : BuryPolicy policy tombstones) (within : ∀ name ∈ names, name ∈ tombstones) :
    Intends platform policy s (names.foldl (buryRecord job generation) s) := by
  induction names generalizing s with
  | nil => exact .refl
  | cons name rest ih =>
    have first : Intends platform policy s (buryRecord job generation s name) :=
      buryRecord_intends job generation s burying (within name List.mem_cons_self)
    exact first.trans (ih _ (fun other later => within other (List.mem_cons_of_mem _ later)))

theorem reopenShared_intends (s : Store) (job : Nat) (generation : String) :
    Intends platform policy s (s.reopenShared job generation) := by
  refine .updateResources _ (fun _ row _ => ?_)
  split
  · exact .single (.reopen row)
  · exact .refl

end Promotion

def SameJob (before after : Entry) : Prop := after.job = before.job

abbrev IntentPolicy.KeepsJobs (policy : IntentPolicy) : Prop := ∀ before after, SameJob before after → policy.carry before after

abbrev Store.Identified (s : Store) : Prop := s.publications.Distinct Publication.publicationId

theorem SameJob.refl (row : Entry) : SameJob row row := rfl

theorem Moves.sameJob {moving : Policy} (moves : Moves moving s t) (stays : ∀ id row, ¬ moving.drop id row) : Carries SameJob s t := by
  intro id row read
  obtain ⟨later, present, same⟩ := moves.entries.keeps (fun _ found => found.job = row.job)
    (fun _ before after step same => by
      cases step with
      | frame _ frame => exact frame.job.trans same
      | mark category => cases category <;> exact same
      | _ => exact same)
    (fun found dropped gone _ => stays found dropped gone) id row read rfl
  exact ⟨later, present, same⟩

section Decisions
variable {platform : Platform} {policy : IntentPolicy}

section
variable (carry : policy.KeepsJobs)

include carry

theorem Intends.quiet (carried : Carries SameJob s t) (same : Untouched s t) : Intends platform policy s t :=
  .single (.frame s t (carried.mono carry) same.lowers)

theorem Intends.quiet_entry (entry : Nat) (change : Entry → Entry) (own : ∀ row, (change row).job = row.job) :
    Intends platform policy s (s.updateEntry entry change) :=
  .quiet carry (.updateEntry SameJob.refl entry change (fun row _ => own row)) ⟨rfl, rfl, rfl⟩

theorem Intends.quiet_elsewhere (entries : t.entries = s.entries) (same : Untouched s t) : Intends platform policy s t :=
  .quiet carry (.of_entries SameJob.refl entries) same

theorem Intends.setBaseline (entry : Nat) (photo : RemotePhoto) : Intends platform policy s (s.setBaseline entry (some photo)) :=
  .quiet_entry carry entry (fun row => { row with baseline := some photo }) (fun _ => rfl)

theorem recreate_intends (done : s.recreate entry stamp = .ok t) : Intends platform policy s t := by
  obtain ⟨_, _, row, _, rest⟩ := bind2_ok done
  cases rest
  exact (Intends.quiet_entry carry entry _ (fun _ => by rfl)).trans (.quiet_elsewhere carry rfl ⟨rfl, rfl, rfl⟩)

theorem decideDeleted_intends {reason : String}
    (done : s.decideDeleted entry reason keep stamp = .ok t) : Intends platform policy s t := by
  have retired : Intends platform policy s (s.retire entry) := .quiet_entry carry entry _ (fun _ => by rfl)
  unfold decideDeleted at done
  split at done
  · split at done
    · exact retired.trans (recreate_intends carry done)
    · cases done
      exact retired
  · cases done

theorem keepLocal_intends (done : s.keepLocal job entry photo recovery stamp = .ok t) : Intends platform policy s t := by
  obtain ⟨_, _, _, _, row, _, rest⟩ := bind3_ok done
  cases rest
  have retained : Intends platform policy s { s with resources := s.resources.update (fun _ (resource : Resource) =>
      if pairOf photo job resource && resource.state == ResourceState.staged
      then { resource with state := .retained } else resource) } := by
    refine .updateResources _ (fun _ row _ => ?_)
    split
    · next kept =>
      rw [Bool.and_eq_true, beq_iff_eq] at kept
      exact .single (.retain row kept.2)
    · exact .refl
  refine retained.trans ((Intends.quiet_entry carry entry (Entry.keepLocal stamp) (fun _ => rfl)).trans ?_)
  refine .trans ?_ (Intends.setBaseline carry entry photo)
  exact .quiet_elsewhere carry rfl ⟨rfl, rfl, rfl⟩

end

theorem acceptCloud_intends (s : Store) (job entry : Nat) (photo : RemotePhoto) (carry : policy.KeepsJobs) :
    Intends platform policy s (s.acceptCloud job entry photo) := by
  refine .of_parts ?_ ?_ (fun spare => ?_) rfl
  · exact .mono carry (.updateEntry SameJob.refl entry _ (fun _ _ => by rfl))
  · exact (Lowers.delete (s := s) (fun _ row => row.entry == some entry && row.state != .publishing)).publications
  · unfold acceptCloud
    dsimp only
    refine .update _ (fun _ row _ => ?_)
    split
    · exact .single (.refetch row)
    · exact .refl

section
variable (carry : policy.KeepsJobs)

include carry

theorem useCloud_intends (allowed : policy.schedule job photo) (done : useCloud platform s job entry photo recovery = .ok t) :
    Intends platform policy s t := by
  obtain ⟨_, _, ⟨projected, content⟩, placed, rest⟩ := bind2_ok done
  cases rest
  refine (acceptCloud_intends s job entry photo carry).trans ?_
  exact (projectPublication_intends _ (fun before after received => carry before after received.job)
    allowed placed).trans (.setBaseline carry entry photo)

theorem decidePhoto_intends (allowed : keep = false → policy.schedule job photo)
    (done : decidePhoto platform s job entry photo keep recovery stamp = .ok t) : Intends platform policy s t := by
  obtain ⟨_, _, _, _, _, _, rest⟩ := bind3_ok done
  obtain ⟨_, _, bound, stored, rest⟩ := bind2_ok rest
  have binding : Intends platform policy s bound :=
    .quiet carry (.setEntryPhoto SameJob.refl _ _ _ (fun _ _ => by rfl) stored) (.setEntryPhoto _ _ _ stored)
  split at rest
  · exact binding.trans (keepLocal_intends carry rest)
  · next away => exact binding.trans (useCloud_intends carry (allowed (by simpa using away)) rest)

theorem decideConflict_intends {conflict : Option Conflict} (allowed : ∀ found photo, conflict = some found → found.remote = some photo → keep = false → policy.schedule job photo)
    (done : decideConflict platform s job entry conflict keep recovery stamp = .ok t) : Intends platform policy s t := by
  unfold decideConflict at done
  split at done
  · cases done
  · next found =>
    obtain ⟨decided, chosen, rest⟩ := bind_ok.mp done
    cases rest
    refine .trans (t := decided) ?_ (.quiet_elsewhere carry rfl ⟨rfl, rfl, rfl⟩)
    unfold decideOpen at chosen
    split at chosen
    · next photo remote => exact decidePhoto_intends carry (allowed found photo rfl remote) chosen
    · exact decideDeleted_intends carry chosen

theorem applyAction_intends {version : Nat} {document : Option ConflictDocument} {action : PhotoAction} (allowed : ∀ found photo, s.openConflict entry = some found → found.2.remote = some photo → action = .useCloud → policy.schedule job photo)
    (done : applyAction platform s job entry version document action recovery stamp = .ok t) :
    Intends platform policy s t := by
  obtain ⟨row, _, _, _, _, _, _, _, rest⟩ := bind4_ok done
  cases action with
  | deleteCloud =>
    obtain ⟨_, _, _, _, rest⟩ := bind2_ok rest
    cases rest
    exact .trans (.quiet_entry carry entry (Entry.deleteCloud stamp) (fun _ => rfl))
      (.quiet_elsewhere carry rfl ⟨rfl, rfl, rfl⟩)
  | recreate =>
    obtain ⟨_, _, rest⟩ := bind_ok.mp rest
    exact recreate_intends carry rest
  | keepLocal => exact decideConflict_intends carry (fun _ _ _ _ away => by cases away) rest
  | useCloud =>
    refine decideConflict_intends carry (fun found photo open_ remote _ => ?_) rest
    obtain ⟨conflict, located, rfl⟩ := Option.map_eq_some_iff.mp open_
    exact allowed conflict photo located remote rfl

end
end Decisions

section Confirmation
variable {platform : Platform} {policy : IntentPolicy}

theorem ownUpload_intends {role : AssetRole} {asset : AssetDescriptor} {prepared : Option PreparedResource}
    (done : s.ownUpload operation role asset prepared = .ok t) : Intends platform policy s t := by
  unfold ownUpload at done
  split at done
  · cases done
    exact .refl
  · split at done
    · cases done
    · split at done <;> cases done
      · exact .single (.resources s _ (.modify _ _ (fun row _ => .single (.upload row _))))
      · exact .single (.resources s _ (.insert _ (.uploaded _ rfl rfl)))

section
variable (carry : policy.KeepsJobs)

include carry

theorem confirmPair_intends (done : s.confirmPair epoch operation records = .ok t) : Intends platform policy s t := by
  obtain ⟨job, _, rest⟩ := bind_ok.mp done
  dsimp only at rest
  split at rest
  · cases rest
  · split at rest
    · cases rest
    · next photo _ =>
      obtain ⟨owned, original, thumbnail⟩ := bind_ok.mp rest
      exact (Intends.setBaseline carry operation.entry photo).trans
        ((ownUpload_intends original).trans (ownUpload_intends thumbnail))

theorem confirmBaseline_intends (done : s.confirmBaseline epoch operation records = .ok t) : Intends platform policy s t := by
  unfold confirmBaseline at done
  split at done
  · cases done
    exact .refl
  · split at done
    · exact confirmPair_intends carry done
    · obtain ⟨first, _, rest⟩ := bind_ok.mp done
      cases rest
      exact .quiet_entry carry operation.entry (fun row =>
        { row with baseline := row.baseline.map (patchBaseline first.record) }) (fun _ => rfl)

theorem confirmEntry_intends (done : s.confirmEntry operation records generation = .ok t) : Intends platform policy s t := by
  unfold confirmEntry at done
  split at done
  · cases done
    exact .quiet_entry carry operation.entry (Entry.confirmDelete operation.versions) (fun _ => rfl)
  · exact .quiet carry (.setEntryPhoto SameJob.refl _ _ _ (fun _ _ => by rfl) done) (.setEntryPhoto _ _ _ done)

theorem confirmCleanup_intends (drop : operation.phase = .delete → ∀ row, policy.drop operation.entry row) :
    Intends platform policy s (s.confirmCleanup operation) := by
  unfold confirmCleanup
  split
  · next phase =>
    have dropped : ∀ media, Intends platform policy s (s.dropCloudRow media) := by
      intro media
      unfold dropCloudRow
      split
      · exact .refl
      · exact .quiet carry (.deleteMedia _ (fun _ _ => rfl)) ⟨rfl, rfl, rfl⟩
    refine (dropped _).trans (.single (.drop _ _ (fun id row _ picked => ?_)))
    simp only [Bool.and_eq_true, beq_iff_eq] at picked
    rw [picked.1]
    exact drop (beq_iff_eq.mp phase) row
  · exact .refl

theorem confirm_intends {response : Option (List ConfirmedRecord)} {leaseHeld : Bool} (drop : operation.phase = .delete → ∀ row, policy.drop operation.entry row)
    (done : s.confirm epoch operation response leaseHeld = .ok t) : Intends platform policy s t := by
  obtain ⟨_, _, bound, based, _, _, _, _, binds, bases, rfl⟩ := confirm_ok done
  have settled : Intends platform policy bound (bound.resolveConflicts operation.entry confirmSettles) :=
    .quiet_elsewhere carry rfl ⟨rfl, rfl, rfl⟩
  have media : Intends platform policy based (based.confirmMedia operation) :=
    .quiet_elsewhere carry (based.updateEntryMedia_entries _ _) (.updateEntryMedia _ _)
  have task : Intends platform policy (based.confirmMedia operation)
    ((based.confirmMedia operation).confirmTask operation) := .quiet_elsewhere carry rfl ⟨rfl, rfl, rfl⟩
  exact ((confirmEntry_intends carry binds).trans settled).trans
    ((confirmBaseline_intends carry bases).trans
      ((media.trans task).trans (confirmCleanup_intends carry drop)))

end
end Confirmation

section Runtime
variable {platform : Platform} {policy : IntentPolicy}

theorem verifyStaged_evolves (spare : Resource → Prop) {uri : String} (found : String × AssetRole)
    (done : verifyStaged job uri s found = .ok t) :
    Evolves (resourceRules spare) s.resources t.resources ∧ t.publications = s.publications ∧ t.progress = s.progress := by
  obtain ⟨_, _, rest⟩ := bind_ok.mp done
  cases rest
  dsimp only
  refine ⟨.update _ (fun _ row _ => ?_), rfl, rfl⟩
  split
  · next staged =>
    simp only [Bool.and_eq_true, Bool.or_eq_true, beq_iff_eq] at staged
    exact .single (.verify row uri staged.2)
  · exact .refl

theorem admission_receiving {id : String} {item : NewMediaItem} (done : s.admission id photo item stamp = .ok t) :
    t.publications = (s.updatePublication id (fun row => { row with state := .complete })).publications ∧
    (∀ spare, Evolves (resourceRules spare) s.resources t.resources) ∧ t.progress = s.progress := by
  obtain ⟨capture, _, _, _, row, _, renamed, previous, rest⟩ := bind4_ok done
  obtain ⟨⟨indexed, ids⟩, upserted, media, _, bound, binds, verified, verifies, rest⟩ := bind4_ok rest
  cases rest
  have first : Untouched s renamed := by
    unfold renamePrevious at previous
    split at previous
    · cases previous
      exact .refl
    · exact .setMediaUri _ _ _ previous
  have second : Untouched renamed indexed := by
    obtain ⟨_, once, last⟩ := bind_ok.mp upserted
    cases last
    exact upsertItem_untouched once
  have third : Untouched indexed bound := by
    obtain ⟨_, _, _, _, _, _, rest⟩ := bind3_ok binds
    split at rest
    · cases rest
    · have stored := Untouched.setEntryPhoto _ _ _ rest
      exact ⟨stored.publications, stored.resources, stored.progress⟩
  have before := (first.trans second).trans third
  have checked : ∀ spare, Evolves (resourceRules spare) bound.resources verified.resources ∧
      verified.publications = bound.publications ∧ verified.progress = bound.progress := by
    intro spare
    refine loop_keeps (fun u : Store => Evolves (resourceRules spare) bound.resources u.resources ∧
      u.publications = bound.publications ∧ u.progress = bound.progress) (fun found _ u v sofar stepped => ?_) ?_ verifies
    · obtain ⟨evolves, publications, progress⟩ := verifyStaged_evolves spare _ stepped
      exact ⟨sofar.1.trans evolves, publications.trans sofar.2.1, progress.trans sofar.2.2⟩
    · exact ⟨.refl, rfl, rfl⟩
  have same : verified.publications = s.publications := (checked (fun _ => True)).2.1.trans before.publications
  refine ⟨?_, fun spare => ?_, (checked (fun _ => True)).2.2.trans before.progress⟩
  · simp only [updatePublication, same]
  · rw [← before.resources]
    exact (checked spare).1

theorem completed_lowered (row : Publication) : Lowered row { row with state := .complete } :=
  ⟨rfl, rfl, rfl, rfl, rfl, rfl, rfl, nofun, nofun⟩

theorem finishCollision_lowers (s t : Store) (id : String) (done : s.finishCollision platform id = .ok t) : Lowers s t := by
  obtain ⟨_, _, _, _, _, _, _, _, rest⟩ := bind4_ok done
  obtain ⟨_, _, _, _, _, _, _, _, rest⟩ := bind4_ok rest
  obtain ⟨moved, located, last, followed, rest⟩ := bind2_ok rest
  cases rest
  have relocated : Untouched moved last := .loop _ _ (fun found _ before after stepped => by
    obtain ⟨placed, path, rest⟩ := bind_ok.mp stepped
    cases rest
    have same := Untouched.setEntryPath _ _ _ path
    exact ⟨same.publications, same.resources, same.progress⟩) followed
  refine ((Untouched.setMediaUri _ _ _ located).trans relocated).lowers.trans (.updatePublication id _ (fun row => ?_))
  exact ⟨rfl, rfl, rfl, rfl, rfl, rfl, rfl, nofun, nofun⟩

theorem rollback_lowered (row : Publication) :
    Lowered row { row with state := if row.state = .publishing then .pending else row.state, details := none } := by
  refine ⟨rfl, rfl, rfl, rfl, rfl, rfl, rfl, fun still => ?_, fun still => ?_⟩
  · unfold Publication.unfinished at still ⊢
    cases state : row.state <;> simp [state] at still ⊢
  · dsimp only at still
    split at still
    · cases still
    · exact still

theorem generationOf_update (s : Store) (change : Nat → NativeProgress → NativeProgress) (job : Nat)
    (own : ∀ id row, (change id row).job = row.job)
    (kept : ∀ id row, (change id row).databaseGeneration = row.databaseGeneration) :
    generationOf { s with progress := s.progress.update change } job = s.generationOf job := by
  unfold generationOf progressOf
  rw [first?_update _ _ _ (fun id value => by rw [own])]
  cases s.progress.first? (fun _ row => row.job == job) with
  | none => rfl
  | some => simp [kept]

theorem updateProgress_intends (s : Store) (job : Nat) (change : NativeProgress → NativeProgress)
    (allowed : policy.positions) (own : ∀ row, (change row).job = row.job)
    (kept : ∀ row, (change row).databaseGeneration = row.databaseGeneration) :
    Intends platform policy s (s.updateProgress job change) := by
  refine .single (.positions s _ allowed rfl rfl rfl (fun other => generationOf_update s _ other ?_ ?_))
  · intro id row
    split
    · exact own row
    · rfl
  · intro id row
    split
    · exact kept row
    · rfl

theorem discardPendingDeletions_intends (s : Store) (allowed : policy.positions) (carry : policy.KeepsJobs)
    (drop : ∀ id row, row.job = job → row.dirty = .delete → policy.drop id row) :
    Intends platform policy s (s.discardPendingDeletions job) := by
  unfold discardPendingDeletions
  split
  · let deleting : Nat → Bool := fun id => (s.entries.get id).any (fun row => row.job == job && row.dirty == .delete)
    let freed : Store := { s with
      tasks := s.tasks.delete (fun _ task => task.entry.any deleting)
      publications := s.publications.delete (fun _ row => row.entry.any deleting) }
    have first : Intends platform policy s freed := .single (.frame s freed
      (.mono carry (.of_entries SameJob.refl rfl)) ⟨(Lowers.delete (s := s) _).publications, rfl, rfl⟩)
    have second : Intends platform policy freed
        (freed.deleteEntries (fun _ row => row.job == job && row.dirty == .delete)) := by
      refine .single (.drop freed _ (fun id row _ picked => ?_))
      simp only [Bool.and_eq_true, beq_iff_eq] at picked
      exact drop id row picked.1 picked.2
    have third : ∀ u : Store, Intends platform policy u (u.clearJobPending job) := fun u =>
      .quiet_elsewhere carry rfl ⟨rfl, rfl, rfl⟩
    have fourth : ∀ u : Store, Intends platform policy u (u.updateProgress job .cleared) := fun u =>
      updateProgress_intends u job .cleared allowed (fun _ => rfl) (fun _ => rfl)
    exact ((first.trans second).trans (third _)).trans (fourth _)
  · exact .refl

end Runtime

section Configuration
variable {platform : Platform} {policy : IntentPolicy}

theorem refreshMediaLocations_intends (s : Store) (carry : policy.KeepsJobs) : Intends platform policy s s.refreshMediaLocations :=
  .quiet carry (.deleteMedia _ (fun _ _ => rfl)) ⟨rfl, rfl, rfl⟩

theorem deleteJob_intends (allowed : policy.jobs) (carry : policy.KeepsJobs) (done : s.deleteJob id = .ok t) :
    Intends platform policy s t := by
  obtain ⟨_, rfl⟩ := deleteJob_eq done
  have removed : Intends platform policy s (s.deleteJobs (fun other _ => other == id)) := .single (.jobs s _ allowed)
  refine removed.trans (.trans ?_ (refreshMediaLocations_intends _ carry))
  exact .quiet_elsewhere carry rfl ⟨rfl, rfl, rfl⟩

theorem applyChange_intends {revision : Nat} (allowed : policy.jobs)
    (carry : policy.KeepsJobs) (done : s.applyChange id revision = .ok t) : Intends platform policy s t := by
  obtain rfl | ⟨change, job, _, _, _, outcome⟩ := applyChange_cases done
  · exact .refl
  · split at outcome
    · exact deleteJob_intends allowed carry outcome
    · rw [outcome]
      exact .quiet_elsewhere carry rfl ⟨rfl, rfl, rfl⟩

theorem finishReset_intends (s : Store) (token : String) (allowed : policy.jobs) : Intends platform policy s (s.finishReset token) := by
  unfold finishReset
  split
  · exact .refl
  · have emptied : ∀ {α : Type} (table : Table α) (id : Nat), (table.delete (fun _ _ => true)).get id = none := by
      intro α table id
      rw [get_delete]
      cases table.get id <;> rfl
    exact .single (.wipe s _ allowed (fun id => emptied _ id) (fun id => emptied _ id) (fun id => emptied _ id))

theorem resetAccountData_intends (s : Store) (allowed : policy.jobs) (carry : policy.KeepsJobs) :
    Intends platform policy s s.resetAccountData := by
  have forgotten : Intends platform policy s s.forgetCloudMedia := .quiet carry (.deleteMedia _ (fun _ _ => rfl)) ⟨rfl, rfl, rfl⟩
  have removed : Intends platform policy s.forgetCloudMedia _ := .single (.jobs s.forgetCloudMedia (fun _ job =>
    (s.forgetCloudMedia.connections.get job.connection).any (fun _ => true)) allowed)
  exact (forgotten.trans removed).trans (.quiet_elsewhere carry rfl ⟨rfl, rfl, rfl⟩)

end Configuration

namespace Command

-- Commands that write one publication, one resource or the receive position they are given.
def addresses : Command → Bool
  | .beginReceive .. | .stageResource .. | .verifyResource .. | .failResource .. | .beginPublication _
  | .beginCollision .. | .publishing .. => true
  | _ => false

def quietIntents : IntentPolicy := ⟨SameJob, fun _ _ => False, fun _ _ => False, False, False⟩

def intentsOf (s : Store) : Command → IntentPolicy
  | .promote job graph _ _ => { quietIntents with
    drop := fun _ row => Store.isPlaceholderEntry row = true ∨ (∃ name ∈ graph.tombstones, row.photoId = some name) ∧ row.dirty = .delete
    schedule := fun owner photo => owner = job ∧ photo ∈ graph.photos
    positions := True }
  | .saveDeltaPage .. => { quietIntents with
    drop := fun _ row => Store.isPlaceholderEntry row = true
    positions := True }
  | .userAction job entry _ _ action _ _ => { quietIntents with
    schedule := fun owner photo => owner = job ∧ action = .useCloud ∧
      ∃ found, s.openConflict entry = some found ∧ found.2.remote = some photo }
  | .confirm _ operation _ _ => { quietIntents with
    drop := fun id _ => id = operation.entry ∧ operation.phase = .delete }
  | .confirmAbsentDeletion _ entry _ _ => { quietIntents with drop := fun id _ => id = entry }
  | .discardPendingDeletions job => { quietIntents with
    drop := fun _ row => row.job = job ∧ row.dirty = .delete
    positions := True }
  | .resetAccountData | .deleteJob _ | .applyChange .. | .finishReset _ => { quietIntents with jobs := True }
  | .pinSnapshot .. | .saveBootstrapPage .. | .advanceApplied _ | .adoptConfirmedHead .. | .resetReceive _ =>
    { quietIntents with positions := True }
  | _ => quietIntents

theorem promote_intends {platform : Platform} {graph : RemoteGraph} {target : String}
    (done : Store.promote platform s job graph target digests = .ok t) :
    Intends platform (intentsOf s (.promote job graph target digests)) s t := by
  obtain ⟨progress, _, projected, photos, promoted, _, rest⟩ := bind3_ok done
  have receiving : ReceivePolicy (intentsOf s (.promote job graph target digests)) :=
    ⟨fun _ _ received => received.job, fun _ _ placeholder => .inl placeholder⟩
  have burying : BuryPolicy (intentsOf s (.promote job graph target digests)) graph.tombstones :=
    ⟨fun _ _ buried => buried.job, fun _ _ named deleting => .inr ⟨named, deleting⟩⟩
  have first : Intends platform _ s projected := .loop _ _ (fun photo member _ _ stepped =>
    promotePhoto_intends receiving ⟨rfl, member⟩ stepped) photos
  refine (first.trans (buryRecords_intends job progress.databaseGeneration projected graph.tombstones graph.tombstones
    burying (fun _ member => member))).trans ((reopenShared_intends _ job progress.databaseGeneration).trans ?_)
  have moved : ∀ (u : Store) (change : NativeProgress → NativeProgress), (∀ row, (change row).job = row.job) →
      (∀ row, (change row).databaseGeneration = row.databaseGeneration) →
      Intends platform (intentsOf s (.promote job graph target digests)) u (u.updateProgress job change) :=
    fun u change own kept => updateProgress_intends u job change trivial own kept
  have targeted := moved ((graph.tombstones.foldl (Store.buryRecord job progress.databaseGeneration) projected).reopenShared
    job progress.databaseGeneration) (fun row => { row with targetToken := some target }) (fun _ => rfl) (fun _ => rfl)
  split at rest <;> cases rest
  · exact targeted.trans (moved _ (fun row => { row with appliedToken := row.targetToken }) (fun _ => rfl) (fun _ => rfl))
  · exact targeted

theorem execute_intends {platform : Platform} {command : Command} (indirect : command.addresses = false)
    (done : command.execute platform s = .ok t) : Intends platform (command.intentsOf s) s t := by
  have carry : ∀ before after, SameJob before after → quietIntents.carry before after := fun _ _ same => same
  by_cases quiet : command.receives = false
  · have steps := execute_steps quiet done
    cases command with
    | resetAccountData | deleteJob | applyChange | finishReset | saveDeltaPage | promote | discardPendingDeletions
    | confirmAbsentDeletion | confirm => cases quiet
    | _ => exact .quiet carry (steps.toMoves.sameJob (fun _ _ gone => gone)) steps.toUntouched
  · have lowered : ∀ {u : Store}, u.entries = s.entries → Lowers s u → Intends platform quietIntents s u :=
      fun entries lowers => .single (.frame s _ (.of_entries SameJob.refl entries) lowers)
    cases command with
    | resetAccountData =>
      cases done
      exact resetAccountData_intends s trivial (fun _ _ same => same)
    | deleteJob => exact deleteJob_intends trivial (fun _ _ same => same) done
    | applyChange => exact applyChange_intends trivial (fun _ _ same => same) done
    | finishReset token =>
      cases done
      exact finishReset_intends s token trivial
    | pinSnapshot job | advanceApplied job | adoptConfirmedHead job =>
      obtain ⟨_, _, _, _, rest⟩ := bind2_ok done
      cases rest
      exact updateProgress_intends s job _ trivial (fun _ => by rfl) (fun _ => by rfl)
    | saveBootstrapPage job =>
      obtain ⟨_, _, rest⟩ := bind_ok.mp done
      cases rest
      exact updateProgress_intends s job _ trivial (fun _ => by rfl) (fun _ => by rfl)
    | saveDeltaPage job records next =>
      obtain ⟨progress, _, staged, stored, rest⟩ := bind2_ok done
      cases rest
      have receiving : ReceivePolicy (intentsOf s (.saveDeltaPage job records next)) :=
        ⟨fun _ _ received => received.job, fun _ _ placeholder => placeholder⟩
      have first : Intends platform (intentsOf s (.saveDeltaPage job records next)) s staged :=
        .loop _ _ (fun record _ _ _ stepped => stageRecord_intends receiving stepped) stored
      exact first.trans (updateProgress_intends staged job _ trivial (fun _ => by rfl) (fun _ => by rfl))
    | promote => exact promote_intends done
    | resetReceive job =>
      cases done
      have first : Intends platform (intentsOf s (.resetReceive job)) s (s.updateProgress job .cleared) :=
        updateProgress_intends s job .cleared trivial (fun _ => rfl) (fun _ => rfl)
      exact first.trans (.quiet_elsewhere (fun _ _ same => same) rfl ⟨rfl, rfl, rfl⟩)
    | completePublication id =>
      obtain ⟨ready, _, rest⟩ := bind_ok.mp done
      split at rest <;> cases rest
      · exact lowered rfl (.updatePublication id _ completed_lowered)
      · exact .refl
    | discardPendingDeletions =>
      cases done
      exact discardPendingDeletions_intends s trivial (fun _ _ same => same)
        (fun _ _ own deleting => ⟨own, deleting⟩)
    | confirmAbsentDeletion =>
      obtain ⟨_, _, _, _, _, _, rest⟩ := bind3_ok done
      cases rest
      refine .single (.drop s _ (fun id row _ picked => ?_))
      rw [Bool.and_eq_true, beq_iff_eq] at picked
      exact picked.1
    | userAction =>
      exact applyAction_intends (fun _ _ same => same)
        (fun found photo open_ remote chosen => ⟨rfl, chosen, found, open_, remote⟩) done
    | finishCollision id =>
      have moves := execute_moves done
      exact .single (.frame s t (moves.sameJob (fun _ _ gone => gone)) (finishCollision_lowers s t id done))
    | abortCollision id =>
      cases done
      exact lowered rfl (.updatePublication id _ (fun row => ⟨rfl, rfl, rfl, rfl, rfl, rfl, rfl, nofun, nofun⟩))
    | confirm =>
      exact confirm_intends (fun _ _ same => same)
        (fun phase _ => ⟨rfl, phase⟩) done
    | cleanPublication id =>
      cases done
      exact lowered rfl (.updatePublication id _ (fun row => { Lowered.refl row with }))
    | rollback id =>
      cases done
      exact lowered rfl (.updatePublication id _ rollback_lowered)
    | admission id =>
      have moves := execute_moves done
      obtain ⟨publications, resources, progress⟩ := admission_receiving done
      refine .of_parts (moves.sameJob (fun _ _ gone => gone)) (fun row => ?_) resources progress
      rw [publications]
      exact (Lowers.updatePublication (s := s) id _ completed_lowered).publications row
    | beginReceive | stageResource | verifyResource | failResource | beginPublication | beginCollision | publishing =>
      cases indirect
    | _ => exact absurd rfl quiet

end Command
end PhotoSync
