import PhotoSync.Lib.Keyed
import PhotoSync.Store.Placement

set_option autoImplicit false

namespace PhotoSync
open Relational Transaction Relation Store

-- The publication asks for the resource in the resource's own role.
def Publication.names (row : Publication) (resource : Resource) : Bool :=
  row.job == resource.job && ((resource.role == .original && row.originalAssetId == some resource.assetId)
    || (resource.role == .thumbnail && row.thumbnailAssetId == some resource.assetId))

def Unclaimed (s : Store) (resource : Resource) : Prop :=
  ∀ id row, s.publications.get id = some row → row.unfinished = true → row.names resource = false

-- The life of one resource outside the download commands. A row is settled
-- against the library only while nothing unfinished asks for it.
inductive ResourceStep (spare : Resource → Prop) : Resource → Resource → Prop where
  | describe (row : Resource) (recordName sha256 : Option String) (size : Option Nat) :
    ResourceStep spare row { row with recordName := recordName, expectedSha256 := sha256, expectedSize := size }
  | settle (row : Resource) (cache : Option String) (free : spare row) :
    ResourceStep spare row { row with state := .verified, verifiedCache := cache, stagingPath := none }
  | reopen (row : Resource) : ResourceStep spare row { row with state := .pending, verifiedCache := none }
  | refetch (row : Resource) : ResourceStep spare row { row with state := .pending, stagingPath := none }
  | retain (row : Resource) (staged : row.state = .staged) : ResourceStep spare row { row with state := .retained }
  | verify (row : Resource) (uri : String) (ready : row.state = .staged ∨ row.state = .verified) :
    ResourceStep spare row { row with state := .verified, verifiedCache := some uri }
  | upload (row : Resource) (path : String) : ResourceStep spare row { row with stagingPath := some path, state := .verified }

inductive ResourceBorn (spare : Resource → Prop) : Resource → Prop where
  | owed (row : Resource) (pending : row.state = .pending) (unstaged : row.stagingPath = none) : ResourceBorn spare row
  | held (row : Resource) (verified : row.state = .verified) (free : spare row) : ResourceBorn spare row
  | uploaded (row : Resource) (verified : row.state = .verified) (staged : row.stagingPath.isSome = true) : ResourceBorn spare row

def resourceRules (spare : Resource → Prop) : Rules Resource := ⟨ResourceBorn spare, fun _ => ResourceStep spare, fun _ _ => True⟩

structure IntentPolicy where
  carry : Entry → Entry → Prop
  drop : Nat → Entry → Prop
  schedule : Nat → RemotePhoto → Prop
  positions : Prop
  jobs : Prop

-- Every write of the receiving side but the commands that address one
-- publication, one resource or the receive position directly.
inductive IntentStep (platform : Platform) (policy : IntentPolicy) : Store → Store → Prop where
  | frame (s t : Store) (carried : Carries policy.carry s t) (lowered : Lowers s t) : IntentStep platform policy s t
  | drop (s : Store) (test : Nat → Entry → Bool)
    (allowed : ∀ id row, s.entries.get id = some row → test id row = true → policy.drop id row) :
    IntentStep platform policy s (s.deleteEntries test)
  | schedule (s t : Store) (job entry localVersion : Nat) (decision : Entry.Settlement) (row : Entry)
    (read : s.entries.get entry = some row) (own : row.job = job)
    (bound : row.photoId = some decision.photo.photoId) (kept : row.dirty ≠ .delete)
    (allowed : policy.schedule job decision.photo)
    (done : Store.schedulePlacement platform s job entry localVersion decision = .ok t) : IntentStep platform policy s t
  | resources (s : Store) (resources : Table Resource)
    (moved : Evolves (resourceRules (Unclaimed s)) s.resources resources) :
    IntentStep platform policy s { s with resources := resources }
  | positions (s t : Store) (allowed : policy.positions) (entries : t.entries = s.entries)
    (publications : t.publications = s.publications) (resources : t.resources = s.resources)
    (generations : ∀ job, t.generationOf job = s.generationOf job) : IntentStep platform policy s t
  | jobs (s : Store) (test : Nat → Job → Bool) (allowed : policy.jobs) : IntentStep platform policy s (s.deleteJobs test)
  | wipe (s t : Store) (allowed : policy.jobs) (publications : ∀ id, t.publications.get id = none)
    (resources : ∀ id, t.resources.get id = none) (progress : ∀ id, t.progress.get id = none) :
    IntentStep platform policy s t

def Intends (platform : Platform) (policy : IntentPolicy) : Store → Store → Prop := ReflTransGen (IntentStep platform policy)

-- A policy that lets an entry change as receiving does, and drops the provisional entries receiving made itself.
structure ReceivePolicy (policy : IntentPolicy) : Prop where
  carry : ∀ before after, Received before after → policy.carry before after
  placeholder : ∀ id row, Store.isPlaceholderEntry row = true → policy.drop id row

namespace Intends

variable {platform : Platform} {policy : IntentPolicy} {s t u : Store}

theorem refl : Intends platform policy s s := ReflTransGen.refl

theorem trans (first : Intends platform policy s t) (second : Intends platform policy t u) : Intends platform policy s u :=
  ReflTransGen.trans first second

theorem keeps (inv : Store → Prop) (keep : ∀ before after, inv before → IntentStep platform policy before after → inv after)
    (path : Intends platform policy s t) (start : inv s) : inv t := by
  induction path with
  | refl => exact start
  | tail _ step before => exact keep _ _ before step

theorem single (step : IntentStep platform policy s t) : Intends platform policy s t := ReflTransGen.single step

theorem receives (carry : ∀ before after, Received before after → policy.carry before after)
    (received : Receives s t) : Intends platform policy s t :=
  single (.frame s t (received.carries.mono carry) received.lowers)

theorem of_parts (carried : Carries policy.carry s t)
    (publications : ∀ id row, t.publications.get id = some row → ∃ old, s.publications.get id = some old ∧ Lowered old row)
    (resources : ∀ spare, Evolves (resourceRules spare) s.resources t.resources) (progress : t.progress = s.progress) :
    Intends platform policy s t :=
  (single (.frame s { t with resources := s.resources } carried ⟨publications, rfl, progress⟩)).trans
    (single (.resources { t with resources := s.resources } t.resources (resources _)))

theorem updateResources (change : Nat → Resource → Resource) (allowed : ∀ id row, s.resources.get id = some row →
      ReflTransGen (ResourceStep (Unclaimed s)) row (change id row)) :
    Intends platform policy s { s with resources := s.resources.update change } :=
  single (.resources s _ (.update change allowed))

theorem loop {κ : Type} (body : Store → κ → Result Store) (items : List κ)
    (each : ∀ item ∈ items, ∀ before after, body before item = .ok after → Intends platform policy before after)
    (done : items.foldlM body s = .ok t) : Intends platform policy s t :=
  loop_relates (Intends platform policy) (fun _ => refl) (fun _ _ _ => trans) each done

end Intends

variable {mid : Store} {placement : Store.Placement} {uri folder : String}
variable {job entry : Nat} {photo : RemotePhoto} {path : String}

section Projection
variable {platform : Platform} {policy : IntentPolicy}

theorem schedulePlacement_intends {s t : Store} {localVersion : Nat} {decision : Entry.Settlement} {row : Entry}
    (read : s.entries.get entry = some row) (own : row.job = job) (bound : row.photoId = some decision.photo.photoId)
    (kept : row.dirty ≠ .delete) (allowed : policy.schedule job decision.photo)
    (done : schedulePlacement platform s job entry localVersion decision = .ok t) : Intends platform policy s t :=
  .single (.schedule s t job entry localVersion decision row read own bound kept allowed done)

theorem settled_entry {s t : Store} (reached : Reached s mid job photo placement)
    (stored : mid.setEntryPhoto placement.entry photo.photoId (Entry.settle (placement.decision mid job photo)) = .ok t) :
    t.entries.get placement.entry = some { Entry.settle (placement.decision mid job photo) placement.row with
      photoId := some photo.photoId } := by
  obtain ⟨_, rfl⟩ := setEntryPhoto_ok reached.read stored
  simp only [updateEntry, Table.get_modify_self, reached.read, Option.map_some]

theorem decision_dirty_ne_delete {s : Store} (reached : Reached s mid job photo placement) :
    (placement.decision mid job photo).dirty ≠ .delete := by
  have spared : (placement.row.dirty == .delete) = false := beq_eq_false_iff_ne.mpr reached.kept
  simp only [Store.Placement.decision, Entry.Settlement.dirty, settlement, spared, Bool.false_eq_true, if_false]
  split <;> simp

theorem place_intends {s t : Store} (carry : ∀ before after, Received before after → policy.carry before after)
    (allowed : policy.schedule job photo) (reached : Reached s mid job photo placement)
    (done : place platform mid job photo placement = .ok t) : Intends platform policy mid t := by
  obtain ⟨settled, stored, scheduled⟩ := bind_ok.mp done
  have present := settled_entry reached stored
  have received : Receives mid (settled.resolveConflicts placement.entry
      (fun reason => reason == intersectsReason || reason == differsReason)) := by
    refine .trans (.setEntryPhoto _ _ _ (fun row again => ?_) stored) (.elsewhere rfl rfl rfl rfl)
    rw [reached.read] at again
    cases again
    exact settle_received mid job reached.clear
  exact (Intends.receives carry received).trans
    (schedulePlacement_intends present reached.own rfl
      (decision_dirty_ne_delete reached) allowed scheduled)

theorem projectPublication_intends {s : Store} {digests : LocalDigests} (after : Store × ProjectedContent)
    (carry : ∀ before after, Received before after → policy.carry before after) (allowed : policy.schedule job photo)
    (done : projectPublication platform s job photo digests = .ok after) : Intends platform policy s after.1 := by
  have outcome := projectPublication_outcome done
  split at outcome
  · exact .receives carry outcome
  · next mid placement _ =>
    obtain ⟨reached, placed⟩ := outcome
    exact (Intends.receives carry reached.receives).trans
      (place_intends carry allowed reached placed)

end Projection

section Staging
variable {platform : Platform} {policy : IntentPolicy}

theorem placeMetadata_receives {s : Store} {favorite : Int} {takenAt : Option Int} :
    Receives s (s.placeMetadata entry uri path folder favorite takenAt) := by
  have indexed : ∀ row, Receives s (s.indexCloudMedia row) := by
    intro row
    unfold indexCloudMedia
    split <;> exact .elsewhere rfl rfl rfl rfl
  have linked : ∀ t : Store, Receives t (t.linkMedia entry uri) := fun t =>
    .updateEntry entry _ (fun _ _ => ⟨rfl, fun _ => rfl, id⟩)
  have described : ∀ t : Store, Receives t (t.describeCloudMedia uri favorite takenAt) := by
    intro t
    unfold describeCloudMedia
    split
    · exact .refl
    · split <;> exact .elsewhere rfl rfl rfl rfl
  exact ((indexed _).trans (linked _)).trans (described _)

theorem followRename_receives {s t : Store} {media : Nat} {relative : String}
    (done : s.followRename job entry media uri path folder relative = some t) : Receives s t := by
  unfold followRename at done
  split at done
  · cases done
  · dsimp only at done
    have moved : Receives s (s.updateMedia media (fun row =>
        { row with uri := uri, path := path, folderPath := folder, thumbnailReady := false })) :=
      .elsewhere rfl rfl rfl rfl
    split at done <;> cases done
    · exact moved
    · exact moved.trans (.updateEntry entry _ (fun _ _ => ⟨rfl, fun _ => rfl, id⟩))

theorem admitFields_receives (s : Store) (job entry : Nat) (row : Entry) (fields : Option Fields)
    (root relative : String) : Receives s (admitFields platform s job entry row fields root relative) := by
  unfold admitFields
  dsimp only
  split
  · split
    · exact .refl
    · split
      · exact placeMetadata_receives
      · split
        · next followed =>
          exact (followRename_receives followed).trans (placeMetadata_receives)
        · exact .refl
  · exact placeMetadata_receives

theorem admitAssetMetadata_receives {s t : Store} {fields : Option Fields}
    (done : admitAssetMetadata platform s job entry fields = .ok t) : Receives s t := by
  obtain ⟨row, _, rest⟩ := bind_ok.mp done
  split at rest
  · cases rest
    exact .refl
  · obtain ⟨_, _, rest⟩ := bind_ok.mp rest
    split at rest
    · cases rest
      exact .refl
    · obtain ⟨root, _, rest⟩ := bind_ok.mp rest
      cases rest
      exact admitFields_receives s job entry row fields _ _

theorem movePendingMaster_receives {s t : Store} {old : Nat} (done : s.movePendingMaster old entry = .ok t) : Receives s t := by
  unfold movePendingMaster at done
  split at done
  · exact .setPending _ _ _ done
  · cases done
    exact .refl

theorem entryForPath_intends {s : Store} {path photo : Option String} {entry : Option Nat} (after : Store × Option Nat)
    (receiving : ReceivePolicy policy) (done : s.entryForPath job path photo entry = .ok after) :
    Intends platform policy s after.1 := by
  cases path with
  | none =>
    cases done
    exact .refl
  | some =>
    obtain ⟨_, _, rest⟩ := bind_ok.mp done
    split at rest
    · cases rest
      exact .refl
    · cases rest
      exact .refl
    · next found old _ =>
      split at rest
      · cases rest
        exact .refl
      · obtain ⟨moved, copied, rest⟩ := bind_ok.mp rest
        cases rest
        have first : Intends platform policy s moved := .receives receiving.carry (movePendingMaster_receives copied)
        refine first.trans (.single (.drop moved _ (fun id row _ picked => receiving.placeholder id row ?_)))
        simp only [Bool.and_eq_true] at picked
        exact picked.2

theorem ensureEntry_receives {s : Store} {path : Option String} {name : String} {entry : Option Nat} (after : Store × Nat)
    (done : s.ensureEntry job path name entry = .ok after) : Receives s after.1 := by
  cases entry with
  | some =>
    cases done
    exact .refl
  | none =>
    obtain ⟨inserted, stored, rest⟩ := bind_ok.mp done
    cases rest
    exact .insertEntry _ stored

theorem leavePlaceholder_receives (s : Store) (job entry : Nat) (path : Option String) :
    Receives s (s.leavePlaceholder job entry path) := by
  unfold leavePlaceholder
  split
  · exact .refl
  · split
    · exact .updateEntry entry _ (fun _ _ => ⟨rfl, fun _ => rfl, id⟩)
    · exact .refl

theorem stageRecord_intends {s t : Store} {record : NativeRecord} (receiving : ReceivePolicy policy)
    (done : stageRecord platform job s record = .ok t) : Intends platform policy s t := by
  unfold stageRecord at done
  dsimp only at done
  split at done
  · cases done
    exact .refl
  · obtain ⟨⟨named, found⟩, placed, ⟨made, entry⟩, ensured, row, _, pending, stored, rest⟩ := bind4_ok done
    refine .trans (entryForPath_intends _ receiving placed) ?_
    have staged : Receives named pending := (ensureEntry_receives _ ensured).trans
      ((leavePlaceholder_receives made job entry _).trans (.setPending _ _ _ stored))
    refine Intends.receives receiving.carry (staged.trans ?_)
    split at rest
    · exact admitAssetMetadata_receives rest
    · cases rest
      exact .refl

end Staging
end PhotoSync
