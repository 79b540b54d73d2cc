import PhotoSync.Runs.Catalogue
import PhotoSync.Runs.Session
import PhotoSync.Service.Body

set_option autoImplicit false

namespace PhotoSync
open Relational Transaction Store Table

-- The calls of project_publication that a command makes: one for each photo of a promoted graph, after the photos
-- before it, and one when the user takes the cloud's version.
inductive Projects (platform : Platform) (s : Store) : Command → Store → Nat → RemotePhoto → LocalDigests → Prop where
  | promote (job : Nat) (graph : RemoteGraph) (target : String) (digests : LocalDigests) (progress : NativeProgress)
    (earlier later : List RemotePhoto) (photo : RemotePhoto) (mid : Store)
    (positioned : s.requireProgress job = .ok progress) (order : graph.photos = earlier ++ photo :: later)
    (before : earlier.foldlM (Store.promotePhoto platform job progress.databaseGeneration digests) s = .ok mid) :
    Projects platform s (.promote job graph target digests) mid job photo digests
  | useCloud (job entry version : Nat) (document : Option ConflictDocument) (recovery : Option String) (stamp : EditEvent)
    (photo : RemotePhoto) (asset master : String) (bound : Store)
    (stored : s.setEntryPhoto entry photo.photoId (Entry.bindIdentity photo asset master) = .ok bound) :
    Projects platform s (.userAction job entry version document .useCloud recovery stamp)
      (bound.acceptCloud job entry photo) job photo []

-- A publication of the entry for exactly this photo that is still to be done,
-- captured against what the entry and its job now are.
def Store.Placed (t : Store) (job entry : Nat) (photo : RemotePhoto) : Prop :=
  ∃ id row capture record config, t.publications.get id = some row ∧ row.entry = some entry ∧ row.unfinished = true ∧
    row.capture = some capture ∧ capture.projection = some photo ∧ t.entries.get entry = some record ∧
    capture.localVersion = record.localVersion ∧ capture.dirty = record.dirty ∧
    t.jobs.get job = some config ∧ capture.config = config.configGeneration

def Store.Placement.leaves (photo : RemotePhoto) (placement : Store.Placement) : NativeDirty :=
  if !placement.missing && placement.row.metadataPending && (placement.row.baseline.any photo.sameMetadata
      || localEventWins placement.row.events.metadata photo.events.metadata) then .modified else .clean

-- The publication recorded under the version's name, if there is one, belongs
-- to the entry and waits, or is under way for exactly this decision.
def Store.Vacant (platform : Platform) (s : Store) (job : Nat) (photo : RemotePhoto) (placement : Store.Placement) : Prop :=
  ∀ id row, s.publications.get id = some row → row.publicationId = Store.publicationName platform job photo →
    row.entry = some placement.entry ∧ (row.state = .pending ∨ row.state = .superseded ∨
      row.state = .publishing ∧ ∀ capture, row.capture = some capture → capture.projection = some photo ∧
        capture.localVersion = placement.row.localVersion ∧ capture.dirty = placement.leaves photo ∧
        (s.jobs.get job).map Job.configGeneration = some capture.config)

variable {s t mid : Store} {placement : Store.Placement}
variable {photo : RemotePhoto} {platform : Platform} {entry : Nat}

theorem placement_leaves {job : Nat} (reached : Reached s mid job photo placement) :
    (placement.decision mid job photo).dirty = placement.leaves photo := by
  have spared : (placement.row.dirty == .delete) = false := beq_eq_false_iff_ne.mpr reached.kept
  have needed := reached.needed
  unfold needsPlacement at needed
  unfold Store.Placement.leaves Entry.Settlement.dirty
  cases missing : placement.missing with
  | true => simp [Store.Placement.decision, settlement, missing, spared]
  | false =>
    have replaced : (placement.decision mid job photo).keepContent = false := by
      simp only [missing, Bool.false_or, Bool.and_eq_true, Bool.not_eq_true'] at needed
      exact needed.1
    have alive : (placement.decision mid job photo).keepDelete = false := spared
    have edited : (placement.decision mid job photo).preserveMetadata = (placement.row.metadataPending &&
        (placement.row.baseline.any photo.sameMetadata
          || localEventWins placement.row.events.metadata photo.events.metadata)) := by
      simp [Store.Placement.decision, settlement, missing]
    simp [replaced, alive, edited]

theorem reschedule_waiting (capture : Capture) (row : Publication)
    (waits : row.state = .pending ∨ row.state = .superseded ∨ row.state = .publishing ∧ row.capture = none) :
    (reschedule capture row).capture = some capture ∧ (reschedule capture row).unfinished = true := by
  rcases waits with pending | superseded | ⟨publishing, bare⟩
  · simp [reschedule, setCapture, Publication.unfinished, pending]
  · simp [reschedule, setCapture, Publication.unfinished, superseded]
  · simp [reschedule, setCapture, Publication.unfinished, publishing, bare]

theorem reschedule_under_way (capture : Capture) {held : Capture} {row : Publication} (publishing : row.state = .publishing)
    (captured : row.capture = some held) :
    (reschedule capture row).capture = some held ∧ (reschedule capture row).unfinished = true := by
  simp [reschedule, setCapture, Publication.unfinished, publishing, captured]

theorem Schedule.recorded {job localVersion : Nat} {decision : Entry.Settlement} {capture : Capture} {fresh : Publication}
    (schedule : Schedule platform s t job entry localVersion decision capture fresh) (distinct : s.Identified) :
    (∃ id old, s.publications.get id = some old ∧ old.publicationId = publicationName platform job decision.photo ∧
      t.publications.get id = some (reschedule capture old)) ∨ ∃ id, t.publications.get id = some fresh := by
  by_cases known : ∃ id old, s.publications.get id = some old ∧ old.publicationId = publicationName platform job decision.photo
  · obtain ⟨id, old, present, named⟩ := known
    refine .inl ⟨id, old, present, named, ?_⟩
    rw [schedule.publications]
    refine upsert_changes _ _ _ (stood_distinct distinct)
      (fun value => beq_iff_eq) id ?_ named
    rw [get_update, present, Option.map_some, standDown_named named]
  · refine .inr ⟨s.publications.next, ?_⟩
    rw [schedule.publications]
    refine upsert_adds Publication.publicationId _ _ _ _ _ (fun value => beq_iff_eq) (fun id row read named => ?_)
    rw [get_update, Option.map_eq_some_iff] at read
    obtain ⟨old, present, rfl⟩ := read
    exact known ⟨id, old, present, (standDown_lowered _ _ _ old).publicationId.symm.trans named⟩

theorem projectedEntry_jobs {job : Nat} (done : s.projectedEntry job photo = .ok (t, entry)) : t.jobs = s.jobs := by
  obtain ⟨rfl, _⟩ | ⟨_, inserted, fragments, stored, rfl⟩ := projectedEntry_cases done
  · rfl
  · obtain ⟨_, rfl⟩ := insertEntry_ok stored
    rfl

theorem reachesPlacement_jobs {branch : Store} {job : Nat} {digests : LocalDigests}
    (reaches : s.reachesPlacement job photo digests = some (branch, placement)) : branch.jobs = s.jobs := by
  unfold reachesPlacement at reaches
  split at reaches
  · cases reaches
  · next t entry located =>
    have repaired : (t.repairAvailability entry photo).jobs = s.jobs := by
      rw [← projectedEntry_jobs located, repairAvailability_jobs]
    split at reaches
    · cases reaches
    · next row read =>
      split at reaches
      · cases reaches
      · split at reaches
        · next u missing looked =>
          obtain ⟨shape, _⟩ := missingLocal_ok read looked
          have same : u.jobs = s.jobs := by
            rcases shape with rfl | ⟨observation, rfl⟩
            · exact repaired
            · exact repaired
          unfold resolvesToPlacement at reaches
          split at reaches
          · cases reaches
          · split at reaches <;> cases reaches
            exact same
        · cases reaches

theorem place_placed {job : Nat} (distinct : s.Identified) (reached : Reached s mid job photo placement) (same : mid.jobs = s.jobs)
    (vacant : Store.Vacant platform s job photo placement) (done : place platform mid job photo placement = .ok t) :
    t.Placed job placement.entry photo := by
  obtain ⟨settled, stored, scheduled⟩ := bind_ok.mp done
  have present := settled_entry reached stored
  obtain ⟨_, rfl⟩ := setEntryPhoto_ok reached.read stored
  obtain ⟨capture, fresh, schedule⟩ := schedulePlacement_ok scheduled
  obtain ⟨config, configured, generation⟩ := schedule.configured
  obtain ⟨_, _, version, dirty, projection⟩ := schedule.captured
  have record : t.entries.get placement.entry = some { Entry.settle (placement.decision mid job photo) placement.row with
      photoId := some photo.photoId } := by
    rw [schedule.entries]
    exact present
  have jobs : t.jobs.get job = some config := by
    rw [schedule.jobs]
    exact configured
  have names : mid.Identified := by
    rw [Store.Identified, reached.untouched.publications]
    exact distinct
  rcases schedule.recorded names with ⟨id, old, known, named, now⟩ | ⟨id, now⟩
  · obtain ⟨linked, waits⟩ := vacant id old (by rw [← reached.untouched.publications]; exact known) named
    have entry := (reschedule_from capture old).entry.trans linked
    have waiting : ∀ wait : (old.state = .pending ∨ old.state = .superseded ∨
        old.state = .publishing ∧ old.capture = none), t.Placed job placement.entry photo := by
      intro wait
      obtain ⟨captured, unfinished⟩ := reschedule_waiting capture old wait
      exact ⟨id, _, capture, _, config, now, entry, unfinished, captured, projection, record, version, dirty, jobs, generation⟩
    rcases waits with pending | superseded | ⟨publishing, current⟩
    · exact waiting (.inl pending)
    · exact waiting (.inr (.inl superseded))
    · cases captured : old.capture with
      | none => exact waiting (.inr (.inr ⟨publishing, captured⟩))
      | some held =>
        obtain ⟨projected, caught, dirtied, configs⟩ := current held captured
        obtain ⟨kept, unfinished⟩ := reschedule_under_way capture publishing captured
        rw [← same, show mid.jobs.get job = some config from configured, Option.map_some, Option.some.injEq] at configs
        exact ⟨id, _, held, _, config, now, entry, unfinished, kept, projected, record, caught,
          dirtied.trans (placement_leaves reached).symm, jobs, configs.symm⟩
  · obtain ⟨_, _, entry, _, _, _, pending, captured⟩ := schedule.opened
    exact ⟨id, fresh, capture, _, config, now, entry, by simp [Publication.unfinished, pending], captured, projection,
      record, version, dirty, jobs, generation⟩

theorem Projects.distinct (platform : Platform) (s mid : Store) (command : Command) (job : Nat) (photo : RemotePhoto)
    (digests : LocalDigests) (distinct : s.Identified) (calls : Projects platform s command mid job photo digests) :
    mid.Identified := by
  let any : IntentPolicy := ⟨fun _ _ => True, fun _ _ => True, fun _ _ => True, True, True⟩
  have receiving : ReceivePolicy any := ⟨fun _ _ _ => trivial, fun _ _ _ => trivial⟩
  cases calls with
  | promote _ graph target _ progress earlier later _ _ positioned order before =>
    have path : Intends platform any s mid := .loop _ _ (fun photo _ _ _ stepped =>
      promotePhoto_intends receiving trivial stepped) before
    exact path.distinct distinct
  | useCloud _ entry version document recovery stamp _ asset master bound stored =>
    have same := Untouched.setEntryPhoto _ _ _ stored
    have path : Intends platform any bound (bound.acceptCloud job entry photo) :=
      acceptCloud_intends bound job entry photo (fun _ _ _ => trivial)
    refine path.distinct ?_
    rw [Store.Identified, same.publications]
    exact distinct

namespace Sample

def telling : Platform := ⟨fun path => "file://" ++ path, fun photo => if photo.contentGeneration = "A" then "a" else "b"⟩

def originalOf (generation : String) : AssetDescriptor := { asset with assetId := "original-" ++ generation }

def thumbnailOf (generation : String) : AssetDescriptor := { asset with assetId := "thumbnail-" ++ generation }

def version (generation : String) : RemotePhoto :=
  ⟨"photo", "master", generation, "b", false, none, false, originalOf generation, thumbnailOf generation, digest.hex, .none⟩

def versionRecords (generation : String) : List NativeRecord :=
  [⟨"master", some masterRecordType, none, some "1", some [("photoId", textField "photo"),
      ("contentGeneration", textField generation), ("thumbnailSourceOriginalSHA256", textField digest.hex),
      ("resOriginalRes", some ⟨some "ASSETID", some (.asset (originalOf generation))⟩),
      ("resJPEGThumbRes", some ⟨some "ASSETID", some (.asset (thumbnailOf generation))⟩)], none, false⟩,
   ⟨"photo", some assetRecordType, none, some "1", some [("relativePath", textField "b"),
      ("masterRef", some ⟨some "REFERENCE", some (.reference "master" (some "NONE"))⟩),
      ("contentGeneration", textField generation), ("isTrashed", integerField 0), ("isFavorite", integerField 0)], none, false⟩]

def connecting : List Command := [.createJob job,
    .beginReceive 1 ⟨"tenant", "container", "environment", "database"⟩ "generation" "scope" "zone" "owner"]

def receiving (generation : String) : List Command :=
  [.saveDeltaPage 1 (versionRecords generation) generation, .promote 1 ⟨[version generation], [], []⟩ generation []]

def nameOf (generation : String) : String := Store.publicationName telling 1 (version generation)

def downloading (generation : String) : List Command := [.stageResource 1 (originalOf generation).assetId .original "/s/original",
    .stageResource 1 (thumbnailOf generation).assetId .thumbnail "/s/thumbnail"]

def placing (generation : String) : List Command := [.publishing (nameOf generation) {},
    .admission (nameOf generation) (version generation) ⟨"file:///p/b", "/p/b", "/p", none, 0, 4⟩ stamp]

def placed (generation : String) : List Command := receiving generation ++ downloading generation ++ placing generation

end Sample

-- In every run, a call that reaches the placement branch while the version's
-- name is vacant leaves its decision recorded.
theorem placement_decision_recorded (platform : Platform) (commands : List Command) (command : Command)
    (mid branch : Store) (job : Nat) (photo : RemotePhoto) (digests : LocalDigests) (placement : Store.Placement)
    (after : Store × ProjectedContent)
    (calls : Projects platform (run (Command.execute platform) .empty commands) command mid job photo digests)
    (reaches : mid.reachesPlacement job photo digests = some (branch, placement))
    (vacant : Store.Vacant platform mid job photo placement)
    (done : projectPublication platform mid job photo digests = .ok after) :
    after.1.Placed job placement.entry photo := by
  have outcome := projectPublication_outcome done
  rw [reaches] at outcome
  obtain ⟨reached, placed⟩ := outcome
  have distinct := calls.distinct platform _ mid command job photo digests (run_distinct platform commands)
  exact place_placed distinct reached
    (reachesPlacement_jobs reaches) vacant placed

open Sample in
theorem first_version_is_recorded : ∃ after : Store × ProjectedContent, projectPublication telling (run (Command.execute telling) .empty
      (connecting ++ [.saveDeltaPage 1 (versionRecords "A") "A"])) 1 (version "A") [] = .ok after ∧
    after.1.Placed 1 1 (version "A") := by
  obtain ⟨progress, positioned, _⟩ := ok_of_any ((run (Command.execute telling) .empty
    (connecting ++ [.saveDeltaPage 1 (versionRecords "A") "A"])).requireProgress 1) (fun _ => true)
    (by decide +kernel)
  obtain ⟨after, done, _⟩ := ok_of_any (projectPublication telling (run (Command.execute telling) .empty
    (connecting ++ [.saveDeltaPage 1 (versionRecords "A") "A"])) 1 (version "A") []) (fun _ => true)
    (by decide +kernel)
  have found : ((run (Command.execute telling) .empty (connecting ++
    [.saveDeltaPage 1 (versionRecords "A") "A"])).reachesPlacement 1 (version "A") []).any
      (fun found => found.2.entry == 1) = true := by decide +kernel
  have empty : (run (Command.execute telling) .empty (connecting ++
    [.saveDeltaPage 1 (versionRecords "A") "A"])).publications.any (fun _ _ => true) = false := by decide +kernel
  obtain ⟨⟨branch, placement⟩, reaches, own⟩ := (Option.any_eq_true _ _).mp found
  have recorded := placement_decision_recorded telling
    (connecting ++ [.saveDeltaPage 1 (versionRecords "A") "A"])
    (.promote 1 ⟨[version "A"], [], []⟩ "A" []) _ branch 1 (version "A") [] placement after
    (.promote 1 ⟨[version "A"], [], []⟩ "A" [] progress [] [] (version "A") _ positioned rfl rfl) reaches
    (fun id row read => by cases Table.any_eq_false.mp empty id row read) done
  rw [show placement.entry = 1 from beq_iff_eq.mp own] at recorded
  exact ⟨after, done, recorded⟩

theorem Store.Placed.listed (t : Store) (job entry : Nat) (photo : RemotePhoto) (placed : t.Placed job entry photo) :
    t.publications.any (fun _ row => row.unfinished && row.capture.any (fun capture => capture.projection == some photo)) =
      true := by
  obtain ⟨id, row, capture, _, _, read, _, unfinished, captured, projection, _⟩ := placed
  exact any_iff.mpr ⟨id, row, read, by simp [unfinished, captured, projection]⟩

-- A photo goes from one version to another and back: the first version's publication is complete, and stays so.
open Sample in
theorem returning_version_is_lost : ((run (Command.execute telling) .empty (connecting ++ placed "A" ++ placed "B" ++
      [.saveDeltaPage 1 (versionRecords "A") "A"])).reachesPlacement 1 (version "A") []).any
        (fun found => found.2.entry == 1) = true ∧
    ∃ after : Store × ProjectedContent, projectPublication telling (run (Command.execute telling) .empty
      (connecting ++ placed "A" ++ placed "B" ++ [.saveDeltaPage 1 (versionRecords "A") "A"])) 1 (version "A") [] = .ok after ∧
      ¬ after.1.Placed 1 1 (version "A") := by
  refine ⟨by decide +kernel, ?_⟩
  obtain ⟨after, done, gone⟩ := ok_of_any (projectPublication telling (run (Command.execute telling)
    .empty (connecting ++ placed "A" ++ placed "B" ++ [.saveDeltaPage 1 (versionRecords "A") "A"])) 1 (version "A") [])
    (fun after => !after.1.publications.any (fun _ row => row.unfinished &&
      row.capture.any (fun capture => capture.projection == some (version "A")))) (by decide +kernel)
  refine ⟨after, done, fun placed => ?_⟩
  rw [Store.Placed.listed _ _ _ _ placed] at gone
  cases gone

end PhotoSync
